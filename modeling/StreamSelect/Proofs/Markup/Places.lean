import Mathlib.Data.List.TakeWhile
import StreamSelect.Proofs.Markup.Attributes
import StreamSelect.Proofs.Markup.Lines

/-! Where events begin. Places are counted over the bytes of a text while it is read; the count agrees
with one over the characters in front of a place. -/
namespace StreamSelect.Markup

/-! ### The bytes of characters -/

/-- The bytes of a text. -/
def bytesOf (text : List Char) : List UInt8 := text.flatMap String.utf8EncodeChar

@[simp] theorem bytesOf_nil : bytesOf [] = [] := rfl

@[simp] theorem bytesOf_append (a b : List Char) : bytesOf (a ++ b) = bytesOf a ++ bytesOf b :=
  List.flatMap_append

theorem bytesOf_singleton (c : Char) : bytesOf [c] = String.utf8EncodeChar c := by
  simp [bytesOf]

theorem toUTF8_eq (text : String) : text.toUTF8.data = (bytesOf text.toList).toArray := by
  have h : text.toByteArray = text.toList.utf8Encode := by
    rw [← String.toByteArray_ofList, String.ofList_toList]
  rw [String.toUTF8, h]
  exact List.data_toByteArray

@[simp] theorem byteLength_nil : Text.byteLength [] = 0 := rfl

theorem bytesOf_cons (c : Char) (text : List Char) :
    bytesOf (c :: text) = String.utf8EncodeChar c ++ bytesOf text :=
  List.flatMap_cons

theorem byteLength_eq (text : List Char) : Text.byteLength text = (bytesOf text).length := by
  have h : ∀ (text : List Char) (n : Nat),
      text.foldl (fun n c => n + c.utf8Size) n = n + (bytesOf text).length := by
    intro text
    induction text with
    | nil => exact fun n => rfl
    | cons c text ih =>
      intro n
      rw [List.foldl_cons, ih, bytesOf_cons, List.length_append, String.length_utf8EncodeChar]
      omega
  rw [Text.byteLength, h, Nat.zero_add]

@[simp] theorem byteLength_append (a b : List Char) :
    Text.byteLength (a ++ b) = Text.byteLength a + Text.byteLength b := by
  simp [byteLength_eq]

theorem take_bytesOf (a b : List Char) :
    (bytesOf (a ++ b)).take (Text.byteLength a) = bytesOf a := by
  simp [byteLength_eq]

theorem byteLength_singleton (c : Char) : Text.byteLength [c] = c.utf8Size := by
  simp [byteLength_eq, bytesOf_singleton, String.length_utf8EncodeChar]

theorem byteLength_pos {text : List Char} (h : text ≠ []) : 0 < Text.byteLength text := by
  obtain ⟨c, rest, rfl⟩ := List.exists_cons_of_ne_nil h
  rw [← List.singleton_append, byteLength_append, byteLength_singleton]
  exact Nat.lt_of_lt_of_le c.utf8Size_pos (Nat.le_add_right _ _)

/-- A character is one byte below 128, or a byte that begins it and bytes that continue it. -/
theorem utf8EncodeChar_cases (c : Char) :
    (c.toNat < 128 ∧ String.utf8EncodeChar c = [UInt8.ofNat c.toNat]) ∨
      128 ≤ c.toNat ∧ ∃ first others, String.utf8EncodeChar c = first :: others ∧ others ≠ [] ∧
        128 ≤ first.toNat ∧ LineTracker.isContinuation first = false ∧
          ∀ b ∈ others, LineTracker.isContinuation b = true := by
  have hnext : ∀ n, LineTracker.isContinuation (UInt8.ofNat (n % 64 + 128)) = true := by
    have hall : ∀ n < 64, LineTracker.isContinuation (UInt8.ofNat (n + 128)) = true := by decide
    exact fun n => hall _ (Nat.mod_lt _ (by decide))
  have hfirst : ∀ n < 64, 128 ≤ (UInt8.ofNat (n + 192)).toNat ∧
      LineTracker.isContinuation (UInt8.ofNat (n + 192)) = false := by decide
  have hval : c.val.toNat = c.toNat := rfl
  unfold String.utf8EncodeChar
  rw [hval]
  dsimp only
  split
  · exact .inl ⟨by omega, rfl⟩
  · right
    refine ⟨by omega, ?_⟩
    split
    · obtain ⟨hlarge, hno⟩ := hfirst (c.toNat / 64 % 32) (by omega)
      refine ⟨_, _, rfl, List.cons_ne_nil _ _, hlarge, hno, ?_⟩
      simp only [List.forall_mem_cons, List.not_mem_nil, false_implies, implies_true, hnext,
        and_self]
    · split
      · obtain ⟨hlarge, hno⟩ := hfirst (c.toNat / 4096 % 16 + 32) (by omega)
        refine ⟨_, _, rfl, List.cons_ne_nil _ _, hlarge, hno, ?_⟩
        simp only [List.forall_mem_cons, List.not_mem_nil, false_implies, implies_true, hnext,
          and_self]
      · obtain ⟨hlarge, hno⟩ := hfirst (c.toNat / 262144 % 8 + 48) (by omega)
        refine ⟨_, _, rfl, List.cons_ne_nil _ _, hlarge, hno, ?_⟩
        simp only [List.forall_mem_cons, List.not_mem_nil, false_implies, implies_true, hnext,
          and_self]

/-! ### Counting -/

/-- Line and column after one more character. -/
def countChar (place : Nat × Nat) (c : Char) : Nat × Nat :=
  if c = '\n' then (min (place.1 + 1) maxCount, 1) else (place.1, min (place.2 + 1) maxCount)

theorem ofNat_eq_iff {n m : Nat} (hn : n < 256) (hm : m < 256) :
    UInt8.ofNat n = UInt8.ofNat m ↔ n = m := by
  rw [← UInt8.toNat_inj, UInt8.toNat_ofNat_of_lt' hn, UInt8.toNat_ofNat_of_lt' hm]

theorem isContinuation_ofNat {n : Nat} (h : n < 128) :
    LineTracker.isContinuation (UInt8.ofNat n) = false := by
  have hall : ∀ n < 128, LineTracker.isContinuation (UInt8.ofNat n) = false := by decide
  exact hall n h

theorem toNat_eq_iff {c d : Char} : c.toNat = d.toNat ↔ c = d :=
  ⟨fun h => Char.ext (UInt32.toNat_inj.1 h), fun h => h ▸ rfl⟩

/-- The bytes that continue a character are not counted. -/
theorem foldl_count_continuation {bytes : List UInt8} (place : Nat × Nat)
    (h : ∀ b ∈ bytes, LineTracker.isContinuation b = true) :
    bytes.foldl LineTracker.count place = place := by
  induction bytes with
  | nil => rfl
  | cons b bytes ih =>
    obtain ⟨hb, hrest⟩ := List.forall_mem_cons.1 h
    have hfeed : b ≠ 10 := by
      rintro rfl
      exact absurd hb (by decide)
    rw [List.foldl_cons, LineTracker.count, if_neg hfeed, if_pos hb, ih hrest]

theorem foldl_count_utf8EncodeChar (place : Nat × Nat) (c : Char) :
    (String.utf8EncodeChar c).foldl LineTracker.count place = countChar place c := by
  rcases utf8EncodeChar_cases c with ⟨hsmall, hbytes⟩ |
    ⟨hlarge, first, others, hbytes, -, hfirst, hno, hothers⟩
  · have hfeed : UInt8.ofNat c.toNat = 10 ↔ c = '\n' := by
      rw [← toNat_eq_iff]
      exact ofNat_eq_iff (by omega) (by decide)
    rw [hbytes, List.foldl_cons, List.foldl_nil, LineTracker.count, countChar,
      isContinuation_ofNat hsmall]
    simp only [hfeed, Bool.false_eq_true, if_false]
  · have hfeed : first ≠ 10 := by
      rintro rfl
      exact absurd hfirst (by decide)
    have hother : c ≠ '\n' := by
      rintro rfl
      exact absurd hlarge (by decide)
    rw [hbytes, List.foldl_cons, LineTracker.count, if_neg hfeed, hno, countChar, if_neg hother,
      foldl_count_continuation _ hothers]
    rfl

theorem foldl_count_bytesOf (place : Nat × Nat) (text : List Char) :
    (bytesOf text).foldl LineTracker.count place = text.foldl countChar place := by
  induction text generalizing place with
  | nil => rfl
  | cons c text ih =>
    rw [bytesOf_cons, List.foldl_append, foldl_count_utf8EncodeChar, ih, List.foldl_cons]

/-- The place behind a text, counted directly: the line feeds in it, the characters since the last of
them, and its bytes. -/
def placeBehind (before : List Char) : Location where
  line := 1 + before.count '\n'
  column := 1 + (before.reverse.takeWhile (· != '\n')).length
  offset := Text.byteLength before

theorem countChar_eq : countChar = countItem (· == '\n') fun _ => true := by
  funext place c
  simp [countChar, countItem]

theorem foldl_countChar {text : List Char} (h : text.length < maxCount) :
    text.foldl countChar (1, 1) = ((placeBehind text).line, (placeBehind text).column) := by
  rw [countChar_eq, foldl_countItem _ _ h]
  simp [placeBehind, List.count, bne]

theorem length_le_byteLength (text : List Char) : text.length ≤ Text.byteLength text := by
  induction text with
  | nil => simp
  | cons c text ih =>
    have hsize := c.utf8Size_pos
    rw [← List.singleton_append, byteLength_append, byteLength_singleton, List.length_append,
      List.length_singleton]
    omega

/-! ### Moving to the next token -/

/-- Blank characters as they are counted when places are looked up: the form feed is among them. -/
def isPassedOver (c : Char) : Bool := isBlank c || c = '\x0c'

/-- The first byte of a character, in the bytes of a text that has it at some place. -/
theorem getElem?_bytesOf {before rest : List Char} {c : Char} {first : UInt8} {others : List UInt8}
    (h : String.utf8EncodeChar c = first :: others) :
    (bytesOf (before ++ c :: rest)).toArray[Text.byteLength before]? = some first := by
  rw [List.getElem?_toArray, byteLength_eq, bytesOf_append, bytesOf_cons, h,
    List.getElem?_append_right (Nat.le_refl _), Nat.sub_self]
  rfl

theorem isPassedOver_iff {c : Char} : isPassedOver c = true ↔
    c.toNat = 32 ∨ c.toNat = 9 ∨ c.toNat = 10 ∨ c.toNat = 12 ∨ c.toNat = 13 := by
  have hsame : ∀ d : Char, c = d ↔ c.toNat = d.toNat := fun d => toNat_eq_iff.symm
  simp only [isPassedOver, isBlank, Bool.or_eq_true, decide_eq_true_eq, hsame]
  constructor
  · rintro ((((h | h) | h) | h) | h) <;> simp_all
  · rintro (h | h | h | h | h) <;> simp_all

theorem isBlankByte_eq {c : Char} {first : UInt8} {others : List UInt8}
    (h : String.utf8EncodeChar c = first :: others) :
    TextSource.isBlankByte first = isPassedOver c := by
  rw [Bool.eq_iff_iff, isPassedOver_iff]
  rcases utf8EncodeChar_cases c with ⟨hsmall, hbytes⟩ | ⟨hlarge, _, _, hbytes, -, hfirst, -⟩
  · rw [hbytes, List.cons.injEq] at h
    have hall : ∀ n < 128, TextSource.isBlankByte (UInt8.ofNat n) = true ↔
        n = 32 ∨ n = 9 ∨ n = 10 ∨ n = 12 ∨ n = 13 := by decide
    rw [← h.1]
    exact hall _ hsmall
  · rw [hbytes, List.cons.injEq] at h
    have hnot : TextSource.isBlankByte first ≠ true := by
      rw [← h.1]
      intro hblank
      simp only [TextSource.isBlankByte, Bool.or_eq_true, decide_eq_true_eq] at hblank
      rcases hblank with (((hb | hb) | hb) | hb) | hb
      all_goals
        rw [hb] at hfirst
        exact absurd hfirst (by decide)
    constructor
    · exact fun hblank => absurd hblank hnot
    · omega

theorem utf8Size_of_isPassedOver {c : Char} (h : isPassedOver c = true) :
    c.utf8Size = 1 := by
  rw [← String.length_utf8EncodeChar]
  rw [isPassedOver_iff] at h
  rcases utf8EncodeChar_cases c with ⟨-, hbytes⟩ | ⟨hlarge, -⟩
  · rw [hbytes]
    rfl
  · omega

theorem skipBlankBytes_eq (bytes : Array UInt8) (offset : Nat) :
    TextSource.skipBlankBytes bytes offset = match bytes[offset]? with
      | some b => if TextSource.isBlankByte b then TextSource.skipBlankBytes bytes (offset + 1) else offset
      | none => offset := by
  rw [TextSource.skipBlankBytes]
  split
  · rename_i h
    rw [Array.getElem?_eq_getElem h]
  · rename_i h
    rw [Array.getElem?_eq_none (by omega)]

/-- Blanks are passed over character by character. -/
theorem skipBlankBytes_bytesOf (before rest : List Char) :
    TextSource.skipBlankBytes (bytesOf (before ++ rest)).toArray (Text.byteLength before) =
      Text.byteLength (before ++ rest.takeWhile isPassedOver) := by
  induction rest generalizing before with
  | nil =>
    have hend : (bytesOf (before ++ [])).toArray[Text.byteLength before]? = none := by
      simp [byteLength_eq]
    rw [skipBlankBytes_eq, hend]
    simp
  | cons c rest ih =>
    obtain ⟨first, others, hbytes⟩ := List.exists_cons_of_ne_nil (String.utf8EncodeChar_ne_nil (c := c))
    rw [skipBlankBytes_eq, getElem?_bytesOf hbytes]
    dsimp only
    rw [isBlankByte_eq hbytes]
    split
    · rename_i hblank
      have hsize := utf8Size_of_isPassedOver hblank
      have hnext := ih (before ++ [c])
      rw [byteLength_append, byteLength_singleton, hsize, List.append_assoc, List.singleton_append]
        at hnext
      rw [hnext, List.takeWhile_cons_of_pos hblank, List.append_assoc, List.singleton_append]
    · rename_i hblank
      rw [List.takeWhile_cons_of_neg hblank, List.append_nil]

theorem getElem?_lastByte (before rest : List Char) (c : Char) :
    (bytesOf (before ++ [c] ++ rest)).toArray[Text.byteLength (before ++ [c]) - 1]? =
      (String.utf8EncodeChar c).getLast? := by
  have hpos := List.length_pos_of_ne_nil (String.utf8EncodeChar_ne_nil (c := c))
  rw [List.getElem?_toArray, byteLength_eq, bytesOf_append, bytesOf_append, bytesOf_singleton,
    List.length_append, List.getElem?_append_left (by rw [List.length_append]; omega),
    List.getElem?_append_right (by omega), List.getLast?_eq_getElem?]
  congr 1
  omega

/-- Only the opening bracket ends in its byte. -/
theorem eq_of_lastByte {c : Char} (h : (String.utf8EncodeChar c).getLast? = some 60) : c = '<' := by
  rcases utf8EncodeChar_cases c with ⟨hsmall, hbytes⟩ |
    ⟨-, first, others, hbytes, hsome, -, -, hothers⟩
  · rw [hbytes, List.getLast?_singleton, Option.some_inj] at h
    exact toNat_eq_iff.1 ((ofNat_eq_iff (by omega) (by decide)).1 h)
  · rw [hbytes, List.getLast?_cons_of_ne_nil hsome] at h
    have hlast := hothers 60 (List.mem_of_getLast? h)
    exact absurd hlast (by decide)

/-! ### The next token -/

namespace TextSource

/-- A source that has read the text `before`. The place it has counted up to lies in this text, and
its last character is no opening bracket. -/
structure Located (text : List Char) (s : TextSource) (before : List Char) : Prop where
  tiled : text = before ++ s.rest
  position : s.position = Text.byteLength before
  bytes : s.tracker.bytes = (bytesOf text).toArray
  last : before.getLast? ≠ some '<'
  counted : ∃ seen, seen <+: before ∧ s.tracker.offset = Text.byteLength seen ∧
    (s.tracker.line, s.tracker.column) = (bytesOf seen).foldl LineTracker.count (1, 1)

/-- What is passed over in front of the next token. -/
def passedOver (s : TextSource) : List Char :=
  if s.trimText then s.rest.takeWhile isPassedOver else []

/-- The place where a source looks for its next token. -/
def goal (s : TextSource) : Nat :=
  let bytes := s.tracker.bytes
  let offset :=
    if 0 < s.position && bytes[s.position - 1]? == some 60 then s.position - 1 else s.position
  if s.trimText then skipBlankBytes bytes offset else offset

theorem locate_eq (s : TextSource) : s.locate = { s with tracker := s.tracker.advance s.goal } := rfl

theorem Located.goal_eq {text before : List Char} {s : TextSource} (h : Located text s before) :
    s.goal = Text.byteLength (before ++ s.passedOver) := by
  have hback : (0 < s.position && s.tracker.bytes[s.position - 1]? == some 60) = false := by
    rw [Bool.and_eq_false_iff]
    by_cases hnil : before = []
    · left
      simp [h.position, hnil]
    · right
      obtain ⟨init, c, rfl⟩ : ∃ init c, before = init ++ [c] :=
        ⟨_, _, (List.dropLast_append_getLast hnil).symm⟩
      rw [h.position, h.bytes, h.tiled, getElem?_lastByte, beq_eq_false_iff_ne]
      intro hbyte
      have hlast := h.last
      rw [List.getLast?_concat, eq_of_lastByte hbyte] at hlast
      exact hlast rfl
  unfold goal passedOver
  simp only [hback, Bool.false_eq_true, if_false]
  split
  · rw [h.position, h.bytes, h.tiled, skipBlankBytes_bytesOf]
  · rw [h.position, List.append_nil]

theorem passedOver_prefix (s : TextSource) : s.passedOver <+: s.rest := by
  unfold passedOver
  split
  · exact List.takeWhile_prefix _
  · exact List.nil_prefix

/-- A tracker that stands behind a part of a text tells the place counted over this part. -/
theorem counted_iff {t : LineTracker} {seen rest : List Char}
    (hbytes : t.bytes = (bytesOf (seen ++ rest)).toArray) (hoffset : t.offset = Text.byteLength seen) :
    t.Counted ↔ (t.line, t.column) = (bytesOf seen).foldl LineTracker.count (1, 1) := by
  have hseen : t.bytes.toList.take t.offset = bytesOf seen := by
    rw [hbytes, hoffset, List.toList_toArray, take_bytesOf]
  rw [← hseen]
  constructor
  · exact LineTracker.Counted.place
  · intro hplace
    refine ⟨?_, hplace⟩
    simp [hbytes, hoffset, byteLength_eq]

theorem Located.advanced {text before : List Char} {s : TextSource} (h : Located text s before) :
    s.locate.tracker.offset = Text.byteLength (before ++ s.passedOver) ∧
      (s.locate.tracker.line, s.locate.tracker.column) =
        (bytesOf (before ++ s.passedOver)).foldl LineTracker.count (1, 1) := by
  obtain ⟨seen, ⟨mid, hmid⟩, hoffset, hplace⟩ := h.counted
  obtain ⟨rest, hrest⟩ := s.passedOver_prefix
  have hbytes : s.tracker.bytes = (bytesOf (seen ++ (mid ++ s.rest))).toArray := by
    rw [← List.append_assoc, hmid, ← h.tiled, h.bytes]
  have hthere : s.locate.tracker.bytes = (bytesOf (before ++ s.passedOver ++ rest)).toArray := by
    rw [List.append_assoc, hrest, ← h.tiled, ← h.bytes]
    exact LineTracker.advance_bytes _ _
  have hcounted : s.locate.tracker.Counted := ((counted_iff hbytes hoffset).2 hplace).advance s.goal
  have hcome : s.locate.tracker.offset = Text.byteLength (before ++ s.passedOver) := by
    have hsize : s.tracker.bytes.size =
        Text.byteLength (before ++ s.passedOver) + Text.byteLength rest := by
      rw [← byteLength_append, byteLength_eq, ← List.size_toArray, ← hthere]
      exact congrArg Array.size (LineTracker.advance_bytes _ _).symm
    have hseen : Text.byteLength seen ≤ Text.byteLength (before ++ s.passedOver) := by
      rw [← hmid, byteLength_append, byteLength_append]
      omega
    show (s.tracker.advance s.goal).offset = _
    rw [LineTracker.advance_offset, h.goal_eq, hoffset, hsize]
    omega
  exact ⟨hcome, (counted_iff hthere hcome).1 hcounted⟩

theorem Located.location {text before : List Char} {s : TextSource} (h : Located text s before)
    (hsize : Text.byteLength text < maxCount) :
    s.locate.tracker.location = placeBehind (before ++ s.passedOver) := by
  obtain ⟨hoffset, hplace⟩ := h.advanced
  obtain ⟨rest, hrest⟩ := s.passedOver_prefix
  have hlength : (before ++ s.passedOver).length < maxCount := by
    have hle := length_le_byteLength (before ++ s.passedOver)
    have hwhole : Text.byteLength text = Text.byteLength (before ++ s.passedOver) +
        Text.byteLength rest := by
      rw [h.tiled, ← hrest, ← List.append_assoc, byteLength_append]
    omega
  rw [foldl_count_bytesOf, foldl_countChar hlength, Prod.mk.injEq] at hplace
  rw [LineTracker.location, hoffset, hplace.1, hplace.2]
  rfl

/-! ### From token to token -/

theorem byteLength_of_blank {text : List Char} (h : ∀ c ∈ text, isBlank c = true) :
    Text.byteLength text = text.length := by
  induction text with
  | nil => rfl
  | cons c text ih =>
    obtain ⟨hc, hrest⟩ := List.forall_mem_cons.1 h
    have hsize : c.utf8Size = 1 := by
      apply utf8Size_of_isPassedOver
      simp [isPassedOver, hc]
    rw [← List.singleton_append, byteLength_append, byteLength_singleton, ih hrest, hsize,
      List.length_append, List.length_singleton]

theorem Passes.gap_blank {s next : TextSource} {p : Passage} (h : s.Passes p next) :
    ∀ c ∈ p.gap, isBlank c = true := by
  rw [h.gap]
  split
  · exact fun c hc => List.mem_takeWhile_imp hc
  · exact nofun

theorem takeWhile_of_bracket {text : List Char} (h : text.head? = some '<') :
    text.takeWhile isPassedOver = [] := by
  cases text with
  | nil => rfl
  | cons c text =>
    rw [List.head?_cons, Option.some_inj] at h
    rw [h, List.takeWhile_cons_of_neg (by decide)]

/-- Blanks are passed over up to the end of the token at most. -/
theorem takeWhile_of_read {first : Char} {text : List Char} {l : Lexeme}
    (h : Token.read first text = .ok l) :
    (l.source ++ l.rest).takeWhile isPassedOver = l.source.takeWhile isPassedOver := by
  rcases tokenizerLaws.runs h with ⟨-, -, -, hnext⟩ | hmarkup
  · have hstop : l.rest.takeWhile isPassedOver = [] := by
      cases hrest : l.rest with
      | nil => rfl
      | cons d rest =>
        apply takeWhile_of_bracket
        rw [List.head?_cons, hnext d (by simp [hrest])]
    rw [List.takeWhile_append, hstop, List.append_nil]
    split
    · rename_i hall
      exact ((List.takeWhile_prefix _).eq_of_length hall).symm
    · rfl
  · have hopening := hmarkup.opening
    rw [takeWhile_of_bracket hopening, takeWhile_of_bracket]
    simp [hopening]

/-- What is passed over in front of a token is the gap, and then what the token has of it. -/
theorem Passes.passedOver_eq {s next : TextSource} {p : Passage} (h : s.Passes p next) :
    s.passedOver = p.gap ++
      if s.trimText then p.lexeme.source.takeWhile isPassedOver else [] := by
  obtain ⟨c, text, -, hread⟩ := h.read
  have hsame : next.rest = p.lexeme.rest := by
    obtain ⟨-, -, -, -, last, htaken, rfl⟩ := h
    exact htaken.frame.1
  unfold passedOver
  split
  · have hblank : ∀ c ∈ p.gap, isPassedOver c = true := by
      intro c hc
      simp [isPassedOver, h.gap_blank c hc]
    rw [h.rest, Passage.text, List.append_assoc, List.takeWhile_append_of_pos hblank, hsame,
      takeWhile_of_read hread]
  · rename_i htrim
    rw [h.gap, if_neg htrim]
    rfl

theorem getLast?_of_read {first : Char} {text : List Char} {l : Lexeme}
    (h : Token.read first text = .ok l) : l.source.getLast? ≠ some '<' := by
  rcases tokenizerLaws.runs h with ⟨-, -, hnone, -⟩ | hmarkup
  · exact fun hlast => hnone (List.mem_of_getLast? hlast)
  · rw [hmarkup.closing]
    decide

/-- A source that has read one more token. -/
theorem Located.passes {text before : List Char} {s next : TextSource} {p : Passage}
    (h : Located text s before) (hp : s.Passes p next) : Located text next (before ++ p.text) := by
  have hpassed := hp.passedOver_eq
  have hrest := hp.rest
  have hblank := hp.gap_blank
  obtain ⟨hgap, ⟨c, rest, hready, hread⟩, -, -, last, htaken, rfl⟩ := hp
  obtain ⟨-, hposition, -, htracker, -⟩ := htaken.frame
  have htrackerSame : last.tracker = s.locate.tracker := htracker
  have hsome : p.lexeme.source ≠ [] := tokenizerLaws.nonempty hread
  refine ⟨?_, ?_, ?_, ?_, before ++ s.passedOver, ?_, ?_⟩
  · rw [List.append_assoc, ← hrest, h.tiled]
  · have hfront : s.locate.trimFront.position = s.position + p.gap.length := by
      rw [hgap]
      exact s.toTokenizer.position_trimFront
    have hbehind : (s.locate.trimFront.behind p.lexeme).position =
        s.locate.trimFront.position + Text.byteLength p.lexeme.source := rfl
    show last.position = _
    rw [hposition, hbehind, hfront, h.position, byteLength_append, Passage.text, byteLength_append,
      byteLength_of_blank hblank, Nat.add_assoc]
  · show last.tracker.bytes = _
    rw [htrackerSame, locate_eq]
    exact (LineTracker.advance_bytes _ _).trans h.bytes
  · have hlast : (before ++ p.text).getLast? = p.lexeme.source.getLast? := by
      rw [Passage.text, ← List.append_assoc, List.getLast?_append_of_ne_nil _ hsome]
    rw [hlast]
    exact getLast?_of_read hread
  · rw [List.prefix_append_right_inj, hpassed, Passage.text, List.prefix_append_right_inj]
    split
    · exact List.takeWhile_prefix _
    · exact List.nil_prefix
  · show last.tracker.offset = _ ∧ (last.tracker.line, last.tracker.column) = _
    rw [htrackerSame]
    exact h.advanced

/-- The tokens of a source follow one another in the text. -/
theorem Located.passages {text before : List Char} {s : TextSource} (h : Located text s before)
    {pre post : List Passage} {p : Passage} (hp : s.passages = pre ++ p :: post) :
    ∃ front next, Located text front (before ++ pre.flatMap Passage.text) ∧
      front.trimText = s.trimText ∧ front.Passes p next := by
  induction pre generalizing s before with
  | nil =>
    cases hpass : s.pass? with
    | none =>
      rw [passages_of_none hpass] at hp
      cases hp
    | some found =>
      have hpasses := pass?_eq_some_iff.1 hpass
      rw [passages_of_passes hpasses] at hp
      cases hp
      refine ⟨s, found.2, ?_, rfl, hpasses⟩
      rw [List.flatMap_nil, List.append_nil]
      exact h
  | cons first pre ih =>
    cases hpass : s.pass? with
    | none =>
      rw [passages_of_none hpass] at hp
      cases hp
    | some found =>
      have hpasses := pass?_eq_some_iff.1 hpass
      rw [passages_of_passes hpasses, List.cons_append, List.cons.injEq] at hp
      obtain ⟨rfl, hrest⟩ := hp
      obtain ⟨front, next, hfront, htrim, hnext⟩ := ih (h.passes hpasses) hrest
      refine ⟨front, next, ?_, htrim.trans hpasses.trimText, hnext⟩
      rw [List.flatMap_cons, ← List.append_assoc]
      exact hfront

/-! ### The places of events -/

theorem located_ofText {text : String} (h : text.toList.head? ≠ some byteOrderMark)
    (trimText : Bool) : Located text.toList (ofText text trimText) [] where
  tiled := (Tokenizer.rest_ofText h trimText).symm
  position := rfl
  bytes := toUTF8_eq text
  last := nofun
  counted := ⟨[], List.nil_prefix, rfl, rfl⟩

/-- Where text is trimmed, no token begins with a blank. -/
theorem Passes.head?_source {s next : TextSource} {p : Passage} (h : s.Passes p next) :
    ∃ c, p.lexeme.source.head? = some c ∧ (s.trimText = true → isBlank c = false) := by
  obtain ⟨-, ⟨c, text, hrest, hread⟩, -, -, -⟩ := h
  refine ⟨c, ?_, fun htrim => ?_⟩
  · rcases tokenizerLaws.runs hread with ⟨-, hhead, -, -⟩ | hmarkup
    · exact hhead
    · have hwhole := tokenizerLaws.tiles hread
      obtain ⟨d, source, hsource⟩ := List.exists_cons_of_ne_nil (tokenizerLaws.nonempty hread)
      rw [hsource, List.cons_append, List.cons.injEq] at hwhole
      rw [hsource, hwhole.1, List.head?_cons]
  · have hfront : s.rest.dropWhile isBlank = c :: text := by
      rw [← hrest, rest_ready, if_pos htrim]
    have hstop := List.head?_dropWhile_not isBlank s.rest
    rw [hfront] at hstop
    simpa using hstop

/-- Passing over blanks goes beyond the gap exactly where a run of text begins with a form feed. -/
theorem Passes.passedOver_eq_gap_iff {s next : TextSource} {p : Passage} (h : s.Passes p next) :
    s.passedOver = p.gap ↔ ¬ (s.trimText = true ∧ p.lexeme.source.head? = some '\x0c') := by
  obtain ⟨c, hhead, hblank⟩ := h.head?_source
  obtain ⟨rest, hsource⟩ : ∃ rest, p.lexeme.source = c :: rest := List.head?_eq_some_iff.1 hhead
  rw [h.passedOver_eq, List.append_right_eq_self, hhead, Option.some_inj]
  split
  · rename_i htrim
    have hfeed : isPassedOver c = true ↔ c = '\x0c' := by simp [isPassedOver, hblank htrim]
    rw [hsource, List.takeWhile_cons, ← hfeed]
    cases isPassedOver c <;> simp [htrim]
  · rename_i htrim
    simp [htrim]

/-- A token as it stands in a text: a run of text, or markup between brackets. Only where text is
trimmed are blanks left out in front of it, and then they all are. -/
structure Stretch (trimText : Bool) (p : Passage) : Prop where
  token : p.lexeme.token = .characters p.lexeme.source ∨ p.lexeme.IsMarkup
  blank : ∀ c ∈ p.gap, isBlank c = true
  whole : trimText = false → p.gap = []
  front : ∃ c, p.lexeme.source.head? = some c ∧ (trimText = true → isBlank c = false)

theorem Passes.stretch {s next : TextSource} {p : Passage} (h : s.Passes p next) :
    Stretch s.trimText p where
  token := by
    obtain ⟨-, ⟨c, text, -, hread⟩, -, -, -⟩ := h
    rcases tokenizerLaws.runs hread with ⟨hraw, -⟩ | hmarkup
    · exact .inl hraw
    · exact .inr hmarkup
  blank := h.gap_blank
  whole htrim := by simp [h.gap, htrim]
  front := h.head?_source

theorem Passes.location_of_mem {s next : TextSource} {p : Passage} (h : s.Passes p next)
    {event : Event} (hevent : event ∈ p.events) : event.location = some p.location := by
  obtain ⟨-, -, -, -, last, htaken, -⟩ := h
  unfold Passage.events at hevent
  split at hevent
  · rename_i content e htoken hsome
    rw [hsome] at htaken
    have hstart : e.location = some p.location := htaken.location
    rcases List.mem_pair.1 hevent with rfl | rfl
    · exact hstart
    · exact hstart
  · rw [Option.mem_toList] at hevent
    rw [hevent] at htaken
    exact htaken.location

theorem placeBehind_append_eq_iff {before more : List Char} :
    placeBehind (before ++ more) = placeBehind before ↔ more = [] := by
  constructor
  · intro h
    have hoffset : Text.byteLength (before ++ more) = Text.byteLength before :=
      congrArg Location.offset h
    rw [byteLength_append] at hoffset
    by_contra hsome
    have hpos := byteLength_pos hsome
    omega
  · rintro rfl
    rw [List.append_nil]

/-- The events of a text are those of its tokens, and the tokens with the blanks left out before them
lie one behind the other from its beginning. Every event is placed where its token begins, unless
text is trimmed and the token is a run of text that begins with a form feed. -/
theorem location_of_passages {text : String} {trimText : Bool}
    (hmark : text.toList.head? ≠ some byteOrderMark)
    (hsize : Text.byteLength text.toList < maxCount) :
    (events.script (ofText text trimText)).events =
        (ofText text trimText).passages.flatMap Passage.events ∧
      (∃ rest, text.toList = (ofText text trimText).passages.flatMap Passage.text ++ rest) ∧
      ∀ pre p post, (ofText text trimText).passages = pre ++ p :: post →
        Stretch trimText p ∧ (∀ event ∈ p.events, event.location = some p.location) ∧
        (p.location = placeBehind (pre.flatMap Passage.text ++ p.gap) ↔
          ¬ (trimText = true ∧ p.lexeme.source.head? = some '\x0c')) := by
  refine ⟨events_eq_passages rfl rfl, ?_, fun pre p post hp => ?_⟩
  · have hrest : (ofText text trimText).rest = text.toList := Tokenizer.rest_ofText hmark trimText
    rw [← hrest]
    exact exists_rest_passages _
  · obtain ⟨front, next, hfront, htrim, hpasses⟩ := (located_ofText hmark trimText).passages hp
    have htrim : front.trimText = trimText := htrim
    have hstretch := hpasses.stretch
    have hfeed := hpasses.passedOver_eq_gap_iff
    rw [htrim] at hstretch hfeed
    refine ⟨hstretch, fun event => hpasses.location_of_mem, ?_⟩
    rw [← hfeed, hpasses.location, hfront.location hsize, hpasses.passedOver_eq,
      ← List.append_assoc, List.nil_append, placeBehind_append_eq_iff, List.append_right_eq_self]

/-- A byte order mark is not counted: the first token stands behind it, but is placed where the text
begins. -/
theorem location_of_byteOrderMark {text : String} {p : Passage} {post : List Passage}
    (hmark : text.toList.head? = some byteOrderMark)
    (hp : (ofText text false).passages = p :: post) :
    p.location = placeBehind [] ∧ ∃ rest, text.toList = byteOrderMark :: (p.text ++ rest) := by
  cases hpass : (ofText text false).pass? with
  | none =>
    rw [passages_of_none hpass] at hp
    cases hp
  | some found =>
    have hpasses := pass?_eq_some_iff.1 hpass
    rw [passages_of_passes hpasses] at hp
    cases hp
    obtain ⟨tail, htail⟩ := List.head?_eq_some_iff.1 hmark
    have hfront : (ofText text false).rest = tail := Tokenizer.rest_ofText_of_mark htail false
    refine ⟨?_, found.2.rest, ?_⟩
    · rw [hpasses.location, locate_ofText]
      rfl
    · rw [htail, ← hfront, hpasses.rest]

/-! ### A form feed -/

/-- An element whose text begins with a form feed. -/
def formFeedText : String := "<a>\x0cx</a>"

def startOfA : StartElement := ⟨.plain "a", .empty, some ⟨1, 1, 0⟩⟩

theorem toList_formFeedText :
    formFeedText.toList = ['<', 'a', '>', '\x0c', 'x', '<', '/', 'a', '>'] := by
  rfl

/-- Its tokens. A trimmed source places the text behind the form feed. -/
def formFeedPassages (trimText : Bool) : List Passage :=
  let place := if trimText then ⟨1, 5, 4⟩ else ⟨1, 4, 3⟩
  [⟨[], ⟨.startTag ⟨['a']⟩, ['<', 'a', '>'], ['\x0c', 'x', '<', '/', 'a', '>']⟩, ⟨1, 1, 0⟩,
      .reserved, some (.startElement startOfA)⟩,
    ⟨[], ⟨.characters ['\x0c', 'x'], ['\x0c', 'x'], ['<', '/', 'a', '>']⟩, place, .reserved,
      some (.characters ⟨"\x0cx", some place⟩)⟩,
    ⟨[], ⟨.endTag ['a'], ['<', '/', 'a', '>'], []⟩, ⟨1, 6, 5⟩, .reserved,
      some (.endElement ⟨.plain "a", some ⟨1, 6, 5⟩⟩)⟩]

theorem starts_a : Starts .reserved ⟨['a']⟩ ⟨1, 1, 0⟩ startOfA .reserved := by
  have hwritten : (TagContent.mk ['a']).attributes = ([], none) := by decide +kernel
  have hcomplete : (TagContent.mk ['a']).attributes.2 = none := by rw [hwritten]
  refine ⟨?_, rfl, hcomplete, ⟨[], ?_, rfl⟩, rfl⟩
  · rw [tokenizerLaws.complete hcomplete, hwritten]
    rfl
  · rw [hwritten]
    exact .nil

theorem passages_formFeedText (trimText : Bool) :
    (ofText formFeedText trimText).passages = formFeedPassages trimText := by
  have hmark : formFeedText.toList.head? ≠ some byteOrderMark := by
    rw [toList_formFeedText]
    decide
  have hsize : Text.byteLength formFeedText.toList < maxCount := by
    rw [toList_formFeedText]
    decide
  have place {s : TextSource} {before rest : List Char} (h : Located formFeedText.toList s before)
      (htrim : s.trimText = trimText) (hrest : s.rest = rest) : s.locate.tracker.location =
        placeBehind (before ++ if trimText then rest.takeWhile isPassedOver else []) := by
    rw [h.location hsize, passedOver, htrim, hrest]
  -- the start tag
  have hfirst := faces_ofText hmark trimText
  rw [toList_formFeedText] at hfirst
  have hlocated := located_ofText hmark trimText
  have hplace : _ = Location.mk 1 1 0 :=
    (place hlocated rfl hfirst.rest).trans (by cases trimText <;> rfl)
  have hread : Token.read '<' ['a', '>', '\x0c', 'x', '<', '/', 'a', '>'] =
      .ok ⟨.startTag ⟨['a']⟩, ['<', 'a', '>'], ['\x0c', 'x', '<', '/', 'a', '>']⟩ := rfl
  have hstarts := starts_a
  rw [← hplace] at hstarts
  obtain ⟨second, hpasses, hsecond⟩ := hfirst.passes_startTag (by cases trimText <;> rfl) hread hstarts
  rw [passages_of_passes hpasses, hplace]
  -- the text
  have htrim : second.trimText = trimText := hpasses.trimText
  replace hlocated := hlocated.passes hpasses
  replace hplace : _ = if trimText then Location.mk 1 5 4 else ⟨1, 4, 3⟩ :=
    (place hlocated htrim hsecond.rest).trans (by cases trimText <;> rfl)
  replace hread : Token.read '\x0c' ['x', '<', '/', 'a', '>'] =
      .ok ⟨.characters ['\x0c', 'x'], ['\x0c', 'x'], ['<', '/', 'a', '>']⟩ := rfl
  have hexpand : Reference.expand ['\x0c', 'x'] = .ok ['\x0c', 'x'] := by decide +kernel
  obtain ⟨third, hpasses', hthird⟩ := hsecond.passes_characters
    (by rw [htrim]; cases trimText <;> rfl) hread
    (by rw [htrim]; cases trimText <;> exact hexpand) (List.cons_ne_nil _ _)
  rw [htrim] at hpasses'
  rw [passages_of_passes hpasses', hplace]
  -- the end tag
  replace htrim : third.trimText = trimText := hpasses'.trimText.trans htrim
  replace hlocated := hlocated.passes hpasses'
  replace hplace : _ = Location.mk 1 6 5 :=
    (place hlocated htrim hthird.rest).trans (by cases trimText <;> rfl)
  replace hread : Token.read '<' ['/', 'a', '>'] = .ok ⟨.endTag ['a'], ['<', '/', 'a', '>'], []⟩ :=
    rfl
  have hname : (RawName.ofText ['a']).elementName .reserved = .ok (.plain "a") := rfl
  obtain ⟨last, hpasses'', hlast⟩ := hthird.passes_endTag
    (by rw [htrim]; cases trimText <;> rfl) hread hname
  rw [passages_of_passes hpasses'', hplace, passages_of_none hlast.pass?_nil, htrim]
  cases trimText <;> rfl

theorem location_formFeedText :
    (ofText formFeedText false).passages = formFeedPassages false ∧
      ∀ pre p post, formFeedPassages false = pre ++ p :: post →
        Stretch false p ∧ (∀ event ∈ p.events, event.location = some p.location) ∧
        (p.location = placeBehind (pre.flatMap Passage.text ++ p.gap) ↔
          ¬ (false = true ∧ p.lexeme.source.head? = some '\x0c')) := by
  have hmark : formFeedText.toList.head? ≠ some byteOrderMark := by
    rw [toList_formFeedText]
    decide
  have hsize : Text.byteLength formFeedText.toList < maxCount := by
    rw [toList_formFeedText]
    decide
  have hall := (@location_of_passages formFeedText false hmark hsize).2.2
  rw [passages_formFeedText] at hall
  exact ⟨passages_formFeedText false, hall⟩

/-- A trimmed source reports a text with its form feed, and places it behind the form feed. -/
theorem misplaced_formFeedText :
    (events.script (ofText formFeedText true)).events =
        [.startElement startOfA, .characters ⟨"\x0cx", some ⟨1, 5, 4⟩⟩,
          .endElement ⟨.plain "a", some ⟨1, 6, 5⟩⟩] ∧
      formFeedText.toList = ['<', 'a', '>'] ++ "\x0cx".toList ++ ['<', '/', 'a', '>'] ∧
      placeBehind ['<', 'a', '>'] = ⟨1, 4, 3⟩ := by
  refine ⟨?_, ?_, rfl⟩
  · rw [events_eq_passages rfl rfl, passages_formFeedText]
    rfl
  · rw [toList_formFeedText]
    rfl

end TextSource
end StreamSelect.Markup
