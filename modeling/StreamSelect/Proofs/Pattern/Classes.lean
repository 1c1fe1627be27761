import Mathlib.Data.List.TakeWhile
import StreamSelect.Proofs.Pattern.Escapes

/-! Classes before a closing parenthesis. A class either ends within the text or takes the parenthesis
up as one of its members. -/
namespace StreamSelect.Pattern

/-- A reader that takes a character at least. -/
def Strict {α : Type} (f : Reader α) : Prop := ∀ a p, f a = some p → p.2.length < a.length

theorem suffix_of_suffix_cons {c : Char} {a t : List Char} (h : a <:+ c :: t)
    (hlength : a.length ≤ t.length) : a <:+ t := by
  rcases List.suffix_cons_iff.1 h with rfl | h
  · simp only [List.length_cons] at hlength
    omega
  · exact h

/-! ### Classes by name -/

theorem after?_before {expected : List Char} (h : ')' ∉ expected) (a t : List Char) :
    Text.after? expected (a ++ ')' :: t) = (Text.after? expected a).map (· ++ ')' :: t) := by
  fun_induction Text.after? expected a with
  | case1 => rfl
  | case2 e expected =>
    have hne : e ≠ ')' := by
      rintro rfl
      simp at h
    rw [List.nil_append, Text.after?, if_neg hne]
    rfl
  | case3 e expected a ih =>
    rw [List.cons_append, Text.after?, if_pos rfl, ih (by simp_all)]
  | case4 e expected c a hne => rw [List.cons_append, Text.after?, if_neg hne, Option.map_none]

theorem paren_not_mem_of_posixClass? {name : String} {kind : PosixClass}
    (h : posixClass? name = some kind) : ')' ∉ name.toList := by
  unfold posixClass? at h
  split at h
  all_goals first
    | decide
    | cases h

theorem takeWhile_paren {p : Char → Bool} (hp : p ')' = true) {a : List Char} (h : ∀ c ∈ a, p c)
    (t : List Char) : ')' ∈ (a ++ ')' :: t).takeWhile p := by
  rw [List.takeWhile_append_of_pos h, List.takeWhile_cons_of_pos hp]
  simp

theorem takeWhile_before {p : Char → Bool} {a : List Char} (h : ∃ c ∈ a, ¬ p c) (t : List Char) :
    (a ++ t).takeWhile p = a.takeWhile p ∧ (a ++ t).dropWhile p = a.dropWhile p ++ t := by
  induction a with
  | nil => simp at h
  | cons c a ih =>
    by_cases hc : p c
    · have hrest : ∃ d ∈ a, ¬ p d := by simpa [hc] using h
      simp [hc, ih hrest]
    · simp [hc]

/-- The name of a class up to the colon that closes it. -/
def readPosixName? (negated : Bool) (named : List Char) : Option (ClassTree × List Char) :=
  (Text.after? [':', ']'] (named.dropWhile (· != ':'))).bind fun rest =>
    (posixClass? (String.ofList (named.takeWhile (· != ':')))).map fun kind =>
      (.posix kind negated, rest)

theorem readPosix?_eq (a : List Char) :
    readPosix? a = (Text.after? ['[', ':'] a).bind fun inside =>
      let negated := inside.head? == some '^'
      readPosixName? negated (if negated then inside.tail else inside) := by
  unfold readPosix? afterText? readPosixName?
  apply Option.bind_congr
  intro inside _
  apply Option.bind_congr
  intro rest _
  rw [Option.map_eq_bind]
  rfl

theorem firm_readPosixName? (negated : Bool) : Firm (readPosixName? negated) where
  suffix a p hp := by
    obtain ⟨rest, hrest, hp⟩ := Option.bind_eq_some_iff.1 hp
    obtain ⟨kind, _, rfl⟩ := Option.map_eq_some_iff.1 hp
    have hsuffix : rest <:+ a.dropWhile (· != ':') := ⟨_, Text.append_after? hrest⟩
    exact hsuffix.trans (List.dropWhile_suffix _)
  before a t := by
    unfold readPosixName?
    by_cases hcolon : ∃ c ∈ a, ¬ (c != ':') = true
    · obtain ⟨htake, hdrop⟩ := takeWhile_before hcolon (')' :: t)
      rw [htake, hdrop, after?_before (by decide)]
      cases Text.after? [':', ']'] (a.dropWhile (· != ':')) with
      | none => rfl
      | some rest =>
        cases posixClass? (String.ofList (a.takeWhile (· != ':'))) <;> rfl
    · have hall : ∀ c ∈ a, (c != ':') = true := by
        simp only [not_exists, not_and, not_not] at hcolon
        exact hcolon
      have hnone : posixClass? (String.ofList ((a ++ ')' :: t).takeWhile (· != ':'))) = none := by
        rw [Option.eq_none_iff_forall_ne_some]
        intro kind hkind
        apply paren_not_mem_of_posixClass? hkind
        rw [String.toList_ofList]
        exact takeWhile_paren (by decide) hall t
      have hdrop := List.dropWhile_eq_nil_iff.2 hall
      rw [hnone, hdrop]
      cases Text.after? [':', ']'] ((a ++ ')' :: t).dropWhile (· != ':')) <;> rfl

theorem firm_readPosix? : Firm readPosix? where
  suffix a p hp := by
    rw [readPosix?_eq] at hp
    obtain ⟨inside, hinside, hp⟩ := Option.bind_eq_some_iff.1 hp
    have hname := (firm_readPosixName? _).suffix _ _ hp
    have hnamed : (if inside.head? == some '^' then inside.tail else inside) <:+ inside := by
      split
      · exact List.tail_suffix inside
      · exact List.suffix_rfl
    exact (hname.trans hnamed).trans ⟨_, Text.append_after? hinside⟩
  before a t := by
    rw [readPosix?_eq, readPosix?_eq, after?_before (by decide)]
    cases Text.after? ['[', ':'] a with
    | none => rfl
    | some inside =>
      cases inside with
      | nil => exact (firm_readPosixName? false).before [] t
      | cons c inside =>
        by_cases hc : c = '^'
        · subst hc
          exact (firm_readPosixName? true).before inside t
        · have hhead (rest : List Char) : ((c :: rest).head? == some '^') = false := by simp [hc]
          simp only [Option.map_some, Option.bind_some, List.cons_append, hhead]
          exact (firm_readPosixName? false).before (c :: inside) t

theorem strict_readPosix? : Strict readPosix? := by
  intro a p hp
  rw [readPosix?_eq] at hp
  obtain ⟨inside, hinside, hp⟩ := Option.bind_eq_some_iff.1 hp
  have hname := ((firm_readPosixName? _).suffix _ _ hp).length_le
  have hlength := congrArg List.length (Text.append_after? hinside)
  have hnamed : (if inside.head? == some '^' then inside.tail else inside).length ≤ inside.length := by
    split
    · simp
    · exact Nat.le_refl _
  simp only [List.length_append, List.length_cons, List.length_nil] at hlength
  omega

/-! ### Openings -/

theorem takeHyphens_eq (ignoreBlank : Bool) (fuel : Nat) (text : List Char) :
    takeHyphens ignoreBlank fuel text =
      run ignoreBlank (fun c => if c = '-' then some (.letter ⟨'-', false⟩) else none) fuel text := by
  induction fuel generalizing text with
  | zero => rfl
  | succ fuel ih =>
    cases text with
    | nil => rfl
    | cons c rest =>
      by_cases hc : c = '-'
      · subst hc
        rw [takeHyphens, run, past_cons, ih]
        rfl
      · simp [takeHyphens, run, hc]

/-- A closing bracket in front of the members is one of them, and something has to follow. -/
def readFrontBracket (ignoreBlank negated : Bool) : Reader (Bool × List ClassTree) :=
  onNext fun _ rest => onHead (fun _ rest => some ((negated, [.letter ⟨']', false⟩]), rest))
    (skip ignoreBlank rest)

def readFront (ignoreBlank negated : Bool) (hyphens : List ClassTree) :
    Reader (Bool × List ClassTree) :=
  onHead fun next rest =>
    if hyphens.isEmpty ∧ next = ']' then readFrontBracket ignoreBlank negated rest
    else some ((negated, hyphens), rest)

def readHyphens (ignoreBlank negated : Bool) (start : List Char) :
    Option ((Bool × List ClassTree) × List Char) :=
  (some (takeHyphens ignoreBlank start.length start)).bind fun p =>
    readFront ignoreBlank negated p.1 p.2

/-- The opening of a class behind its bracket. -/
def readInside (ignoreBlank : Bool) : Reader (Bool × List ClassTree) :=
  onHead fun first inside =>
    if first = '^' then
      onNext (fun _ rest => readHyphens ignoreBlank true (skip ignoreBlank rest)) inside
    else readHyphens ignoreBlank false inside

theorem readHyphens_eq (ignoreBlank negated : Bool) (start : List Char) :
    (readHyphens ignoreBlank negated start).map (fun p => (p.1.1, p.1.2, p.2)) =
      (let (hyphens, rest) := takeHyphens ignoreBlank start.length start
      rest.head?.bind fun next =>
        if hyphens.isEmpty && next = ']' then
          if (past ignoreBlank rest).isEmpty then none
          else some (negated, [.letter ⟨']', false⟩], past ignoreBlank rest)
        else some (negated, hyphens, rest)) := by
  unfold readHyphens
  obtain ⟨hyphens, rest⟩ := takeHyphens ignoreBlank start.length start
  cases rest with
  | nil => rfl
  | cons next rest =>
    simp only [Option.bind_some, readFront, onHead, List.head?_cons, Bool.and_eq_true,
      decide_eq_true_eq]
    rw [past_cons]
    split
    · unfold readFrontBracket onNext
      dsimp only
      cases skip ignoreBlank rest <;> rfl
    · rfl

theorem readClassOpening_cons (ignoreBlank : Bool) (c : Char) (rest : List Char) :
    readClassOpening ignoreBlank (c :: rest) =
      (readInside ignoreBlank (skip ignoreBlank rest)).map fun p => (p.1.1, p.1.2, p.2) := by
  unfold readClassOpening readInside
  rw [past_cons]
  cases skip ignoreBlank rest with
  | nil => rfl
  | cons first inside =>
    simp only [onHead, List.head?_cons, Option.bind_eq_bind, Option.bind_some]
    by_cases hfirst : first = '^'
    · subst hfirst
      simp only [decide_true, if_true, past_cons, onNext, readHyphens_eq]
    · simp only [hfirst, decide_false, if_false, readHyphens_eq]

theorem local_readFrontBracket (ignoreBlank negated : Bool) :
    Local [')'] (readFrontBracket ignoreBlank negated) :=
  local_onNext fun _ => ((local_skip ignoreBlank).loose [')']).bind fun _ =>
    local_onHead fun _ => Local.pure _

theorem local_readHyphens (ignoreBlank negated : Bool) :
    Local [')'] (readHyphens ignoreBlank negated) := by
  have htake : Local [] fun a => some (takeHyphens ignoreBlank a.length a) := by
    apply Local.congr (local_run ignoreBlank
      (fun c => if c = '-' then some (ClassTree.letter ⟨'-', false⟩) else none) (by decide))
    intro a
    rw [takeHyphens_eq]
  apply (htake.loose [')']).bind
  intro hyphens
  exact local_onHead fun next =>
    (local_readFrontBracket ignoreBlank negated).ite (P := hyphens.isEmpty ∧ next = ']') (Local.pure _)

theorem local_readInside (ignoreBlank : Bool) : Local [')'] (readInside ignoreBlank) := by
  have hskip := (local_skip ignoreBlank).loose [')']
  have hcaret := local_onNext fun _ => hskip.bind fun _ => local_readHyphens ignoreBlank true
  exact local_onHead fun first =>
    hcaret.ite (P := first = '^') (local_readHyphens ignoreBlank false)

/-- The opening of a class as a reader. -/
def readOpeningBracket (ignoreBlank : Bool) (a : List Char) :
    Option ((Bool × List ClassTree) × List Char) :=
  (readClassOpening ignoreBlank a).map fun p => ((p.1, p.2.1), p.2.2)

theorem local_readOpeningBracket (ignoreBlank : Bool) :
    Local [')'] (readOpeningBracket ignoreBlank) := by
  apply Local.congr (local_onNext fun _ => ((local_skip ignoreBlank).loose [')']).bind fun _ =>
    local_readInside ignoreBlank)
  intro a
  cases a with
  | nil => cases ignoreBlank <;> rfl
  | cons c rest =>
    rw [readOpeningBracket, readClassOpening_cons, Option.map_map]
    exact Option.map_id'.symm

theorem strict_readOpeningBracket (ignoreBlank : Bool) : Strict (readOpeningBracket ignoreBlank) := by
  intro a p hp
  cases a with
  | nil => cases ignoreBlank <;> cases hp
  | cons c rest =>
    rw [readOpeningBracket, readClassOpening_cons, Option.map_map] at hp
    obtain ⟨q, hq, rfl⟩ := Option.map_eq_some_iff.1 hp
    have hinside := ((local_readInside ignoreBlank).suffix _ _ hq).length_le
    have hskip := (skip_suffix ignoreBlank rest).length_le
    simp only [Function.comp_apply, List.length_cons]
    omega

/-! ### Members -/

/-- A member of a class before it is known whether a range starts with it. -/
def readMember (ignoreBlank : Bool) (text : List Char) : Option (Tree × List Char) :=
  (readClassPrimitive ignoreBlank text).bind fun p =>
    (classItem? p.1).map fun _ => p

theorem readMember_letter (ignoreBlank : Bool) {c : Char} (hc : c ≠ '\\') (rest : List Char) :
    readMember ignoreBlank (c :: rest) = some (.letter ⟨c, false⟩, rest) := by
  have hprimitive : readClassPrimitive ignoreBlank (c :: rest) =
      some (.letter ⟨c, false⟩, rest) := by
    unfold readClassPrimitive
    split <;> simp_all
  rw [readMember, hprimitive]
  rfl

theorem local_member (ignoreBlank : Bool) : Local [] fun rest =>
    (readEscape ignoreBlank rest).bind fun p => (classItem? p.1).map fun _ => p where
  suffix a p hp := by
    obtain ⟨q, hq, hp⟩ := Option.bind_eq_some_iff.1 hp
    obtain ⟨_, _, rfl⟩ := Option.map_eq_some_iff.1 hp
    exact (readEscape_suffix hq).trans (List.tail_suffix a)
  alike a t := by
    rcases alike_readEscape ignoreBlank a t with halike | hbrace
    · have hs : ∀ (p q : Tree × List Char), ((classItem? p.1).map fun _ => p) = some q →
          q.2 <:+ p.2 := by
        intro p q hq
        obtain ⟨_, _, rfl⟩ := Option.map_eq_some_iff.1 hq
        exact List.suffix_rfl
      refine halike.bind hs (fun p q hu hq => (hs p q hq).trans hu) (fun _ => rfl) ?_
      intro x rest _
      dsimp only
      cases classItem? x with
      | none => exact .of_none (by simp)
      | some item => exact .same rfl rfl
    · rw [hbrace.alone, hbrace.before]
      exact .of_none (by simp [classItem?])

theorem local_readMember (ignoreBlank : Bool) : Local [] (readMember ignoreBlank) := by
  have hletter (c : Char) := @Local.pure _ [] (Tree.letter ⟨c, false⟩)
  apply Local.congr (local_onNext fun c =>
    (local_member ignoreBlank).ite (P := c = '\\') (hletter c))
  intro a
  cases a with
  | nil => rfl
  | cons c rest =>
    by_cases hc : c = '\\'
    · subst hc
      rfl
    · simp [onNext, hc, readMember_letter ignoreBlank hc]

theorem strict_readMember (ignoreBlank : Bool) : Strict (readMember ignoreBlank) := by
  intro a p hp
  cases a with
  | nil => cases hp
  | cons c rest =>
    by_cases hc : c = '\\'
    · subst hc
      have hlength := ((local_member ignoreBlank).suffix rest p hp).length_le
      simp only [List.length_cons]
      omega
    · rw [readMember_letter ignoreBlank hc] at hp
      cases hp
      simp

/-- The hyphen that comes next stands for itself: a closing bracket or a hyphen follows. -/
def hyphenAlone (ignoreBlank : Bool) (text : List Char) : Bool :=
  peekPast ignoreBlank text == some ']' || peekPast ignoreBlank text == some '-'

/-- The range between two primitives, if they are letters in order. -/
def range? (left right : Tree) : Option ClassTree :=
  match left, right with
  | .letter a, .letter b => if a.char ≤ b.char then some (.range a b) else none
  | _, _ => none

/-- What a primitive is the start of: a member, or a range. -/
def readRange (ignoreBlank : Bool) (left : Tree) : Reader ClassTree :=
  onHead fun next rest =>
    if next ≠ '-' ∨ hyphenAlone ignoreBlank rest then
      (classItem? left).map fun item => (item, rest)
    else
      (readMember ignoreBlank (past ignoreBlank rest)).bind fun p =>
        (range? left p.1).map fun item => (item, p.2)

theorem readMember_range (ignoreBlank : Bool) (left : Tree) (start : List Char) :
    ((readMember ignoreBlank start).bind fun p =>
        (range? left p.1).map fun item => (item, p.2)) =
      (readClassPrimitive ignoreBlank start).bind fun p =>
        (range? left p.1).map fun item => (item, p.2) := by
  unfold readMember
  cases readClassPrimitive ignoreBlank start with
  | none => rfl
  | some p =>
    obtain ⟨right, rest⟩ := p
    cases right <;> cases left <;> rfl

theorem range?_match (left : Tree) (p : Tree × List Char) :
    (match left, p.1 with
      | .letter a, .letter b => if a.char ≤ b.char then some (ClassTree.range a b, p.2) else none
      | _, _ => none) = (range? left p.1).map fun item => (item, p.2) := by
  unfold range?
  split
  · split <;> rfl
  · rfl

theorem range?_of_item {left : Tree} (h : classItem? left = none) (right : Tree) :
    range? left right = none := by
  cases left with
  | letter l => cases h
  | _ => rfl

theorem readClassItem_of_some {ignoreBlank : Bool} {text rest : List Char} {left : Tree}
    (h : readClassPrimitive ignoreBlank text = some (left, rest)) :
    readClassItem ignoreBlank text =
      (skip ignoreBlank rest).head?.bind fun next =>
        if next ≠ '-' ∨ hyphenAlone ignoreBlank (skip ignoreBlank rest) then
          (classItem? left).map fun item => (item, skip ignoreBlank rest)
        else (readClassPrimitive ignoreBlank (past ignoreBlank (skip ignoreBlank rest))).bind
          fun p => (range? left p.1).map fun item => (item, p.2) := by
  have hskip : (if ignoreBlank = true then skipBlanks false rest else rest) =
    skip ignoreBlank rest := rfl
  simp only [readClassItem, h, Option.bind_eq_bind, Option.bind_some, hskip, hyphenAlone]
  apply Option.bind_congr
  intro next _
  apply ite_congr
  · simp [or_assoc]
  · intro _
    rw [Option.map_eq_bind]
    rfl
  · intro _
    split
    · rename_i hempty
      rw [List.isEmpty_iff.1 hempty]
      rfl
    · apply Option.bind_congr
      intro p _
      exact range?_match left p

theorem readClassItem_eq (ignoreBlank : Bool) (text : List Char) :
    readClassItem ignoreBlank text = (readMember ignoreBlank text).bind fun p =>
      readRange ignoreBlank p.1 (skip ignoreBlank p.2) := by
  cases hprimitive : readClassPrimitive ignoreBlank text with
  | none => simp [readClassItem, readMember, hprimitive]
  | some p =>
    obtain ⟨left, rest⟩ := p
    have hmember : (readMember ignoreBlank text).bind (fun p =>
        readRange ignoreBlank p.1 (skip ignoreBlank p.2)) =
          (classItem? left).bind fun _ => readRange ignoreBlank left (skip ignoreBlank rest) := by
      rw [readMember, hprimitive]
      cases hitem : classItem? left <;> simp [hitem]
    rw [readClassItem_of_some hprimitive, hmember]
    cases skip ignoreBlank rest with
    | nil => cases classItem? left <;> rfl
    | cons next rest =>
      simp only [List.head?_cons, Option.bind_some, readRange, onHead, readMember_range]
      split
      · cases classItem? left <;> rfl
      · cases hitem : classItem? left with
        | none => simp [range?_of_item hitem]
        | some item => rfl

/-- What comes after blanks ahead, past a number sign and blanks again. -/
def pastSign (ahead : List Char) : List Char :=
  if ahead.head? == some '#' then ahead.tail.dropWhile Text.isBlank else ahead

theorem peekPast_blank (c : Char) (a : List Char) :
    peekPast true (c :: a) = (pastSign (a.dropWhile Text.isBlank)).head?.or a.head? := rfl

/-- Where there is nothing ahead but blanks, no bracket and no hyphen comes next either. -/
theorem head?_of_pastSign {a : List Char} (h : pastSign (a.dropWhile Text.isBlank) = []) :
    a.head? ≠ some ']' ∧ a.head? ≠ some '-' := by
  cases a with
  | nil => simp
  | cons c a =>
    by_cases hblank : Text.isBlank c
    · constructor
      · rintro ⟨⟩
        exact absurd hblank (by decide)
      · rintro ⟨⟩
        exact absurd hblank (by decide)
    · rw [List.dropWhile_cons_of_neg hblank] at h
      have hsign : c = '#' := by
        by_cases hc : c = '#'
        · exact hc
        · simp [pastSign, hc] at h
      subst hsign
      simp

theorem pastSign_before (a t : List Char) :
    pastSign (a ++ ')' :: t) = pastSign a ++ ')' :: t := by
  cases a with
  | nil => rfl
  | cons c a =>
    unfold pastSign
    rw [List.cons_append, List.head?_cons, List.head?_cons, List.tail_cons, List.tail_cons,
      dropBlanks_before]
    split <;> rfl

/-- A closing parenthesis is neither a bracket nor a hyphen, so it does not matter where it is the
first character ahead. -/
theorem hyphenAlone_before (ignoreBlank : Bool) (c : Char) (a t : List Char) :
    hyphenAlone ignoreBlank (c :: a ++ ')' :: t) = hyphenAlone ignoreBlank (c :: a) := by
  unfold hyphenAlone
  cases ignoreBlank with
  | false => cases a <;> simp [peekPast]
  | true =>
    rw [List.cons_append, peekPast_blank, peekPast_blank, dropBlanks_before, pastSign_before]
    cases hahead : pastSign (a.dropWhile Text.isBlank) with
    | nil =>
      -- the parenthesis comes next in one text, and in the other one what the blanks begin with
      have hhead := head?_of_pastSign hahead
      simp [hhead]
    | cons d ahead => rfl

section Range

variable {ignoreBlank : Bool} {left : Tree} {c : Char} {a : List Char}

theorem readRange_alone (h : c ≠ '-' ∨ hyphenAlone ignoreBlank (c :: a)) :
    readRange ignoreBlank left (c :: a) = (classItem? left).map fun item => (item, c :: a) :=
  if_pos h

theorem readRange_range (h : ¬ (c ≠ '-' ∨ hyphenAlone ignoreBlank (c :: a))) :
    readRange ignoreBlank left (c :: a) = (readMember ignoreBlank (skip ignoreBlank a)).bind
      fun p => (range? left p.1).map fun item => (item, p.2) :=
  if_neg h

end Range

theorem readRange_suffix {ignoreBlank : Bool} {left : Tree} {a : List Char}
    {p : ClassTree × List Char} (h : readRange ignoreBlank left a = some p) : p.2 <:+ a := by
  cases a with
  | nil => cases h
  | cons c a =>
    by_cases hc : c ≠ '-' ∨ hyphenAlone ignoreBlank (c :: a)
    · rw [readRange_alone hc] at h
      obtain ⟨item, _, rfl⟩ := Option.map_eq_some_iff.1 h
      exact List.suffix_rfl
    · rw [readRange_range hc] at h
      obtain ⟨q, hq, h⟩ := Option.bind_eq_some_iff.1 h
      obtain ⟨item, _, rfl⟩ := Option.map_eq_some_iff.1 h
      have hmember := (local_readMember ignoreBlank).suffix _ _ hq
      exact (hmember.trans (skip_suffix ignoreBlank a)).trans (List.suffix_cons c a)

theorem local_readRange (ignoreBlank : Bool) (left : Tree) :
    Local [')'] (readRange ignoreBlank left) where
  suffix _ _ := readRange_suffix
  alike a t := by
    cases a with
    | nil => exact .of_none fun p hp => readRange_suffix hp
    | cons c a =>
      by_cases hc : c ≠ '-' ∨ hyphenAlone ignoreBlank (c :: a)
      · have hbefore : c ≠ '-' ∨ hyphenAlone ignoreBlank (c :: (a ++ ')' :: t)) := by
          rwa [← List.cons_append, hyphenAlone_before]
        change Alike t _ _ (readRange ignoreBlank left (c :: (a ++ ')' :: t)))
        rw [readRange_alone hc, readRange_alone hbefore]
        cases classItem? left with
        | none => exact .of_none (by simp)
        | some item => exact .same rfl rfl
      · have hbefore : ¬ (c ≠ '-' ∨ hyphenAlone ignoreBlank (c :: (a ++ ')' :: t))) := by
          rwa [← List.cons_append, hyphenAlone_before]
        change Alike t _ _ (readRange ignoreBlank left (c :: (a ++ ')' :: t)))
        rw [readRange_range hc, readRange_range hbefore]
        have hrange := ((local_readMember ignoreBlank).skip ignoreBlank).filterMap (range? left)
        exact (hrange.loose [')']).alike a t

theorem local_readClassItem (ignoreBlank : Bool) : Local [')'] (readClassItem ignoreBlank) := by
  have hmember := (local_readMember ignoreBlank).loose [')']
  have hskip := (local_skip ignoreBlank).loose [')']
  apply Local.congr (hmember.bind fun left => hskip.bind fun _ => local_readRange ignoreBlank left)
  intro a
  rw [readClassItem_eq]
  rfl

theorem strict_readClassItem (ignoreBlank : Bool) : Strict (readClassItem ignoreBlank) := by
  intro a p hp
  rw [readClassItem_eq] at hp
  obtain ⟨q, hq, hp⟩ := Option.bind_eq_some_iff.1 hp
  have hmember := strict_readMember ignoreBlank a q hq
  have hrange := (readRange_suffix hp).length_le
  have hskip := (skip_suffix ignoreBlank q.2).length_le
  omega

/-! ### Whole classes -/

/-- The operation that a character written twice stands for. -/
def setOperation? (c : Char) : Option SetOperation :=
  if c = '&' then some .intersection
  else if c = '-' then some .difference
  else if c = '~' then some .symmetric
  else none

def operation? : List Char → Option (SetOperation × List Char)
  | c :: d :: rest => if c = d then (setOperation? c).map fun op => (op, rest) else none
  | _ => none

theorem operation?_eq_some {a : List Char} {p : SetOperation × List Char}
    (h : operation? a = some p) : ∃ c, a = c :: c :: p.2 := by
  unfold operation? at h
  split at h
  · split at h
    · rename_i c d rest heq
      obtain ⟨op, _, rfl⟩ := Option.map_eq_some_iff.1 h
      exact ⟨c, by rw [heq]⟩
    · cases h
  · cases h

theorem firm_operation? : Firm operation? where
  suffix a p hp := by
    obtain ⟨c, rfl⟩ := operation?_eq_some hp
    exact (List.suffix_cons c p.2).trans (List.suffix_cons c _)
  before a t := by
    match a with
    | [] => cases t <;> simp [operation?, setOperation?]
    | [c] =>
      by_cases hc : c = ')'
      · subst hc
        rfl
      · exact if_neg hc
    | c :: d :: a =>
      simp only [List.cons_append, operation?]
      split
      · cases setOperation? c <;> rfl
      · rfl

/-- What is around the class whose bracket is closed, with the class as a member. -/
def ClassReading.close? (r : ClassReading) : Option ClassReading :=
  match r.enclosing with
  | [] => none
  | around :: enclosing =>
    some { items := .bracket r.negated r.current :: around.outer
           operation := around.outerOperation, enclosing, negated := around.negated }

/-- Starts a class inside the one that is read. -/
def ClassReading.nest (r : ClassReading) (opening : Bool × List ClassTree) : ClassReading :=
  { items := opening.2.reverse, operation := none, negated := opening.1
    enclosing := ⟨r.negated, r.items, r.operation⟩ :: r.enclosing }

/-- Reads one part of a class, short of the bracket that closes the class as a whole. -/
def ClassReading.advance (ignoreBlank : Bool) (r : ClassReading) : Reader ClassReading :=
  onHead fun c a =>
    if c = '[' then
      ((readPosix? a).map fun p => (r.push p.1, p.2)).or
        ((readOpeningBracket ignoreBlank a).map fun p => (r.nest p.1, p.2))
    else if c = ']' then onNext (fun _ rest => r.close?.map fun r' => (r', rest)) a
    else
      ((operation? a).map fun p => (r.startOperation p.1, p.2)).or
        ((readClassItem ignoreBlank a).map fun p => (r.push p.1, p.2))

theorem local_advance (ignoreBlank : Bool) (r : ClassReading) :
    Local [')'] (r.advance ignoreBlank) := by
  have hopening := Local.or (firm_readPosix?.map r.push)
    ((local_readOpeningBracket ignoreBlank).map r.nest)
  have hclosing := local_onNext fun _ => @Local.option _ [')'] r.close?
  have hitem := Local.or (firm_operation?.map r.startOperation)
    ((local_readClassItem ignoreBlank).map r.push)
  exact local_onHead fun c => hopening.ite (P := c = '[') (hclosing.ite (P := c = ']') hitem)

theorem strict_advance (ignoreBlank : Bool) (r : ClassReading) :
    Strict (r.advance ignoreBlank) := by
  intro a p hp
  cases a with
  | nil => cases hp
  | cons c a =>
    simp only [ClassReading.advance, onHead] at hp
    split at hp
    · rcases Option.or_eq_some_iff.1 hp with hp | ⟨_, hp⟩
      · obtain ⟨q, hq, rfl⟩ := Option.map_eq_some_iff.1 hp
        exact strict_readPosix? _ q hq
      · obtain ⟨q, hq, rfl⟩ := Option.map_eq_some_iff.1 hp
        exact strict_readOpeningBracket ignoreBlank _ q hq
    · split at hp
      · obtain ⟨r', _, rfl⟩ := Option.map_eq_some_iff.1 hp
        simp
      · rcases Option.or_eq_some_iff.1 hp with hp | ⟨_, hp⟩
        · obtain ⟨q, hq, rfl⟩ := Option.map_eq_some_iff.1 hp
          obtain ⟨d, hd⟩ := operation?_eq_some hq
          rw [hd]
          simp only [List.length_cons]
          omega
        · obtain ⟨q, hq, rfl⟩ := Option.map_eq_some_iff.1 hp
          exact strict_readClassItem ignoreBlank _ q hq

section Loop

variable {ignoreBlank : Bool} {r : ClassReading} {n : Nat} {a rest : List Char}

theorem readClassFrom_closed (h : skip ignoreBlank a = ']' :: rest) (hr : r.enclosing = []) :
    readClassFrom ignoreBlank (n + 1) r a = some (.bracket r.negated r.current, rest) := by
  have hskip : (if ignoreBlank then skipBlanks false a else a) = ']' :: rest := h
  simp [readClassFrom, hskip, hr]

theorem operation?_eq_none (h : ∀ b, a ≠ '&' :: '&' :: b) (h' : ∀ b, a ≠ '-' :: '-' :: b)
    (h'' : ∀ b, a ≠ '~' :: '~' :: b) : operation? a = none := by
  unfold operation?
  split
  · rename_i c d b
    split
    · rename_i heq
      subst heq
      have hand : c ≠ '&' := fun hc => h b (by rw [hc])
      have hminus : c ≠ '-' := fun hc => h' b (by rw [hc])
      have htilde : c ≠ '~' := fun hc => h'' b (by rw [hc])
      simp [setOperation?, hand, hminus, htilde]
    · rfl
  · rfl

theorem readClassFrom_open (h : ¬ (∃ rest, skip ignoreBlank a = ']' :: rest ∧ r.enclosing = [])) :
    readClassFrom ignoreBlank (n + 1) r a =
      (r.advance ignoreBlank (skip ignoreBlank a)).bind fun p =>
        readClassFrom ignoreBlank n p.1 p.2 := by
  have hskip : (if ignoreBlank then skipBlanks false a else a) = skip ignoreBlank a := rfl
  simp only [readClassFrom, hskip]
  split
  · rename_i heq
    simp [heq, ClassReading.advance, onHead]
  · rename_i heq
    simp only [heq, ClassReading.advance, onHead, if_true, readOpeningBracket, Option.map_map]
    cases readPosix? _ with
    | some p => rfl
    | none => cases readClassOpening ignoreBlank _ <;> rfl
  · rename_i rest heq
    simp only [heq, ClassReading.advance, onHead, ClassReading.close?]
    cases hr : r.enclosing with
    | nil => exact absurd ⟨rest, heq, hr⟩ h
    | cons around enclosing => rfl
  · rename_i heq
    simp only [heq]
    rfl
  · rename_i heq
    simp only [heq]
    rfl
  · rename_i heq
    simp only [heq]
    rfl
  · rename_i c rest hbracket hclose hand hminus htilde heq
    have hnone : operation? (c :: rest) = none :=
      operation?_eq_none (by simpa using hand) (by simpa using hminus) (by simpa using htilde)
    have hc : c ≠ '[' := by simpa using hbracket
    have hc' : c ≠ ']' := by simpa using hclose
    simp only [heq, ClassReading.advance, onHead, if_neg hc, if_neg hc', hnone]
    cases readClassItem ignoreBlank (c :: rest) <;> rfl

theorem readClassFrom_nil : readClassFrom ignoreBlank n r [] = none := by
  cases n with
  | zero => rfl
  | succ n =>
    rw [readClassFrom_open (by simp), skip_nil]
    rfl

theorem readClassFrom_suffix {p : Tree × List Char} (h : readClassFrom ignoreBlank n r a = some p) :
    p.2 <:+ skip ignoreBlank a ∧ p.2.length < (skip ignoreBlank a).length := by
  induction n generalizing r a with
  | zero => cases h
  | succ n ih =>
    by_cases hclosed : ∃ rest, skip ignoreBlank a = ']' :: rest ∧ r.enclosing = []
    · obtain ⟨rest, hskip, hr⟩ := hclosed
      rw [readClassFrom_closed hskip hr] at h
      cases h
      rw [hskip]
      exact ⟨List.suffix_cons _ rest, Nat.lt_succ_self _⟩
    · rw [readClassFrom_open hclosed] at h
      obtain ⟨q, hq, h⟩ := Option.bind_eq_some_iff.1 h
      have hadvance := (local_advance ignoreBlank r).suffix _ _ hq
      have hstrict := strict_advance ignoreBlank r _ _ hq
      have hskip := skip_suffix ignoreBlank q.2
      have hlength := hskip.length_le
      obtain ⟨hsuffix, hlt⟩ := ih h
      exact ⟨(hsuffix.trans hskip).trans hadvance, by omega⟩

end Loop

theorem readClassFrom_suffix_of_suffix {ignoreBlank : Bool} {n : Nat} {r : ClassReading}
    {a t : List Char} {p : Tree × List Char} (h : readClassFrom ignoreBlank n r a = some p)
    (ha : skip ignoreBlank a <:+ ')' :: t) : p.2 <:+ t := by
  obtain ⟨hsuffix, hlt⟩ := readClassFrom_suffix h
  have hlength := ha.length_le
  simp only [List.length_cons] at hlength
  exact suffix_of_suffix_cons (hsuffix.trans ha) (by omega)

theorem alike_readClassFrom (ignoreBlank : Bool) {t a : List Char} {n m : Nat} {r : ClassReading}
    (hn : a.length < n) (hm : (a ++ ')' :: t).length < m) :
    Alike t t (readClassFrom ignoreBlank n r a) (readClassFrom ignoreBlank m r (a ++ ')' :: t)) := by
  induction n generalizing r a m with
  | zero => omega
  | succ n ih =>
    obtain ⟨m, rfl⟩ : ∃ k, m = k + 1 := ⟨m - 1, by omega⟩
    rcases skip_append ignoreBlank a t with hsame | ⟨halone, hbefore, _⟩
    · -- the class ends here, or a part of it is read; blanks before it are the same for both texts
      by_cases hclosed : ∃ rest, skip ignoreBlank a = ']' :: rest ∧ r.enclosing = []
      · obtain ⟨rest, hskip, hr⟩ := hclosed
        have hskip' : skip ignoreBlank (a ++ ')' :: t) = ']' :: (rest ++ ')' :: t) := by
          rw [hsame, hskip]
          rfl
        exact .same (readClassFrom_closed hskip hr) (readClassFrom_closed hskip' hr)
      · have hopen : ¬ ∃ rest, skip ignoreBlank (a ++ ')' :: t) = ']' :: rest ∧
            r.enclosing = [] := by
          rintro ⟨rest, hrest, hr⟩
          rw [hsame] at hrest
          cases hskip : skip ignoreBlank a with
          | nil => simp [hskip] at hrest
          | cons c b =>
            obtain ⟨rfl, -⟩ : c = ']' ∧ _ := by simpa [hskip] using hrest
            exact hclosed ⟨b, hskip, hr⟩
        rw [readClassFrom_open hclosed, readClassFrom_open hopen, hsame]
        have hread : ∀ fuel (p : ClassReading × List Char) q,
            readClassFrom ignoreBlank fuel p.1 p.2 = some q → q.2 <:+ p.2 :=
          fun fuel p q hq => (readClassFrom_suffix hq).1.trans (skip_suffix ignoreBlank p.2)
        refine ((local_advance ignoreBlank r).alike (skip ignoreBlank a) t).bind (hread n) ?_
          (fun _ => by rw [readClassFrom_nil, readClassFrom_nil]) ?_
        · intro p q hp hq
          exact readClassFrom_suffix_of_suffix hq ((skip_suffix ignoreBlank p.2).trans hp)
        · intro r' rest hrest
          have hstrict := strict_advance ignoreBlank r _ _ hrest
          have hskip := (skip_suffix ignoreBlank a).length_le
          simp only [List.length_cons, List.length_append] at hm hstrict
          exact @ih rest m r' (by omega) (by simp; omega)
    · have hnone : readClassFrom ignoreBlank (n + 1) r a = none := by
        rw [readClassFrom_open (by simp [halone]), halone]
        rfl
      rw [hnone]
      apply Alike.of_none
      intro p hp
      exact readClassFrom_suffix_of_suffix hp (hbefore.trans (List.suffix_cons _ t))

theorem readClass_eq (ignoreBlank : Bool) (a : List Char) :
    readClass ignoreBlank a = (readOpeningBracket ignoreBlank a).bind fun p =>
      readClassFrom ignoreBlank (p.2.length + 1) ⟨p.1.2.reverse, none, [], p.1.1⟩ p.2 := by
  unfold readClass readOpeningBracket
  cases readClassOpening ignoreBlank a <;> rfl

/-- A class ends within the text, or the parenthesis is one of its members. -/
theorem local_readClass (ignoreBlank : Bool) : Local [] (readClass ignoreBlank) where
  suffix a p hp := by
    rw [readClass_eq] at hp
    obtain ⟨q, hq, hp⟩ := Option.bind_eq_some_iff.1 hp
    have hopening := (local_readOpeningBracket ignoreBlank).suffix a q hq
    exact ((readClassFrom_suffix hp).1.trans (skip_suffix ignoreBlank q.2)).trans hopening
  alike a t := by
    rw [readClass_eq, readClass_eq]
    refine ((local_readOpeningBracket ignoreBlank).alike a t).bind ?_ ?_ (fun _ => rfl) ?_
    · intro p q hq
      exact (readClassFrom_suffix hq).1.trans (skip_suffix ignoreBlank p.2)
    · intro p q hp hq
      exact readClassFrom_suffix_of_suffix hq ((skip_suffix ignoreBlank p.2).trans hp)
    · intro x rest _
      exact alike_readClassFrom ignoreBlank (Nat.lt_succ_self _) (Nat.lt_succ_self _)

theorem strict_readClass (ignoreBlank : Bool) : Strict (readClass ignoreBlank) := by
  intro a p hp
  rw [readClass_eq] at hp
  obtain ⟨q, hq, hp⟩ := Option.bind_eq_some_iff.1 hp
  have hopening := strict_readOpeningBracket ignoreBlank a q hq
  have hlength := ((readClassFrom_suffix hp).1.trans (skip_suffix ignoreBlank q.2)).length_le
  omega

end StreamSelect.Pattern
