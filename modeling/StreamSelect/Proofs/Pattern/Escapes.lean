import StreamSelect.Proofs.Pattern.Locality

/-! Numbers and escapes before a closing parenthesis: what they are does not depend on what follows,
except for a boundary before an opening brace. -/
namespace StreamSelect.Pattern

/-! ### Numbers -/

theorem takeDigits_eq (ignoreBlank : Bool) (fuel : Nat) (text : List Char) :
    takeDigits ignoreBlank fuel text =
      run ignoreBlank (fun c => if c.isDigit then some c else none) fuel text := by
  induction fuel generalizing text with
  | zero => rfl
  | succ fuel ih =>
    cases text with
    | nil => rfl
    | cons c rest =>
      rw [takeDigits, run, past_cons, ih]
      split <;> simp_all

theorem dropBlanks_before (a t : List Char) :
    (a ++ ')' :: t).dropWhile Text.isBlank = a.dropWhile Text.isBlank ++ ')' :: t := by
  have hstop : ¬ Text.isBlank ')' = true := by decide
  rw [List.dropWhile_append]
  split
  · rename_i hempty
    rw [List.isEmpty_iff.1 hempty, List.dropWhile_cons_of_neg hstop]
    rfl
  · rfl

theorem local_dropBlanks : Local [] fun a => some ((), a.dropWhile Text.isBlank) where
  suffix a p hp := by
    cases hp
    exact List.dropWhile_suffix _
  alike a t := .same rfl (congrArg (fun rest => some ((), rest)) (dropBlanks_before a t))

theorem local_readNumber (ignoreBlank : Bool) : Local [] (readNumber ignoreBlank) := by
  have hdigits : Local [] fun a => some (takeDigits ignoreBlank a.length a) := by
    apply Local.congr (local_run ignoreBlank (fun c => if c.isDigit then some c else none)
      (by decide))
    intro a
    rw [takeDigits_eq]
  have hspace := (local_dropBlanks.bind fun _ => hdigits).bind fun digits =>
    local_dropBlanks.bind fun _ => (local_skip ignoreBlank).map fun _ => digits
  apply Local.congr (hspace.filterMap fun digits =>
    let value := digits.foldl (fun n c => 10 * n + digitValue c) 0
    if digits.isEmpty then some none else if value < 4294967296 then some (some value) else none)
  intro a
  unfold readNumber skip
  simp only [Option.bind_some, Option.map_some]
  cases ignoreBlank
  · simp only [Bool.false_eq_true, if_false]
    split
    · rfl
    · split <;> rfl
  · simp only [if_true]
    split
    · rfl
    · split <;> rfl

/-! ### Escapes -/

theorem readHexDigits_cons (ignoreBlank : Bool) (count value : Nat) (c : Char) (rest : List Char) :
    readHexDigits ignoreBlank (count + 1) value (c :: rest) =
      (hexValue? c).bind fun digit =>
        readHexDigits ignoreBlank count (16 * value + digit) (skip ignoreBlank rest) := rfl

mutual

theorem local_readHexDigits (ignoreBlank : Bool) (count value : Nat) :
    Local [] (readHexDigits ignoreBlank count value) := by
  cases count with
  | zero => exact Local.pure value
  | succ count =>
    exact Local.cons rfl (readHexDigits_cons ignoreBlank count value)
      (local_readHexDigits_cons ignoreBlank count value)

theorem local_readHexDigits_cons (ignoreBlank : Bool) (count value : Nat) (c : Char) :
    Local [] fun rest => (hexValue? c).bind fun digit =>
      readHexDigits ignoreBlank count (16 * value + digit) (skip ignoreBlank rest) := by
  cases hexValue? c with
  | none => exact Local.none
  | some digit => exact (local_readHexDigits ignoreBlank count (16 * value + digit)).skip ignoreBlank

end

/-- What has been read is closed by a brace. -/
def closeBrace {α : Type} (x : α) (ignoreBlank : Bool) : Reader α
  | '}' :: rest => some (x, skip ignoreBlank rest)
  | _ => none

theorem local_closeBrace {α : Type} (x : α) (ignoreBlank : Bool) :
    Local [] (closeBrace x ignoreBlank) := by
  have hrest : Local [] fun rest => some (x, skip ignoreBlank rest) :=
    (local_skip ignoreBlank).map fun _ => x
  refine Local.cons rfl ?_ fun c => hrest.ite (P := c = '}') Local.none
  intro c a
  unfold closeBrace
  split
  · rename_i heq
    cases heq
    rfl
  · rename_i hno
    rw [if_neg]
    rintro rfl
    exact hno a rfl

theorem readHexBrace_eq (ignoreBlank : Bool) (fuel : Nat) (digits : List Nat) (text : List Char) :
    readHexBrace ignoreBlank fuel digits text =
      closeBrace (digits.reverse ++ (run ignoreBlank hexValue? fuel text).1) ignoreBlank
        (run ignoreBlank hexValue? fuel text).2 := by
  induction fuel generalizing digits text with
  | zero =>
    cases text with
    | nil => rfl
    | cons c rest =>
      unfold readHexBrace closeBrace
      simp only [run]
      split <;> simp_all
  | succ fuel ih =>
    cases text with
    | nil => rfl
    | cons c rest =>
      by_cases hbrace : c = '}'
      · subst hbrace
        have hstop : hexValue? '}' = none := by decide
        simp [readHexBrace, run_of_none hstop, closeBrace]
      · cases hc : hexValue? c with
        | none =>
          rw [run_of_none hc]
          simp [readHexBrace, closeBrace, hbrace, hc]
        | some digit =>
          rw [run_of_some hc]
          simp [readHexBrace, hc, ih]

theorem local_readHexBrace (ignoreBlank : Bool) :
    Local [] fun a => readHexBrace ignoreBlank a.length [] a := by
  have hrun := local_run ignoreBlank hexValue? (by decide)
  apply Local.congr (hrun.bind fun found => local_closeBrace ([].reverse ++ found) ignoreBlank)
  intro a
  rw [readHexBrace_eq]
  rfl

theorem local_readHex (ignoreBlank : Bool) (kind : Char) :
    Local [] fun rest => readHex ignoreBlank (kind :: rest) := by
  have hbrace := ((local_readHexBrace ignoreBlank).skip ignoreBlank).filterMap fun digits =>
    if digits.isEmpty then none
    else (charOfCode? (digits.foldl (fun n d => 16 * n + d) 0)).map fun c => Letter.mk c false
  have hdigits (count : Nat) (c : Char) :=
    (local_readHexDigits_cons ignoreBlank count 0 c).filterMap fun code =>
      (charOfCode? code).map fun c => Letter.mk c (kind = 'x')
  have hnext := local_onNext fun c => (hbrace.ite (P := c = '{')
    (hdigits (if kind = 'x' then 1 else if kind = 'u' then 3 else 7) c))
  apply Local.congr (hnext.skip ignoreBlank)
  intro rest
  unfold readHex
  rw [past_cons]
  cases skip ignoreBlank rest with
  | nil => rfl
  | cons c start =>
    have hcount : (if kind = 'x' then 2 else if kind = 'u' then 4 else 8) =
        (if kind = 'x' then 1 else if kind = 'u' then 3 else 7) + 1 := by
      split
      · rfl
      · split <;> rfl
    simp only [onNext, List.head?_cons, Option.bind_eq_bind, Option.bind_some, past_cons, hcount,
      readHexDigits_cons]
    split
    · congr 1
      funext p
      split
      · rfl
      · cases charOfCode? (p.1.foldl (fun n d => 16 * n + d) 0) <;> rfl
    · congr 1
      funext p
      cases charOfCode? p.1 <;> rfl

theorem readBraced_brace (ignoreBlank : Bool) (fuel : Nat) (rest : List Char) :
    readBraced ignoreBlank fuel ('}' :: rest) = some ([], rest) := by
  cases fuel <;> rfl

theorem readBraced_succ (ignoreBlank : Bool) (fuel : Nat) {c : Char} (rest : List Char)
    (h : c ≠ '}') : readBraced ignoreBlank (fuel + 1) (c :: rest) =
      (readBraced ignoreBlank fuel (skip ignoreBlank rest)).map fun p => (c :: p.1, p.2) := by
  simp only [readBraced, past_cons]
  cases readBraced ignoreBlank fuel (skip ignoreBlank rest) <;> rfl

theorem readBraced_nil (ignoreBlank : Bool) (fuel : Nat) :
    readBraced ignoreBlank fuel [] = none := by
  cases fuel <;> rfl

theorem readBraced_suffix {ignoreBlank : Bool} {fuel : Nat} {c : Char} {text : List Char}
    {p : List Char × List Char} (h : readBraced ignoreBlank fuel (c :: text) = some p) :
    p.2 <:+ text := by
  induction fuel generalizing c text p with
  | zero =>
    by_cases hbrace : c = '}'
    · subst hbrace
      rw [readBraced_brace] at h
      cases h
      exact List.suffix_rfl
    · simp [readBraced, hbrace] at h
  | succ fuel ih =>
    by_cases hbrace : c = '}'
    · subst hbrace
      rw [readBraced_brace] at h
      cases h
      exact List.suffix_rfl
    · rw [readBraced_succ ignoreBlank fuel text hbrace] at h
      obtain ⟨q, hq, rfl⟩ := Option.map_eq_some_iff.1 h
      have hskip := skip_suffix ignoreBlank text
      cases hrest : skip ignoreBlank text with
      | nil =>
        rw [hrest, readBraced_nil] at hq
        cases hq
      | cons d rest =>
        rw [hrest] at hq hskip
        exact ((ih hq).trans (List.suffix_cons d rest)).trans hskip

theorem readBraced_suffix_self {ignoreBlank : Bool} {fuel : Nat} {text : List Char}
    {p : List Char × List Char} (h : readBraced ignoreBlank fuel text = some p) : p.2 <:+ text := by
  cases text with
  | nil =>
    rw [readBraced_nil] at h
    cases h
  | cons c text => exact (readBraced_suffix h).trans (List.suffix_cons c text)

theorem alike_readBraced (ignoreBlank : Bool) {t a : List Char} {n m : Nat} (hn : a.length ≤ n)
    (hm : (a ++ ')' :: t).length ≤ m) :
    Alike t t (readBraced ignoreBlank n a) (readBraced ignoreBlank m (a ++ ')' :: t)) := by
  induction n generalizing a m with
  | zero =>
    obtain rfl : a = [] := List.length_eq_zero_iff.1 (by omega)
    exact .of_none fun p hp => readBraced_suffix hp
  | succ n ih =>
    cases a with
    | nil => exact .of_none fun p hp => readBraced_suffix hp
    | cons c a =>
      obtain ⟨m, rfl⟩ : ∃ k, m = k + 1 := ⟨m - 1, by simp at hm; omega⟩
      by_cases hbrace : c = '}'
      · subst hbrace
        rw [List.cons_append, readBraced_brace, readBraced_brace]
        exact .same rfl rfl
      · rw [List.cons_append, readBraced_succ ignoreBlank n a hbrace,
          readBraced_succ ignoreBlank m _ hbrace]
        apply Alike.map
        have hs : ∀ fuel (p : Unit × List Char) q, readBraced ignoreBlank fuel p.2 = some q →
            q.2 <:+ p.2 := fun fuel p q => readBraced_suffix_self
        refine ((local_skip ignoreBlank).alike a t).bind (hs n)
          (fun p q hu hq => (hs m p q hq).trans hu)
          (fun _ => by rw [readBraced_nil, readBraced_nil]) ?_
        intro _ rest hrest
        have hlength : rest.length ≤ a.length :=
          ((local_skip ignoreBlank).suffix _ _ hrest).length_le
        simp only [List.length_cons, List.length_append] at hn hm
        exact @ih rest m (by omega) (by simp; omega)

theorem local_readBraced (ignoreBlank : Bool) :
    Local [] fun a => readBraced ignoreBlank a.length a where
  suffix _ _ := readBraced_suffix_self
  alike _ _ := alike_readBraced ignoreBlank (Nat.le_refl _) (Nat.le_refl _)

theorem local_readProperty (ignoreBlank : Bool) (kind : Char) :
    Local [] fun rest => readProperty ignoreBlank (kind :: rest) := by
  have hbraced := ((local_readBraced ignoreBlank).skip ignoreBlank).map fun name =>
    Tree.property (propertyQuery name).1 ((kind == 'P') != (propertyQuery name).2)
  have hletter (c : Char) := (local_skip ignoreBlank).map fun _ =>
    Tree.property (.named c.toString) (kind == 'P')
  have hnext := local_onNext fun c => hbraced.ite (P := c = '{')
    (Local.none.ite (P := c = '\\') (hletter c))
  apply Local.congr (hnext.skip ignoreBlank)
  intro rest
  unfold readProperty
  rw [past_cons]
  cases skip ignoreBlank rest with
  | nil => rfl
  | cons c start =>
    simp only [onNext, List.head?_cons, Option.bind_eq_bind, Option.bind_some, past_cons]
    split
    · cases readBraced ignoreBlank (skip ignoreBlank start).length (skip ignoreBlank start) <;> rfl
    · split <;> rfl

theorem takeKeyword_eq (ignoreBlank : Bool) (fuel : Nat) (text : List Char) :
    takeKeyword ignoreBlank fuel text =
      run ignoreBlank (fun c => if c.isAlpha || c = '-' then some c else none) fuel text := by
  induction fuel generalizing text with
  | zero => rfl
  | succ fuel ih =>
    cases text with
    | nil => rfl
    | cons c rest =>
      rw [takeKeyword, run, past_cons, ih]
      split <;> simp_all

/-- The kind of a boundary by its name. -/
def boundaryKind? (word : List Char) : Option Tree :=
  match String.ofList word with
  | "start" => some (.anchor .wordStart)
  | "end" => some (.anchor .wordEnd)
  | "start-half" => some (.anchor .wordStartHalf)
  | "end-half" => some (.anchor .wordEndHalf)
  | _ => none

/-- The kind of a boundary and the brace that closes it. -/
def readKind (ignoreBlank : Bool) (start : List Char) : Option (Tree × List Char) :=
  match takeKeyword ignoreBlank start.length start with
  | (word, '}' :: rest) => (boundaryKind? word).map fun kind => (kind, rest)
  | _ => none

theorem local_readKind (ignoreBlank : Bool) : Local [] (readKind ignoreBlank) := by
  have hword := local_run ignoreBlank (fun c => if c.isAlpha || c = '-' then some c else none)
    (by decide)
  apply Local.congr (hword.bind fun word => local_onNext fun c =>
    (Local.option (boundaryKind? word)).ite (P := c = '}') Local.none)
  intro a
  unfold readKind
  rw [takeKeyword_eq, Option.bind_some]
  obtain ⟨word, rest⟩ := run ignoreBlank (fun c => if c.isAlpha || c = '-' then some c else none)
    a.length a
  cases rest with
  | nil => rfl
  | cons c rest =>
    by_cases hbrace : c = '}'
    · subst hbrace
      rfl
    · simp [onNext, hbrace]

section Boundary

variable {ignoreBlank : Bool} {text rest start : List Char} {c : Char}

theorem readBoundary_nil (h : skip ignoreBlank rest = []) :
    readBoundary ignoreBlank ('{' :: rest) = none := by
  simp only [readBoundary, past_cons, h]

/-- The name of a kind stands behind the brace. -/
theorem readBoundary_kind (h : skip ignoreBlank rest = c :: start) (hc : c.isAlpha ∨ c = '-') :
    readBoundary ignoreBlank ('{' :: rest) = readKind ignoreBlank (c :: start) := by
  have hname : (c.isAlpha || decide (c = '-')) = true := by simpa using hc
  simp only [readBoundary, past_cons, h, if_pos hname, readKind, boundaryKind?]
  split
  · split <;> simp_all
  · simp_all

theorem readBoundary_plain (h : skip ignoreBlank rest = c :: start)
    (hc : ¬ (c.isAlpha ∨ c = '-')) :
    readBoundary ignoreBlank ('{' :: rest) = some (.anchor .boundary, '{' :: rest) := by
  have hname : ¬ (c.isAlpha || decide (c = '-')) = true := by simpa using hc
  simp only [readBoundary, past_cons, h, if_neg hname]

theorem readBoundary_of_ne (h : ∀ rest, text ≠ '{' :: rest) :
    readBoundary ignoreBlank text = some (.anchor .boundary, text) := by
  unfold readBoundary
  split
  · simp_all
  · rfl

theorem readBoundary_suffix {p : Tree × List Char}
    (h : readBoundary ignoreBlank text = some p) : p.2 <:+ text := by
  by_cases hbrace : ∃ rest, text = '{' :: rest
  · obtain ⟨rest, rfl⟩ := hbrace
    have hskip := skip_suffix ignoreBlank rest
    cases hrest : skip ignoreBlank rest with
    | nil =>
      rw [readBoundary_nil hrest] at h
      cases h
    | cons c start =>
      rw [hrest] at hskip
      by_cases hc : c.isAlpha ∨ c = '-'
      · rw [readBoundary_kind hrest hc] at h
        have hkind := (local_readKind ignoreBlank).suffix _ _ h
        exact (hkind.trans hskip).trans (List.suffix_cons _ _)
      · rw [readBoundary_plain hrest hc] at h
        cases h
        exact List.suffix_rfl
  · rw [readBoundary_of_ne (not_exists.1 hbrace)] at h
    cases h
    exact List.suffix_rfl

end Boundary

/-- The escapes of one character. -/
def plainEscape? : Char → Option Tree
  | 'd' => some (.shorthand .digit false)
  | 'D' => some (.shorthand .digit true)
  | 's' => some (.shorthand .space false)
  | 'S' => some (.shorthand .space true)
  | 'w' => some (.shorthand .word false)
  | 'W' => some (.shorthand .word true)
  | 'a' => some (.letter ⟨'\x07', false⟩)
  | 'f' => some (.letter ⟨'\x0c', false⟩)
  | 't' => some (.letter ⟨'\t', false⟩)
  | 'n' => some (.letter ⟨'\n', false⟩)
  | 'r' => some (.letter ⟨'\r', false⟩)
  | 'v' => some (.letter ⟨'\x0b', false⟩)
  | 'A' => some (.anchor .textStart)
  | 'z' => some (.anchor .textEnd)
  | 'B' => some (.anchor .noBoundary)
  | '<' => some (.anchor .wordStart)
  | '>' => some (.anchor .wordEnd)
  | _ => none

theorem readEscape_cons (ignoreBlank : Bool) {c : Char} (h : c ≠ 'b') (rest : List Char) :
    readEscape ignoreBlank (c :: rest) =
      if c.isDigit then none
      else if c = 'x' ∨ c = 'u' ∨ c = 'U' then
        (readHex ignoreBlank (c :: rest)).map fun p => (.letter p.1, p.2)
      else if c = 'p' ∨ c = 'P' then readProperty ignoreBlank (c :: rest)
      else
        (if isEscapable c then some (.letter ⟨c, false⟩) else plainEscape? c).map
          fun part => (part, rest) := by
  simp only [readEscape, Bool.or_eq_true, decide_eq_true_eq, or_assoc]
  split
  · rfl
  · split
    · rfl
    · split
      · rfl
      · split
        · rfl
        · unfold plainEscape?
          split <;> simp_all

theorem local_readEscape_cons (ignoreBlank : Bool) {c : Char} (h : c ≠ 'b') :
    Local [] fun rest => readEscape ignoreBlank (c :: rest) := by
  have hhex := (local_readHex ignoreBlank c).map Tree.letter
  apply Local.congr (Local.none.ite (P := c.isDigit)
    (hhex.ite (P := c = 'x' ∨ c = 'u' ∨ c = 'U')
      ((local_readProperty ignoreBlank c).ite (P := c = 'p' ∨ c = 'P') (Local.option _))))
  intro rest
  rw [readEscape_cons ignoreBlank h]

theorem readEscape_suffix {ignoreBlank : Bool} {text : List Char} {p : Tree × List Char}
    (h : readEscape ignoreBlank text = some p) : p.2 <:+ text.tail := by
  cases text with
  | nil => cases h
  | cons c rest =>
    by_cases hc : c = 'b'
    · subst hc
      exact readBoundary_suffix h
    · exact (local_readEscape_cons ignoreBlank hc).suffix rest p h

/-- A test for a boundary, with an opening brace and blanks behind it only, is refused at the end of
a text. Before anything else the brace is left to be the start of a repetition. -/
structure BraceLeft (ignoreBlank : Bool) (a t : List Char) : Prop where
  brace : ∃ rest, a = 'b' :: '{' :: rest ∧ skip ignoreBlank rest = []
  alone : readEscape ignoreBlank a = none
  before : readEscape ignoreBlank (a ++ ')' :: t) = some (.anchor .boundary, (a ++ ')' :: t).tail)

theorem alike_readBoundary_brace (ignoreBlank : Bool) (rest t : List Char) :
    Alike t t (readBoundary ignoreBlank ('{' :: rest))
        (readBoundary ignoreBlank ('{' :: (rest ++ ')' :: t))) ∨
      BraceLeft ignoreBlank ('b' :: '{' :: rest) t := by
  have hskip := skip_append ignoreBlank rest t
  cases hrest : skip ignoreBlank rest with
  | nil =>
    -- nothing is behind the brace by itself; before the parenthesis it is what decides
    have halone : readBoundary ignoreBlank ('{' :: rest) = none := readBoundary_nil hrest
    cases hstart : skip ignoreBlank (rest ++ ')' :: t) with
    | nil =>
      left
      rw [halone, readBoundary_nil hstart]
      exact .of_none (by simp)
    | cons c start =>
      by_cases hc : c.isAlpha ∨ c = '-'
      · left
        rw [halone, readBoundary_kind hstart hc]
        apply Alike.of_none
        intro p hp
        rw [hrest, hstart] at hskip
        rcases hskip with hparen | ⟨_, hsuffix, _⟩
        · obtain ⟨rfl, rfl⟩ : c = ')' ∧ start = t := by simpa using hparen
          exact absurd hc (by decide)
        · exact ((local_readKind ignoreBlank).suffix _ _ hp).trans hsuffix
      · right
        exact ⟨⟨rest, rfl, hrest⟩, halone, readBoundary_plain hstart hc⟩
  | cons c start =>
    left
    rcases hskip with hsame | ⟨hnil, _⟩
    · rw [hrest] at hsame
      by_cases hc : c.isAlpha ∨ c = '-'
      · rw [readBoundary_kind hrest hc, readBoundary_kind hsame hc]
        exact (local_readKind ignoreBlank).alike (c :: start) t
      · exact .same (readBoundary_plain hrest hc) (readBoundary_plain hsame hc)
    · rw [hrest] at hnil
      cases hnil

theorem alike_readEscape (ignoreBlank : Bool) (a t : List Char) :
    Alike t t (readEscape ignoreBlank a) (readEscape ignoreBlank (a ++ ')' :: t)) ∨
      BraceLeft ignoreBlank a t := by
  cases a with
  | nil => exact .inl (.of_none fun p hp => readEscape_suffix hp)
  | cons c rest =>
    by_cases hc : c = 'b'
    · subst hc
      have hboundary (text : List Char) :
          readEscape ignoreBlank ('b' :: text) = readBoundary ignoreBlank text := rfl
      by_cases hbrace : ∃ inner, rest = '{' :: inner
      · obtain ⟨inner, rfl⟩ := hbrace
        exact alike_readBoundary_brace ignoreBlank inner t
      · left
        have hplain : ∀ inner, rest ++ ')' :: t ≠ '{' :: inner := by
          cases rest with
          | nil => simp
          | cons d rest =>
            rintro inner heq
            obtain ⟨rfl, -⟩ : d = '{' ∧ _ := by simpa using heq
            exact hbrace ⟨rest, rfl⟩
        apply Alike.same
        · exact readBoundary_of_ne (not_exists.1 hbrace)
        · exact readBoundary_of_ne hplain
    · exact .inl ((local_readEscape_cons ignoreBlank hc).alike rest t)

end StreamSelect.Pattern
