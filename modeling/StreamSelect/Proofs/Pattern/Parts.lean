import StreamSelect.Proofs.Pattern.Classes

/-! The parts of a pattern before a closing parenthesis. One part is read at a time; it is the same
for the text alone, or the parenthesis belongs to it. The one exception is a test for a boundary with
a brace left open behind it. -/
namespace StreamSelect.Pattern

/-- A reader that may stop before the parenthesis, and one that takes a character at least. -/
theorem Local.bind_strict {α β : Type} {f : Reader α} {k : α → Reader β} (hf : Local [')'] f)
    (hk : ∀ x, Local [] (k x)) (hstrict : ∀ x, Strict (k x)) :
    Local [] fun a => (f a).bind fun p => k p.1 p.2 where
  suffix a q hq := by
    obtain ⟨p, hp, hq⟩ := Option.bind_eq_some_iff.1 hq
    exact ((hk p.1).suffix _ _ hq).trans (hf.suffix _ _ hp)
  alike a t := by
    refine (hf.alike a t).bind (fun p q => (hk p.1).suffix p.2 q) ?_ (fun _ => rfl)
      fun x rest _ => (hk x).alike rest t
    intro p q hp hq
    have hlength := hp.length_le
    have hlt := hstrict p.1 p.2 q hq
    simp only [List.length_append, List.length_cons, List.length_nil] at hlength
    exact suffix_of_suffix_cons (((hk p.1).suffix _ _ hq).trans hp) (by simp; omega)

/-! ### Groups -/

/-- What a character that is no end makes of the modes read so far. -/
def modeStep? (on : Bool) (found : ModeChanges) (c : Char) : Option (Bool × Bool × ModeChanges) :=
  if c = '-' then if on then some (false, true, found) else none
  else
    (mode? c).bind fun mode =>
      if (changeOf found mode).isSome then none else some (on, false, (mode, on) :: found)

theorem readModes_stop {c : Char} (hc : c = ':' ∨ c = ')') (on lastMinus : Bool)
    (found : ModeChanges) (rest : List Char) : readModes on lastMinus found (c :: rest) =
      if lastMinus then none else some (found.reverse, c :: rest) := by
  simp [readModes, hc]

theorem readModes_step {c : Char} (hc : ¬ (c = ':' ∨ c = ')')) (on lastMinus : Bool)
    (found : ModeChanges) (rest : List Char) : readModes on lastMinus found (c :: rest) =
      (modeStep? on found c).bind fun s => readModes s.1 s.2.1 s.2.2 rest := by
  rw [readModes, modeStep?]
  simp only [Bool.or_eq_true, decide_eq_true_eq, if_neg hc]
  split
  · cases on <;> rfl
  · cases mode? c with
    | none => rfl
    | some mode =>
      simp only [Option.bind_eq_bind, Option.bind_some]
      split <;> rfl

theorem readModes_suffix {on lastMinus : Bool} {found : ModeChanges} {a : List Char}
    {p : ModeChanges × List Char} (h : readModes on lastMinus found a = some p) :
    p.2 <:+ a ∧ p.2 ≠ [] := by
  induction a generalizing on lastMinus found with
  | nil => cases h
  | cons c a ih =>
    by_cases hc : c = ':' ∨ c = ')'
    · rw [readModes_stop hc] at h
      split at h
      · cases h
      · cases h
        exact ⟨List.suffix_rfl, by simp⟩
    · rw [readModes_step hc] at h
      obtain ⟨s, _, h⟩ := Option.bind_eq_some_iff.1 h
      exact ⟨(ih h).1.trans (List.suffix_cons c a), (ih h).2⟩

theorem local_readModes (on lastMinus : Bool) (found : ModeChanges) :
    Local [')'] (readModes on lastMinus found) where
  suffix _ _ h := (readModes_suffix h).1
  alike a t := by
    induction a generalizing on lastMinus found with
    | nil => exact .of_none fun p hp => (readModes_suffix hp).1
    | cons c a ih =>
      by_cases hc : c = ':' ∨ c = ')'
      · rw [readModes_stop hc, List.cons_append (a := c), readModes_stop hc]
        cases lastMinus with
        | true => exact .of_none (by simp)
        | false => exact .same rfl rfl
      · rw [readModes_step hc, List.cons_append (a := c), readModes_step hc]
        cases modeStep? on found c with
        | none => exact .of_none (by simp)
        | some s => exact ih s.1 s.2.1 s.2.2

/-- The character that modes end with: a colon opens a group with them. -/
def readModesEnd (changes : ModeChanges) : Reader Opening :=
  onNext fun c rest =>
    if c = ':' then some (.group changes false none, rest)
    else if changes.isEmpty then none
    else some (.modes changes, rest)

theorem local_readModesEnd (changes : ModeChanges) : Local [] (readModesEnd changes) :=
  local_onNext fun c => (Local.pure _).ite (P := c = ':')
    (Local.none.ite (P := changes.isEmpty) (Local.pure _))

theorem strict_readModesEnd (changes : ModeChanges) : Strict (readModesEnd changes) := by
  intro a p hp
  cases a with
  | nil => cases hp
  | cons c a =>
    have hlength := ((local_readModesEnd changes).suffix _ _ hp).length_le
    simp only [readModesEnd, onNext] at hp
    split at hp
    · cases hp
      exact Nat.lt_succ_self _
    · split at hp
      · cases hp
      · cases hp
        exact Nat.lt_succ_self _

/-- A name of a group, if the characters make one. -/
def groupName? (name : List Char) : Option String :=
  match name with
  | [] => none
  | c :: cs =>
    if isGroupNameChar true c && cs.all (isGroupNameChar false) then some (String.ofList name)
    else none

theorem readGroupName_eq (a : List Char) :
    readGroupName a = onNext (fun _ rest =>
      (groupName? (a.takeWhile (· != '>'))).map fun name => (name, rest))
        (a.dropWhile (· != '>')) := by
  unfold readGroupName groupName?
  cases a.dropWhile (· != '>') with
  | nil => rfl
  | cons c rest =>
    cases a.takeWhile (· != '>') with
    | nil => rfl
    | cons d name =>
      simp only [onNext]
      split <;> rfl

theorem readGroupName_suffix {a : List Char} {p : String × List Char}
    (h : readGroupName a = some p) : p.2 <:+ a.dropWhile (· != '>') := by
  rw [readGroupName_eq] at h
  cases hdrop : a.dropWhile (· != '>') with
  | nil => simp [hdrop, onNext] at h
  | cons c rest =>
    rw [hdrop] at h
    obtain ⟨name, _, rfl⟩ := Option.map_eq_some_iff.1 h
    exact List.suffix_cons c rest

theorem local_readGroupName : Local [] readGroupName where
  suffix _ _ h := (readGroupName_suffix h).trans (List.dropWhile_suffix _)
  alike a t := by
    by_cases hangle : ∃ c ∈ a, ¬ (c != '>') = true
    · obtain ⟨htake, hdrop⟩ := takeWhile_before hangle (')' :: t)
      rw [readGroupName_eq, readGroupName_eq, htake, hdrop]
      exact (local_onNext fun _ => Local.option (groupName? _)).alike _ t
    · have hall : ∀ c ∈ a, (c != '>') = true := by
        simp only [not_exists, not_and, not_not] at hangle
        exact hangle
      have hdrop := List.dropWhile_eq_nil_iff.2 hall
      have hnone : readGroupName a = none := by
        rw [readGroupName_eq, hdrop]
        rfl
      rw [hnone]
      apply Alike.of_none
      intro p hp
      have hsuffix := readGroupName_suffix hp
      rw [List.dropWhile_append_of_pos hall, List.dropWhile_cons_of_pos (by decide)] at hsuffix
      exact hsuffix.trans (List.dropWhile_suffix _)

/-- What comes after an opening parenthesis, past blanks. -/
def readOpened (text : List Char) : Option (Opening × List Char) :=
  if ["?=", "?!", "?<=", "?<!"].any fun mark => (afterText? mark text).isSome then none
  else
    match (afterText? "?P<" text).or (afterText? "?<" text) with
    | some named => (readGroupName named).map fun p => (.group [] true (some p.1), p.2)
    | none =>
      match afterText? "?" text with
      | none => some (.group [] true none, text)
      | some rest => (readModes true false [] rest).bind fun p => readModesEnd p.1 p.2

theorem readOpening_eq (ignoreBlank : Bool) (text : List Char) :
    readOpening ignoreBlank text = readOpened (skip ignoreBlank text) := by
  have hskip : (if ignoreBlank then skipBlanks false text else text) = skip ignoreBlank text := rfl
  have hmodes (rest : List Char) : ((readModes true false [] rest).bind fun p =>
      if p.2.head? == some ':' then some (Opening.group p.1 false none, p.2.tail)
      else if p.1.isEmpty then none
      else some (.modes p.1, p.2.tail)) =
        (readModes true false [] rest).bind fun p => readModesEnd p.1 p.2 := by
    apply Option.bind_congr
    rintro ⟨changes, remaining⟩ hread
    cases remaining with
    | nil => exact absurd rfl (readModes_suffix hread).2
    | cons c remaining => simp [readModesEnd, onNext]
  simp only [readOpening, hskip, Option.bind_eq_bind, hmodes]
  rfl

theorem afterText?_before {mark : String} (h : ')' ∉ mark.toList) (a t : List Char) :
    afterText? mark (a ++ ')' :: t) = (afterText? mark a).map (· ++ ')' :: t) :=
  after?_before h a t

theorem afterText?_suffix {mark : String} {a rest : List Char} (h : afterText? mark a = some rest) :
    rest <:+ a :=
  ⟨_, Text.append_after? h⟩

theorem local_readOpened : Local [] readOpened where
  suffix a p hp := by
    unfold readOpened at hp
    split at hp
    · cases hp
    · split at hp
      · rename_i named hnamed
        obtain ⟨q, hq, rfl⟩ := Option.map_eq_some_iff.1 hp
        have hmark : named <:+ a := by
          rcases Option.or_eq_some_iff.1 hnamed with hmark | ⟨_, hmark⟩
          · exact afterText?_suffix hmark
          · exact afterText?_suffix hmark
        exact (local_readGroupName.suffix _ _ hq).trans hmark
      · split at hp
        · cases hp
          exact List.suffix_rfl
        · rename_i rest hrest
          obtain ⟨q, hq, hp⟩ := Option.bind_eq_some_iff.1 hp
          have hmodes := (readModes_suffix hq).1.trans (afterText?_suffix hrest)
          exact ((local_readModesEnd q.1).suffix _ _ hp).trans hmodes
  alike a t := by
    have hmarks : (["?=", "?!", "?<=", "?<!"].any fun mark =>
        (afterText? mark (a ++ ')' :: t)).isSome) =
          ["?=", "?!", "?<=", "?<!"].any fun mark => (afterText? mark a).isSome := by
      simp [afterText?_before]
    have hnamed : (afterText? "?P<" (a ++ ')' :: t)).or (afterText? "?<" (a ++ ')' :: t)) =
        ((afterText? "?P<" a).or (afterText? "?<" a)).map (· ++ ')' :: t) := by
      rw [afterText?_before (by decide), afterText?_before (by decide)]
      cases afterText? "?P<" a <;> rfl
    have hmodes := (local_readModes true false []).bind_strict local_readModesEnd
      strict_readModesEnd
    unfold readOpened
    rw [hmarks, hnamed, afterText?_before (by decide)]
    split
    · exact .of_none (by simp)
    · cases (afterText? "?P<" a).or (afterText? "?<" a) with
      | some named =>
        exact (local_readGroupName.map fun name => Opening.group [] true (some name)).alike named t
      | none =>
        cases afterText? "?" a with
        | none => exact .same rfl rfl
        | some rest => exact hmodes.alike rest t

theorem local_readOpening (ignoreBlank : Bool) : Local [] (readOpening ignoreBlank) := by
  apply Local.congr (local_readOpened.skip ignoreBlank)
  intro a
  rw [readOpening_eq]

/-! ### Repetitions -/

theorem local_readLazy : Local [] fun a => some (readLazy a) where
  suffix a p hp := by
    cases hp
    unfold readLazy
    split
    · exact List.suffix_cons _ _
    · exact List.suffix_rfl
  alike a t := by
    cases a with
    | nil => exact .same rfl rfl
    | cons c a =>
      by_cases hc : c = '?'
      · subst hc
        exact .same rfl rfl
      · have hlazy (text : List Char) : readLazy (c :: text) = (false, c :: text) := by
          simp [readLazy, hc]
        rw [List.cons_append (a := c), hlazy, hlazy]
        exact .same rfl rfl

/-- The bounds behind the first number: only that one, a range, or all from it on. -/
def readMost (ignoreBlank : Bool) (least : Option Nat) : Reader (Nat × Option Nat) :=
  onHead fun next rest =>
    if next = ',' then
      onNext (fun _ rest => onHead (fun next rest =>
        if next = '}' then
          (least.map fun least => (least, none)).map fun bounds => (bounds, rest)
        else (readNumber ignoreBlank rest).bind fun p =>
          (least.bind fun least => p.1.map fun most => (least, some most)).map fun bounds =>
            (bounds, p.2)) (skip ignoreBlank rest)) rest
    else (least.map fun least => (least, some least)).map fun bounds => (bounds, rest)

/-- The closing brace, behind bounds in order. -/
def readBoundsEnd (ignoreBlank : Bool) (bounds : Nat × Option Nat) : Reader (Nat × Option Nat) :=
  onNext fun c rest =>
    if c = '}' ∧ ¬ (bounds.2.map fun most => decide (most < bounds.1)).getD false then
      some (bounds, skip ignoreBlank rest)
    else none

/-- Bounds behind their opening brace. -/
def readBraceBounds (ignoreBlank : Bool) (rest : List Char) :
    Option ((Nat × Option Nat) × List Char) :=
  ((readNumber ignoreBlank (skip ignoreBlank rest)).bind fun p => readMost ignoreBlank p.1 p.2).bind
    fun p => readBoundsEnd ignoreBlank p.1 p.2

theorem readBoundsEnd_eq (ignoreBlank : Bool) (bounds : Nat × Option Nat) (rest : List Char) :
    (readBoundsEnd ignoreBlank bounds rest).map (fun p => (p.1.1, p.1.2, p.2)) =
      if rest.head? != some '}' then none
      else if (bounds.2.map fun most => decide (most < bounds.1)).getD false then none
      else some (bounds.1, bounds.2, past ignoreBlank rest) := by
  cases rest with
  | nil => rfl
  | cons c rest =>
    by_cases hc : c = '}'
    · subst hc
      by_cases hbad : (bounds.2.map fun most => decide (most < bounds.1)).getD false = true
      · simp [readBoundsEnd, onNext, hbad]
      · simp [readBoundsEnd, onNext, hbad]
    · simp [readBoundsEnd, onNext, hc]

theorem readMost_comma (ignoreBlank : Bool) (least : Option Nat) (rest : List Char) :
    readMost ignoreBlank least (',' :: rest) =
      (skip ignoreBlank rest).head?.bind fun next => least.bind fun least =>
        if next = '}' then some ((least, none), skip ignoreBlank rest)
        else
          (readNumber ignoreBlank (skip ignoreBlank rest)).bind fun p =>
            p.1.bind fun most => some ((least, some most), p.2) := by
  simp only [readMost, onHead, if_true, onNext]
  cases skip ignoreBlank rest with
  | nil => rfl
  | cons next rest =>
    simp only [List.head?_cons, Option.bind_some]
    cases least with
    | none =>
      split
      · rfl
      · cases readNumber ignoreBlank (next :: rest) <;> rfl
    | some least =>
      simp only [Option.map_some, Option.bind_some]
      split
      · rfl
      · apply Option.bind_congr
        intro p _
        cases p.1 <;> rfl

theorem readMost_of_ne (ignoreBlank : Bool) (least : Option Nat) {next : Char} (h : next ≠ ',')
    (rest : List Char) : readMost ignoreBlank least (next :: rest) =
      least.bind fun least => some ((least, some least), next :: rest) := by
  simp only [readMost, onHead, if_neg h]
  cases least <;> rfl

theorem readBounds_eq (ignoreBlank : Bool) (rest : List Char) :
    readBounds ignoreBlank ('{' :: rest) =
      (readBraceBounds ignoreBlank rest).map fun p => (p.1.1, p.1.2, p.2) := by
  unfold readBounds readBraceBounds
  rw [past_cons]
  generalize skip ignoreBlank rest = start
  cases start with
  | nil => cases ignoreBlank <;> rfl
  | cons c start =>
    simp only [List.isEmpty_cons, Bool.false_eq_true, if_false]
    cases readNumber ignoreBlank (c :: start) with
    | none => rfl
    | some p =>
      obtain ⟨least, rest⟩ := p
      cases rest with
      | nil => rfl
      | cons next rest =>
        rw [Option.map_bind]
        simp only [Option.bind_eq_bind, Option.bind_some, List.head?_cons, past_cons]
        congr 1
        · by_cases hnext : next = ','
          · subst hnext
            rw [readMost_comma, if_pos rfl]
          · rw [readMost_of_ne ignoreBlank least hnext, if_neg hnext]
        · funext p
          exact (readBoundsEnd_eq ignoreBlank p.1 p.2).symm

theorem local_readMost (ignoreBlank : Bool) (least : Option Nat) :
    Local [')'] (readMost ignoreBlank least) := by
  have hnumber := ((local_readNumber ignoreBlank).filterMap fun most =>
    least.bind fun least => most.map fun most => (least, some most)).loose [')']
  have hnext := local_onHead fun next =>
    (Local.option (least.map fun least => (least, none))).ite (P := next = '}') hnumber
  have hcomma := local_onNext fun _ => ((local_skip ignoreBlank).loose [')']).bind fun _ => hnext
  exact local_onHead fun next =>
    hcomma.ite (P := next = ',') (Local.option (least.map fun least => (least, some least)))

theorem local_readBraceBounds (ignoreBlank : Bool) : Local [] (readBraceBounds ignoreBlank) := by
  have hnumber := ((local_readNumber ignoreBlank).skip ignoreBlank).loose [')']
  apply (hnumber.bind (local_readMost ignoreBlank)).bind_strict
  · intro bounds
    exact local_onNext fun c => ((local_skip ignoreBlank).map fun _ => bounds).ite
      (P := c = '}' ∧ ¬ (bounds.2.map fun most => decide (most < bounds.1)).getD false) Local.none
  · intro bounds a p hp
    cases a with
    | nil => cases hp
    | cons c a =>
      simp only [readBoundsEnd, onNext] at hp
      split at hp
      · cases hp
        have hlength := (skip_suffix ignoreBlank a).length_le
        simp only [List.length_cons]
        omega
      · cases hp

/-- Nothing but blanks behind the brace: there are no bounds. -/
theorem readBraceBounds_blank {ignoreBlank : Bool} {rest : List Char}
    (h : skip ignoreBlank rest = []) : readBraceBounds ignoreBlank rest = none := by
  rw [readBraceBounds, h]
  cases ignoreBlank <;> rfl

/-! ### Parts -/

namespace Reading

/-- Goes into a group, or on in other modes. A name is given to one group only. -/
def enter? (r : Reading) : Opening → Option Reading
  | .modes changes =>
    some
      { r with
        branches := r.branches.push (.modes changes)
        ignoreBlank := (changeOf changes .ignoreBlank).getD r.ignoreBlank }
  | .group changes captured name =>
    if name.any r.names.contains then none
    else
      let captures := if captured then r.captures + 1 else r.captures
      let number := if captured then some captures else none
      some
        { ignoreBlank := (changeOf changes .ignoreBlank).getD r.ignoreBlank
          names := name.toList ++ r.names
          captures
          branches := {}
          enclosing := ⟨r.branches, changes, number, r.ignoreBlank⟩ :: r.enclosing }

/-- Closes a group that nothing encloses any more but what `enclosing` has. -/
def close (r : Reading) (group : OpenGroup) (enclosing : List OpenGroup) : Reading :=
  { r with
    ignoreBlank := group.ignoreBlank
    branches := group.outer.push (.group group.changes group.number r.branches.tree)
    enclosing }

def leave? (r : Reading) : Option Reading :=
  match r.enclosing with
  | [] => none
  | group :: enclosing => some (r.close group enclosing)

/-- Ends the branch that is read and begins another one. -/
def branch (r : Reading) : Reading :=
  { r with
    branches :=
      { closed := Tree.ofParts r.branches.items.reverse :: r.branches.closed, items := [] } }

def push (r : Reading) (part : Tree) : Reading := { r with branches := r.branches.push part }

/-- Repeats the last part, as often as can be or as seldom. -/
def repeated (r : Reading) (bounds : Nat × Option Nat) (rest : List Char) :
    Option (Reading × List Char) :=
  (some (readLazy rest)).bind fun p =>
    (r.repeatLast bounds.1 bounds.2 p.1).map fun r' => (r', p.2)

/-- What a character stands for that is no sign of anything else. -/
def plainPart (c : Char) : Tree :=
  match c with
  | '.' => .dot
  | '^' => .anchor .lineStart
  | '$' => .anchor .lineEnd
  | _ => .letter ⟨c, false⟩

/-- Reads the part of a pattern that begins with a character, behind it. -/
def part (r : Reading) (c : Char) (rest : List Char) : Option (Reading × List Char) :=
  if c = '(' then
    (readOpening r.ignoreBlank rest).bind fun p => (r.enter? p.1).map fun r' => (r', p.2)
  else if c = ')' then r.leave?.map fun r' => (r', rest)
  else if c = '|' then some (r.branch, rest)
  else if c = '[' then (readClass r.ignoreBlank ('[' :: rest)).map fun p => (r.push p.1, p.2)
  else if c = '?' then r.repeated (0, some 1) rest
  else if c = '*' then r.repeated (0, none) rest
  else if c = '+' then r.repeated (1, none) rest
  else if c = '{' then (readBraceBounds r.ignoreBlank rest).bind fun p => r.repeated p.1 p.2
  else if c = '\\' then (readEscape r.ignoreBlank rest).map fun p => (r.push p.1, p.2)
  else some (r.push (plainPart c), rest)

end Reading

section Steps

variable {r : Reading} {n : Nat} {text rest : List Char} {c : Char}

theorem readFrom_end (h : skip r.ignoreBlank text = []) :
    readFrom (n + 1) r text = if r.enclosing.isEmpty then some r.branches.tree else none := by
  have hskip : (if r.ignoreBlank then skipBlanks false text else text) = [] := h
  simp only [readFrom, hskip]

theorem readFrom_repeated (bounds : Nat × Option Nat) :
    ((r.repeatLast bounds.1 bounds.2 (readLazy rest).1).bind fun r' =>
        readFrom n r' (readLazy rest).2) =
      (r.repeated bounds rest).bind fun p => readFrom n p.1 p.2 := by
  rw [Reading.repeated, Option.bind_some]
  cases r.repeatLast bounds.1 bounds.2 (readLazy rest).1 <;> rfl

theorem readFrom_part (h : skip r.ignoreBlank text = c :: rest) :
    readFrom (n + 1) r text = (r.part c rest).bind fun p => readFrom n p.1 p.2 := by
  have hskip : (if r.ignoreBlank then skipBlanks false text else text) = c :: rest := h
  simp only [readFrom, hskip]
  split
  · rename_i heq
    cases heq
  · rename_i heq
    cases heq
    simp only [Reading.part, if_true]
    cases readOpening r.ignoreBlank rest with
    | none => rfl
    | some p =>
      obtain ⟨opening, remaining⟩ := p
      cases opening with
      | modes changes => rfl
      | group changes captured name =>
        simp only [Option.bind_eq_bind, Option.bind_some, Reading.enter?]
        split <;> rfl
  · rename_i heq
    cases heq
    cases hr : r.enclosing with
    | nil => simp [Reading.part, Reading.leave?, hr]
    | cons group enclosing => simp [Reading.part, Reading.leave?, hr, Reading.close]
  · rename_i heq
    cases heq
    rfl
  · rename_i heq
    cases heq
    simp only [Reading.part]
    cases readClass r.ignoreBlank ('[' :: rest) <;> rfl
  · rename_i heq
    cases heq
    exact readFrom_repeated (0, some 1)
  · rename_i heq
    cases heq
    exact readFrom_repeated (0, none)
  · rename_i heq
    cases heq
    exact readFrom_repeated (1, none)
  · rename_i heq
    cases heq
    rw [readBounds_eq]
    simp only [Reading.part]
    cases readBraceBounds r.ignoreBlank rest with
    | none => rfl
    | some p => exact readFrom_repeated p.1
  · rename_i heq
    cases heq
    simp only [Reading.part]
    cases readEscape r.ignoreBlank rest <;> rfl
  · rename_i d rest hopen hclose hbar hbracket hmark hstar hplus hbrace hback heq
    cases heq
    have hne : c ≠ '(' ∧ c ≠ ')' ∧ c ≠ '|' ∧ c ≠ '[' ∧ c ≠ '?' ∧ c ≠ '*' ∧ c ≠ '+' ∧ c ≠ '{' ∧
        c ≠ '\\' := by
      simp_all
    simp only [Reading.part, hne, if_false]
    rfl

end Steps

theorem local_readClass_bracket (ignoreBlank : Bool) :
    Local [] fun rest => readClass ignoreBlank ('[' :: rest) where
  suffix a p hp := by
    have hsuffix := (local_readClass ignoreBlank).suffix _ _ hp
    have hlength := strict_readClass ignoreBlank _ _ hp
    simp only [List.length_cons] at hlength
    exact suffix_of_suffix_cons hsuffix (by omega)
  alike a t := (local_readClass ignoreBlank).alike ('[' :: a) t

theorem local_repeated (r : Reading) (bounds : Nat × Option Nat) : Local [] (r.repeated bounds) :=
  local_readLazy.filterMap fun lazy => r.repeatLast bounds.1 bounds.2 lazy

theorem local_part (r : Reading) {c : Char} (hc : c ≠ '\\') : Local [] (r.part c) := by
  have hgroup := (local_readOpening r.ignoreBlank).filterMap r.enter?
  have hclass := (local_readClass_bracket r.ignoreBlank).map r.push
  have hbounds := (local_readBraceBounds r.ignoreBlank).bind (local_repeated r)
  have hplain := @Local.pure _ [] (r.push (Reading.plainPart c))
  apply Local.congr (hgroup.ite (P := c = '(') <|
    (Local.option r.leave?).ite (P := c = ')') <|
    (Local.pure r.branch).ite (P := c = '|') <|
    hclass.ite (P := c = '[') <|
    (local_repeated r (0, some 1)).ite (P := c = '?') <|
    (local_repeated r (0, none)).ite (P := c = '*') <|
    (local_repeated r (1, none)).ite (P := c = '+') <|
    hbounds.ite (P := c = '{') hplain)
  intro a
  simp only [Reading.part, if_neg hc]

theorem part_escape (r : Reading) (rest : List Char) :
    r.part '\\' rest = (readEscape r.ignoreBlank rest).map fun p => (r.push p.1, p.2) := rfl

theorem part_suffix {r : Reading} {c : Char} {a : List Char} {p : Reading × List Char}
    (h : r.part c a = some p) : p.2 <:+ a := by
  by_cases hc : c = '\\'
  · subst hc
    rw [part_escape] at h
    obtain ⟨q, hq, rfl⟩ := Option.map_eq_some_iff.1 h
    exact (readEscape_suffix hq).trans (List.tail_suffix a)
  · exact (local_part r hc).suffix a p h

/-- A part is the same for the text alone, or the parenthesis belongs to it, or a brace is left open
behind a test for a boundary. -/
theorem alike_part (r : Reading) (c : Char) (a t : List Char) :
    Alike t t (r.part c a) (r.part c (a ++ ')' :: t)) ∨
      c = '\\' ∧ BraceLeft r.ignoreBlank a t := by
  by_cases hc : c = '\\'
  · subst hc
    rcases alike_readEscape r.ignoreBlank a t with halike | hbrace
    · left
      rw [part_escape, part_escape]
      exact halike.map r.push
    · exact .inr ⟨rfl, hbrace⟩
  · exact .inl ((local_part r hc).alike a t)

end StreamSelect.Pattern
