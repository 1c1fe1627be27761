import StreamSelect.Pattern

/-! Readings of a text by itself, and of the same text in front of a closing parenthesis and more.
Either both stop at the same place of the text, or the parenthesis is taken up by the second one.
Readers of this kind are put together from smaller ones. -/
namespace StreamSelect.Pattern

/-- What reads the front of a text gives what it has read and what it leaves. -/
abbrev Reader (α : Type) := List Char → Option (α × List Char)

/-- Two readings: of a text alone, and of the text before a closing parenthesis and `t`. They are the
same, or the first one reaches the end and the second one leaves a part of `u` at most. A reading that
ends behind the text for all that agrees with the other one if `t` is on the same line. -/
inductive Alike {α : Type} (t u : List Char) (alone before : Option (α × List Char)) : Prop
  | same {x : α} {rest : List Char} (halone : alone = some (x, rest))
    (hbefore : before = some (x, rest ++ ')' :: t))
  | apart (halone : ∀ p, alone = some p → p.2 = []) (hbefore : ∀ p, before = some p → p.2 <:+ u)
    (hsame : '\n' ∉ t → ∀ p, alone = some p → before = some p)

theorem Alike.of_none {α : Type} {t u : List Char} {before : Option (α × List Char)}
    (h : ∀ p, before = some p → p.2 <:+ u) : Alike t u none before :=
  .apart (by simp) h (by simp)

/-- Two readings that read on from where they stop. -/
theorem Alike.bind {α β : Type} {t u v : List Char} {alone before : Option (α × List Char)}
    {k k' : α × List Char → Option (β × List Char)} (h : Alike t u alone before)
    (hs : ∀ p q, k p = some q → q.2 <:+ p.2)
    (hs' : ∀ p q, p.2 <:+ u → k' p = some q → q.2 <:+ v) (hnil : ∀ x, k' (x, []) = k (x, []))
    (hk : ∀ x rest, alone = some (x, rest) → Alike t v (k (x, rest)) (k' (x, rest ++ ')' :: t))) :
    Alike t v (alone.bind k) (before.bind k') := by
  cases h with
  | @same x rest halone hbefore =>
    rw [halone, hbefore]
    exact hk x rest halone
  | apart halone hbefore hsame =>
    refine .apart ?_ ?_ ?_
    · intro q hq
      obtain ⟨p, hp, hq⟩ := Option.bind_eq_some_iff.1 hq
      have hrest := hs p q hq
      rw [halone p hp] at hrest
      exact List.suffix_nil.1 hrest
    · intro q hq
      obtain ⟨p, hp, hq⟩ := Option.bind_eq_some_iff.1 hq
      exact hs' p q (hbefore p hp) hq
    · intro ht q hq
      obtain ⟨⟨x, rest⟩, hp, hq⟩ := Option.bind_eq_some_iff.1 hq
      obtain rfl : rest = [] := halone _ hp
      rw [hsame ht _ hp, Option.bind_some, hnil, hq]

theorem Alike.map {α β : Type} {t u : List Char} {alone before : Option (α × List Char)}
    (h : Alike t u alone before) (g : α → β) :
    Alike t u (alone.map fun p => (g p.1, p.2)) (before.map fun p => (g p.1, p.2)) := by
  rw [Option.map_eq_bind, Option.map_eq_bind]
  have hs : ∀ (p : α × List Char) q, (some ∘ fun p => (g p.1, p.2)) p = some q → q.2 <:+ p.2 := by
    rintro p q hq
    cases hq
    exact List.suffix_rfl
  exact h.bind hs (fun p q hu hq => (hs p q hq).trans hu) (fun _ => rfl) fun _ _ _ => .same rfl rfl

/-- A reader whose readings of a text do not depend on what follows, except where they come to its
end. The reader may stop in front of what is in `slack`. -/
structure Local {α : Type} (slack : List Char) (f : Reader α) : Prop where
  suffix : ∀ a p, f a = some p → p.2 <:+ a
  alike : ∀ a t, Alike t (slack ++ t) (f a) (f (a ++ ')' :: t))

namespace Local

variable {α β : Type} {slack : List Char} {f : Reader α}

theorem loose (h : Local [] f) (slack : List Char) : Local slack f where
  suffix := h.suffix
  alike a t := by
    cases h.alike a t with
    | same halone hbefore => exact .same halone hbefore
    | apart halone hbefore hsame =>
      exact .apart halone (fun p hp => (hbefore p hp).trans (List.suffix_append slack t)) hsame

theorem pure (x : α) : Local slack fun a => some (x, a) where
  suffix a p hp := by
    cases hp
    exact List.suffix_rfl
  alike _ _ := .same rfl rfl

theorem none : Local slack (fun _ => none : Reader α) where
  suffix _ _ hp := by cases hp
  alike _ _ := .of_none (by simp)

theorem option (x : Option α) : Local slack fun a => x.map fun x => (x, a) := by
  cases x with
  | none => exact Local.none
  | some x => exact Local.pure x

/-- Reading on from where a reading stops. -/
theorem bind {k : α → Reader β} (hf : Local slack f) (hk : ∀ x, Local slack (k x)) :
    Local slack fun a => (f a).bind fun p => k p.1 p.2 where
  suffix a q hq := by
    obtain ⟨p, hp, hq⟩ := Option.bind_eq_some_iff.1 hq
    exact ((hk p.1).suffix _ _ hq).trans (hf.suffix _ _ hp)
  alike a t := by
    have hs : ∀ (p : α × List Char) q, k p.1 p.2 = some q → q.2 <:+ p.2 :=
      fun p q => (hk p.1).suffix p.2 q
    exact (hf.alike a t).bind hs (fun p q hu hq => (hs p q hq).trans hu) (fun _ => rfl)
      fun x rest _ => (hk x).alike rest t

theorem congr {g : Reader α} (h : Local slack f) (hfg : ∀ a, f a = g a) : Local slack g := by
  have hsame : f = g := funext hfg
  rwa [← hsame]

theorem map (hf : Local slack f) (g : α → β) :
    Local slack fun a => (f a).map fun p => (g p.1, p.2) := by
  apply Local.congr (hf.bind fun x => Local.pure (g x))
  intro a
  rw [Option.map_eq_bind]
  rfl

/-- What is read may be refused, or made into something else. -/
theorem filterMap (hf : Local slack f) (g : α → Option β) :
    Local slack fun a => (f a).bind fun p => (g p.1).map fun y => (y, p.2) := by
  apply hf.bind (k := fun x a => (g x).map fun y => (y, a))
  exact fun x => Local.option (g x)

/-- A choice that does not depend on the text. -/
theorem ite {P : Prop} [Decidable P] {g : Reader α} (hf : Local slack f) (hg : Local slack g) :
    Local slack fun a => if P then f a else g a := by
  split
  · exact hf
  · exact hg

/-- A reader that takes a character first, and then reads on. -/
theorem cons {g : Char → Reader α} (hnil : f [] = .none) (hcons : ∀ c a, f (c :: a) = g c a)
    (hg : ∀ c, Local slack (g c)) : Local slack f where
  suffix a p hp := by
    cases a with
    | nil =>
      rw [hnil] at hp
      cases hp
    | cons c a =>
      rw [hcons] at hp
      exact ((hg c).suffix _ _ hp).trans (List.suffix_cons c a)
  alike a t := by
    cases a with
    | nil =>
      rw [hnil, List.nil_append, hcons]
      exact .of_none fun p hp => ((hg ')').suffix _ _ hp).trans (List.suffix_append slack t)
    | cons c a =>
      rw [hcons, List.cons_append, hcons]
      exact (hg c).alike a t

end Local

/-- Takes the next character and reads on as it says. -/
def onNext {α : Type} (g : Char → Reader α) : Reader α
  | [] => none
  | c :: rest => g c rest

theorem local_onNext {α : Type} {slack : List Char} {g : Char → Reader α}
    (hg : ∀ c, Local slack (g c)) : Local slack (onNext g) :=
  Local.cons rfl (fun _ _ => rfl) hg

/-- Reads as the next character says, from that character on. -/
def onHead {α : Type} (g : Char → Reader α) : Reader α
  | [] => none
  | c :: rest => g c (c :: rest)

theorem local_onHead {α : Type} {g : Char → Reader α} (hg : ∀ c, Local [')'] (g c)) :
    Local [')'] (onHead g) where
  suffix a p hp := by
    cases a with
    | nil => cases hp
    | cons c a => exact (hg c).suffix _ _ hp
  alike a t := by
    cases a with
    | nil => exact .of_none fun p hp => (hg ')').suffix _ _ hp
    | cons c a => exact (hg c).alike (c :: a) t

/-- A reader that decides within the text: it never takes the parenthesis up. -/
structure Firm {α : Type} (f : Reader α) : Prop where
  suffix : ∀ a p, f a = some p → p.2 <:+ a
  before : ∀ a t, f (a ++ ')' :: t) = (f a).map fun p => (p.1, p.2 ++ ')' :: t)

theorem Firm.map {α β : Type} {f : Reader α} (hf : Firm f) (g : α → β) :
    Firm fun a => (f a).map fun p => (g p.1, p.2) where
  suffix a q hq := by
    obtain ⟨p, hp, rfl⟩ := Option.map_eq_some_iff.1 hq
    exact hf.suffix a p hp
  before a t := by
    rw [hf.before, Option.map_map, Option.map_map]
    rfl

/-- Where a reader that decides within the text finds nothing, another one may. -/
theorem Local.or {α : Type} {slack : List Char} {f g : Reader α} (hf : Firm f)
    (hg : Local slack g) : Local slack fun a => (f a).or (g a) where
  suffix a p hp := by
    rcases Option.or_eq_some_iff.1 hp with hp | ⟨_, hp⟩
    · exact hf.suffix a p hp
    · exact hg.suffix a p hp
  alike a t := by
    rw [hf.before]
    cases f a with
    | none => exact hg.alike a t
    | some p => exact .same rfl rfl

/-! ### Blanks -/

/-- Leaves out blanks where they do not count. -/
def skip (ignoreBlank : Bool) (text : List Char) : List Char :=
  if ignoreBlank then skipBlanks false text else text

@[simp] theorem past_cons (ignoreBlank : Bool) (c : Char) (text : List Char) :
    past ignoreBlank (c :: text) = skip ignoreBlank text := rfl

@[simp] theorem skip_nil (ignoreBlank : Bool) : skip ignoreBlank [] = [] := by
  cases ignoreBlank <;> rfl

theorem skipBlanks_suffix (inComment : Bool) (text : List Char) :
    skipBlanks inComment text <:+ text := by
  fun_induction skipBlanks inComment text with
  | case1 => exact List.suffix_rfl
  | case2 c rest ih => exact ih.trans (List.suffix_cons c rest)
  | case3 _ c rest _ _ ih => exact ih.trans (List.suffix_cons c rest)
  | case4 _ rest _ _ ih => exact ih.trans (List.suffix_cons _ rest)
  | case5 => exact List.suffix_rfl

/-- A comment is open up to the end of the line. -/
theorem skipBlanks_comment {text : List Char} (h : '\n' ∉ text) : skipBlanks true text = [] := by
  induction text with
  | nil => rfl
  | cons c text ih =>
    simp only [List.mem_cons, not_or] at h
    rw [skipBlanks, if_pos rfl, bne_iff_ne.2 (Ne.symm h.1), ih h.2]

theorem skipBlanks_append (inComment : Bool) (a t : List Char) :
    skipBlanks inComment (a ++ ')' :: t) = skipBlanks inComment a ++ ')' :: t ∨
      skipBlanks inComment a = [] ∧ skipBlanks inComment (a ++ ')' :: t) <:+ t ∧
        ('\n' ∉ t → skipBlanks inComment (a ++ ')' :: t) = []) := by
  fun_induction skipBlanks inComment a with
  | case1 inComment =>
    cases inComment with
    | true =>
      refine .inr ⟨rfl, ?_, fun ht => ?_⟩
      · exact skipBlanks_suffix true t
      · exact skipBlanks_comment (by simpa using ht)
    | false =>
      left
      have hblank : Text.isBlank ')' = false := by decide
      simp [skipBlanks, hblank]
  | case2 c rest ih => simpa [skipBlanks] using ih
  | case3 inComment c rest hcomment hblank ih =>
    simpa [skipBlanks, hcomment, hblank] using ih
  | case4 inComment rest hcomment hblank ih => simpa [skipBlanks, hcomment, hblank] using ih
  | case5 inComment c rest hcomment hblank hsign =>
    left
    simp [skipBlanks, hcomment, hblank, hsign]

theorem skip_append (ignoreBlank : Bool) (a t : List Char) :
    skip ignoreBlank (a ++ ')' :: t) = skip ignoreBlank a ++ ')' :: t ∨
      skip ignoreBlank a = [] ∧ skip ignoreBlank (a ++ ')' :: t) <:+ t ∧
        ('\n' ∉ t → skip ignoreBlank (a ++ ')' :: t) = []) := by
  cases ignoreBlank with
  | false => exact .inl rfl
  | true => exact skipBlanks_append false a t

theorem skip_suffix (ignoreBlank : Bool) (text : List Char) : skip ignoreBlank text <:+ text := by
  cases ignoreBlank with
  | false => exact List.suffix_rfl
  | true => exact skipBlanks_suffix false text

theorem local_skip (ignoreBlank : Bool) :
    Local [] fun a => some ((), skip ignoreBlank a) where
  suffix a p hp := by
    cases hp
    exact skip_suffix ignoreBlank a
  alike a t := by
    rcases skip_append ignoreBlank a t with hsame | ⟨halone, hbefore, hline⟩
    · exact .same rfl (congrArg (fun rest => some ((), rest)) hsame)
    · refine .apart ?_ ?_ ?_
      · rintro p hp
        cases hp
        exact halone
      · rintro p hp
        cases hp
        exact hbefore
      · rintro ht p hp
        cases hp
        exact congrArg (fun rest => some ((), rest)) ((hline ht).trans halone.symm)

/-- A reader that reads on behind blanks. -/
theorem Local.skip {α : Type} {f : Reader α} (hf : Local [] f) (ignoreBlank : Bool) :
    Local [] fun a => f (Pattern.skip ignoreBlank a) :=
  (local_skip ignoreBlank).bind fun _ => hf

/-! ### Runs of characters -/

/-- Takes characters as long as they stand for something, past blanks where they do not count. -/
def run {β : Type} (ignoreBlank : Bool) (step : Char → Option β) :
    Nat → List Char → List β × List Char
  | fuel + 1, c :: rest =>
    match step c with
    | some x =>
      let (found, remaining) := run ignoreBlank step fuel (skip ignoreBlank rest)
      (x :: found, remaining)
    | none => ([], c :: rest)
  | _, text => ([], text)

section Run

variable {β : Type} {ignoreBlank : Bool} {step : Char → Option β}

theorem run_of_some {fuel : Nat} {c : Char} {rest : List Char} {x : β} (h : step c = some x) :
    run ignoreBlank step (fuel + 1) (c :: rest) =
      (x :: (run ignoreBlank step fuel (skip ignoreBlank rest)).1,
        (run ignoreBlank step fuel (skip ignoreBlank rest)).2) := by
  rw [run, h]

theorem run_of_none {fuel : Nat} {c : Char} {rest : List Char} (h : step c = none) :
    run ignoreBlank step fuel (c :: rest) = ([], c :: rest) := by
  cases fuel with
  | zero => rfl
  | succ fuel => rw [run, h]

theorem run_nil {fuel : Nat} : run ignoreBlank step fuel [] = ([], []) := by
  cases fuel <;> rfl

theorem run_suffix (fuel : Nat) (text : List Char) :
    (run ignoreBlank step fuel text).2 <:+ text := by
  induction fuel generalizing text with
  | zero => exact List.suffix_rfl
  | succ fuel ih =>
    cases text with
    | nil => exact List.suffix_rfl
    | cons c rest =>
      cases hstep : step c with
      | none =>
        simp only [run_of_none hstep, List.suffix_rfl]
      | some x =>
        rw [run_of_some hstep]
        exact ((ih _).trans (skip_suffix _ _)).trans (List.suffix_cons c rest)

theorem alike_run (hstop : step ')' = none) {t a : List Char} {n m : Nat} (hn : a.length ≤ n)
    (hm : (a ++ ')' :: t).length ≤ m) :
    Alike t t (some (run ignoreBlank step n a)) (some (run ignoreBlank step m (a ++ ')' :: t))) := by
  induction n generalizing a m with
  | zero =>
    obtain rfl : a = [] := List.length_eq_zero_iff.1 (by omega)
    rw [run_nil, List.nil_append, run_of_none hstop]
    exact .same rfl rfl
  | succ n ih =>
    cases a with
    | nil =>
      rw [run_nil, List.nil_append, run_of_none hstop]
      exact .same rfl rfl
    | cons c a =>
      rw [List.cons_append] at hm ⊢
      cases hstep : step c with
      | none =>
        rw [run_of_none hstep, run_of_none hstep]
        exact .same rfl rfl
      | some x =>
        obtain ⟨m, rfl⟩ : ∃ k, m = k + 1 := ⟨m - 1, by simp at hm; omega⟩
        rw [run_of_some hstep, run_of_some hstep]
        have hs : ∀ fuel (p : Unit × List Char) q,
            some (x :: (run ignoreBlank step fuel p.2).1, (run ignoreBlank step fuel p.2).2) =
              some q → q.2 <:+ p.2 := by
          rintro fuel p q hq
          cases hq
          exact run_suffix fuel p.2
        refine ((local_skip ignoreBlank).alike a t).bind (hs n)
          (fun p q hu hq => (hs m p q hq).trans hu) (fun _ => by simp [run_nil]) ?_
        intro _ rest hrest
        have hlength : rest.length ≤ a.length :=
          ((local_skip ignoreBlank).suffix _ _ hrest).length_le
        simp only [List.length_cons, List.length_append] at hn hm
        exact (@ih rest m (by omega) (by simp; omega)).map (x :: ·)

theorem local_run (ignoreBlank : Bool) (step : Char → Option β) (hstop : step ')' = none) :
    Local [] fun a => some (run ignoreBlank step a.length a) where
  suffix a p hp := by
    cases hp
    exact run_suffix _ a
  alike a t := alike_run hstop (Nat.le_refl _) (Nat.le_refl _)

end Run


end StreamSelect.Pattern
