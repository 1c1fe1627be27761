import Mathlib.Logic.Function.Basic
import StreamSelect.Proofs.Automaton.Growth

/-! The shape of an automaton whose edges come from steps alone. Every state but the root and the
sink was made by one step from one state. A state made by a descendant with a test begins with an
edge back to itself, and its fallback with an edge back to that state; all its other edges lead to
the states made from it. -/
namespace StreamSelect

/-- The step that made a state, and the state it was taken from. -/
abbrev Origins := StateId → Option (StateId × Hop)

namespace Origins

/-- The test of the descendant that made a state. -/
def returning (o : Origins) (s : StateId) : List Constraint :=
  match o s with
  | some (_, ⟨true, test⟩) => if test.isTrivial then [] else [test]
  | _ => []

/-- The edges that lead matches below a state back to the state of the match. -/
def loops (o : Origins) (s : StateId) : List Transition :=
  match o s with
  | some (above, ⟨true, test⟩) =>
    if test.isTrivial then (o.returning above).map (⟨·, above⟩) else [⟨test, s⟩]
  | _ => []

variable {o : Origins} {s : StateId}

theorem returning_eq_nil_or (o : Origins) (s : StateId) :
    o.returning s = [] ∨ ∃ above test, o s = some (above, ⟨true, test⟩) ∧
      test.isTrivial = false ∧ o.returning s = [test] := by
  unfold returning
  split
  · rename_i above test h
    cases ht : test.isTrivial with
    | true => exact .inl rfl
    | false => exact .inr ⟨above, test, h, ht, rfl⟩
  · exact .inl rfl

theorem returning_of_match {above : StateId} {test : Constraint}
    (h : o s = some (above, ⟨true, test⟩)) (ht : test.isTrivial = false) :
    o.returning s = [test] := by
  simp [returning, h, ht]

theorem loops_of_match {above : StateId} {test : Constraint}
    (h : o s = some (above, ⟨true, test⟩)) (ht : test.isTrivial = false) :
    o.loops s = [⟨test, s⟩] := by
  simp [loops, h, ht]

theorem loops_of_fallback {above : StateId} (h : o s = some (above, ⟨true, .all []⟩)) :
    o.loops s = (o.returning above).map (⟨·, above⟩) := by
  simp [loops, h, Constraint.isTrivial]

/-- An edge back leads to the state of a match, from there or from its fallback. -/
theorem mem_loops {edge : Transition} (h : edge ∈ o.loops s) :
    ∃ above, o edge.target = some (above, ⟨true, edge.test⟩) ∧ edge.test.isTrivial = false ∧
      (edge.target = s ∨ o s = some (edge.target, ⟨true, .all []⟩)) := by
  unfold loops at h
  split at h
  · rename_i above test hs
    split at h
    · rename_i ht
      rw [Constraint.isTrivial_iff.1 ht] at hs
      rcases o.returning_eq_nil_or above with hr | ⟨top, test', ho, ht', hr⟩
      · simp [hr] at h
      · rw [hr, List.map_singleton, List.mem_singleton] at h
        subst h
        exact ⟨top, ho, ht', .inr hs⟩
    · rename_i ht
      rw [List.mem_singleton] at h
      subst h
      exact ⟨above, hs, Bool.not_eq_true _ ▸ ht, .inl rfl⟩
  · cases h

section Update

variable {n : StateId} {entry : StateId × Hop}

theorem returning_update (h : s ≠ n) :
    Origins.returning (Function.update o n (some entry)) s = o.returning s := by
  unfold returning
  rw [Function.update_of_ne h]

theorem loops_update (h : s ≠ n) (ha : ∀ above hop, o s = some (above, hop) → above ≠ n) :
    Origins.loops (Function.update o n (some entry)) s = o.loops s := by
  unfold loops
  rw [Function.update_of_ne h]
  split
  · rename_i above test hs
    rw [returning_update (ha _ _ hs)]
  · rfl

end Update

end Origins

namespace Graph

variable {H : Type}

/-- What an automaton made by steps looks like. -/
structure Arranged (g : Graph H) (o : Origins) : Prop where
  ordered : ∀ {s above h}, o s = some (above, h) →
    1 ≤ above.index ∧ above.index < s.index ∧ s.index < g.size
  transitions : ∀ s, ∃ own, (g.state s).transitions = o.loops s ++ own ∧
    ∀ edge ∈ own, o edge.target = some (s, ⟨false, edge.test⟩)
  rules : ∀ s, ∀ edge ∈ (g.state s).rules,
    o edge.target = some (s, ⟨true, edge.test⟩) ∧ edge.test.isTrivial = false
  fallback : ∀ s t, (g.state s).fallback = some t → o t = some (s, ⟨true, .all []⟩)
  reentry : ∀ s, (g.state s).reentry = o.returning s

theorem arranged_initial : (initial : Graph H).Arranged fun _ => none := by
  refine ⟨by simp, fun s => ⟨[], ?_⟩, ?_, ?_, fun s => ?_⟩
  · simp [state_initial, Origins.loops]
  · simp [state_initial]
  · simp [state_initial]
  · simp [state_initial, Origins.returning]

/-- A step from a state of an arranged automaton leads along an edge it has, or adds one. -/
theorem Arranged.extend_cases {g : Graph H} {o : Origins} (ha : g.Arranged o) {s : StateId}
    (hs : g.contains s = true) (h : Hop) :
    (g.hop? s h = some (g.extend s h).1 ∧ (g.extend s h).2 = g) ∨
      (g.hop? s h = none ∧ (g.extend s h).1 = ⟨g.size⟩ ∧ g.Grown (g.extend s h).2 s h) := by
  refine Graph.extend_cases hs ?_ (fun edge he => ?_) h
  · rw [ha.reentry]
    rcases o.returning_eq_nil_or s with hr | ⟨_, _, _, _, hr⟩ <;> simp [hr]
  · obtain ⟨ho, ht⟩ := ha.rules s edge he
    rw [ha.reentry, Origins.returning_of_match ho ht]

namespace Arranged

variable {g later : Graph H} {o : Origins} {s : StateId} {h : Hop}

theorem ne_size (ha : g.Arranged o) {t above : StateId} {hop : Hop} (ho : o t = some (above, hop)) :
    t ≠ ⟨g.size⟩ := by
  rintro rfl
  exact Nat.lt_irrefl _ (ha.ordered ho).2.2

theorem update_of_some (ha : g.Arranged o) {t : StateId} {entry : StateId × Hop}
    (ho : o t = some entry) (new : StateId × Hop) :
    Function.update o ⟨g.size⟩ (some new) t = some entry := by
  rw [Function.update_of_ne (ha.ne_size ho), ho]

/-- What a new state begins with is what its origin asks for. -/
theorem successor_eq (ha : g.Arranged o) (hs : g.contains s = true) :
    ((g.state s).successor s h ⟨g.size⟩).transitions =
        Origins.loops (Function.update o ⟨g.size⟩ (some (s, h))) ⟨g.size⟩ ∧
      ((g.state s).successor s h ⟨g.size⟩).reentry =
        Origins.returning (Function.update o ⟨g.size⟩ (some (s, h))) ⟨g.size⟩ := by
  obtain ⟨deep, test⟩ := h
  generalize ho : Function.update o ⟨g.size⟩ (some (s, (⟨deep, test⟩ : Hop))) = o'
  have hn : o' ⟨g.size⟩ = some (s, ⟨deep, test⟩) := by rw [← ho, Function.update_self]
  have hr : Origins.returning o' s = (g.state s).reentry := by
    rw [← ho, Origins.returning_update (ne_size_of_contains hs), ha.reentry]
  cases deep with
  | false => simp [State.successor, Origins.loops, Origins.returning, hn]
  | true =>
    cases ht : test.isTrivial with
    | true =>
      refine ⟨by simp [State.successor, Origins.loops, hn, ht, hr], ?_⟩
      simp [State.successor, Origins.returning, hn, ht]
    | false => simp [State.successor, Origins.loops, Origins.returning, hn, ht]

theorem loops_update (ha : g.Arranged o) {t : StateId} (ht : t ≠ ⟨g.size⟩)
    (new : StateId × Hop) :
    Origins.loops (Function.update o ⟨g.size⟩ (some new)) t = o.loops t := by
  apply Origins.loops_update ht
  rintro above hop ho rfl
  have hb := ha.ordered ho
  exact Nat.lt_irrefl _ (Nat.lt_trans hb.2.1 hb.2.2)

/-! Each part of the shape after a step: at the new state, at the one the step was taken from, and
at all others. -/

theorem ordered_grow (ha : g.Arranged o) (h1 : 1 ≤ s.index) (hs : g.contains s = true)
    (hg : g.Grown later s h) {t above : StateId} {hop : Hop}
    (ho : Function.update o ⟨g.size⟩ (some (s, h)) t = some (above, hop)) :
    1 ≤ above.index ∧ above.index < t.index ∧ t.index < later.size := by
  rw [hg.size_eq]
  by_cases ht : t = ⟨g.size⟩
  · subst ht
    rw [Function.update_self, Option.some.injEq, Prod.mk.injEq] at ho
    obtain ⟨rfl, rfl⟩ := ho
    have hi : s.index < g.size := of_decide_eq_true hs
    exact ⟨h1, hi, Nat.lt_succ_self _⟩
  · rw [Function.update_of_ne ht] at ho
    have hb := ha.ordered ho
    exact ⟨hb.1, hb.2.1, Nat.lt_succ_of_lt hb.2.2⟩

theorem transitions_grow (ha : g.Arranged o) (hs : g.contains s = true)
    (hg : g.Grown later s h) (t : StateId) :
    ∃ own, (later.state t).transitions =
        Origins.loops (Function.update o ⟨g.size⟩ (some (s, h))) t ++ own ∧
      ∀ edge ∈ own, Function.update o ⟨g.size⟩ (some (s, h)) edge.target =
        some (t, ⟨false, edge.test⟩) := by
  by_cases ht : t = ⟨g.size⟩
  · subst ht
    refine ⟨[], ?_, fun _ he => by cases he⟩
    rw [hg.new, List.append_nil]
    exact (ha.successor_eq hs).1
  obtain ⟨own, hown, ho⟩ := ha.transitions t
  rw [ha.loops_update ht]
  by_cases hts : t = s
  · subst hts
    rw [hg.source, State.transitions_withEdge, hown, List.append_assoc]
    refine ⟨_, rfl, fun edge he => ?_⟩
    rw [List.mem_append] at he
    rcases he with he | he
    · exact ha.update_of_some (ho edge he) _
    · cases hd : h.deep with
      | true => simp [hd] at he
      | false =>
        simp only [hd, Bool.false_eq_true, ↓reduceIte, List.mem_singleton] at he
        subst he
        rw [Function.update_self, ← hd]
  · rw [hg.other t hts ht]
    exact ⟨own, hown, fun edge he => ha.update_of_some (ho edge he) _⟩

theorem rules_grow (ha : g.Arranged o) (hg : g.Grown later s h) (t : StateId) (edge : Transition)
    (he : edge ∈ (later.state t).rules) :
    Function.update o ⟨g.size⟩ (some (s, h)) edge.target = some (t, ⟨true, edge.test⟩) ∧
      edge.test.isTrivial = false := by
  have hkeep : edge ∈ (g.state t).rules →
      Function.update o ⟨g.size⟩ (some (s, h)) edge.target = some (t, ⟨true, edge.test⟩) ∧
        edge.test.isTrivial = false :=
    fun he => ⟨ha.update_of_some (ha.rules t edge he).1 _, (ha.rules t edge he).2⟩
  by_cases ht : t = ⟨g.size⟩
  · rw [ht, hg.new, State.rules_successor] at he
    cases he
  by_cases hts : t = s
  · subst hts
    rw [hg.source, State.rules_withEdge, List.mem_append] at he
    rcases he with he | he
    · exact hkeep he
    · split at he
      · rename_i hd
        rw [Bool.and_eq_true, Bool.not_eq_true'] at hd
        rw [List.mem_singleton] at he
        subst he
        rw [Function.update_self, ← hd.1]
        exact ⟨rfl, hd.2⟩
      · cases he
  · rw [hg.other t hts ht] at he
    exact hkeep he

theorem fallback_grow (ha : g.Arranged o) (hg : g.Grown later s h) (t below : StateId)
    (hf : (later.state t).fallback = some below) :
    Function.update o ⟨g.size⟩ (some (s, h)) below = some (t, ⟨true, .all []⟩) := by
  by_cases ht : t = ⟨g.size⟩
  · rw [ht, hg.new, State.fallback_successor] at hf
    cases hf
  by_cases hts : t = s
  · subst hts
    rw [hg.source, State.fallback_withEdge] at hf
    split at hf
    · rename_i hd
      rw [Bool.and_eq_true, Constraint.isTrivial_iff] at hd
      cases hf
      rw [Function.update_self, ← hd.1, ← hd.2]
    · exact ha.update_of_some (ha.fallback t below hf) _
  · rw [hg.other t hts ht] at hf
    exact ha.update_of_some (ha.fallback t below hf) _

theorem reentry_grow (ha : g.Arranged o) (hs : g.contains s = true) (hg : g.Grown later s h)
    (t : StateId) :
    (later.state t).reentry = Origins.returning (Function.update o ⟨g.size⟩ (some (s, h))) t := by
  by_cases ht : t = ⟨g.size⟩
  · subst ht
    rw [hg.new]
    exact (ha.successor_eq hs).2
  rw [Origins.returning_update ht, ← ha.reentry]
  by_cases hts : t = s
  · rw [hts, hg.source, State.reentry_withEdge]
  · rw [hg.other t hts ht]

/-- A step keeps an automaton arranged; the new state has the step for its origin. -/
theorem grow (ha : g.Arranged o) (h1 : 1 ≤ s.index) (hs : g.contains s = true)
    (hg : g.Grown later s h) :
    later.Arranged (Function.update o ⟨g.size⟩ (some (s, h))) where
  ordered := ha.ordered_grow h1 hs hg
  transitions := ha.transitions_grow hs hg
  rules := ha.rules_grow hg
  fallback := ha.fallback_grow hg
  reentry := ha.reentry_grow hs hg

/-- A step leads to the state made by an equal step; or, to a child, back to the state of a
match. -/
theorem hop?_cases (ha : g.Arranged o) {t : StateId} (ht : g.hop? s h = some t) :
    (∃ made, o t = some (s, made) ∧ made.Same h) ∨
      (h.deep = false ∧ ∃ above test, o t = some (above, ⟨true, test⟩) ∧ test.isTrivial = false ∧
        (test == h.test) = true ∧ (t = s ∨ o s = some (t, ⟨true, .all []⟩))) := by
  obtain ⟨deep, test⟩ := h
  unfold hop? at ht
  cases deep with
  | false =>
    obtain ⟨edge, he, hte, rfl⟩ := Transition.exists_of_targetOf? ht
    obtain ⟨own, hown, ho⟩ := ha.transitions s
    rw [hown, List.mem_append] at he
    rcases he with he | he
    · obtain ⟨above, hl, htriv, hback⟩ := Origins.mem_loops he
      exact .inr ⟨rfl, above, edge.test, hl, htriv, hte, hback⟩
    · exact .inl ⟨_, ho edge he, rfl, hte⟩
  | true =>
    simp only [↓reduceIte] at ht
    split at ht
    · rename_i htriv
      rw [Constraint.isTrivial_iff] at htriv
      exact .inl ⟨_, ha.fallback s t ht, rfl, htriv ▸ BEq.rfl⟩
    · obtain ⟨edge, he, hte, rfl⟩ := Transition.exists_of_targetOf? ht
      exact .inl ⟨_, (ha.rules s edge he).1, rfl, hte⟩

theorem hop?_bounds (ha : g.Arranged o) {t : StateId} (ht : g.hop? s h = some t) :
    1 ≤ t.index ∧ g.contains t = true := by
  have ho : ∃ above made, o t = some (above, made) := by
    rcases ha.hop?_cases ht with ⟨made, ho, -⟩ | ⟨-, above, test, ho, -⟩
    · exact ⟨s, made, ho⟩
    · exact ⟨above, _, ho⟩
  obtain ⟨above, made, ho⟩ := ho
  have hb := ha.ordered ho
  exact ⟨Nat.le_trans hb.1 (Nat.le_of_lt hb.2.1), decide_eq_true hb.2.2⟩

/-- Compiling a step keeps an automaton arranged and leads to the state it gives. -/
theorem extend (ha : g.Arranged o) (h1 : 1 ≤ s.index) (hs : g.contains s = true) (h : Hop) :
    (∃ o', (g.extend s h).2.Arranged o') ∧
      (g.extend s h).2.hop? s h = some (g.extend s h).1 := by
  rcases ha.extend_cases hs h with ⟨ht, hg⟩ | ⟨hn, ht, hg⟩
  · rw [hg]
    exact ⟨⟨o, ha⟩, ht⟩
  · rw [ht]
    exact ⟨⟨_, ha.grow h1 hs hg⟩, hg.hop?_eq hn⟩

theorem handlers_extend (ha : g.Arranged o) (hs : g.contains s = true) (h : Hop) (t : StateId) :
    ((g.extend s h).2.state t).handlers = (g.state t).handlers := by
  rcases ha.extend_cases hs h with ⟨-, hg⟩ | ⟨-, -, hg⟩
  · rw [hg]
  · exact hg.handlers_eq t

/-- What the edges do not depend on may change. -/
theorem update (ha : g.Arranged o) (s : StateId) {f : State H → State H}
    (hf : ∀ x, f x = { x with handlers := (f x).handlers, limit := (f x).limit }) :
    (g.update s f).Arranged o := by
  have hstate : ∀ t, (g.update s f).state t = { g.state t with
      handlers := ((g.update s f).state t).handlers, limit := ((g.update s f).state t).limit } := by
    refine rel_state_update (R := fun x y =>
      y = { x with handlers := y.handlers, limit := y.limit }) ?_ fun _ => rfl
    exact hf _
  refine ⟨fun ho => by rw [size_update]; exact ha.ordered ho, fun t => ?_, fun t => ?_, fun t => ?_,
    fun t => ?_⟩
  all_goals rw [hstate]
  · exact ha.transitions t
  · exact ha.rules t
  · exact ha.fallback t
  · exact ha.reentry t

theorem attach (ha : g.Arranged o) (s : StateId) (handler : H) : (g.attach s handler).Arranged o :=
  ha.update s fun _ => rfl

theorem setLimit (ha : g.Arranged o) (s : StateId) (limit : Nat) :
    (g.setLimit s limit).Arranged o :=
  ha.update s fun _ => rfl

end Arranged
end Graph
end StreamSelect
