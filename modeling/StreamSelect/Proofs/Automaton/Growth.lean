import StreamSelect.Proofs.Automaton.Chain

/-! What a step adds to an automaton: one edge at the state it is taken from, and one state that
begins with the edges back to a match. -/
namespace StreamSelect

namespace State

variable {H : Type}

/-- A state with one more edge, that of a step. -/
def withEdge (s : State H) (h : Hop) (t : StateId) : State H :=
  if h.deep then
    if h.test.isTrivial then { s with fallback := some t }
    else { s with rules := s.rules ++ [⟨h.test, t⟩] }
  else { s with transitions := s.transitions ++ [⟨h.test, t⟩] }

theorem transitions_withEdge (s : State H) (h : Hop) (t : StateId) :
    (s.withEdge h t).transitions = s.transitions ++ if h.deep then [] else [⟨h.test, t⟩] := by
  unfold withEdge
  cases h.deep <;> cases h.test.isTrivial <;> simp

theorem rules_withEdge (s : State H) (h : Hop) (t : StateId) :
    (s.withEdge h t).rules =
      s.rules ++ if h.deep && !h.test.isTrivial then [⟨h.test, t⟩] else [] := by
  unfold withEdge
  cases h.deep <;> cases h.test.isTrivial <;> simp

theorem fallback_withEdge (s : State H) (h : Hop) (t : StateId) :
    (s.withEdge h t).fallback = if h.deep && h.test.isTrivial then some t else s.fallback := by
  unfold withEdge
  cases h.deep <;> cases h.test.isTrivial <;> simp

theorem reentry_withEdge (s : State H) (h : Hop) (t : StateId) :
    (s.withEdge h t).reentry = s.reentry := by
  unfold withEdge
  cases h.deep <;> cases h.test.isTrivial <;> rfl

theorem handlers_withEdge (s : State H) (h : Hop) (t : StateId) :
    (s.withEdge h t).handlers = s.handlers := by
  unfold withEdge
  cases h.deep <;> cases h.test.isTrivial <;> rfl

/-- The state that a step from `s`, numbered `above`, makes. -/
def successor (s : State H) (above : StateId) (h : Hop) (t : StateId) : State H :=
  if h.deep then
    if h.test.isTrivial then { transitions := s.reentry.map (⟨·, above⟩) }
    else { transitions := [⟨h.test, t⟩], reentry := [h.test] }
  else {}

theorem rules_successor (s : State H) (above : StateId) (h : Hop) (t : StateId) :
    (s.successor above h t).rules = [] := by
  unfold successor
  cases h.deep <;> cases h.test.isTrivial <;> rfl

theorem fallback_successor (s : State H) (above : StateId) (h : Hop) (t : StateId) :
    (s.successor above h t).fallback = none := by
  unfold successor
  cases h.deep <;> cases h.test.isTrivial <;> rfl

theorem handlers_successor (s : State H) (above : StateId) (h : Hop) (t : StateId) :
    (s.successor above h t).handlers = [] := by
  unfold successor
  cases h.deep <;> cases h.test.isTrivial <;> rfl

end State

namespace Graph

variable {H : Type}

/-- A step from a state that has no edge for it adds one edge and one state. -/
structure Grown (g later : Graph H) (s : StateId) (h : Hop) : Prop where
  size_eq : later.size = g.size + 1
  source : later.state s = (g.state s).withEdge h ⟨g.size⟩
  new : later.state ⟨g.size⟩ = (g.state s).successor s h ⟨g.size⟩
  other : ∀ t, t ≠ s → t ≠ ⟨g.size⟩ → later.state t = g.state t

section

variable {g : Graph H} {s : StateId}

theorem ne_size_of_contains (hs : g.contains s = true) : s ≠ ⟨g.size⟩ := by
  have hi : s.index < g.size := of_decide_eq_true hs
  rintro rfl
  exact Nat.lt_irrefl _ hi

theorem state_of_not_contains (hs : g.contains s = false) : g.state s = {} := by
  have hi : g.states.size ≤ s.index := Nat.le_of_not_lt (of_decide_eq_false hs)
  rw [state, Array.getElem?_eq_none hi, Option.getD_none]

theorem state_size (g : Graph H) : g.state ⟨g.size⟩ = {} :=
  state_of_not_contains (decide_eq_false (Nat.lt_irrefl _))

theorem state_initial (s : StateId) : (initial : Graph H).state s = {} := by
  unfold state initial
  match s.index with
  | 0 | 1 | _ + 2 => rfl

theorem contains_addState (hs : g.contains s = true) : g.addState.2.contains s = true := by
  have hi : s.index < g.size := of_decide_eq_true hs
  exact decide_eq_true (by rw [size_addState]; omega)

theorem contains_new (g : Graph H) : g.addState.2.contains ⟨g.size⟩ = true :=
  decide_eq_true (by rw [size_addState]; exact Nat.lt_succ_self _)

theorem contains_update (g : Graph H) (s t : StateId) (f : State H → State H) :
    (g.update s f).contains t = g.contains t := by
  simp [contains]

theorem handlers_update (g : Graph H) (s : StateId) {f : State H → State H}
    (hf : ∀ x, (f x).handlers = x.handlers) (t : StateId) :
    ((g.update s f).state t).handlers = (g.state t).handlers :=
  rel_state_update (R := fun x y => y.handlers = x.handlers) (hf _) (fun _ => rfl) t

theorem handlers_link (g : Graph H) (s : StateId) (test : Constraint) (u t : StateId) :
    ((g.link s test u).2.state t).handlers = (g.state t).handlers := by
  unfold link
  split
  · rfl
  · apply handlers_update
    exact fun _ => rfl

theorem grown_addTransition (hs : g.contains s = true) {test : Constraint}
    (hn : Transition.targetOf? (g.state s).transitions test = none) :
    (g.addTransition s test).1 = ⟨g.size⟩ ∧ g.Grown (g.addTransition s test).2 s ⟨false, test⟩ := by
  have hne := ne_size_of_contains hs
  have heq : g.addTransition s test = (⟨g.size⟩, g.addState.2.update s fun x =>
      { x with transitions := x.transitions ++ [⟨test, ⟨g.size⟩⟩] }) := by
    rw [addTransition, hn]
    rfl
  rw [heq]
  refine ⟨rfl, ⟨by simp, ?_, ?_, fun t ht _ => ?_⟩⟩
  · simp [state_update, contains_addState hs, state_addState, State.withEdge]
  · simp [state_update, hne.symm, state_addState, state_size, State.successor]
  · simp [state_update, ht, state_addState]

theorem grown_fallbackOf (hs : g.contains s = true) (hr : (g.state s).reentry.length ≤ 1)
    (hn : (g.state s).fallback = none) :
    (g.fallbackOf s).1 = ⟨g.size⟩ ∧ g.Grown (g.fallbackOf s).2 s ⟨true, .all []⟩ := by
  have hne := ne_size_of_contains hs
  let declared := g.addState.2.update s fun x => { x with fallback := some ⟨g.size⟩ }
  have hsource : declared.state s = { g.state s with fallback := some ⟨g.size⟩ } := by
    simp [declared, state_update, contains_addState hs, state_addState]
  have hnew : declared.state ⟨g.size⟩ = {} := by
    simp [declared, state_update, hne.symm, state_addState, state_size]
  have hother : ∀ t, t ≠ s → declared.state t = g.state t := by
    intro t ht
    simp [declared, state_update, ht, state_addState]
  have heq : g.fallbackOf s = (⟨g.size⟩, (g.state s).reentry.foldl
      (fun h test => (h.link ⟨g.size⟩ test s).2) declared) := by
    rw [fallbackOf, hn]
    have hre : (declared.state s).reentry = (g.state s).reentry := by rw [hsource]
    rw [← hre]
    rfl
  rw [heq]
  refine ⟨rfl, ?_⟩
  match hre : (g.state s).reentry, hr with
  | [], _ =>
    refine ⟨by simp [declared], ?_, ?_, fun t ht _ => hother t ht⟩
    · simpa [State.withEdge, Constraint.isTrivial] using hsource
    · simpa [State.successor, Constraint.isTrivial, hre] using hnew
  | [test], _ =>
    have hlink : (declared.link ⟨g.size⟩ test s).2 = declared.update ⟨g.size⟩ fun x =>
        { x with transitions := x.transitions ++ [⟨test, s⟩] } := by
      simp [link, hnew, Transition.targetOf?]
    have hc : declared.contains ⟨g.size⟩ = true := by
      rw [contains_update]
      exact contains_new g
    rw [List.foldl_cons, List.foldl_nil, hlink]
    refine ⟨by simp [declared], ?_, ?_, fun t ht hn => ?_⟩
    · simpa [state_update, hne, State.withEdge, Constraint.isTrivial] using hsource
    · simp [state_update, hc, hnew, State.successor, Constraint.isTrivial, hre]
    · simpa [state_update, hn] using hother t ht

theorem grown_addMatch (hs : g.contains s = true) {test : Constraint}
    (ht : test.isTrivial = false) (hn : Transition.targetOf? (g.state s).rules test = none) :
    (g.addMatch s test).1 = ⟨g.size⟩ ∧ g.Grown (g.addMatch s test).2 s ⟨true, test⟩ := by
  have hne := ne_size_of_contains hs
  let ruled := g.addState.2.update s fun x => { x with rules := x.rules ++ [⟨test, ⟨g.size⟩⟩] }
  have hrule : g.addRule s test = (⟨g.size⟩, ruled) := by
    rw [addRule, hn]
    rfl
  have hnew : ruled.state ⟨g.size⟩ = {} := by
    simp [ruled, state_update, hne.symm, state_addState, state_size]
  have hc : ruled.contains ⟨g.size⟩ = true := by
    rw [contains_update]
    exact contains_new g
  let looped := ruled.update ⟨g.size⟩ fun x =>
    { x with transitions := x.transitions ++ [⟨test, ⟨g.size⟩⟩] }
  have hloop : (ruled.link ⟨g.size⟩ test ⟨g.size⟩).2 = looped := by
    simp [link, hnew, Transition.targetOf?, looped]
  have hlooped : looped.state ⟨g.size⟩ = { transitions := [⟨test, ⟨g.size⟩⟩] } := by
    simp [looped, state_update, hc, hnew]
  have heq : g.addMatch s test = (⟨g.size⟩, looped.update ⟨g.size⟩ fun x =>
      { x with reentry := x.reentry ++ [test] }) := by
    simp [addMatch, hrule, hnew, hloop, hlooped]
  have hcl : looped.contains ⟨g.size⟩ = true := by
    rw [contains_update]
    exact hc
  rw [heq]
  refine ⟨rfl, ⟨by simp [looped, ruled], ?_, ?_, fun t hts htn => ?_⟩⟩
  · simp [looped, ruled, state_update, hne, contains_addState hs, state_addState, State.withEdge,
      ht]
  · simp [state_update, hcl, hlooped, State.successor, ht]
  · simp [looped, ruled, state_update, hts, htn, state_addState]

/-- A step leads along an edge that is there, or adds one. -/
theorem extend_cases (hs : g.contains s = true) (hr : (g.state s).reentry.length ≤ 1)
    (hm : ∀ edge ∈ (g.state s).rules, (g.state edge.target).reentry = [edge.test]) (h : Hop) :
    (g.hop? s h = some (g.extend s h).1 ∧ (g.extend s h).2 = g) ∨
      (g.hop? s h = none ∧ (g.extend s h).1 = ⟨g.size⟩ ∧ g.Grown (g.extend s h).2 s h) := by
  obtain ⟨deep, test⟩ := h
  unfold extend hop?
  cases deep with
  | false =>
    cases hn : Transition.targetOf? (g.state s).transitions test with
    | some t => exact .inl (by simp [addTransition, hn])
    | none => exact .inr ⟨by simp, grown_addTransition hs hn⟩
  | true =>
    by_cases ht : test.isTrivial = true
    · simp only [↓reduceIte, ht]
      cases hn : (g.state s).fallback with
      | some t => exact .inl (by simp [fallbackOf, hn])
      | none =>
        rw [Constraint.isTrivial_iff.1 ht]
        exact .inr ⟨rfl, grown_fallbackOf hs hr hn⟩
    · rw [Bool.not_eq_true] at ht
      simp only [↓reduceIte, ht, Bool.false_eq_true]
      cases hn : Transition.targetOf? (g.state s).rules test with
      | some t =>
        obtain ⟨edge, he, hte, rfl⟩ := Transition.exists_of_targetOf? hn
        have hre : (g.state edge.target).reentry.contains test = true := by
          rw [hm edge he]
          simpa using BEq.symm hte
        refine .inl ?_
        simp only [addMatch, addRule, hn, hre, ↓reduceIte, and_self]
      | none => exact .inr ⟨rfl, grown_addMatch hs ht hn⟩

end

namespace Grown

variable {g later : Graph H} {s : StateId} {h : Hop}

theorem hop?_eq (hg : g.Grown later s h) (hn : g.hop? s h = none) :
    later.hop? s h = some ⟨g.size⟩ := by
  have happ : ∀ edges, Transition.targetOf? edges h.test = none →
      Transition.targetOf? (edges ++ [⟨h.test, ⟨g.size⟩⟩]) h.test = some ⟨g.size⟩ := by
    intro edges he
    rw [Transition.targetOf?, Option.map_eq_none_iff] at he
    simp [Transition.targetOf?, List.find?_append, he]
  unfold hop? at hn ⊢
  rw [hg.source, State.transitions_withEdge, State.rules_withEdge, State.fallback_withEdge]
  cases hd : h.deep with
  | false =>
    simp only [hd, Bool.false_eq_true, ↓reduceIte] at hn ⊢
    exact happ _ hn
  | true =>
    cases ht : h.test.isTrivial with
    | true => simp
    | false =>
      simp only [hd, ht, Bool.false_eq_true, ↓reduceIte, Bool.not_false, Bool.and_true] at hn ⊢
      exact happ _ hn

theorem handlers_eq (hg : g.Grown later s h) (t : StateId) :
    (later.state t).handlers = (g.state t).handlers := by
  by_cases ht : t = ⟨g.size⟩
  · rw [ht, hg.new, State.handlers_successor, state_size]
  by_cases hts : t = s
  · rw [hts, hg.source, State.handlers_withEdge]
  · rw [hg.other t hts ht]

end Grown
end Graph
end StreamSelect
