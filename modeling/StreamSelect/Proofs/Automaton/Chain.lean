import StreamSelect.Builder.Compile
import StreamSelect.Proofs.Automaton.Wiring
import StreamSelect.Proofs.Constraint.Equality

/-! Chains of steps and the states they lead to. A state only ever gains edges, behind those it has,
so a chain that leads to a state leads there in every later automaton. -/
namespace StreamSelect

/-- A step of a chain: to a child, or to an element at any depth, that passes a test. -/
structure Hop where
  deep : Bool
  test : Constraint

abbrev Chain := List Hop

def Selector.hop (s : Selector) : Hop := ⟨s.kind.isDescendant, s.test⟩

/-- Steps with equal tests in the same direction. -/
def Hop.Same (a b : Hop) : Prop := a.deep = b.deep ∧ (a.test == b.test) = true

namespace Hop.Same

theorem refl (a : Hop) : a.Same a := ⟨rfl, BEq.refl _⟩

theorem symm {a b : Hop} (h : a.Same b) : b.Same a := ⟨h.1.symm, BEq.symm h.2⟩

theorem trans {a b c : Hop} (h : a.Same b) (k : b.Same c) : a.Same c :=
  ⟨h.1.trans k.1, BEq.trans h.2 k.2⟩

end Hop.Same

theorem Transition.targetOf?_of_prefix {edges later : List Transition} (h : edges <+: later)
    {test : Constraint} {t : StateId} (ht : targetOf? edges test = some t) :
    targetOf? later test = some t := by
  obtain ⟨new, rfl⟩ := h
  obtain ⟨edge, he, rfl⟩ := Option.map_eq_some_iff.1 ht
  rw [targetOf?, List.find?_append, he]
  rfl

/-- An edge that is found has an equal test. -/
theorem Transition.exists_of_targetOf? {edges : List Transition} {test : Constraint} {t : StateId}
    (h : targetOf? edges test = some t) :
    ∃ edge ∈ edges, (edge.test == test) = true ∧ edge.target = t := by
  obtain ⟨edge, he, ht⟩ := Option.map_eq_some_iff.1 h
  have hs := List.find?_some he
  exact ⟨edge, List.mem_of_find?_eq_some he, hs, ht⟩

theorem Transition.follow_cons_of_holds {fs : Filters} {e : StartElement} {edge : Transition}
    (h : edge.test.holds fs e = true) (edges : List Transition) :
    follow fs e (edge :: edges) = some edge.target := by
  simp [follow, h]

namespace State

variable {H : Type}

/-- A state with the edges of another and possibly more. -/
structure Extends (s later : State H) : Prop where
  transitions : s.transitions <+: later.transitions
  rules : s.rules <+: later.rules
  fallback : ∀ t, s.fallback = some t → later.fallback = some t

theorem Extends.refl (s : State H) : s.Extends s :=
  ⟨List.prefix_rfl, List.prefix_rfl, fun _ => id⟩

theorem Extends.trans {a b c : State H} (h : a.Extends b) (k : b.Extends c) : a.Extends c :=
  ⟨h.transitions.trans k.transitions, h.rules.trans k.rules,
    fun t ht => k.fallback t (h.fallback t ht)⟩

end State

namespace Graph

variable {H : Type}

/-- Attaching changes the handlers of a state and nothing else. -/
theorem state_attach (g : Graph H) (s : StateId) (handler : H) (t : StateId) :
    ∃ handlers, (g.attach s handler).state t = { g.state t with handlers } := by
  refine rel_state_update (R := fun x y => ∃ handlers, y = { x with handlers }) ?_ ?_ t
  · exact ⟨_, rfl⟩
  · exact fun x => ⟨x.handlers, rfl⟩

/-- A later automaton: every state extended, and possibly more states. -/
structure Extends (g later : Graph H) : Prop where
  size_le : g.size ≤ later.size
  state : ∀ s, (g.state s).Extends (later.state s)

namespace Extends

theorem refl (g : Graph H) : g.Extends g := ⟨Nat.le_refl _, fun _ => .refl _⟩

theorem trans {a b c : Graph H} (h : a.Extends b) (k : b.Extends c) : a.Extends c :=
  ⟨Nat.le_trans h.size_le k.size_le, fun s => (h.state s).trans (k.state s)⟩

theorem addState (g : Graph H) : g.Extends g.addState.2 := by
  refine ⟨by rw [size_addState]; exact Nat.le_succ _, fun s => ?_⟩
  rw [state_addState]
  exact .refl _

theorem update {g : Graph H} {s : StateId} {f : State H → State H}
    (h : (g.state s).Extends (f (g.state s))) : g.Extends (g.update s f) := by
  exact ⟨Nat.le_of_eq (size_update g s f).symm, rel_state_update h .refl⟩

/-- What the edges do not depend on may change. -/
theorem update_of_edges (g : Graph H) (s : StateId) {f : State H → State H}
    (ht : ∀ x, (f x).transitions = x.transitions) (hr : ∀ x, (f x).rules = x.rules)
    (hf : ∀ x, (f x).fallback = x.fallback) : g.Extends (g.update s f) :=
  update ⟨ht _ ▸ List.prefix_rfl, hr _ ▸ List.prefix_rfl, fun _ h => (hf _).trans h⟩

theorem of_edit {g later : Graph H} (h : g.EdgeEdit later) : g.Extends later := by
  cases h with
  | addState => exact addState g
  | transition s edge => exact update { State.Extends.refl _ with transitions := List.prefix_append _ _ }
  | rule s edge => exact update { State.Extends.refl _ with rules := List.prefix_append _ _ }
  | fallback t hn =>
    refine update { State.Extends.refl _ with fallback := fun u hu => ?_ }
    rw [hn] at hu
    cases hu
  | reentry s test => exact update_of_edges g s (fun _ => rfl) (fun _ => rfl) fun _ => rfl

theorem of_edits {g later : Graph H} (h : g.EdgeEdits later) : g.Extends later := by
  induction h with
  | refl => exact refl g
  | tail _ hedit ih => exact ih.trans (of_edit hedit)

theorem link (g : Graph H) (s : StateId) (test : Constraint) (t : StateId) :
    g.Extends (g.link s test t).2 :=
  of_edits (g.edges_link s test t)

theorem attach (g : Graph H) (s : StateId) (handler : H) : g.Extends (g.attach s handler) :=
  update_of_edges g s (fun _ => rfl) (fun _ => rfl) fun _ => rfl

theorem setLimit (g : Graph H) (s : StateId) (limit : Nat) : g.Extends (g.setLimit s limit) :=
  update_of_edges g s (fun _ => rfl) (fun _ => rfl) fun _ => rfl

end Extends

/-! ### Following a chain -/

/-- The state that a step from a state was compiled to. -/
def hop? (g : Graph H) (s : StateId) (h : Hop) : Option StateId :=
  if h.deep then
    if h.test.isTrivial then (g.state s).fallback
    else Transition.targetOf? (g.state s).rules h.test
  else Transition.targetOf? (g.state s).transitions h.test

/-- The state that a chain of steps from a state was compiled to. -/
def reach? (g : Graph H) (s : StateId) : Chain → Option StateId
  | [] => some s
  | h :: chain => (g.hop? s h).bind fun t => g.reach? t chain

theorem reach?_append (g : Graph H) (s : StateId) (chain more : Chain) :
    g.reach? s (chain ++ more) = (g.reach? s chain).bind fun t => g.reach? t more := by
  induction chain generalizing s with
  | nil => rfl
  | cons h chain ih => simp only [List.cons_append, reach?, ih, Option.bind_assoc]

theorem reach?_concat (g : Graph H) (s : StateId) (chain : Chain) (h : Hop) :
    g.reach? s (chain ++ [h]) = (g.reach? s chain).bind fun t => g.hop? t h := by
  rw [reach?_append]
  congr 1
  funext t
  simp [reach?]

theorem hop?_of_extends {g later : Graph H} (hg : g.Extends later) {s t : StateId} {h : Hop}
    (ht : g.hop? s h = some t) : later.hop? s h = some t := by
  have hs := hg.state s
  unfold hop? at ht ⊢
  split
  · rename_i hd
    rw [if_pos hd] at ht
    split
    · rename_i htriv
      rw [if_pos htriv] at ht
      exact hs.fallback t ht
    · rename_i htriv
      rw [if_neg htriv] at ht
      exact Transition.targetOf?_of_prefix hs.rules ht
  · rename_i hd
    rw [if_neg hd] at ht
    exact Transition.targetOf?_of_prefix hs.transitions ht

theorem reach?_of_extends {g later : Graph H} (hg : g.Extends later) {s t : StateId}
    {chain : Chain} (ht : g.reach? s chain = some t) : later.reach? s chain = some t := by
  induction chain generalizing s with
  | nil => exact ht
  | cons h chain ih =>
    obtain ⟨next, hn, ht⟩ := Option.bind_eq_some_iff.1 ht
    rw [reach?, hop?_of_extends hg hn]
    exact ih ht

/-- Compiles a step from a state. -/
def extend (g : Graph H) (s : StateId) (h : Hop) : StateId × Graph H :=
  if h.deep then if h.test.isTrivial then g.fallbackOf s else g.addMatch s h.test
  else g.addTransition s h.test

theorem edges_extend (g : Graph H) (s : StateId) (h : Hop) : g.EdgeEdits (g.extend s h).2 := by
  unfold extend
  split
  · split
    · exact g.edges_fallbackOf s
    · exact g.edges_addMatch s h.test
  · exact g.edges_addTransition s h.test

theorem Extends.extend (g : Graph H) (s : StateId) (h : Hop) : g.Extends (g.extend s h).2 :=
  of_edits (g.edges_extend s h)

end Graph

/-- A step to a named element is never without a test. -/
theorem isTrivial_combinedTest_named (n : Name) (constraints : List Constraint) :
    (combinedTest (.named n) constraints).isTrivial = false := by
  unfold combinedTest Constraint.conjunction
  simp only [SelectorKind.implied, List.cons_append, List.nil_append, List.flatMap_cons,
    Constraint.parts]
  cases constraints.flatMap Constraint.parts <;> rfl

theorem Builder.edge_selector {B : Type} (g : Graph (HandlerRef B)) (base : StateId)
    (s : Selector) : edge g base s.kind s.test = g.extend base s.hop := by
  unfold edge Graph.extend Selector.hop Selector.test
  cases s.kind with
  | named n => simp [SelectorKind.isDescendant, isTrivial_combinedTest_named]
  | descendant | child n | anyChild | filtered f => rfl

end StreamSelect
