import Mathlib.Data.List.Forall2
import StreamSelect.Model
import StreamSelect.Proofs.Automaton.Chain

/-! Automata that are alike: they have the same states with the same edges, handlers and limits, but
their tests may write a name with another qualifier. The same declarations keep them alike. -/
namespace StreamSelect

open List (Forall₂)

/-- Equal tests and one target. -/
structure Transition.Alike (a b : Transition) : Prop where
  test : (a.test == b.test) = true
  target : a.target = b.target

/-- An edge is found for one test exactly if one with the same target is found for an equal one. -/
theorem Transition.targetOf?_congr {xs ys : List Transition} (h : Forall₂ Alike xs ys)
    {a b : Constraint} (hab : (a == b) = true) : targetOf? xs a = targetOf? ys b := by
  induction h with
  | nil => rfl
  | @cons x y xs ys hxy _ ih =>
    have htest : (x.test == a) = (y.test == b) :=
      (BEq.congr_left hxy.test).trans (BEq.congr_right hab)
    unfold targetOf? at ih ⊢
    rw [List.find?_cons, List.find?_cons, ← htest]
    cases hx : (x.test == a) with
    | true => exact congrArg some hxy.target
    | false => exact ih

theorem contains_congr {xs ys : List Constraint} (h : Forall₂ (fun a b => (a == b) = true) xs ys)
    {a b : Constraint} (hab : (a == b) = true) : xs.contains a = ys.contains b := by
  induction h with
  | nil => rfl
  | @cons x y xs ys hxy _ ih =>
    have htest : (a == x) = (b == y) := (BEq.congr_left hab).trans (BEq.congr_right hxy)
    rw [List.contains_cons, List.contains_cons, htest, ih]

namespace State

variable {H : Type}

structure Alike (s t : State H) : Prop where
  transitions : Forall₂ Transition.Alike s.transitions t.transitions
  rules : Forall₂ Transition.Alike s.rules t.rules
  fallback : s.fallback = t.fallback
  handlers : s.handlers = t.handlers
  limit : s.limit = t.limit
  reentry : Forall₂ (fun a b => (a == b) = true) s.reentry t.reentry

theorem Alike.refl (s : State H) : s.Alike s where
  transitions := List.forall₂_same.2 fun _ _ => ⟨BEq.refl _, rfl⟩
  rules := List.forall₂_same.2 fun _ _ => ⟨BEq.refl _, rfl⟩
  fallback := rfl
  handlers := rfl
  limit := rfl
  reentry := List.forall₂_same.2 fun _ _ => BEq.refl _

end State

namespace Graph

variable {H : Type}

structure Alike (g k : Graph H) : Prop where
  size_eq : g.size = k.size
  state : ∀ s, (g.state s).Alike (k.state s)

namespace Alike

variable {g k : Graph H} {a b : Constraint}

theorem refl (g : Graph H) : g.Alike g := ⟨rfl, fun _ => .refl _⟩

theorem contains_eq (h : g.Alike k) (s : StateId) : g.contains s = k.contains s := by
  unfold contains
  rw [h.size_eq]

theorem addState (h : g.Alike k) : g.addState.1 = k.addState.1 ∧ g.addState.2.Alike k.addState.2 := by
  refine ⟨congrArg StateId.mk h.size_eq, ?_, fun s => ?_⟩
  · rw [size_addState, size_addState, h.size_eq]
  · rw [state_addState, state_addState]
    exact h.state s

theorem update (h : g.Alike k) (s : StateId) {f f' : State H → State H}
    (hf : ∀ x y, x.Alike y → (f x).Alike (f' y)) : (g.update s f).Alike (k.update s f') := by
  refine ⟨by rw [size_update, size_update, h.size_eq], fun t => ?_⟩
  rw [state_update, state_update, h.contains_eq]
  split
  · exact hf _ _ (h.state s)
  · exact h.state t

theorem update_transitions (h : g.Alike k) (s : StateId) (hab : (a == b) = true) (t : StateId) :
    (g.update s fun x => { x with transitions := x.transitions ++ [⟨a, t⟩] }).Alike
      (k.update s fun x => { x with transitions := x.transitions ++ [⟨b, t⟩] }) := by
  refine h.update s fun x y hxy => { hxy with transitions := ?_ }
  exact List.rel_append hxy.transitions (.cons ⟨hab, rfl⟩ .nil)

theorem addTransition (h : g.Alike k) (s : StateId) (hab : (a == b) = true) :
    (g.addTransition s a).1 = (k.addTransition s b).1 ∧
      (g.addTransition s a).2.Alike (k.addTransition s b).2 := by
  unfold Graph.addTransition
  rw [Transition.targetOf?_congr (h.state s).transitions hab]
  obtain ⟨hid, hadd⟩ := h.addState
  cases Transition.targetOf? (k.state s).transitions b with
  | some target => exact ⟨rfl, h⟩
  | none =>
    dsimp only
    rw [hid]
    exact ⟨rfl, hadd.update_transitions s hab _⟩

theorem link (h : g.Alike k) (s : StateId) (hab : (a == b) = true) (t : StateId) :
    (g.link s a t).1 = (k.link s b t).1 ∧ (g.link s a t).2.Alike (k.link s b t).2 := by
  unfold Graph.link
  rw [Transition.targetOf?_congr (h.state s).transitions hab]
  cases Transition.targetOf? (k.state s).transitions b with
  | some existing => exact ⟨rfl, h⟩
  | none => exact ⟨rfl, h.update_transitions s hab t⟩

theorem addRule (h : g.Alike k) (s : StateId) (hab : (a == b) = true) :
    (g.addRule s a).1 = (k.addRule s b).1 ∧ (g.addRule s a).2.Alike (k.addRule s b).2 := by
  unfold Graph.addRule
  rw [Transition.targetOf?_congr (h.state s).rules hab]
  obtain ⟨hid, hadd⟩ := h.addState
  cases Transition.targetOf? (k.state s).rules b with
  | some target => exact ⟨rfl, h⟩
  | none =>
    dsimp only
    rw [hid]
    refine ⟨rfl, hadd.update s fun x y hxy => { hxy with rules := ?_ }⟩
    exact List.rel_append hxy.rules (.cons ⟨hab, rfl⟩ .nil)

theorem addMatch (h : g.Alike k) (s : StateId) (hab : (a == b) = true) :
    (g.addMatch s a).1 = (k.addMatch s b).1 ∧ (g.addMatch s a).2.Alike (k.addMatch s b).2 := by
  unfold Graph.addMatch
  obtain ⟨hid, hrule⟩ := h.addRule s hab
  generalize g.addRule s a = ruled at hid hrule ⊢
  generalize k.addRule s b = ruled' at hid hrule ⊢
  obtain ⟨target, ruled⟩ := ruled
  obtain ⟨target', ruled'⟩ := ruled'
  obtain rfl : target = target' := hid
  have hruled : ruled.Alike ruled' := hrule
  dsimp only
  rw [contains_congr (hruled.state target).reentry hab]
  split
  · exact ⟨rfl, hruled⟩
  · have hlooped := (hruled.link target hab target).2
    refine ⟨rfl, update ?_ target fun x y hxy => { hxy with reentry := ?_ }⟩
    · rw [(hlooped.state target).fallback]
      split
      · exact (hlooped.link _ hab target).2
      · exact hlooped
    · exact List.rel_append hxy.reentry (.cons hab .nil)

theorem links (h : g.Alike k) (s t : StateId) {as bs : List Constraint}
    (hab : Forall₂ (fun a b => (a == b) = true) as bs) :
    (as.foldl (fun g test => (g.link s test t).2) g).Alike
      (bs.foldl (fun g test => (g.link s test t).2) k) := by
  induction hab generalizing g k with
  | nil => exact h
  | cons hab _ ih => exact ih (h.link s hab t).2

theorem fallbackOf (h : g.Alike k) (s : StateId) :
    (g.fallbackOf s).1 = (k.fallbackOf s).1 ∧ (g.fallbackOf s).2.Alike (k.fallbackOf s).2 := by
  unfold Graph.fallbackOf
  rw [(h.state s).fallback]
  obtain ⟨hid, hadd⟩ := h.addState
  cases (k.state s).fallback with
  | some target => exact ⟨rfl, h⟩
  | none =>
    dsimp only
    rw [hid]
    have hdeclared : (g.addState.2.update s fun x => { x with fallback := some k.addState.1 }).Alike
        (k.addState.2.update s fun x => { x with fallback := some k.addState.1 }) :=
      hadd.update s fun x y hxy => { hxy with fallback := rfl }
    exact ⟨rfl, hdeclared.links _ _ (hdeclared.state s).reentry⟩

theorem extend (h : g.Alike k) (s : StateId) {x y : Hop} (hxy : x.Same y) :
    (g.extend s x).1 = (k.extend s y).1 ∧ (g.extend s x).2.Alike (k.extend s y).2 := by
  obtain ⟨hdeep, htest⟩ := hxy
  unfold Graph.extend
  rw [hdeep, Constraint.isTrivial_congr htest]
  split
  · split
    · exact h.fallbackOf s
    · exact h.addMatch s htest
  · exact h.addTransition s htest

theorem attach (h : g.Alike k) (s : StateId) (handler : H) :
    (g.attach s handler).Alike (k.attach s handler) :=
  h.update s fun x y hxy => { hxy with handlers := by rw [hxy.handlers] }

end Alike

/-! ### Chains written in another way -/

theorem hop?_congr (g : Graph H) (s : StateId) {x y : Hop} (hxy : x.Same y) :
    g.hop? s x = g.hop? s y := by
  obtain ⟨hdeep, htest⟩ := hxy
  have halike := State.Alike.refl (g.state s)
  unfold hop?
  rw [hdeep, Constraint.isTrivial_congr htest]
  split
  · split
    · rfl
    · exact Transition.targetOf?_congr halike.rules htest
  · exact Transition.targetOf?_congr halike.transitions htest

theorem reach?_congr (g : Graph H) (s : StateId) {chain spelled : Chain}
    (h : Forall₂ Hop.Same chain spelled) : g.reach? s chain = g.reach? s spelled := by
  induction h generalizing s with
  | nil => rfl
  | cons hxy _ ih =>
    rw [reach?, reach?, g.hop?_congr s hxy]
    exact congrArg _ (funext ih)

end Graph

/-- Models that differ in qualifiers of names only: the same states, edges in the same order, and
handlers. -/
structure Model.Alike {B : Type} (m k : Model B) : Prop where
  graph : m.graph.Alike k.graph
  root : m.root = k.root
  observers : m.observers = k.observers

end StreamSelect
