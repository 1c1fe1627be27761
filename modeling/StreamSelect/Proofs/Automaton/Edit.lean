import Mathlib.Logic.Relation
import StreamSelect.Proofs.Automaton.Growth

/-! Edits of an automaton. Whatever is done to one is a list of a few edits, and each of them leaves
every state where it is, with all that it has: edges and handlers come behind those there are, a
fallback is given once, and a limit is replaced by a limit only. -/
namespace StreamSelect

open Relation (ReflTransGen)

theorem Transition.follow_of_prefix {fs : Filters} {e : StartElement} {edges later : List Transition}
    (h : edges <+: later) {t : StateId} (ht : follow fs e edges = some t) :
    follow fs e later = some t := by
  obtain ⟨new, rfl⟩ := h
  obtain ⟨edge, he, rfl⟩ := Option.map_eq_some_iff.1 ht
  rw [follow, List.find?_append, he]
  rfl

namespace State

variable {H : Type}

/-- A state with all that another has; only the limit may be another one. -/
structure Lasts (s later : State H) : Prop extends s.Extends later where
  handlers : s.handlers <+: later.handlers
  reentry : s.reentry <+: later.reentry
  limited : s.limit.isSome = true → later.limit.isSome = true

namespace Lasts

variable {s later last : State H}

theorem refl (s : State H) : s.Lasts s := ⟨.refl s, List.prefix_rfl, List.prefix_rfl, id⟩

theorem trans (h : s.Lasts later) (k : later.Lasts last) : s.Lasts last :=
  ⟨h.toExtends.trans k.toExtends, h.handlers.trans k.handlers, h.reentry.trans k.reentry,
    fun hs => k.limited (h.limited hs)⟩

/-- What an element was led to it is led to. -/
theorem follow (h : s.Lasts later) {fs : Filters} {e : StartElement} {t : StateId}
    (ht : s.follow fs e = some t) : later.follow fs e = some t :=
  Transition.follow_of_prefix h.transitions ht

/-- What a rule with a test led to it leads to. -/
theorem followRules (h : s.Lasts later) {fs : Filters} {e : StartElement} {t : StateId}
    (ht : Transition.follow fs e s.rules = some t) : later.followRules fs e = some t := by
  rw [State.followRules, Transition.follow_of_prefix h.rules ht]
  rfl

end Lasts
end State

namespace Graph

variable {H : Type}

/-- One edit of an automaton. -/
inductive Edit (g : Graph H) : Graph H → Prop
  | addState : Edit g g.addState.2
  | transition (s : StateId) (edge : Transition) :
    Edit g (g.update s fun x => { x with transitions := x.transitions ++ [edge] })
  | rule (s : StateId) (edge : Transition) :
    Edit g (g.update s fun x => { x with rules := x.rules ++ [edge] })
  | fallback {s : StateId} (t : StateId) : (g.state s).fallback = none →
    Edit g (g.update s fun x => { x with fallback := some t })
  | reentry (s : StateId) (test : Constraint) :
    Edit g (g.update s fun x => { x with reentry := x.reentry ++ [test] })
  | handler (s : StateId) (handler : H) :
    Edit g (g.update s fun x => { x with handlers := x.handlers ++ [handler] })
  | limit (s : StateId) (limit : Nat) :
    Edit g (g.update s fun x => { x with limit := some limit })

/-- Any number of edits. -/
abbrev Edits : Graph H → Graph H → Prop := ReflTransGen Edit

/-! ### Operations are edits -/

theorem EdgeEdit.edit {g later : Graph H} (h : g.EdgeEdit later) : g.Edit later := by
  cases h with
  | addState => exact .addState
  | transition s edge => exact .transition s edge
  | rule s edge => exact .rule s edge
  | fallback t hn => exact .fallback t hn
  | reentry s test => exact .reentry s test

theorem EdgeEdits.edits {g later : Graph H} (h : g.EdgeEdits later) : g.Edits later :=
  ReflTransGen.mono (fun _ _ hedit => EdgeEdit.edit hedit) _ _ h

theorem edits_link (g : Graph H) (s : StateId) (test : Constraint) (t : StateId) :
    g.Edits (g.link s test t).2 :=
  (g.edges_link s test t).edits

theorem edits_extend (g : Graph H) (s : StateId) (h : Hop) : g.Edits (g.extend s h).2 :=
  (g.edges_extend s h).edits

/-! ### Edits leave what there is -/

/-- A later automaton: every state is where it was, with all that it had. -/
structure Lasts (g later : Graph H) : Prop where
  size_le : g.size ≤ later.size
  state : ∀ s, (g.state s).Lasts (later.state s)

namespace Lasts

variable {g later last : Graph H}

theorem refl (g : Graph H) : g.Lasts g := ⟨Nat.le_refl _, fun _ => .refl _⟩

theorem trans (h : g.Lasts later) (k : later.Lasts last) : g.Lasts last :=
  ⟨Nat.le_trans h.size_le k.size_le, fun s => (h.state s).trans (k.state s)⟩

theorem contains (h : g.Lasts later) {s : StateId} (hs : g.contains s = true) :
    later.contains s = true :=
  decide_eq_true (Nat.lt_of_lt_of_le (of_decide_eq_true hs) h.size_le)

theorem update {s : StateId} {f : State H → State H} (h : (g.state s).Lasts (f (g.state s))) :
    g.Lasts (g.update s f) := by
  exact ⟨Nat.le_of_eq (size_update g s f).symm, rel_state_update h .refl⟩

/-- An element that a transition took is taken to the same state. -/
theorem resolve (h : g.Lasts later) {fs : Filters} {e : StartElement} {s t : StateId}
    (ht : (g.state s).follow fs e = some t) (scope : List StateId) :
    later.resolve fs s scope e = t := by
  rw [Graph.resolve, (h.state s).follow ht]

end Lasts

theorem Edit.lasts {g later : Graph H} (h : g.Edit later) : g.Lasts later := by
  cases h with
  | addState =>
    refine ⟨by rw [size_addState]; exact Nat.le_succ _, fun s => ?_⟩
    rw [state_addState]
    exact .refl _
  | transition s edge => exact .update { State.Lasts.refl _ with transitions := List.prefix_append _ _ }
  | rule s edge => exact .update { State.Lasts.refl _ with rules := List.prefix_append _ _ }
  | fallback t hn =>
    refine .update { State.Lasts.refl _ with fallback := fun x hx => ?_ }
    rw [hn] at hx
    cases hx
  | reentry s test => exact .update { State.Lasts.refl _ with reentry := List.prefix_append _ _ }
  | handler s handler => exact .update { State.Lasts.refl _ with handlers := List.prefix_append _ _ }
  | limit s n => exact .update { State.Lasts.refl _ with limited := fun _ => rfl }

theorem Edits.lasts {g later : Graph H} (h : g.Edits later) : g.Lasts later := by
  induction h with
  | refl => exact .refl g
  | tail _ hstep ih => exact ih.trans hstep.lasts

end Graph
end StreamSelect
