import Mathlib.Logic.Relation
import StreamSelect.Automaton.Graph

/-! Edits of the edges of an automaton. To declare edges is to add states and to write edges behind
those there are: every operation that does so is a list of a few edits, so what holds of each edit
holds of all operations. -/
namespace StreamSelect.Graph

open Relation (ReflTransGen)

variable {H : Type}

theorem state_update (g : Graph H) (s t : StateId) (f : State H → State H) :
    (g.update s f).state t = if t = s ∧ g.contains s = true then f (g.state s) else g.state t := by
  by_cases ht : t = s
  · subst ht
    by_cases hc : g.contains t = true
    · rw [state_update_self hc, if_pos ⟨rfl, hc⟩]
    · rw [if_neg fun h => hc h.2]
      have hs : ¬ t.index < g.states.size := fun h => hc (decide_eq_true h)
      simp [state, update, hs]
  · rw [state_update_of_ne ht, if_neg fun h => ht h.1]

/-- What relates a state to its new version, and every state to itself, relates all states to what
becomes of them. -/
theorem rel_state_update {g : Graph H} {s : StateId} {f : State H → State H}
    {R : State H → State H → Prop} (hchange : R (g.state s) (f (g.state s)))
    (hstay : ∀ x, R x x) (t : StateId) : R (g.state t) ((g.update s f).state t) := by
  rw [state_update]
  split
  · rename_i ht
    rwa [ht.1]
  · exact hstay _

/-- One edit of the edges. -/
inductive EdgeEdit (g : Graph H) : Graph H → Prop
  | addState : EdgeEdit g g.addState.2
  | transition (s : StateId) (edge : Transition) :
    EdgeEdit g (g.update s fun x => { x with transitions := x.transitions ++ [edge] })
  | rule (s : StateId) (edge : Transition) :
    EdgeEdit g (g.update s fun x => { x with rules := x.rules ++ [edge] })
  | fallback {s : StateId} (t : StateId) : (g.state s).fallback = none →
    EdgeEdit g (g.update s fun x => { x with fallback := some t })
  | reentry (s : StateId) (test : Constraint) :
    EdgeEdit g (g.update s fun x => { x with reentry := x.reentry ++ [test] })

/-- Any number of edits. -/
abbrev EdgeEdits : Graph H → Graph H → Prop := ReflTransGen EdgeEdit

theorem edges_addTransition (g : Graph H) (s : StateId) (test : Constraint) :
    g.EdgeEdits (g.addTransition s test).2 := by
  unfold addTransition
  split
  · exact .refl
  · exact .tail (.single .addState) (.transition s _)

theorem edges_link (g : Graph H) (s : StateId) (test : Constraint) (t : StateId) :
    g.EdgeEdits (g.link s test t).2 := by
  unfold link
  split
  · exact .refl
  · exact .single (.transition s _)

theorem edges_addRule (g : Graph H) (s : StateId) (test : Constraint) :
    g.EdgeEdits (g.addRule s test).2 := by
  unfold addRule
  split
  · exact .refl
  · exact .tail (.single .addState) (.rule s _)

theorem edges_addMatch (g : Graph H) (s : StateId) (test : Constraint) :
    g.EdgeEdits (g.addMatch s test).2 := by
  unfold addMatch
  have hr := g.edges_addRule s test
  dsimp only
  generalize g.addRule s test = ruled at hr ⊢
  split
  · exact hr
  · have hl := ruled.2.edges_link ruled.1 test ruled.1
    generalize (ruled.2.link ruled.1 test ruled.1).2 = looped at hl ⊢
    refine .tail (hr.trans (hl.trans ?_)) (.reentry _ test)
    split
    · exact looped.edges_link _ _ _
    · exact .refl

theorem edges_links (g : Graph H) (s t : StateId) (tests : List Constraint) :
    g.EdgeEdits (tests.foldl (fun h test => (h.link s test t).2) g) := by
  induction tests generalizing g with
  | nil => exact .refl
  | cons test tests ih => exact (g.edges_link s test t).trans (ih _)

theorem edges_fallbackOf (g : Graph H) (s : StateId) : g.EdgeEdits (g.fallbackOf s).2 := by
  unfold fallbackOf
  split
  · exact .refl
  · rename_i hn
    have hnone : (g.addState.2.state s).fallback = none := by rw [state_addState, hn]
    exact ReflTransGen.trans (.tail (.single .addState) (.fallback _ hnone)) (edges_links _ _ _ _)

end StreamSelect.Graph
