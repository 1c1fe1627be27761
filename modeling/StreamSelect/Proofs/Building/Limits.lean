import StreamSelect.Proofs.Building.Fixpoint
import StreamSelect.Proofs.Building.Memory

/-! Limits of states. Declarations without limits change the limit of no state, whatever they compile,
attach or link, and neither do handlers that declare without limits in turn. -/
namespace StreamSelect

/-! ### Automata -/

/-- A later automaton that limits the states of the earlier one as this does, and no others. -/
def Graph.SameLimits {H : Type} (g later : Graph H) : Prop :=
  ∀ s, (later.state s).limit = (g.state s).limit

namespace Graph.SameLimits

variable {H : Type}

theorem refl (g : Graph H) : g.SameLimits g := fun _ => rfl

theorem trans {a b c : Graph H} (h : a.SameLimits b) (k : b.SameLimits c) : a.SameLimits c :=
  fun s => (k s).trans (h s)

theorem addState (g : Graph H) : g.SameLimits g.addState.2 :=
  fun s => by rw [state_addState]

theorem update (g : Graph H) (s : StateId) {f : State H → State H}
    (hf : ∀ x, (f x).limit = x.limit) : g.SameLimits (g.update s f) :=
  rel_state_update (R := fun x y => y.limit = x.limit) (hf _) fun _ => rfl

theorem of_edit {g later : Graph H} (h : g.EdgeEdit later) : g.SameLimits later := by
  cases h with
  | addState => exact addState g
  | transition | rule | fallback | reentry =>
    apply update
    exact fun _ => rfl

theorem of_edits {g later : Graph H} (h : g.EdgeEdits later) : g.SameLimits later := by
  induction h with
  | refl => exact refl g
  | tail _ hedit ih => exact ih.trans (of_edit hedit)

theorem addTransition (g : Graph H) (s : StateId) (test : Constraint) :
    g.SameLimits (g.addTransition s test).2 :=
  of_edits (g.edges_addTransition s test)

theorem link (g : Graph H) (s : StateId) (test : Constraint) (t : StateId) :
    g.SameLimits (g.link s test t).2 :=
  of_edits (g.edges_link s test t)

theorem extend (g : Graph H) (s : StateId) (h : Hop) : g.SameLimits (g.extend s h).2 :=
  of_edits (g.edges_extend s h)

theorem attach (g : Graph H) (s : StateId) (handler : H) : g.SameLimits (g.attach s handler) :=
  update _ _ fun _ => rfl

end Graph.SameLimits

/-! ### Scopes -/

namespace Builder

variable {B : Type} {b : Builder B}

/-- No selector waits for a state to limit. -/
def Unlimited (b : Builder B) : Prop := ∀ id s, b.selector? id = some s → s.limit = none

/-- A later stage of a scope without limits, which has limited no state. -/
structure KeepsLimits (b later : Builder B) : Prop where
  states : b.graph.SameLimits later.graph
  unlimited : later.Unlimited

namespace KeepsLimits

theorem trans {a b c : Builder B} (h : a.KeepsLimits b) (k : b.KeepsLimits c) : a.KeepsLimits c :=
  ⟨h.states.trans k.states, k.unlimited⟩

end KeepsLimits

namespace Unlimited

/-- Selectors stay as they are. -/
theorem keeps_of_same (h : b.Unlimited) {later : Builder B}
    (hg : b.graph.SameLimits later.graph) (hs : later.selectors = b.selectors) :
    b.KeepsLimits later := by
  refine ⟨hg, fun id s hid => h id s ?_⟩
  rwa [selector?, hs] at hid

theorem keeps (h : b.Unlimited) : b.KeepsLimits b := h.keeps_of_same (.refl _) rfl

theorem keeps_compile (h : b.Unlimited) (base : StateId) (id : SelectorId) :
    b.KeepsLimits (b.compile base id).2 := by
  cases hs : b.selector? id with
  | none =>
    unfold compile
    rw [hs]
    exact h.keeps
  | some s =>
    rw [compile_of_unlimited hs (h id s hs)]
    refine ⟨.extend _ _ _, fun other t ht => ?_⟩
    obtain ⟨old, hold, ⟨-, rfl⟩ | ⟨-, rfl⟩⟩ := exists_of_selector?_compiledTo ht
    · exact h other t hold
    · exact h other old hold

theorem keeps_stateOf (h : b.Unlimited) (cursor : Option SelectorId) :
    b.KeepsLimits (b.stateOf cursor).2 := by
  unfold stateOf
  generalize b.uncompiled cursor [] = pending
  obtain ⟨base, path⟩ := pending
  dsimp only
  induction path generalizing b base with
  | nil => exact h.keeps
  | cons id path ih =>
    have hk := h.keeps_compile base id
    exact hk.trans (ih hk.unlimited _)

theorem keeps_declare (h : b.Unlimited) (parent : Option SelectorId) (kind : SelectorKind)
    (constraints : List Constraint) : b.KeepsLimits (b.declare parent kind constraints).2 := by
  unfold declare
  split
  · exact h.keeps
  · refine ⟨.refl _, fun id s hid => ?_⟩
    rcases selector?_push rfl hid with hid | ⟨-, rfl⟩
    · exact h id s hid
    · rfl

theorem keeps_walk (h : b.Unlimited) (cursor : Option SelectorId) {path : List Step}
    (hp : path.all Step.isUnlimited = true) : b.KeepsLimits (b.walk cursor path).2 := by
  induction path generalizing b cursor with
  | nil => exact h.keeps
  | cons step path ih =>
    rw [List.all_cons, Bool.and_eq_true] at hp
    cases step with
    | select kind constraints =>
      have hk := h.keeps_declare cursor kind constraints
      exact hk.trans (ih hk.unlimited _ hp.2)
    | only n => cases hp.1

theorem keeps_link (h : b.Unlimited) {s : StateId} {test : Constraint} {target : AttachPoint}
    {later : Builder B} (hl : b.link s test target = .ok later) : b.KeepsLimits later := by
  have hg : b.graph.SameLimits (b.graph.link s test target.state).2 := .link _ _ _ _
  unfold link at hl
  split at hl
  · dsimp only at hl
    split at hl
    all_goals
      cases hl
      exact h.keeps_of_same hg rfl
  · cases hl

theorem keeps_act (h : b.Unlimited) (cursor : Option SelectorId) {action : Action B}
    (ha : action.isUnlimited = true) : b.KeepsLimits (b.act cursor action).2 := by
  have hs := h.keeps_stateOf cursor
  cases action with
  | compile => exact hs
  | inspect view => cases view <;> exact h.keeps
  | only n => cases ha
  | attach behaviour =>
    have hcopy : b.KeepsLimits (b.freshCopy behaviour).2 := h.keeps_of_same (.refl _) rfl
    have hs := hcopy.unlimited.keeps_stateOf cursor
    exact (hcopy.trans hs).trans (hs.unlimited.keeps_of_same (.attach _ _ _) rfl)
  | share behaviour => exact hs.trans (hs.unlimited.keeps_of_same (.attach _ _ _) rfl)
  | mark key => exact hs.trans (hs.unlimited.keeps_of_same (.refl _) rfl)
  | link test key =>
    simp only [act]
    split
    · exact h.keeps
    · split
      · exact hs.trans (hs.unlimited.keeps_link ‹_›)
      · exact hs
  | bookmark key => exact h.keeps_of_same (.refl _) rfl
  | reject e => exact h.keeps

theorem keeps_actAll (h : b.Unlimited) (cursor : Option SelectorId) {actions : List (Action B)}
    (ha : actions.all Action.isUnlimited = true) : b.KeepsLimits (b.actAll cursor actions).2 := by
  induction actions generalizing b with
  | nil => exact h.keeps
  | cons action actions ih =>
    rw [List.all_cons, Bool.and_eq_true] at ha
    have hk := h.keeps_act cursor ha.1
    simp only [actAll]
    generalize b.act cursor action = done at hk ⊢
    obtain ⟨answer, later⟩ := done
    cases answer with
    | error e => exact hk
    | ok answer => exact hk.trans (ih hk.unlimited ha.2)

theorem keeps_perform (h : b.Unlimited) {d : Declaration B} (hd : d.isUnlimited = true) :
    b.KeepsLimits (b.perform d).2 := by
  obtain ⟨statement, optional⟩ := d
  show b.KeepsLimits (b.carryOut statement).2
  cases statement with
  | select origin path actions =>
    have hparts : path.all Step.isUnlimited = true ∧ actions.all Action.isUnlimited = true :=
      (Bool.and_eq_true _ _).mp hd
    have hw := h.keeps_walk (b.start origin) hparts.1
    simp only [carryOut]
    generalize b.walk (b.start origin) path = walked at hw ⊢
    obtain ⟨reached, later⟩ := walked
    cases reached with
    | error e => exact hw
    | ok cursor => exact hw.trans (hw.unlimited.keeps_actAll cursor hparts.2)
  | observe behaviour => exact h.keeps_of_same (.refl _) rfl
  | landmark key point => exact h.keeps_of_same (.refl _) rfl
  | inspect view => exact h.keeps

theorem keeps_performAll (h : b.Unlimited) {ds : List (Declaration B)}
    (hd : ∀ d ∈ ds, d.isUnlimited = true) : b.KeepsLimits (b.performAll ds).2 := by
  induction ds generalizing b with
  | nil => exact h.keeps
  | cons d ds ih =>
    have hk := h.keeps_perform (hd d List.mem_cons_self)
    rw [performAll]
    split
    rename_i outcome later hp
    rw [hp] at hk
    split
    · exact hk
    · exact hk.trans (ih hk.unlimited fun d hm => hd d (List.mem_cons_of_mem _ hm))

end Unlimited

/-- A scope starts without selectors. -/
theorem unlimited_nested (w : Workspace B) (root : StateId) : (nested w root).Unlimited :=
  fun _ _ hid => by cases hid

end Builder

/-! ### Constructions -/

namespace Construction

open Relation (ReflTransGen)

variable {B : Type} {declared : B → Nat → List (Declaration B)} {budget : Nat}

/-- Handlers that declare without limits limit no state. -/
theorem sameLimits_steps (hd : ∀ x k, ∀ d ∈ declared x k, d.isUnlimited = true)
    {c later : Construction B} (hs : ReflTransGen (Step declared budget) c later) :
    c.workspace.graph.SameLimits later.workspace.graph := by
  induction hs with
  | refl => exact .refl _
  | @tail before next _ hstep ih =>
    refine ih.trans ?_
    cases hstep with
    | skip _ _ => exact .refl _
    | @build a hdue _ =>
      exact ((Builder.unlimited_nested before.workspace a.state).keeps_performAll (hd _ _)).states

end Construction
end StreamSelect
