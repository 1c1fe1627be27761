import Mathlib.Data.List.Induction
import StreamSelect.Proofs.Building.Fixpoint
import StreamSelect.Proofs.Building.Memory

/-! The order of handlers. The handlers of a state are those attached to it, in the order in which
they were attached; a declaration adds the handlers it names behind those there are. A construction
whose handlers declare nothing leaves the automaton as it is. -/
namespace StreamSelect

/-- Without its repetitions a list is not longer. -/
theorem length_eraseDups_le {α : Type} [BEq α] [LawfulBEq α] (xs : List α) :
    xs.eraseDups.length ≤ xs.length := by
  induction xs using List.reverseRecOn with
  | nil => simp
  | append_singleton xs a ih =>
    rw [List.length_append]
    by_cases ha : a ∈ xs
    · rw [eraseDups_concat_of_mem ha]
      exact Nat.le_add_right_of_le ih
    · rw [eraseDups_concat_of_not_mem ha, List.length_append]
      exact Nat.add_le_add_right ih _

variable {B : Type}

/-- The handlers that attachments give a state, in order. -/
def handlersAt (attachments : List (Attachment B)) (s : StateId) : List (HandlerRef B) :=
  (attachments.filter (·.state == s)).map (·.handler)

theorem handlersAt_concat (attachments : List (Attachment B)) (a : Attachment B) (s : StateId) :
    handlersAt (attachments ++ [a]) s =
      handlersAt attachments s ++ if a.state = s then [a.handler] else [] := by
  unfold handlersAt
  rw [List.filter_append, List.map_append]
  by_cases hs : a.state = s <;> simp [hs]

/-- States have their handlers in the order of the attachments. -/
def Workspace.InOrder (w : Workspace B) : Prop :=
  ∀ s, (w.graph.state s).handlers = handlersAt w.attachments.toList s

theorem Workspace.InOrder.handlers_of_single {w : Workspace B} (h : w.InOrder) {x : StateId}
    {handler : HandlerRef B} (ha : w.attachments = #[⟨x, handler⟩]) (s : StateId) :
    (w.graph.state s).handlers = if s = x then [handler] else [] := by
  rw [h s, ha]
  by_cases hs : s = x
  · simp [handlersAt, hs]
  · simp [handlersAt, hs, Ne.symm hs]

/-- The handlers that an action attaches. -/
def Action.attached : Action B → List B
  | .attach behaviour | .share behaviour => [behaviour]
  | _ => []

/-- The handlers of elements that a declaration attaches. -/
def Declaration.attached (d : Declaration B) : List B :=
  match d.statement with
  | .select _ _ actions => actions.flatMap Action.attached
  | _ => []

/-- A later stage in which handlers that satisfy `P` were attached, behind those there were. -/
structure Workspace.Attaches (P : B → Prop) (w later : Workspace B) : Prop where
  inOrder : w.InOrder → later.InOrder
  attachments : ∃ new, later.attachments.toList = w.attachments.toList ++ new ∧
    ∀ a ∈ new, P a.handler.behaviour

namespace Workspace.Attaches

variable {P : B → Prop} {w later last : Workspace B}

theorem trans (h : w.Attaches P later) (k : later.Attaches P last) : w.Attaches P last := by
  obtain ⟨xs, hxs, hx⟩ := h.attachments
  obtain ⟨ys, hys, hy⟩ := k.attachments
  refine ⟨fun ho => k.inOrder (h.inOrder ho), xs ++ ys, ?_, fun a ha => ?_⟩
  · rw [hys, hxs, List.append_assoc]
  · rcases List.mem_append.1 ha with ha | ha
    · exact hx a ha
    · exact hy a ha

/-- Nothing is attached where no state gets a handler. -/
theorem of_same (hh : ∀ s, (later.graph.state s).handlers = (w.graph.state s).handlers)
    (ha : later.attachments = w.attachments) : w.Attaches P later := by
  refine ⟨fun ho s => ?_, [], by rw [ha, List.append_nil], fun _ ha => nomatch ha⟩
  rw [hh, ha]
  exact ho s

theorem refl (w : Workspace B) : w.Attaches P w := of_same (fun _ => rfl) rfl

end Workspace.Attaches

namespace Builder

variable {b : Builder B} {P : B → Prop}

/-- What is attached between two stages of a scope. -/
abbrev Attaches (P : B → Prop) (b later : Builder B) : Prop :=
  b.workspace.Attaches P later.workspace

theorem attaches_limitState (b : Builder B) (s : StateId) (limit : Nat) :
    Attaches P b (b.limitState s limit) := by
  have hh : ∀ t, ((b.graph.setLimit s limit).state t).handlers = (b.graph.state t).handlers :=
    fun t => b.graph.handlers_update s (f := fun x => { x with limit := some limit })
      (fun _ => rfl) t
  obtain ⟨records, heq⟩ := b.limitState_eq s limit
  rw [heq]
  exact .of_same hh rfl

theorem attaches_limit {cursor : Option SelectorId} {n : Nat} {later : Builder B}
    (hl : b.limit cursor n = .ok later) : Attaches P b later := by
  have hpending : ∀ id, Attaches P b (b.updateSelector id fun s => { s with limit := some n }) :=
    fun id => .of_same (fun _ => rfl) rfl
  unfold limit at hl
  split at hl
  · cases hl
  split at hl
  · split at hl
    · cases hl
    · cases hl
      exact b.attaches_limitState _ _
  · split at hl
    · cases hl
      exact (hpending _).trans (attaches_limitState _ _ _)
    · cases hl
      exact hpending _

theorem Fit.attaches_compile (h : b.Fit 0) {base : StateId} (hb : b.graph.Within 0 base)
    (id : SelectorId) : Attaches P b (b.compile base id).2 := by
  unfold compile
  split
  · exact .refl _
  · rename_i s hs
    have hcoherent : b.graph.Coherent 0 := h.workspace.coherent
    have hcompiled : Attaches P b (b.compiledTo id (edge b.graph base s.kind s.test)) := by
      rw [edge_selector]
      exact .of_same (hcoherent.handlers_extend hb s.hop) rfl
    dsimp only
    split
    · exact hcompiled.trans (attaches_limitState _ _ _)
    · exact hcompiled

theorem Fit.attaches_stateOf (h : b.Fit 0) (cursor : Option SelectorId) :
    Attaches P b (b.stateOf cursor).2 := by
  have hb := h.within_uncompiled cursor []
  unfold stateOf
  generalize b.uncompiled cursor [] = pending at hb ⊢
  obtain ⟨base, path⟩ := pending
  dsimp only at hb ⊢
  induction path generalizing b base with
  | nil => exact .refl _
  | cons id path ih =>
    rw [List.foldl_cons]
    obtain ⟨hk, hreached⟩ := h.becomes_compile hb id
    exact (h.attaches_compile hb id).trans (ih hk.fit _ hreached)

theorem attaches_attach {s : StateId} (hs : b.graph.contains s = true) {handler : HandlerRef B}
    (hp : P handler.behaviour) : Attaches P b (b.attach s handler) := by
  refine ⟨fun ho t => ?_, [⟨s, handler⟩], Array.toList_push, fun a ha => ?_⟩
  · have hold := ho t
    show ((b.graph.attach s handler).state t).handlers =
      handlersAt (b.workspace.attachments.push ⟨s, handler⟩).toList t
    rw [Array.toList_push, handlersAt_concat, ← hold, Graph.attach, Graph.state_update]
    by_cases ht : t = s
    · subst ht
      rw [if_pos ⟨rfl, hs⟩, if_pos rfl]
      rfl
    · rw [if_neg fun h => ht h.1, if_neg fun h => ht h.symm, List.append_nil]
      rfl
  · rw [List.mem_singleton.1 ha]
    exact hp

theorem attaches_declare (b : Builder B) (parent : Option SelectorId) (kind : SelectorKind)
    (constraints : List Constraint) : Attaches P b (b.declare parent kind constraints).2 := by
  unfold Attaches
  rw [workspace_declare]
  exact .refl _

theorem attaches_walk (b : Builder B) (cursor : Option SelectorId) (path : List Step) :
    Attaches P b (b.walk cursor path).2 := by
  induction path generalizing b cursor with
  | nil => exact .refl _
  | cons step path ih =>
    cases step with
    | select kind constraints =>
      exact (b.attaches_declare cursor kind constraints).trans (ih _ _)
    | only n =>
      simp only [walk]
      split
      · exact (attaches_limit ‹_›).trans (ih _ _)
      · exact .refl _

theorem attaches_link {s : StateId} {test : Constraint} {target : AttachPoint} {later : Builder B}
    (hl : b.link s test target = .ok later) : Attaches P b later := by
  have hh := b.graph.handlers_link s test target.state
  unfold link at hl
  split at hl
  · dsimp only at hl
    split at hl
    all_goals
      cases hl
      exact .of_same hh rfl
  · cases hl

/-! ### Declarations -/

namespace Fit

theorem attaches_act (h : b.Fit 0) (cursor : Option SelectorId) {action : Action B}
    (ha : ∀ x ∈ action.attached, P x) : Attaches P b (b.act cursor action).2 := by
  cases action with
  | compile => exact h.attaches_stateOf cursor
  | inspect view => cases view <;> exact .refl _
  | only n =>
    simp only [act]
    split
    · exact attaches_limit ‹_›
    · exact .refl _
  | attach behaviour =>
    have hcopy : b.Becomes 0 [] (b.freshCopy behaviour).2 :=
      h.becomes_of_same rfl rfl rfl rfl rfl rfl h.selectors
    have hfresh : Attaches P b (b.freshCopy behaviour).2 := .of_same (fun _ => rfl) rfl
    obtain ⟨-, hs⟩ := hcopy.fit.becomes_stateOf cursor
    exact (hfresh.trans (hcopy.fit.attaches_stateOf cursor)).trans
      (attaches_attach hs.2 (ha behaviour List.mem_cons_self))
  | share behaviour =>
    obtain ⟨-, hs⟩ := h.becomes_stateOf cursor
    exact (h.attaches_stateOf cursor).trans
      (attaches_attach hs.2 (ha behaviour List.mem_cons_self))
  | mark key => exact (h.attaches_stateOf cursor).trans (.of_same (fun _ => rfl) rfl)
  | link test key =>
    simp only [act]
    split
    · exact .refl _
    · split
      · exact (h.attaches_stateOf cursor).trans (attaches_link ‹_›)
      · exact h.attaches_stateOf cursor
  | bookmark key => exact .of_same (fun _ => rfl) rfl
  | reject e => exact .refl _

theorem attaches_actAll (h : b.Fit 0) (cursor : Option SelectorId) {actions : List (Action B)}
    (ha : ∀ x ∈ actions.flatMap Action.attached, P x) :
    Attaches P b (b.actAll cursor actions).2 := by
  induction actions generalizing b with
  | nil => exact .refl _
  | cons action actions ih =>
    rw [List.flatMap_cons] at ha
    have hk := h.attaches_act cursor fun x hx => ha x (List.mem_append_left _ hx)
    have hfit := (h.becomes_act cursor action).fit
    simp only [actAll]
    generalize b.act cursor action = done at hk hfit ⊢
    obtain ⟨answer, later⟩ := done
    cases answer with
    | error e => exact hk
    | ok answer => exact hk.trans (ih hfit fun x hx => ha x (List.mem_append_right _ hx))

theorem attaches_perform (h : b.Fit 0) {d : Declaration B} (hd : ∀ x ∈ d.attached, P x) :
    Attaches P b (b.perform d).2 := by
  obtain ⟨statement, optional⟩ := d
  show Attaches P b (b.carryOut statement).2
  cases statement with
  | select origin path actions =>
    have hw : Attaches P b (b.walk (b.start origin) path).2 :=
      b.attaches_walk _ path
    have hfit := (h.becomes_walk (b.start origin) path).fit
    simp only [carryOut]
    generalize b.walk (b.start origin) path = walked
      at hw hfit ⊢
    obtain ⟨reached, later⟩ := walked
    cases reached with
    | error e => exact hw
    | ok cursor => exact hw.trans (hfit.attaches_actAll cursor hd)
  | observe behaviour => exact .of_same (fun _ => rfl) rfl
  | landmark key point => exact .of_same (fun _ => rfl) rfl
  | inspect view => exact .refl _

theorem attaches_performAll (h : b.Fit 0) {ds : List (Declaration B)}
    (hd : ∀ d ∈ ds, ∀ x ∈ d.attached, P x) : Attaches P b (b.performAll ds).2 := by
  induction ds generalizing b with
  | nil => exact .refl _
  | cons d ds ih =>
    have hk := h.attaches_perform (hd d List.mem_cons_self)
    have hfit := (h.becomes_perform fun _ _ _ _ => Nat.zero_le _ : b.Becomes 0 _ (b.perform d).2).fit
    rw [performAll]
    split
    rename_i outcome later hp
    rw [hp] at hk hfit
    split
    · exact hk
    · exact hk.trans (ih hfit fun d hm => hd d (List.mem_cons_of_mem _ hm))

end Fit
end Builder

/-! ### Constructions -/

namespace Construction

open Relation (ReflTransGen)

variable {declared : B → Nat → List (Declaration B)} {budget : Nat}

/-- The handlers of a workspace declare nothing of their own. -/
def Plain (declared : B → Nat → List (Declaration B)) (w : Workspace B) : Prop :=
  ∀ a ∈ w.attachments, ∀ k, declared a.handler.behaviour k = []

theorem workspace_steps {w : Workspace B} (hp : Plain declared w) {c : Construction B}
    (hs : ReflTransGen (Step declared budget) { workspace := w } c) : c.workspace = w := by
  induction hs with
  | refl => rfl
  | @tail before next _ hstep ih =>
    cases hstep with
    | skip _ _ => exact ih
    | @build a hdue _ =>
      have ha := Array.mem_of_getElem? hdue.next
      rw [ih] at ha
      show (before.scope declared a).workspace = w
      rw [scope, hp a ha]
      exact ih

variable [DecidableEq B]

/-- Along a construction the handlers keep their order; new ones are those that handlers name. -/
theorem attaches_steps {P : B → Prop} {c later : Construction B}
    (hd : ∀ x k, ∀ d ∈ declared x k, ∀ y ∈ d.attached, P y) (h : c.Orderly)
    (hs : ReflTransGen (Step declared budget) c later) :
    c.workspace.Attaches P later.workspace := by
  induction hs with
  | refl => exact .refl _
  | @tail before next hmore hstep ih =>
    refine ih.trans ?_
    cases hstep with
    | skip _ _ => exact .refl _
    | @build a hdue _ =>
      have horderly := (h.steps hmore).1
      have ha := horderly.fit.attachments a (Array.mem_of_getElem? hdue.next)
      have hscope : (Builder.nested before.workspace a.state).Fit 0 := .nested horderly.fit ha
      exact hscope.attaches_performAll (hd _ _)

/-- Where nothing declares explicit transitions a model goes on from the top declarations. -/
theorem exists_last_of_model {k : Nat} {ds : List (Declaration B)} {top : Builder B}
    (hds : ∀ d ∈ ds, d.isStepwise = true) (ht : ((Builder.ofModel k).performEach ds).2 = top)
    (hd : ∀ x i, ∀ d ∈ declared x i, d.isStepwise = true) {settings : BuildSettings}
    {model : Model B} (hm : (top.construct declared settings).model = .ok model) :
    ∃ last, ReflTransGen (Step declared settings.maxHandlerBuilds)
        { workspace := top.workspace } last ∧
      model = ⟨last.workspace.graph, .root, last.workspace.observers.toList⟩ ∧
      top.graph.Extends last.workspace.graph ∧ ∃ o, last.workspace.graph.Arranged o := by
  have hsound : Sound declared settings.maxHandlerBuilds top { workspace := top.workspace } :=
    (sound_top hds ht).2.2
  obtain ⟨last, hsteps, hends⟩ :=
    ends_run declared settings.maxHandlerBuilds { workspace := top.workspace }
  obtain ⟨-, -, hmodel⟩ := hends.done_of_model hm
  obtain ⟨hlast, hext⟩ := sound_steps hd .refl hsound hsteps
  exact ⟨last, hsteps, hmodel, hext, hlast.workspace.arranged⟩

/-- Handlers that declare nothing leave the automaton of the declarations as it is. -/
theorem model_of_plain {b : Builder B} (hp : Plain declared b.workspace) {settings : BuildSettings}
    {model : Model B} (hm : (b.construct declared settings).model = .ok model) :
    model = ⟨b.graph, .root, b.workspace.observers.toList⟩ := by
  obtain ⟨last, hsteps, hends⟩ :=
    ends_run declared settings.maxHandlerBuilds { workspace := b.workspace }
  obtain ⟨-, -, rfl⟩ := hends.done_of_model hm
  rw [workspace_steps hp hsteps]
  rfl

/-- They cannot fail, so only the budget stands between them and a model. -/
theorem model_ok_of_plain {b : Builder B} (hb : b.Fit 0) (hp : Plain declared b.workspace)
    {settings : BuildSettings} (hn : b.workspace.attachments.size ≤ settings.maxHandlerBuilds) :
    (b.construct declared settings).model =
      .ok ⟨b.graph, .root, b.workspace.observers.toList⟩ := by
  have hsettled := settled_run hb.workspace declared settings.maxHandlerBuilds
  have hfailure : (b.construct declared settings).failure = none := by
    refine hsettled.finished.2 ⟨?_, fun more c hc => ?_⟩
    · rintro e ⟨c, a, hsteps, hdue, hfails⟩
      have ha := Array.mem_of_getElem? hdue.next
      rw [workspace_steps hp hsteps] at ha
      rw [build, hp a ha] at hfails
      cases hfails
    · rw [workspace_steps hp hc]
      exact Nat.le_trans (length_eraseDups_le _) hn
  have hm : ∃ model, (b.construct declared settings).model = .ok model := by
    rw [model, hfailure]
    exact ⟨_, rfl⟩
  obtain ⟨model, hm⟩ := hm
  rw [hm, model_of_plain hp hm]

end Construction
end StreamSelect
