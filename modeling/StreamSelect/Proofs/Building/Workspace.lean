import StreamSelect.Proofs.Automaton.Coherence
import StreamSelect.Proofs.Building.Perform

/-! What every declaration keeps, explicit transitions among them. The automaton stays coherent; the
handlers of its states are those that were attached; attachments and observers are only added, behind
those there are. Each operation of a builder has one lemma. -/
namespace StreamSelect

/-- A workspace whose states from `floor` on are in use, and none below. -/
structure Workspace.Fit {B : Type} (w : Workspace B) (floor : Nat) : Prop where
  coherent : w.graph.Coherent floor
  attachments : ∀ a ∈ w.attachments, w.graph.Within floor a.state
  /-- The handlers of a state are those attached to it. -/
  handlers : ∀ s h, h ∈ (w.graph.state s).handlers ↔ ⟨s, h⟩ ∈ w.attachments
  landmarks : ∀ entry ∈ w.landmarks, entry.2.model = w.model → floor ≤ entry.2.state.index

namespace Declaration

variable {B : Type}

/-- A point of the model itself that is kept does not lie below `floor`. -/
def PointsFrom (d : Declaration B) (model floor : Nat) : Prop :=
  ∀ key point, d.statement = .landmark key point → point.model = model → floor ≤ point.state.index

/-- The handlers of document declarations that a declaration attaches. -/
def observed (d : Declaration B) : List B :=
  match d.statement with
  | .observe behaviour => [behaviour]
  | _ => []

end Declaration

namespace Builder

variable {B : Type}

structure Fit (b : Builder B) (floor : Nat) : Prop where
  workspace : b.workspace.Fit floor
  root : b.graph.Within floor b.root
  selectors : ∀ id s x, b.selector? id = some s → s.state = some x → b.graph.Within floor x

/-- A later stage of a fit scope, after these handlers of document declarations were attached. -/
structure Becomes (b : Builder B) (floor : Nat) (observed : List B) (later : Builder B) : Prop where
  fit : later.Fit floor
  graph : b.graph.Extends later.graph
  model : later.workspace.model = b.workspace.model
  attachments : b.workspace.attachments.toList <+: later.workspace.attachments.toList
  observers : later.workspace.observers.toList = b.workspace.observers.toList ++ observed

theorem Becomes.trans {a b c : Builder B} {floor : Nat} {xs ys : List B}
    (h : a.Becomes floor xs b) (k : b.Becomes floor ys c) : a.Becomes floor (xs ++ ys) c := by
  refine ⟨k.fit, h.graph.trans k.graph, k.model.trans h.model, h.attachments.trans k.attachments, ?_⟩
  rw [k.observers, h.observers, List.append_assoc]

namespace Fit

variable {b : Builder B} {floor : Nat}

/-- Selectors may change, and what the automaton and the attachments do not depend on. -/
theorem becomes_of_same (h : b.Fit floor) {later : Builder B} (hg : later.graph = b.graph)
    (ha : later.workspace.attachments = b.workspace.attachments)
    (ho : later.workspace.observers = b.workspace.observers)
    (hm : later.workspace.model = b.workspace.model)
    (hl : later.workspace.landmarks = b.workspace.landmarks) (hr : later.root = b.root)
    (hs : ∀ id s x, later.selector? id = some s → s.state = some x → b.graph.Within floor x) :
    b.Becomes floor [] later := by
  have hw : later.workspace.Fit floor := by
    have hg' : later.workspace.graph = b.workspace.graph := hg
    constructor
    · rw [hg']
      exact h.workspace.coherent
    · rw [hg', ha]
      exact h.workspace.attachments
    · rw [hg', ha]
      exact h.workspace.handlers
    · rw [hl, hm]
      exact h.workspace.landmarks
  refine ⟨⟨hw, ?_, ?_⟩, ?_, hm, ha ▸ List.prefix_rfl, ?_⟩
  · rw [hg, hr]
    exact h.root
  · rw [hg]
    exact hs
  · rw [hg]
    exact .refl _
  · rw [ho, List.append_nil]

theorem becomes (h : b.Fit floor) : b.Becomes floor [] b :=
  h.becomes_of_same rfl rfl rfl rfl rfl rfl h.selectors

/-- The automaton may grow by edges. -/
theorem becomes_withGraph (h : b.Fit floor) {g : Graph (HandlerRef B)} (hg : b.graph.Extends g)
    (hc : g.Coherent floor) (hh : ∀ s, (g.state s).handlers = (b.graph.state s).handlers) :
    b.Becomes floor [] (b.withGraph g) := by
  refine ⟨⟨⟨hc, ?_, ?_, h.workspace.landmarks⟩, h.root.mono hg, ?_⟩, hg, rfl, List.prefix_rfl, ?_⟩
  · exact fun a ha => (h.workspace.attachments a ha).mono hg
  · intro s x
    rw [withGraph, hh]
    exact h.workspace.handlers s x
  · exact fun id s x hs hx => (h.selectors id s x hs hx).mono hg
  · exact (List.append_nil _).symm

theorem becomes_record (h : b.Fit floor) (r : Record) : b.Becomes floor [] (b.record r) :=
  h.becomes_of_same rfl rfl rfl rfl rfl rfl h.selectors

/-- A selector may change, as long as its state is one of the automaton. -/
theorem becomes_updateSelector (h : b.Fit floor) (id : SelectorId) {f : Selector → Selector}
    (hf : ∀ s x, b.selector? id = some s → (f s).state = some x → b.graph.Within floor x) :
    b.Becomes floor [] (b.updateSelector id f) := by
  refine h.becomes_of_same rfl rfl rfl rfl rfl rfl fun other s x hs hx => ?_
  rw [selector?_updateSelector] at hs
  split at hs
  · rename_i heq
    subst heq
    obtain ⟨old, hold, rfl⟩ := Option.map_eq_some_iff.1 hs
    exact hf old x hold hx
  · exact h.selectors other s x hs hx

/-! ### Limits -/

theorem becomes_limitState (h : b.Fit floor) {s : StateId} (hs : b.graph.Within floor s)
    (limit : Nat) : b.Becomes floor [] (b.limitState s limit) := by
  have hg : b.Becomes floor [] (b.withGraph (b.graph.setLimit s limit)) := by
    refine h.becomes_withGraph (.setLimit _ _ _) (h.workspace.coherent.setLimit hs limit) ?_
    apply Graph.handlers_update
    exact fun _ => rfl
  unfold limitState
  split
  · split
    · exact hg
    · exact hg.trans (hg.fit.becomes_record _)
  · exact hg

theorem becomes_limit (h : b.Fit floor) {cursor : Option SelectorId} {n : Nat} {later : Builder B}
    (hl : b.limit cursor n = .ok later) : b.Becomes floor [] later := by
  have hpending : ∀ id, b.Becomes floor [] (b.updateSelector id fun s => { s with limit := some n }) :=
    fun id => h.becomes_updateSelector id fun s x hs hx => h.selectors id s x hs hx
  unfold limit at hl
  split at hl
  · cases hl
  split at hl
  · split at hl
    · cases hl
    · cases hl
      exact h.becomes_limitState h.root n
  · rename_i id
    split at hl
    · rename_i state hstate
      cases hl
      obtain ⟨s, hs, hx⟩ := Option.bind_eq_some_iff.1 hstate
      exact (hpending id).trans
        ((hpending id).fit.becomes_limitState (h.selectors id s state hs hx) n)
    · cases hl
      exact hpending id

/-! ### Compilation -/

theorem becomes_compile (h : b.Fit floor) {base : StateId} (hb : b.graph.Within floor base)
    (id : SelectorId) : b.Becomes floor [] (b.compile base id).2 ∧
      (b.compile base id).2.graph.Within floor (b.compile base id).1 := by
  unfold compile
  split
  · exact ⟨h.becomes, hb⟩
  rename_i s hs
  rw [edge_selector]
  have hc : b.graph.Coherent floor := h.workspace.coherent
  obtain ⟨hcoherent, hwithin⟩ := hc.extend hb s.hop
  have hgraph : b.Becomes floor [] (b.withGraph (b.graph.extend base s.hop).2) :=
    h.becomes_withGraph (.extend _ _ _) hcoherent (hc.handlers_extend hb s.hop)
  generalize b.graph.extend base s.hop = reached at hwithin hgraph ⊢
  have hcompiled := hgraph.trans (hgraph.fit.becomes_updateSelector id
    (f := fun s => { s with state := some reached.1 }) fun _ _ _ hx => Option.some.inj hx ▸ hwithin)
  dsimp only
  split
  · have hl := hcompiled.fit.becomes_limitState hwithin ‹Nat›
    exact ⟨hcompiled.trans hl, hwithin.mono hl.graph⟩
  · exact ⟨hcompiled, hwithin⟩

theorem within_uncompiled (h : b.Fit floor) (cursor : Option SelectorId)
    (below : List SelectorId) : b.graph.Within floor (b.uncompiled cursor below).1 := by
  rcases b.uncompiled_cases cursor below with hroot | ⟨id, s, hs, hx⟩
  · rw [hroot]
    exact h.root
  · exact h.selectors id s _ hs hx

/-- Compiling the selectors of a path, each below the one before. -/
theorem becomes_compileAll (h : b.Fit floor) {base : StateId} (hb : b.graph.Within floor base)
    (path : List SelectorId) :
    b.Becomes floor [] (path.foldl (fun reached id => reached.2.compile reached.1 id) (base, b)).2 ∧
      (path.foldl (fun reached id => reached.2.compile reached.1 id) (base, b)).2.graph.Within floor
        (path.foldl (fun reached id => reached.2.compile reached.1 id) (base, b)).1 := by
  induction path generalizing b base with
  | nil => exact ⟨h.becomes, hb⟩
  | cons id path ih =>
    obtain ⟨hc, hw⟩ := h.becomes_compile hb id
    obtain ⟨hrest, hreached⟩ := ih hc.fit hw
    exact ⟨hc.trans hrest, hreached⟩

theorem becomes_stateOf (h : b.Fit floor) (cursor : Option SelectorId) :
    b.Becomes floor [] (b.stateOf cursor).2 ∧
      (b.stateOf cursor).2.graph.Within floor (b.stateOf cursor).1 :=
  h.becomes_compileAll (h.within_uncompiled cursor []) _

/-! ### Declaring steps -/

theorem becomes_declare (h : b.Fit floor) (parent : Option SelectorId) (kind : SelectorKind)
    (constraints : List Constraint) :
    b.Becomes floor [] (b.declare parent kind constraints).2 := by
  unfold declare
  split
  · exact h.becomes
  · refine h.becomes_of_same rfl rfl rfl rfl rfl rfl fun id s x hs hx => ?_
    rcases selector?_push rfl hs with hs | ⟨-, rfl⟩
    · exact h.selectors id s x hs hx
    · cases hx

theorem becomes_walk (h : b.Fit floor) (cursor : Option SelectorId) (path : List Step) :
    b.Becomes floor [] (b.walk cursor path).2 := by
  induction path generalizing b cursor with
  | nil => exact h.becomes
  | cons step path ih =>
    cases step with
    | select kind constraints =>
      have hd := h.becomes_declare cursor kind constraints
      exact hd.trans (ih hd.fit _)
    | only n =>
      simp only [walk]
      split
      · rename_i limited hl
        have hk := h.becomes_limit hl
        exact hk.trans (ih hk.fit cursor)
      · exact h.becomes

/-! ### Handlers and explicit transitions -/

theorem becomes_attach (h : b.Fit floor) {s : StateId} (hs : b.graph.Within floor s)
    (handler : HandlerRef B) : b.Becomes floor [] (b.attach s handler) := by
  have hg : b.graph.Extends (b.graph.attach s handler) := .attach _ _ _
  have hw : (b.attach s handler).workspace.Fit floor := by
    refine ⟨h.workspace.coherent.attach hs handler, ?_, ?_, h.workspace.landmarks⟩
    · intro a ha
      rcases Array.mem_push.1 ha with ha | rfl
      · exact (h.workspace.attachments a ha).mono hg
      · exact hs.mono hg
    · intro t x
      show x ∈ ((b.graph.attach s handler).state t).handlers ↔
        ⟨t, x⟩ ∈ b.workspace.attachments.push ⟨s, handler⟩
      have hold : x ∈ (b.graph.state t).handlers ↔ ⟨t, x⟩ ∈ b.workspace.attachments :=
        h.workspace.handlers t x
      rw [Array.mem_push, ← hold, Graph.attach, Graph.state_update]
      split
      · rename_i ht
        rw [ht.1, List.mem_append, List.mem_singleton, Attachment.mk.injEq]
        simp
      · rename_i ht
        have hne : t ≠ s := fun heq => ht ⟨heq, hs.2⟩
        simp [hne]
  refine ⟨⟨hw, h.root.mono hg, ?_⟩, hg, rfl, ?_, (List.append_nil _).symm⟩
  · exact fun id t x ht hx => (h.selectors id t x ht hx).mono hg
  · rw [attach, Array.toList_push]
    exact List.prefix_append _ _

theorem becomes_mark (h : b.Fit floor) (key : String) {point : AttachPoint}
    (hp : point.model = b.workspace.model → floor ≤ point.state.index) :
    b.Becomes floor [] (b.mark key point) := by
  have hw : (b.mark key point).workspace.Fit floor := by
    refine ⟨h.workspace.coherent, h.workspace.attachments, h.workspace.handlers, ?_⟩
    intro entry he
    rcases List.mem_cons.1 he with rfl | he
    · exact hp
    · exact h.workspace.landmarks entry he
  exact ⟨⟨hw, h.root, h.selectors⟩, .refl _, rfl, List.prefix_rfl, (List.append_nil _).symm⟩

theorem becomes_link (h : b.Fit floor) {s : StateId} (hs : b.graph.Within floor s)
    {test : Constraint} {target : AttachPoint}
    (hp : target.model = b.workspace.model → floor ≤ target.state.index) {later : Builder B}
    (hl : b.link s test target = .ok later) : b.Becomes floor [] later := by
  unfold link at hl
  split at hl
  · rename_i hown
    have ht : b.graph.Within floor target.state := ⟨hp hown.1, hown.2⟩
    have hlinked : b.Becomes floor [] (b.withGraph (b.graph.link s test target.state).2) :=
      h.becomes_withGraph (.link _ _ _ _) (h.workspace.coherent.link hs ht test)
        (b.graph.handlers_link s test target.state)
    dsimp only at hl
    split at hl
    · cases hl
      exact hlinked
    · cases hl
      exact hlinked.trans (hlinked.fit.becomes_record _)
  · cases hl

theorem becomes_act (h : b.Fit floor) (cursor : Option SelectorId) (action : Action B) :
    b.Becomes floor [] (b.act cursor action).2 := by
  obtain ⟨hk, hs⟩ := h.becomes_stateOf cursor
  cases action with
  | compile => exact hk
  | inspect view => cases view <;> exact h.becomes
  | only n =>
    simp only [act]
    split
    · exact h.becomes_limit ‹_›
    · exact h.becomes
  | attach behaviour =>
    have hf : b.Becomes floor [] (b.freshCopy behaviour).2 :=
      h.becomes_of_same rfl rfl rfl rfl rfl rfl h.selectors
    obtain ⟨hk, hs⟩ := hf.fit.becomes_stateOf cursor
    exact (hf.trans hk).trans (hk.fit.becomes_attach hs _)
  | share behaviour => exact hk.trans (hk.fit.becomes_attach hs _)
  | mark key => exact hk.trans (hk.fit.becomes_mark key fun _ => hs.1)
  | link test key =>
    simp only [act]
    split
    · exact h.becomes
    · rename_i target ht
      obtain ⟨before, after, hmarks, -⟩ := List.lookup_eq_some_iff.1 ht
      have hp := h.workspace.landmarks (key, target) (hmarks ▸ by simp)
      rw [← hk.model] at hp
      split
      · exact hk.trans (hk.fit.becomes_link hs hp ‹_›)
      · exact hk
  | bookmark key => exact h.becomes_of_same rfl rfl rfl rfl rfl rfl h.selectors
  | reject e => exact h.becomes

theorem becomes_actAll (h : b.Fit floor) (cursor : Option SelectorId) (actions : List (Action B)) :
    b.Becomes floor [] (b.actAll cursor actions).2 := by
  induction actions generalizing b with
  | nil => exact h.becomes
  | cons action actions ih =>
    have hk := h.becomes_act cursor action
    simp only [actAll]
    generalize b.act cursor action = done at hk ⊢
    obtain ⟨answer, later⟩ := done
    cases answer with
    | error e => exact hk
    | ok answer => exact hk.trans (ih hk.fit)

/-! ### Declarations -/

theorem becomes_perform (h : b.Fit floor) {d : Declaration B}
    (hd : d.PointsFrom b.workspace.model floor) :
    b.Becomes floor d.observed (b.perform d).2 := by
  obtain ⟨statement, optional⟩ := d
  show b.Becomes floor _ (b.carryOut statement).2
  cases statement with
  | select origin path actions =>
    have hw := h.becomes_walk (b.start origin) path
    simp only [carryOut]
    generalize b.walk (b.start origin) path = walked at hw ⊢
    obtain ⟨reached, later⟩ := walked
    cases reached with
    | error e => exact hw
    | ok cursor => exact hw.trans (hw.fit.becomes_actAll cursor actions)
  | observe behaviour =>
    have hw : (b.observe behaviour).workspace.Fit floor :=
      ⟨h.workspace.coherent, h.workspace.attachments, h.workspace.handlers, h.workspace.landmarks⟩
    exact ⟨⟨hw, h.root, h.selectors⟩, .refl _, rfl, List.prefix_rfl, Array.toList_push⟩
  | landmark key point => exact h.becomes_mark key (hd key point rfl)
  | inspect view => exact h.becomes

theorem becomes_performEach (h : b.Fit floor) {ds : List (Declaration B)}
    (hd : ∀ d ∈ ds, d.PointsFrom b.workspace.model floor) :
    b.Becomes floor (ds.flatMap Declaration.observed) (b.performEach ds).2 := by
  induction ds generalizing b with
  | nil => exact h.becomes
  | cons d ds ih =>
    have hk := h.becomes_perform (hd d List.mem_cons_self)
    rw [List.flatMap_cons]
    refine hk.trans (ih hk.fit fun d hm => ?_)
    rw [hk.model]
    exact hd d (List.mem_cons_of_mem _ hm)

/-- Without an error all declarations are carried out. -/
theorem becomes_performAll (h : b.Fit floor) {ds : List (Declaration B)}
    (hd : ∀ d ∈ ds, d.PointsFrom b.workspace.model floor) :
    ∃ observed, b.Becomes floor observed (b.performAll ds).2 ∧
      ((b.performAll ds).1.2 = none → observed = ds.flatMap Declaration.observed) := by
  induction ds generalizing b with
  | nil => exact ⟨[], h.becomes, fun _ => rfl⟩
  | cons d ds ih =>
    have hk := h.becomes_perform (hd d List.mem_cons_self)
    rw [performAll]
    split
    rename_i outcome later hp
    rw [hp] at hk
    split
    · rename_i hfailed
      rw [Bool.and_eq_true] at hfailed
      refine ⟨_, hk, fun hnone => ?_⟩
      have hnone : outcome.error = none := hnone
      rw [hnone] at hfailed
      cases hfailed.1
    · obtain ⟨observed, hrest, hobserved⟩ := ih hk.fit fun d hm => by
        rw [hk.model]
        exact hd d (List.mem_cons_of_mem _ hm)
      refine ⟨_, hk.trans hrest, fun hnone => ?_⟩
      rw [hobserved hnone, List.flatMap_cons]

/-- A scope opened at a state of the automaton. -/
theorem nested {w : Workspace B} (hw : w.Fit floor) {root : StateId}
    (hr : w.graph.Within floor root) : (Builder.nested w root).Fit floor where
  workspace := hw
  root := hr
  selectors _ _ _ hs := by cases hs

end Fit

theorem fit_ofModel (model : Nat) {floor : Nat} (hf : floor ≤ 1) :
    (ofModel model : Builder B).Fit floor where
  workspace := by
    refine ⟨Graph.coherent_initial floor, ?_, ?_, ?_⟩
    · intro a ha
      cases Array.not_mem_empty a ha
    · intro s x
      show x ∈ ((Graph.initial : Graph (HandlerRef B)).state s).handlers ↔ _ ∈ #[]
      simp [Graph.state_initial]
    · intro entry he
      cases he
  root := ⟨hf, rfl⟩
  selectors _ _ _ hs := by cases hs

end Builder
end StreamSelect
