import StreamSelect.Proofs.Building.Lineage

/-! Declarations and the scopes they are carried out in. -/
namespace StreamSelect

/-- An action other than an explicit transition. -/
def Action.isStep {B : Type} : Action B → Bool
  | .link _ _ => false
  | _ => true

/-- A declaration without explicit transitions. -/
def Declaration.isStepwise {B : Type} (d : Declaration B) : Bool :=
  match d.statement with
  | .select _ _ actions => actions.all Action.isStep
  | _ => true

namespace Builder

variable {B : Type} {b : Builder B}

theorem Sound.keeps_limitState (h : b.Sound) (s : StateId) (limit : Nat) :
    b.Keeps (b.limitState s limit) := by
  have hg : b.Keeps (b.withGraph (b.graph.setLimit s limit)) := by
    obtain ⟨o, ho⟩ := h.workspace.arranged
    refine h.keeps_withGraph (.setLimit _ _ _) ⟨o, ho.setLimit s limit⟩ fun t x hx => ?_
    have hsame := b.graph.handlers_update s (f := fun y => { y with limit := some limit })
      (fun _ => rfl) t
    rwa [← hsame]
  unfold limitState
  split
  · split
    · exact hg
    · exact hg.trans (hg.sound.keeps_of_same rfl rfl rfl rfl rfl)
  · exact hg

theorem Sound.keeps_limit (h : b.Sound) {cursor : Option SelectorId} {n : Nat} {later : Builder B}
    (hl : b.limit cursor n = .ok later) : b.Keeps later := by
  have hpending : ∀ id, b.Keeps (b.updateSelector id fun s => { s with limit := some n }) := by
    intro id
    exact h.keeps_updateSelector (fun _ => rfl) (fun _ => rfl) (fun _ _ _ hx => hx)
      fun _ _ hs hx => h.compiled hs hx
  unfold limit at hl
  split at hl
  · cases hl
  · split at hl
    · split at hl
      · cases hl
      · cases hl
        exact h.keeps_limitState _ _
    · split at hl
      · cases hl
        exact (hpending _).trans ((hpending _).sound.keeps_limitState _ _)
      · cases hl
        exact hpending _

/-! ### Compilation -/

/-- Compiling a selector below the state of its parent gives it the state of its step. -/
theorem Sound.keeps_compile (h : b.Sound) {id : SelectorId} {s : Selector} {base : StateId}
    (hs : b.selector? id = some s) (hb : b.compiled? s.parent = some base) :
    b.Keeps (b.compile base id).2 ∧
      (b.compile base id).2.compiled? (some id) = some (b.compile base id).1 := by
  obtain ⟨o, ho⟩ : ∃ o, b.graph.Arranged o := h.workspace.arranged
  obtain ⟨h1, hc⟩ := h.usable hb
  obtain ⟨harr, hhop⟩ := ho.extend h1 hc s.hop
  have hgraph : b.Keeps (b.withGraph (b.graph.extend base s.hop).2) := by
    refine h.keeps_withGraph (.extend _ _ _) harr fun t x hx => ?_
    rwa [ho.handlers_extend hc] at hx
  generalize hr : b.graph.extend base s.hop = reached at harr hhop hgraph
  let compiled := (b.withGraph reached.2).updateSelector id fun s =>
    { s with state := some reached.1 }
  have hcompiled : b.Keeps compiled := by
    refine hgraph.trans (hgraph.sound.keeps_updateSelector (fun _ => rfl) (fun _ => rfl) ?_ ?_)
    · -- a state kept before is the one the step leads to
      intro s' x hs' hx
      obtain rfl : s' = s := Option.some.inj (hs'.symm.trans hs)
      obtain ⟨base', hb', hh'⟩ := hgraph.sound.compiled hs' hx
      obtain rfl : base' = base := Option.some.inj (hb'.symm.trans hb)
      exact hhop.symm.trans hh'
    · intro s' x hs' hx
      obtain rfl : s' = s := Option.some.inj (hs'.symm.trans hs)
      refine ⟨base, hb, ?_⟩
      rw [← hx]
      exact hhop
  have hstate : compiled.compiled? (some id) = some reached.1 := by
    have hsel : compiled.selector? id = some { s with state := some reached.1 } := by
      rw [selector?_updateSelector, if_pos rfl]
      exact congrArg (Option.map _) hs
    rw [compiled?, hsel]
    rfl
  unfold compile
  rw [hs]
  simp only [edge_selector, hr]
  split
  · have hl := hcompiled.sound.keeps_limitState reached.1 ‹Nat›
    exact ⟨hcompiled.trans hl, hl.extension.compiled? hstate⟩
  · exact ⟨hcompiled, hstate⟩

theorem Sound.keeps_stateOf (h : b.Sound) {cursor : Option SelectorId} (hc : b.Knows cursor) :
    b.Keeps (b.stateOf cursor).2 ∧
      (b.stateOf cursor).2.compiled? cursor = some (b.stateOf cursor).1 := by
  apply h.ordered.cursor_induction _ _ hc
  · rw [stateOf_none]
    exact ⟨h.keeps, rfl⟩
  · intro id s hs ih
    cases hx : s.state with
    | some x =>
      rw [stateOf_of_state hs hx, compiled?, hs]
      exact ⟨h.keeps, hx⟩
    | none =>
      rw [h.ordered.stateOf_of_parent hs hx]
      obtain ⟨hk, hp⟩ := ih
      generalize b.stateOf s.parent = reached at hk hp ⊢
      obtain ⟨s', hs', hparent, -⟩ := hk.extension.selector hs
      rw [← hparent] at hp
      obtain ⟨hcompile, hstate⟩ := hk.sound.keeps_compile hs' hp
      exact ⟨hk.trans hcompile, hstate⟩

/-! ### Declaring steps -/

theorem selector?_push {later : Builder B} {new : Selector}
    (hs : later.selectors = b.selectors.push new) {id : SelectorId} {s : Selector}
    (h : later.selector? id = some s) :
    b.selector? id = some s ∨ id.index = b.selectors.size ∧ s = new := by
  rw [selector?, hs, Array.getElem?_push] at h
  split at h
  · rename_i hid
    exact .inr ⟨hid, (Option.some.inj h).symm⟩
  · exact .inl h

theorem selector?_of_push {later : Builder B} {new : Selector}
    (hs : later.selectors = b.selectors.push new) {id : SelectorId} {s : Selector}
    (h : b.selector? id = some s) : later.selector? id = some s := by
  have hlt : id.index < b.selectors.size := (Array.getElem?_eq_some_iff.1 h).1
  rw [selector?, hs, Array.getElem?_push_lt hlt, ← h, selector?, Array.getElem?_eq_getElem hlt]

theorem Sound.keeps_declare (h : b.Sound) {parent : Option SelectorId} (hp : b.Knows parent)
    (kind : SelectorKind) (constraints : List Constraint) :
    b.Keeps (b.declare parent kind constraints).2 ∧
      (b.declare parent kind constraints).2.Knows
        (some (b.declare parent kind constraints).1) := by
  unfold declare
  split
  · rename_i i hi
    refine ⟨h.keeps, ?_⟩
    intro id hid
    cases hid
    obtain ⟨hlt, -⟩ := Array.findIdx?_eq_some_iff_getElem.1 hi
    exact ⟨_, Array.getElem?_eq_getElem hlt⟩
  · let new : Selector := { parent, kind, constraints }
    let later : Builder B := { b with selectors := b.selectors.push new }
    have hext : b.Extends later :=
      ⟨.refl _, rfl, fun hs => ⟨_, selector?_of_push rfl hs, rfl, rfl, fun _ hx => hx⟩, fun _ => .inl⟩
    have hnew : later.selector? ⟨b.selectors.size⟩ = some new := Array.getElem?_push_size
    refine ⟨⟨⟨h.workspace, h.root, ?_, ?_, ?_⟩, hext⟩, ?_⟩
    · intro id s p hs hparent
      rcases selector?_push rfl hs with hs | ⟨hid, rfl⟩
      · exact h.parent hs hparent
      · obtain ⟨s, hs⟩ := hp p hparent
        rw [hid]
        exact (Array.getElem?_eq_some_iff.1 hs).1
    · intro id s x hs hx
      rcases selector?_push rfl hs with hs | ⟨-, rfl⟩
      · obtain ⟨base, hb, hh⟩ := h.compiled hs hx
        exact ⟨base, hext.compiled? hb, hh⟩
      · cases hx
    · exact fun entry he => hext.knows (h.bookmarks entry he)
    · intro id hid
      cases hid
      exact ⟨new, hnew⟩

theorem Sound.keeps_walk (h : b.Sound) {cursor : Option SelectorId} (hc : b.Knows cursor)
    (path : List Step) :
    b.Keeps (b.walk cursor path).2 ∧
      ∀ reached, (b.walk cursor path).1 = .ok reached → (b.walk cursor path).2.Knows reached := by
  induction path generalizing b cursor with
  | nil =>
    refine ⟨h.keeps, ?_⟩
    intro reached hr
    cases hr
    exact hc
  | cons step path ih =>
    cases step with
    | select kind constraints =>
      obtain ⟨hd, hk⟩ := h.keeps_declare hc kind constraints
      obtain ⟨hw, hr⟩ := ih hd.sound hk
      exact ⟨hd.trans hw, hr⟩
    | only n =>
      simp only [walk]
      split
      · rename_i limited hl
        have hk := h.keeps_limit hl
        obtain ⟨hw, hr⟩ := ih hk.sound (hk.extension.knows hc)
        exact ⟨hk.trans hw, hr⟩
      · exact ⟨h.keeps, fun _ hr => by cases hr⟩

/-! ### Handlers -/

/-- Attaching to the state of a cursor. -/
theorem Sound.keeps_attach (h : b.Sound) {cursor : Option SelectorId} {s : StateId}
    (hs : b.compiled? cursor = some s) (handler : HandlerRef B) : b.Keeps (b.attach s handler) := by
  have hg : b.graph.Extends (b.graph.attach s handler) := .attach _ _ _
  have hw : (b.attach s handler).workspace.Sound := by
    refine ⟨?_, fun a ha => ?_, fun t x hx => ?_⟩
    · obtain ⟨o, ho⟩ := h.workspace.arranged
      exact ⟨o, ho.attach s handler⟩
    · rcases Array.mem_push.1 ha with ha | rfl
      · exact (h.workspace.attachments a ha).mono hg
      · exact (h.usable hs).mono hg
    · have hx' : x ∈ ((b.graph.attach s handler).state t).handlers := hx
      rw [Graph.attach, Graph.state_update] at hx'
      apply Array.mem_push.2
      split at hx'
      · rename_i ht
        obtain ⟨rfl, -⟩ := ht
        rcases List.mem_append.1 hx' with hx' | hx'
        · exact .inl (h.workspace.handlers t x hx')
        · rw [List.mem_singleton.1 hx']
          exact .inr rfl
      · exact .inl (h.workspace.handlers t x hx')
  refine ⟨⟨hw, h.root.mono hg, h.parent, ?_, h.bookmarks⟩, ⟨hg, rfl, ?_, ?_⟩⟩
  · intro id t x ht hx
    obtain ⟨base, hb, hh⟩ := h.compiled ht hx
    exact ⟨base, hb, Graph.hop?_of_extends hg hh⟩
  · exact fun ht => ⟨_, ht, rfl, rfl, fun _ hx => hx⟩
  · intro a ha
    rcases Array.mem_push.1 ha with ha | rfl
    · exact .inl ha
    · exact .inr ⟨cursor, hs⟩

theorem Sound.keeps_act (h : b.Sound) {cursor : Option SelectorId} (hc : b.Knows cursor)
    {action : Action B} (ha : action.isStep = true) : b.Keeps (b.act cursor action).2 := by
  obtain ⟨hk, hs⟩ := h.keeps_stateOf hc
  cases action with
  | compile => exact hk
  | inspect view => cases view <;> exact h.keeps
  | only n =>
    simp only [act]
    split
    · exact h.keeps_limit ‹_›
    · exact h.keeps
  | attach behaviour =>
    have hf : b.Keeps (b.freshCopy behaviour).2 := h.keeps_of_same rfl rfl rfl rfl rfl
    obtain ⟨hk, hs⟩ := hf.sound.keeps_stateOf (hf.extension.knows hc)
    exact (hf.trans hk).trans (hk.sound.keeps_attach hs _)
  | share behaviour => exact hk.trans (hk.sound.keeps_attach hs _)
  | mark key => exact hk.trans (hk.sound.keeps_of_same rfl rfl rfl rfl rfl)
  | link test key => cases ha
  | bookmark key =>
    have hbook : ∀ entry ∈ (key, cursor) :: b.bookmarks, b.Knows entry.2 := by
      intro entry he
      rcases List.mem_cons.1 he with rfl | he
      · exact hc
      · exact h.bookmarks entry he
    exact ⟨⟨h.workspace, h.root, h.parent, h.compiled, hbook⟩,
      ⟨.refl _, rfl, fun hs => ⟨_, hs, rfl, rfl, fun _ hx => hx⟩, fun _ => .inl⟩⟩
  | reject e => exact h.keeps

theorem Sound.keeps_actAll (h : b.Sound) {cursor : Option SelectorId} (hc : b.Knows cursor)
    {actions : List (Action B)} (ha : actions.all Action.isStep = true) :
    b.Keeps (b.actAll cursor actions).2 := by
  induction actions generalizing b with
  | nil => exact h.keeps
  | cons action actions ih =>
    rw [List.all_cons, Bool.and_eq_true] at ha
    have hk := h.keeps_act hc ha.1
    simp only [actAll]
    generalize b.act cursor action = done at hk ⊢
    obtain ⟨answer, later⟩ := done
    cases answer with
    | error e => exact hk
    | ok answer => exact hk.trans (ih hk.sound (hk.extension.knows hc) ha.2)

/-! ### Declarations -/

theorem knows_start (h : ∀ entry ∈ b.bookmarks, b.Knows entry.2) (origin : Option String) :
    b.Knows (b.start origin) := by
  cases origin with
  | none => exact fun _ hid => by cases hid
  | some key =>
    rw [start]
    split
    · rename_i cursor hl
      obtain ⟨before, after, hbook, -⟩ := List.lookup_eq_some_iff.1 hl
      exact h (key, cursor) (hbook ▸ by simp)
    · exact fun _ hid => by cases hid

/-- Actions are carried out on the cursor that the path leads to. -/
theorem carryOut_of_walk {origin : Option String} {path : List Step} {cursor : Option SelectorId}
    {later : Builder B}
    (hw : b.walk (b.start origin) path = (.ok cursor, later))
    (actions : List (Action B)) :
    b.carryOut (.select origin path actions) = later.actAll cursor actions := by
  simp only [carryOut, hw]

/-- What a declaration leaves that starts at the root of its scope. -/
theorem perform_of_walk {path : List Step} {cursor : Option SelectorId} {later : Builder B}
    (hw : b.walk none path = (.ok cursor, later)) (actions : List (Action B)) :
    (b.perform { statement := .select none path actions }).2 = (later.actAll cursor actions).2 := by
  have hcarried : b.carryOut (.select none path actions) = later.actAll cursor actions :=
    carryOut_of_walk hw actions
  exact congrArg Prod.snd hcarried

theorem Sound.keeps_perform (h : b.Sound) {d : Declaration B} (hd : d.isStepwise = true) :
    b.Keeps (b.perform d).2 := by
  obtain ⟨statement, optional⟩ := d
  show b.Keeps (b.carryOut statement).2
  cases statement with
  | select origin path actions =>
    obtain ⟨hw, hr⟩ := h.keeps_walk (knows_start h.bookmarks origin) path
    simp only [carryOut]
    generalize b.walk (b.start origin) path = walked at hw hr ⊢
    obtain ⟨reached, later⟩ := walked
    cases reached with
    | error e => exact hw
    | ok cursor => exact hw.trans (hw.sound.keeps_actAll (hr cursor rfl) hd)
  | observe behaviour => exact h.keeps_of_same rfl rfl rfl rfl rfl
  | landmark key point => exact h.keeps_of_same rfl rfl rfl rfl rfl
  | inspect view => exact h.keeps

theorem Sound.keeps_performEach (h : b.Sound) {ds : List (Declaration B)}
    (hd : ∀ d ∈ ds, d.isStepwise = true) : b.Keeps (b.performEach ds).2 := by
  induction ds generalizing b with
  | nil => exact h.keeps
  | cons d ds ih =>
    have hk := h.keeps_perform (hd d List.mem_cons_self)
    exact hk.trans (ih hk.sound fun d hm => hd d (List.mem_cons_of_mem _ hm))

theorem Sound.keeps_performAll (h : b.Sound) {ds : List (Declaration B)}
    (hd : ∀ d ∈ ds, d.isStepwise = true) : b.Keeps (b.performAll ds).2 := by
  induction ds generalizing b with
  | nil => exact h.keeps
  | cons d ds ih =>
    have hk := h.keeps_perform (hd d List.mem_cons_self)
    rw [performAll]
    split
    rename_i outcome later hp
    rw [hp] at hk
    split
    · exact hk
    · exact hk.trans (ih hk.sound fun d hm => hd d (List.mem_cons_of_mem _ hm))

/-- A scope opened at a state that edges may start from. -/
theorem sound_nested {w : Workspace B} (hw : w.Sound) {root : StateId} (hr : w.graph.Usable root) :
    (nested w root).Sound where
  workspace := hw
  root := hr
  parent hs := by cases hs
  compiled hs := by cases hs
  bookmarks _ he := by cases he

theorem sound_ofModel (model : Nat) : (ofModel model : Builder B).Sound where
  workspace := by
    refine ⟨⟨_, Graph.arranged_initial⟩, fun a ha => ?_, fun s x hx => ?_⟩
    · cases Array.not_mem_empty a ha
    · rw [show (ofModel model : Builder B).workspace.graph = .initial from rfl,
        Graph.state_initial] at hx
      cases hx
  root := ⟨Nat.le_refl 1, rfl⟩
  parent hs := by cases hs
  compiled hs := by cases hs
  bookmarks _ he := by cases he

end Builder
end StreamSelect
