import Mathlib.Logic.Relation
import StreamSelect.Proofs.Building.SinglePath

/-! What a declaration does to a scope, one change after the other. Explicit transitions, limits and
marks are changes like any others. Every change keeps the states that selectors hold where their
steps lead, and no change makes a state except for a selector. -/
namespace StreamSelect

namespace Builder

open Relation (ReflTransGen)

variable {B : Type}

/-- One change to a scope. -/
inductive Change (b : Builder B) : Builder B → Prop
  | declare {parent : Option SelectorId} (kind : SelectorKind) (constraints : List Constraint) :
    b.Knows parent → Change b (b.declare parent kind constraints).2
  /-- A selector takes a limit for its state. -/
  | hold (id : SelectorId) (n : Nat) :
    Change b (b.updateSelector id fun s => { s with limit := some n })
  | limit {cursor : Option SelectorId} {x : StateId} (n : Nat) :
    b.compiled? cursor = some x → Change b (b.limitState x n)
  | compile {id : SelectorId} {s : Selector} {base : StateId} :
    b.selector? id = some s → s.state = none → b.compiled? s.parent = some base →
      Change b (b.compiledTo id (b.graph.extend base s.hop))
  | attach {cursor : Option SelectorId} {x : StateId} (handler : HandlerRef B) :
    b.compiled? cursor = some x → Change b (b.attach x handler)
  | link {cursor : Option SelectorId} {x : StateId} {test : Constraint} {target : AttachPoint}
      {later : Builder B} :
    b.compiled? cursor = some x → b.link x test target = .ok later → Change b later
  | mark (key : String) (point : AttachPoint) : Change b (b.mark key point)
  | bookmark (key : String) {cursor : Option SelectorId} :
    b.Knows cursor → Change b { b with bookmarks := (key, cursor) :: b.bookmarks }
  | copy (behaviour : B) : Change b (b.freshCopy behaviour).2
  | observe (behaviour : B) : Change b (b.observe behaviour)

/-- Any number of changes. -/
abbrev Changes : Builder B → Builder B → Prop := ReflTransGen Change

/-- A scope whose selectors hold the states that their steps lead to. -/
structure Cached (b : Builder B) : Prop where
  fit : b.Fit 0
  ordered : b.Ordered
  bookmarks : ∀ entry ∈ b.bookmarks, b.Knows entry.2
  compiled : ∀ id s x, b.selector? id = some s → s.state = some x →
    ∃ base, b.compiled? s.parent = some base ∧ b.graph.hop? base s.hop = some x

theorem link_eq {b later : Builder B} {x : StateId} {test : Constraint} {target : AttachPoint}
    (hl : b.link x test target = .ok later) :
    ∃ records, later = { b with workspace := { b.workspace with
      graph := (b.graph.link x test target.state).2, records } } := by
  by_cases ho : target.model = b.workspace.model ∧ b.graph.contains target.state = true
  · obtain ⟨records, heq⟩ := link_of_own (x := x) (t := test) ho
    exact ⟨records, Except.ok.inj (hl.symm.trans heq)⟩
  · rw [Builder.link, if_neg ho] at hl
    cases hl

theorem knows_declare (b : Builder B) (parent : Option SelectorId) (kind : SelectorKind)
    (constraints : List Constraint) :
    (b.declare parent kind constraints).2.Knows (some (b.declare parent kind constraints).1) := by
  intro id hid
  obtain rfl : (b.declare parent kind constraints).1 = id := Option.some.inj hid
  unfold declare
  split
  · rename_i i hi
    obtain ⟨hlt, -⟩ := Array.findIdx?_eq_some_iff_getElem.1 hi
    exact ⟨_, Array.getElem?_eq_getElem hlt⟩
  · exact ⟨{ parent, kind, constraints }, Array.getElem?_push_size⟩

namespace Cached

variable {b : Builder B}

theorem within (h : b.Cached) {cursor : Option SelectorId} {x : StateId}
    (hx : b.compiled? cursor = some x) : b.graph.Within 0 x := by
  cases cursor with
  | none =>
    obtain rfl : b.root = x := Option.some.inj hx
    exact h.fit.root
  | some id =>
    obtain ⟨s, hs, hx⟩ := Option.bind_eq_some_iff.1 hx
    exact h.fit.selectors id s x hs hx

/-- What selectors do not depend on may change, and the automaton may grow. -/
theorem of_fit (h : b.Cached) {later : Builder B} (hfit : later.Fit 0)
    (hg : b.graph.Extends later.graph) (hr : later.root = b.root)
    (hs : later.selectors = b.selectors) (hb : later.bookmarks = b.bookmarks) :
    later.Cached ∧ b.Grows later := by
  have hgrows : b.Grows later := .of_same hg hr hs
  have hsel : later.selector? = b.selector? := by
    funext id
    simp only [selector?, hs]
  refine ⟨⟨hfit, ?_, fun entry he => ?_, ?_⟩, hgrows⟩
  · unfold Ordered
    rw [hsel]
    exact h.ordered
  · rw [hb] at he
    exact hgrows.knows (h.bookmarks entry he)
  · rw [hsel]
    intro id s x hid hx
    obtain ⟨base, hbase, hhop⟩ := h.compiled id s x hid hx
    exact ⟨base, hgrows.compiled? hbase, Graph.hop?_of_extends hg hhop⟩

/-- A selector is only added. -/
theorem of_push (h : b.Cached) {new : Selector} (hp : b.Knows new.parent) (hnew : new.state = none)
    {later : Builder B} (hfit : later.Fit 0) (hg : later.graph = b.graph)
    (hr : later.root = b.root) (hs : later.selectors = b.selectors.push new)
    (hb : later.bookmarks = b.bookmarks) : later.Cached ∧ b.Grows later := by
  have hgrows : b.Grows later :=
    ⟨hg ▸ .refl _, hr, fun hid => ⟨_, selector?_of_push hs hid, rfl, rfl, rfl, fun _ hx => hx⟩⟩
  refine ⟨⟨hfit, ?_, fun entry he => ?_, ?_⟩, hgrows⟩
  · intro id s p hid hparent
    rcases selector?_push hs hid with hid | ⟨hi, rfl⟩
    · exact h.ordered id s p hid hparent
    · obtain ⟨t, ht⟩ := hp p hparent
      rw [hi]
      exact (Array.getElem?_eq_some_iff.1 ht).1
  · rw [hb] at he
    exact hgrows.knows (h.bookmarks entry he)
  · intro id s x hid hx
    rcases selector?_push hs hid with hid | ⟨-, rfl⟩
    · obtain ⟨base, hbase, hhop⟩ := h.compiled id s x hid hx
      exact ⟨base, hgrows.compiled? hbase, hg ▸ hhop⟩
    · rw [hnew] at hx
      cases hx

/-- A selector changes, but neither where it stands nor a state it holds. -/
theorem of_updateSelector (h : b.Cached) (id : SelectorId) {f : Selector → Selector}
    (hf : ∀ s, f s = { s with limit := (f s).limit, state := (f s).state })
    (hstay : ∀ s x, b.selector? id = some s → s.state = some x → (f s).state = some x)
    (hnew : ∀ s x, b.selector? id = some s → (f s).state = some x →
      ∃ base, b.compiled? s.parent = some base ∧ b.graph.hop? base s.hop = some x) :
    (b.updateSelector id f).Cached ∧ b.Grows (b.updateSelector id f) := by
  have hhop : ∀ s, (f s).hop = s.hop := fun s => by rw [hf]; rfl
  have hgrows : b.Grows (b.updateSelector id f) := by
    refine ⟨.refl _, rfl, fun {other s} hs => ?_⟩
    rw [selector?_updateSelector, hs]
    split
    · rename_i heq
      subst heq
      exact ⟨f s, rfl, by rw [hf], by rw [hf], by rw [hf], fun x => hstay s x hs⟩
    · exact ⟨s, rfl, rfl, rfl, rfl, fun _ hx => hx⟩
  have hcases : ∀ {other s}, (b.updateSelector id f).selector? other = some s →
      b.selector? other = some s ∨ id = other ∧ ∃ old, b.selector? id = some old ∧ s = f old := by
    intro other s hs
    rw [selector?_updateSelector] at hs
    split at hs
    · rename_i heq
      obtain ⟨old, hold, rfl⟩ := Option.map_eq_some_iff.1 hs
      exact .inr ⟨heq, old, heq ▸ hold, rfl⟩
    · exact .inl hs
  have hfit := (h.fit.becomes_updateSelector id (f := f) fun s x hs hx => by
    obtain ⟨base, hbase, hhop⟩ := hnew s x hs hx
    exact h.fit.workspace.coherent.targets base x (Graph.target_mem_of_hop? hhop)).fit
  refine ⟨⟨hfit, ?_, fun entry he => hgrows.knows (h.bookmarks entry he), ?_⟩, hgrows⟩
  · intro other s p hs hparent
    rcases hcases hs with hs | ⟨rfl, old, hold, rfl⟩
    · exact h.ordered other s p hs hparent
    · rw [hf] at hparent
      exact h.ordered id old p hold hparent
  · intro other s x hs hx
    rcases hcases hs with hs | ⟨rfl, old, hold, rfl⟩
    · obtain ⟨base, hbase, hfound⟩ := h.compiled other s x hs hx
      exact ⟨base, hgrows.compiled? hbase, hfound⟩
    · obtain ⟨base, hbase, hfound⟩ := hnew old x hold hx
      refine ⟨base, ?_, (hhop old).symm ▸ hfound⟩
      rw [hf]
      exact hgrows.compiled? hbase

/-- A selector that is compiled below its parent holds the state of its step. -/
theorem compiledTo (h : b.Cached) {id : SelectorId} {s : Selector} {base : StateId}
    (hs : b.selector? id = some s) (hx : s.state = none) (hb : b.compiled? s.parent = some base) :
    (b.compiledTo id (b.graph.extend base s.hop)).Cached ∧
      b.Grows (b.compiledTo id (b.graph.extend base s.hop)) ∧
      (b.compiledTo id (b.graph.extend base s.hop)).compiled? (some id) =
        some (b.graph.extend base s.hop).1 := by
  have hc : b.graph.Coherent 0 := h.fit.workspace.coherent
  have hhop := hc.hop?_extend (h.within hb) s.hop
  have hext : b.graph.Extends (b.graph.extend base s.hop).2 := .extend _ _ _
  have hfit := (h.fit.becomes_withGraph hext (hc.extend (h.within hb) s.hop).1
    (hc.handlers_extend (h.within hb) s.hop)).fit
  generalize b.graph.extend base s.hop = reached at hhop hext hfit ⊢
  obtain ⟨hgraph, hgrows⟩ := h.of_fit hfit hext rfl rfl rfl
  obtain ⟨hcached, hgrows'⟩ := hgraph.of_updateSelector id
    (f := fun s => { s with state := some reached.1 }) (fun _ => rfl) (fun t y ht hy => by
      obtain rfl : t = s := Option.some.inj (ht.symm.trans hs)
      exact nomatch hx.symm.trans hy) fun t y ht hy => by
      obtain rfl : t = s := Option.some.inj (ht.symm.trans hs)
      obtain rfl : reached.1 = y := Option.some.inj hy
      exact ⟨base, hgrows.compiled? hb, hhop⟩
  refine ⟨hcached, hgrows.trans hgrows', ?_⟩
  rw [compiled?, selector?_compiledTo, if_pos rfl, hs]
  rfl

/-- Every change keeps what selectors hold. -/
theorem change (h : b.Cached) {later : Builder B} (hk : b.Change later) :
    later.Cached ∧ b.Grows later := by
  cases hk with
  | @declare parent kind constraints hp =>
    have hfit := (h.fit.becomes_declare parent kind constraints).fit
    unfold Builder.declare at hfit ⊢
    split at hfit
    · exact ⟨h, .refl b⟩
    · exact h.of_push hp rfl hfit rfl rfl rfl rfl
  | hold id n =>
    exact h.of_updateSelector id (fun _ => rfl) (fun _ _ _ hx => hx) fun s x hs hx =>
      h.compiled id s x hs hx
  | @limit cursor x n hx =>
    have hk := h.fit.becomes_limitState (h.within hx) n
    obtain ⟨records, heq⟩ := b.limitState_eq x n
    rw [heq] at hk ⊢
    exact h.of_fit hk.fit hk.graph rfl rfl rfl
  | compile hs hx hb =>
    obtain ⟨hcached, hgrows, -⟩ := h.compiledTo hs hx hb
    exact ⟨hcached, hgrows⟩
  | attach handler hx =>
    have hk := h.fit.becomes_attach (h.within hx) handler
    exact h.of_fit hk.fit hk.graph rfl rfl rfl
  | link hx hl =>
    have hk := h.fit.becomes_link (h.within hx) (fun _ => Nat.zero_le _) hl
    obtain ⟨records, rfl⟩ := link_eq hl
    exact h.of_fit hk.fit hk.graph rfl rfl rfl
  | mark key point =>
    have hk : b.Becomes 0 [] (b.mark key point) := h.fit.becomes_mark key fun _ => Nat.zero_le _
    exact h.of_fit hk.fit hk.graph rfl rfl rfl
  | @bookmark key cursor hc =>
    have hk : b.Becomes 0 [] { b with bookmarks := (key, cursor) :: b.bookmarks } :=
      h.fit.becomes_of_same rfl rfl rfl rfl rfl rfl h.fit.selectors
    refine ⟨⟨hk.fit, h.ordered, fun entry he => ?_, h.compiled⟩, .of_same hk.graph rfl rfl⟩
    rcases List.mem_cons.1 he with rfl | he
    · exact hc
    · exact h.bookmarks entry he
  | copy behaviour =>
    have hk : b.Becomes 0 [] (b.freshCopy behaviour).2 :=
      h.fit.becomes_of_same rfl rfl rfl rfl rfl rfl h.fit.selectors
    exact h.of_fit hk.fit hk.graph rfl rfl rfl
  | observe behaviour =>
    have hw : (b.observe behaviour).workspace.Fit 0 :=
      ⟨h.fit.workspace.coherent, h.fit.workspace.attachments, h.fit.workspace.handlers,
        h.fit.workspace.landmarks⟩
    exact h.of_fit ⟨hw, h.fit.root, h.fit.selectors⟩ (.refl _) rfl rfl rfl

theorem changes (h : b.Cached) {later : Builder B} (hk : b.Changes later) :
    later.Cached ∧ b.Grows later := by
  induction hk with
  | refl => exact ⟨h, .refl b⟩
  | tail _ hstep ih =>
    obtain ⟨hcached, hgrows⟩ := ih.1.change hstep
    exact ⟨hcached, ih.2.trans hgrows⟩

/-- A state that a change makes is that of a selector. -/
theorem usable_of_change (h : b.Cached) {later : Builder B} (hk : b.Change later) {x : StateId}
    (hx : later.graph.Usable x) :
    b.graph.Usable x ∨ ∃ cursor, later.compiled? cursor = some x := by
  have hkept : later.graph.size = b.graph.size → b.graph.Usable x := by
    intro hsize
    refine ⟨hx.1, ?_⟩
    rw [Graph.contains, ← hsize]
    exact hx.2
  cases hk with
  | @declare parent kind constraints hp =>
    refine .inl (hkept ?_)
    rw [graph, workspace_declare]
    rfl
  | @limit cursor y n hy =>
    obtain ⟨records, heq⟩ := b.limitState_eq y n
    rw [heq] at hkept
    exact .inl (hkept (Graph.size_update _ _ _))
  | @compile id s base hs hn hb =>
    have hc : b.graph.Coherent 0 := h.fit.workspace.coherent
    have hbase := h.within hb
    rcases Graph.extend_cases hbase.2 (hc.reentry_length base) (hc.reentry base) s.hop with
      ⟨-, hg⟩ | ⟨-, hnew, hg⟩
    · exact .inl (hkept (congrArg Graph.size hg))
    · have hlt : x.index < (b.graph.extend base s.hop).2.size := of_decide_eq_true hx.2
      rw [hg.size_eq] at hlt
      rcases Nat.lt_or_eq_of_le (Nat.le_of_lt_succ hlt) with hlt | heq
      · exact .inl ⟨hx.1, decide_eq_true hlt⟩
      · refine .inr ⟨some id, ?_⟩
        rw [(h.compiledTo hs hn hb).2.2, hnew, ← heq]
  | attach handler hy => exact .inl (hkept (Graph.size_update _ _ _))
  | @link cursor y test target later hy hl =>
    obtain ⟨records, rfl⟩ := link_eq hl
    refine .inl (hkept ?_)
    show (b.graph.link y test target.state).2.size = b.graph.size
    unfold Graph.link
    split
    · rfl
    · exact Graph.size_update _ _ _
  | hold | mark | bookmark | copy | observe => exact .inl (hkept rfl)

theorem usable_of_changes (h : b.Cached) {later : Builder B} (hk : b.Changes later) {x : StateId}
    (hx : later.graph.Usable x) :
    b.graph.Usable x ∨ ∃ cursor, later.compiled? cursor = some x := by
  induction hk with
  | refl => exact .inl hx
  | tail hmore hstep ih =>
    have hcached := (h.changes hmore).1
    rcases hcached.usable_of_change hstep hx with hx | hx
    · rcases ih hx with hx | ⟨cursor, hc⟩
      · exact .inl hx
      · exact .inr ⟨cursor, (hcached.change hstep).2.compiled? hc⟩
    · exact .inr hx

/-! ### What declarations do -/

theorem knows (h : b.Cached) {later : Builder B} (hk : b.Changes later)
    {cursor : Option SelectorId} (hc : b.Knows cursor) : later.Knows cursor :=
  (h.changes hk).2.knows hc

theorem changes_limit (h : b.Cached) {cursor : Option SelectorId} {n : Nat} {later : Builder B}
    (hl : b.limit cursor n = .ok later) : b.Changes later := by
  unfold Builder.limit at hl
  split at hl
  · cases hl
  split at hl
  · split at hl
    · cases hl
    · cases hl
      have hroot : b.compiled? none = some b.root := rfl
      exact .single (.limit n hroot)
  · rename_i id
    have hhold : b.Change (b.updateSelector id fun s => { s with limit := some n }) := .hold id n
    split at hl
    · rename_i x hx
      cases hl
      have hx : b.compiled? (some id) = some x := hx
      exact (ReflTransGen.single hhold).tail (.limit n ((h.change hhold).2.compiled? hx))
    · cases hl
      exact .single hhold

theorem changes_compile (h : b.Cached) {id : SelectorId} {s : Selector} {base : StateId}
    (hs : b.selector? id = some s) (hx : s.state = none) (hb : b.compiled? s.parent = some base) :
    b.Changes (b.compile base id).2 ∧
      (b.compile base id).2.compiled? (some id) = some (b.compile base id).1 := by
  have hchange := Change.compile hs hx hb
  obtain ⟨hcached, -, hstate⟩ := h.compiledTo hs hx hb
  unfold Builder.compile
  rw [hs]
  simp only [edge_selector]
  split
  · have hlimit := Change.limit ‹Nat› hstate
    exact ⟨(ReflTransGen.single hchange).tail hlimit, (hcached.change hlimit).2.compiled? hstate⟩
  · exact ⟨.single hchange, hstate⟩

/-- The selectors above a cursor are compiled, and then the cursor has its state. -/
theorem changes_stateOf (h : b.Cached) {cursor : Option SelectorId} (hc : b.Knows cursor) :
    b.Changes (b.stateOf cursor).2 ∧
      (b.stateOf cursor).2.compiled? cursor = some (b.stateOf cursor).1 := by
  apply h.ordered.cursor_induction _ _ hc
  · rw [stateOf_none]
    exact ⟨.refl, rfl⟩
  · intro id s hs ih
    cases hx : s.state with
    | some x =>
      rw [stateOf_of_state hs hx, compiled?, hs]
      exact ⟨.refl, hx⟩
    | none =>
      have hkept := h.ordered.selector?_stateOf_parent hs
      rw [h.ordered.stateOf_of_parent hs hx]
      obtain ⟨hk, hp⟩ := ih
      generalize b.stateOf s.parent = reached at hk hp hkept ⊢
      obtain ⟨hcompile, hstate⟩ := (h.changes hk).1.changes_compile hkept hx hp
      exact ⟨hk.trans hcompile, hstate⟩

theorem changes_walk (h : b.Cached) {cursor : Option SelectorId} (hc : b.Knows cursor)
    (path : List Step) :
    b.Changes (b.walk cursor path).2 ∧
      ∀ reached, (b.walk cursor path).1 = .ok reached → (b.walk cursor path).2.Knows reached := by
  induction path generalizing b cursor with
  | nil =>
    refine ⟨.refl, fun reached hr => ?_⟩
    cases hr
    exact hc
  | cons step path ih =>
    cases step with
    | select kind constraints =>
      have hd := Change.declare kind constraints hc
      obtain ⟨hw, hr⟩ := ih (h.change hd).1 (b.knows_declare cursor kind constraints)
      exact ⟨.head hd hw, hr⟩
    | only n =>
      simp only [walk]
      split
      · rename_i limited hl
        have hk := h.changes_limit hl
        obtain ⟨hw, hr⟩ := ih (h.changes hk).1 (h.knows hk hc)
        exact ⟨hk.trans hw, hr⟩
      · exact ⟨.refl, fun _ hr => by cases hr⟩

theorem changes_act (h : b.Cached) {cursor : Option SelectorId} (hc : b.Knows cursor)
    (action : Action B) : b.Changes (b.act cursor action).2 := by
  obtain ⟨hk, hx⟩ := h.changes_stateOf hc
  cases action with
  | compile => exact hk
  | inspect view => cases view <;> exact .refl
  | only n =>
    simp only [act]
    split
    · exact h.changes_limit ‹_›
    · exact .refl
  | attach behaviour =>
    have hcopy := Change.copy (b := b) behaviour
    have hc' : (b.freshCopy behaviour).2.Knows cursor := hc
    obtain ⟨hk, hx⟩ := (h.change hcopy).1.changes_stateOf hc'
    exact (ReflTransGen.head hcopy hk).tail (.attach _ hx)
  | share behaviour => exact hk.tail (.attach _ hx)
  | mark key => exact hk.tail (.mark key _)
  | link test key =>
    simp only [act]
    split
    · exact .refl
    · split
      · exact hk.tail (.link hx ‹_›)
      · exact hk
  | bookmark key => exact .single (.bookmark key hc)
  | reject e => exact .refl

theorem changes_actAll (h : b.Cached) {cursor : Option SelectorId} (hc : b.Knows cursor)
    (actions : List (Action B)) : b.Changes (b.actAll cursor actions).2 := by
  induction actions generalizing b with
  | nil => exact .refl
  | cons action actions ih =>
    have hk := h.changes_act hc action
    simp only [actAll]
    generalize b.act cursor action = done at hk ⊢
    obtain ⟨answer, later⟩ := done
    cases answer with
    | error e => exact hk
    | ok answer => exact hk.trans (ih (h.changes hk).1 (h.knows hk hc))

/-- Whatever is declared, failing or not, is made of these changes. -/
theorem changes_perform (h : b.Cached) (d : Declaration B) : b.Changes (b.perform d).2 := by
  obtain ⟨statement, optional⟩ := d
  show b.Changes (b.carryOut statement).2
  cases statement with
  | select origin path actions =>
    obtain ⟨hw, hr⟩ := h.changes_walk (knows_start h.bookmarks origin) path
    simp only [carryOut]
    generalize b.walk (b.start origin) path = walked at hw hr ⊢
    obtain ⟨reached, later⟩ := walked
    cases reached with
    | error e => exact hw
    | ok cursor => exact hw.trans ((h.changes hw).1.changes_actAll (hr cursor rfl) actions)
  | observe behaviour => exact .single (.observe behaviour)
  | landmark key point => exact .single (.mark key point)
  | inspect view => exact .refl

/-! ### Scopes on a common workspace -/

/-- A scope that is opened has no selectors yet. -/
theorem of_empty {b : Builder B} (h : b.Fit 0) (hs : b.selectors = #[]) (hb : b.bookmarks = []) :
    b.Cached := by
  have hnone : ∀ id s, b.selector? id ≠ some s := by
    intro id s hid
    rw [selector?, hs] at hid
    cases hid
  refine ⟨h, fun id s _ hid => absurd hid (hnone id s), fun entry he => ?_,
    fun id s _ hid => absurd hid (hnone id s)⟩
  rw [hb] at he
  cases he

/-- Other scopes may change the workspace. -/
theorem onto (h : b.Cached) {w : Workspace B} (hw : w.Fit 0) (hg : b.graph.Extends w.graph) :
    { b with workspace := w }.Cached ∧ b.Grows { b with workspace := w } := by
  have hfit : { b with workspace := w }.Fit 0 :=
    ⟨hw, h.fit.root.mono hg, fun id s x hs hx => (h.fit.selectors id s x hs hx).mono hg⟩
  exact h.of_fit hfit hg rfl rfl rfl

end Cached
end Builder
end StreamSelect
