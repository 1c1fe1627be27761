import StreamSelect.Proofs.Building.Workspace
import StreamSelect.Proofs.Constraint.Selectors

/-! Scopes that remember. A scope without limits holds each selector once and compiles it once; what
it keeps with a selector is where the step of the selector leads in the automaton, so compiling it
again would change nothing. -/
namespace StreamSelect

/-! ### What a step adds -/

namespace Graph

variable {H : Type} {g : Graph H} {floor : Nat} {s : StateId}

/-- A step that was compiled leads to its state and changes nothing. -/
theorem Coherent.extend_of_hop? (hc : g.Coherent floor) (hs : g.Within floor s) {h : Hop}
    {t : StateId} (ht : g.hop? s h = some t) : g.extend s h = (t, g) := by
  rcases extend_cases hs.2 (hc.reentry_length s) (hc.reentry s) h with ⟨hfound, hg⟩ | ⟨hn, -⟩
  · rw [ht] at hfound
    exact Prod.ext (Option.some.inj hfound).symm hg
  · rw [ht] at hn
    cases hn

theorem Coherent.hop?_extend (hc : g.Coherent floor) (hs : g.Within floor s) (h : Hop) :
    (g.extend s h).2.hop? s h = some (g.extend s h).1 := by
  rcases extend_cases hs.2 (hc.reentry_length s) (hc.reentry s) h with ⟨ht, hg⟩ | ⟨hn, ht, hg⟩
  · rw [hg]
    exact ht
  · rw [ht]
    exact hg.hop?_eq hn

end Graph

/-! ### Declarations without limits -/

def Step.isUnlimited : Step → Bool
  | .only _ => false
  | _ => true

def Action.isUnlimited {B : Type} : Action B → Bool
  | .only _ => false
  | _ => true

def Declaration.isUnlimited {B : Type} (d : Declaration B) : Bool :=
  match d.statement with
  | .select _ path actions => path.all Step.isUnlimited && actions.all Action.isUnlimited
  | _ => true

namespace Builder

variable {B : Type}

/-! ### Later stages -/

/-- A later stage of a scope: selectors are only added, and what was compiled stays. -/
structure Grows (b later : Builder B) : Prop where
  graph : b.graph.Extends later.graph
  root : later.root = b.root
  selector : ∀ {id s}, b.selector? id = some s → ∃ s', later.selector? id = some s' ∧
    s'.parent = s.parent ∧ s'.kind = s.kind ∧ s'.constraints = s.constraints ∧
      ∀ x, s.state = some x → s'.state = some x

namespace Grows

theorem refl (b : Builder B) : b.Grows b :=
  ⟨.refl _, rfl, fun h => ⟨_, h, rfl, rfl, rfl, fun _ => id⟩⟩

theorem trans {a b c : Builder B} (h : a.Grows b) (k : b.Grows c) : a.Grows c := by
  refine ⟨h.graph.trans k.graph, k.root.trans h.root, fun hs => ?_⟩
  obtain ⟨s', hs', hp, hk, hc, hstate⟩ := h.selector hs
  obtain ⟨s'', hs'', hp', hk', hc', hstate'⟩ := k.selector hs'
  exact ⟨s'', hs'', hp'.trans hp, hk'.trans hk, hc'.trans hc, fun x hx => hstate' x (hstate x hx)⟩

theorem compiled? {b later : Builder B} (h : b.Grows later) {cursor : Option SelectorId}
    {x : StateId} (hx : b.compiled? cursor = some x) : later.compiled? cursor = some x := by
  apply compiled?_mono h.root _ hx
  intro id s hs
  obtain ⟨s', hs', -, -, -, hstate⟩ := h.selector hs
  exact ⟨s', hs', hstate⟩

theorem knows {b later : Builder B} (h : b.Grows later) {cursor : Option SelectorId}
    (hc : b.Knows cursor) : later.Knows cursor := by
  intro id hid
  obtain ⟨s, hs⟩ := hc id hid
  obtain ⟨s', hs', -⟩ := h.selector hs
  exact ⟨s', hs'⟩

/-- Only the automaton, the root and the selectors matter. -/
theorem of_same {b later : Builder B} (hg : b.graph.Extends later.graph) (hr : later.root = b.root)
    (hs : later.selectors = b.selectors) : b.Grows later := by
  refine ⟨hg, hr, fun {_ s} h => ⟨s, ?_, rfl, rfl, rfl, fun _ => id⟩⟩
  rw [selector?, hs]
  exact h

end Grows

/-! ### Scopes without limits -/

/-- A scope that holds each selector once, with the state its step leads to if it was compiled. -/
structure Memoized (b : Builder B) : Prop where
  fit : b.Fit 0
  ordered : b.Ordered
  unlimited : ∀ id s, b.selector? id = some s → s.limit = none
  /-- Selectors declared alike under one parent are the same. -/
  distinct : ∀ i j s t, b.selector? i = some s → b.selector? j = some t → s.parent = t.parent →
    s.Like t → i = j
  compiled : ∀ id s x, b.selector? id = some s → s.state = some x →
    ∃ base, b.compiled? s.parent = some base ∧ b.graph.hop? base s.hop = some x

/-- The scope after a selector was compiled. -/
def compiledTo (b : Builder B) (id : SelectorId) (reached : StateId × Graph (HandlerRef B)) :
    Builder B :=
  (b.withGraph reached.2).updateSelector id fun s => { s with state := some reached.1 }

theorem compile_of_unlimited {b : Builder B} {id : SelectorId} {s : Selector}
    (hs : b.selector? id = some s) (hl : s.limit = none) (base : StateId) :
    b.compile base id =
      ((b.graph.extend base s.hop).1, b.compiledTo id (b.graph.extend base s.hop)) := by
  unfold compile
  rw [hs]
  simp only [edge_selector, hl]
  rfl

theorem selector?_compiledTo (b : Builder B) (id other : SelectorId)
    (reached : StateId × Graph (HandlerRef B)) :
    (b.compiledTo id reached).selector? other =
      if id = other then (b.selector? other).map fun s => { s with state := some reached.1 }
      else b.selector? other :=
  selector?_updateSelector _ id other _

/-- A selector keeps everything but the state it is given. -/
theorem exists_of_selector?_compiledTo {b : Builder B} {id other : SelectorId}
    {reached : StateId × Graph (HandlerRef B)} {s : Selector}
    (hs : (b.compiledTo id reached).selector? other = some s) :
    ∃ old, b.selector? other = some old ∧
      (id ≠ other ∧ s = old ∨ id = other ∧ s = { old with state := some reached.1 }) := by
  rw [selector?_compiledTo] at hs
  split at hs
  · rename_i heq
    obtain ⟨old, hold, rfl⟩ := Option.map_eq_some_iff.1 hs
    exact ⟨old, hold, .inr ⟨heq, rfl⟩⟩
  · rename_i hne
    exact ⟨s, hs, .inl ⟨hne, rfl⟩⟩

theorem grows_compiledTo {b : Builder B} {id : SelectorId}
    {reached : StateId × Graph (HandlerRef B)} (hg : b.graph.Extends reached.2)
    (hstay : ∀ s x, b.selector? id = some s → s.state = some x → x = reached.1) :
    b.Grows (b.compiledTo id reached) := by
  refine ⟨hg, rfl, fun {other s} hs => ?_⟩
  rw [selector?_compiledTo, hs]
  split
  · rename_i heq
    subst heq
    exact ⟨_, rfl, rfl, rfl, rfl, fun x hx => congrArg some (hstay s x hs hx).symm⟩
  · exact ⟨s, rfl, rfl, rfl, rfl, fun _ hx => hx⟩

theorem stateOf_of_compiled {b : Builder B} {cursor : Option SelectorId} {x : StateId}
    (hx : b.compiled? cursor = some x) : b.stateOf cursor = (x, b) := by
  cases cursor with
  | none =>
    rw [stateOf_none]
    exact Prod.ext (Option.some.inj hx) rfl
  | some id =>
    obtain ⟨s, hs, hx⟩ := Option.bind_eq_some_iff.1 hx
    exact stateOf_of_state hs hx

/-- A declared selector is one below its parent that is like the step. -/
theorem selector?_declare (b : Builder B) (parent : Option SelectorId) (kind : SelectorKind)
    (constraints : List Constraint) :
    ∃ s, (b.declare parent kind constraints).2.selector? (b.declare parent kind constraints).1 =
      some s ∧ s.parent = parent ∧ s.Like { parent, kind, constraints } := by
  unfold declare
  split
  · rename_i i hi
    obtain ⟨hlt, hsame, -⟩ := Array.findIdx?_eq_some_iff_getElem.1 hi
    exact ⟨_, Array.getElem?_eq_getElem hlt, Selector.same_iff.1 hsame⟩
  · exact ⟨{ parent, kind, constraints }, Array.getElem?_push_size, rfl, BEq.rfl, BEq.rfl⟩

/-- A scope without selectors has nothing to remember. -/
theorem Memoized.of_empty {b : Builder B} (h : b.Fit 0) (hs : b.selectors = #[]) : b.Memoized := by
  have hnone : ∀ id s, b.selector? id ≠ some s := by
    intro id s hid
    rw [selector?, hs] at hid
    cases hid
  constructor
  · exact h
  · exact fun id s _ hid => absurd hid (hnone id s)
  · exact fun id s hid => absurd hid (hnone id s)
  · exact fun i _ s _ hi => absurd hi (hnone i s)
  · exact fun id s _ hid => absurd hid (hnone id s)

namespace Memoized

variable {b : Builder B}

theorem within (h : b.Memoized) {cursor : Option SelectorId} {x : StateId}
    (hx : b.compiled? cursor = some x) : b.graph.Within 0 x := by
  cases cursor with
  | none =>
    obtain rfl : b.root = x := Option.some.inj hx
    exact h.fit.root
  | some id =>
    obtain ⟨s, hs, hx⟩ := Option.bind_eq_some_iff.1 hx
    exact h.fit.selectors id s x hs hx

/-- What is kept with a selector is where its step leads, and stays so. -/
theorem extend_of_state (h : b.Memoized) {id : SelectorId} {s : Selector} {base x : StateId}
    (hs : b.selector? id = some s) (hb : b.compiled? s.parent = some base) (hx : s.state = some x) :
    b.graph.extend base s.hop = (x, b.graph) := by
  obtain ⟨base', hb', hhop⟩ := h.compiled id s x hs hx
  obtain rfl : base' = base := Option.some.inj (hb'.symm.trans hb)
  exact Graph.Coherent.extend_of_hop? h.fit.workspace.coherent (h.within hb) hhop

/-- Only the automaton may grow beside what selectors do not depend on. -/
theorem of_fit (h : b.Memoized) {later : Builder B} (hfit : later.Fit 0)
    (hg : b.graph.Extends later.graph) (hr : later.root = b.root)
    (hs : later.selectors = b.selectors) : later.Memoized := by
  have hgrows : b.Grows later := .of_same hg hr hs
  have hsel : later.selector? = b.selector? := by
    funext id
    simp only [selector?, hs]
  refine ⟨hfit, ?_, ?_, ?_, ?_⟩
  · unfold Ordered
    rw [hsel]
    exact h.ordered
  · rw [hsel]
    exact h.unlimited
  · rw [hsel]
    exact h.distinct
  · rw [hsel]
    intro id s x hid hx
    obtain ⟨base, hb, hhop⟩ := h.compiled id s x hid hx
    exact ⟨base, hgrows.compiled? hb, Graph.hop?_of_extends hg hhop⟩

/-- Compiling a selector below the state of its parent. -/
theorem compile (h : b.Memoized) {id : SelectorId} {s : Selector} {base : StateId}
    (hs : b.selector? id = some s) (hb : b.compiled? s.parent = some base) :
    (b.compile base id).2.Memoized ∧ b.Grows (b.compile base id).2 ∧
      (b.compile base id).2.compiled? (some id) = some (b.compile base id).1 := by
  have hc : b.graph.Coherent 0 := h.fit.workspace.coherent
  have hfit := (h.fit.becomes_compile (h.within hb) id).1.fit
  have hhop := hc.hop?_extend (h.within hb) s.hop
  rw [compile_of_unlimited hs (h.unlimited id s hs)] at hfit ⊢
  have hext : b.graph.Extends (b.graph.extend base s.hop).2 := .extend _ _ _
  have hstay : ∀ t x, b.selector? id = some t → t.state = some x →
      x = (b.graph.extend base s.hop).1 := by
    intro t x ht hx
    obtain rfl : t = s := Option.some.inj (ht.symm.trans hs)
    rw [h.extend_of_state ht hb hx]
  generalize b.graph.extend base s.hop = reached at hfit hhop hext hstay ⊢
  have hgrows : b.Grows (b.compiledTo id reached) := grows_compiledTo hext hstay
  refine ⟨⟨hfit, ?_, ?_, ?_, ?_⟩, hgrows, ?_⟩
  · intro other t p ht hp
    obtain ⟨old, hold, ⟨-, rfl⟩ | ⟨-, rfl⟩⟩ := exists_of_selector?_compiledTo ht
    · exact h.ordered other t p hold hp
    · exact h.ordered other old p hold hp
  · intro other t ht
    obtain ⟨old, hold, ⟨-, rfl⟩ | ⟨-, rfl⟩⟩ := exists_of_selector?_compiledTo ht
    · exact h.unlimited other t hold
    · exact h.unlimited other old hold
  · intro i j t u ht hu hparent hlike
    obtain ⟨oldt, holdt, ⟨-, rfl⟩ | ⟨-, rfl⟩⟩ := exists_of_selector?_compiledTo ht <;>
      obtain ⟨oldu, holdu, ⟨-, rfl⟩ | ⟨-, rfl⟩⟩ := exists_of_selector?_compiledTo hu
    all_goals exact h.distinct i j _ _ holdt holdu hparent ⟨hlike.kind, hlike.constraints⟩
  · intro other t x ht hx
    obtain ⟨old, hold, ⟨-, rfl⟩ | ⟨rfl, rfl⟩⟩ := exists_of_selector?_compiledTo ht
    · obtain ⟨above, habove, hfound⟩ := h.compiled other t x hold hx
      exact ⟨above, hgrows.compiled? habove, Graph.hop?_of_extends hext hfound⟩
    · obtain rfl : old = s := Option.some.inj (hold.symm.trans hs)
      obtain rfl : reached.1 = x := Option.some.inj hx
      exact ⟨base, hgrows.compiled? hb, hhop⟩
  · rw [compiled?, selector?_compiledTo, if_pos rfl, hs]
    rfl

/-- A compiled selector is not compiled again. -/
theorem compile_of_state (h : b.Memoized) {id : SelectorId} {s : Selector} {base x : StateId}
    (hs : b.selector? id = some s) (hb : b.compiled? s.parent = some base) (hx : s.state = some x) :
    b.compile base id = (x, b) := by
  rw [compile_of_unlimited hs (h.unlimited id s hs), h.extend_of_state hs hb hx]
  have hsame : b.selectors.modify id.index (fun s => { s with state := some x }) = b.selectors := by
    refine Array.ext_getElem? fun i => ?_
    rw [Array.getElem?_modify]
    split
    · rename_i hi
      subst hi
      rw [show b.selectors[id.index]? = some s from hs]
      exact congrArg some (congrArg (fun state => { s with state }) hx.symm)
    · rfl
  exact Prod.ext rfl (congrArg (fun selectors => { b with selectors }) hsame)

/-- The state of a selector is where its step leads from the state of its parent, compiled before or
not. -/
theorem stateOf_eq (h : b.Memoized) {id : SelectorId} {s : Selector}
    (hs : b.selector? id = some s) :
    b.stateOf (some id) = (b.stateOf s.parent).2.compile (b.stateOf s.parent).1 id := by
  cases hx : s.state with
  | none => exact h.ordered.stateOf_of_parent hs hx
  | some x =>
    obtain ⟨base, hb, -⟩ := h.compiled id s x hs hx
    rw [stateOf_of_compiled hb, h.compile_of_state hs hb hx, stateOf_of_state hs hx]

theorem stateOf (h : b.Memoized) {cursor : Option SelectorId} (hc : b.Knows cursor) :
    (b.stateOf cursor).2.Memoized ∧ b.Grows (b.stateOf cursor).2 ∧
      (b.stateOf cursor).2.compiled? cursor = some (b.stateOf cursor).1 := by
  apply h.ordered.cursor_induction _ _ hc
  · rw [stateOf_none]
    exact ⟨h, .refl b, rfl⟩
  · intro id s hs ih
    rw [h.stateOf_eq hs]
    obtain ⟨hm, hg, hp⟩ := ih
    generalize b.stateOf s.parent = reached at hm hg hp ⊢
    obtain ⟨s', hs', hparent, -⟩ := hg.selector hs
    rw [← hparent] at hp
    obtain ⟨hcompile, hgrows, hstate⟩ := hm.compile hs' hp
    exact ⟨hcompile, hg.trans hgrows, hstate⟩

/-! ### Declaring steps -/

/-- A declared selector is one below its parent that is like the step. -/
theorem declare (h : b.Memoized) {parent : Option SelectorId} (hp : b.Knows parent)
    (kind : SelectorKind) (constraints : List Constraint) :
    (b.declare parent kind constraints).2.Memoized ∧
      b.Grows (b.declare parent kind constraints).2 ∧
      ∃ s, (b.declare parent kind constraints).2.selector? (b.declare parent kind constraints).1 =
          some s ∧ s.parent = parent ∧ s.Like { parent, kind, constraints } := by
  rw [← and_assoc]
  refine ⟨?_, b.selector?_declare parent kind constraints⟩
  have hfit := (h.fit.becomes_declare parent kind constraints).fit
  unfold Builder.declare at hfit ⊢
  split
  · exact ⟨h, .refl b⟩
  · rename_i hnone
    rw [hnone] at hfit
    let new : Selector := { parent, kind, constraints }
    let later : Builder B := { b with selectors := b.selectors.push new }
    have hgrows : b.Grows later :=
      ⟨.refl _, rfl, fun hs => ⟨_, selector?_of_push rfl hs, rfl, rfl, rfl, fun _ hx => hx⟩⟩
    -- the new selector is unlike those there are
    have hunlike : ∀ {id s}, b.selector? id = some s → s.parent = parent → ¬s.Like new := by
      intro id s hs hparent hlike
      have hfalse := Array.findIdx?_eq_none_iff.1 hnone s (Array.mem_of_getElem? hs)
      rw [Selector.same_iff.2 ⟨hparent, hlike⟩] at hfalse
      cases hfalse
    refine ⟨⟨hfit, ?_, ?_, ?_, ?_⟩, hgrows⟩
    · intro id s p hs hparent
      rcases selector?_push rfl hs with hs | ⟨hid, rfl⟩
      · exact h.ordered id s p hs hparent
      · obtain ⟨s, hs⟩ := hp p hparent
        rw [hid]
        exact (Array.getElem?_eq_some_iff.1 hs).1
    · intro id s hs
      rcases selector?_push rfl hs with hs | ⟨-, rfl⟩
      · exact h.unlimited id s hs
      · rfl
    · intro i j s t hs ht hparent hlike
      rcases selector?_push rfl hs with hs | ⟨hi, rfl⟩ <;>
        rcases selector?_push rfl ht with ht | ⟨hj, rfl⟩
      · exact h.distinct i j s t hs ht hparent hlike
      · exact absurd hlike (hunlike hs hparent)
      · exact absurd hlike.symm (hunlike ht hparent.symm)
      · cases i
        cases j
        exact congrArg SelectorId.mk (hi.trans hj.symm)
    · intro id s x hs hx
      rcases selector?_push rfl hs with hs | ⟨-, rfl⟩
      · obtain ⟨base, hb, hhop⟩ := h.compiled id s x hs hx
        exact ⟨base, hgrows.compiled? hb, hhop⟩
      · cases hx

end Memoized

theorem knows_of_declare {b : Builder B} {parent : Option SelectorId} {kind : SelectorKind}
    {constraints : List Constraint} {cursor : Option SelectorId}
    (hc : (b.declare parent kind constraints).2.Knows cursor) :
    b.Knows cursor ∨ cursor = some (b.declare parent kind constraints).1 := by
  unfold declare at hc ⊢
  split at hc
  · exact .inl hc
  · cases cursor with
    | none => exact .inl nofun
    | some id =>
      obtain ⟨s, hs⟩ := hc id rfl
      rcases selector?_push rfl hs with hs | ⟨hid, -⟩
      · left
        intro other hother
        cases hother
        exact ⟨s, hs⟩
      · right
        cases id
        exact congrArg (fun i => some (SelectorId.mk i)) hid

/-- A step that is declared is not compiled yet. -/
theorem compiled?_of_declare {b : Builder B} {parent : Option SelectorId} {kind : SelectorKind}
    {constraints : List Constraint} {cursor : Option SelectorId} {x : StateId}
    (hx : (b.declare parent kind constraints).2.compiled? cursor = some x) :
    b.compiled? cursor = some x := by
  unfold declare at hx
  split at hx
  · exact hx
  · cases cursor with
    | none => exact hx
    | some id =>
      obtain ⟨s, hs, hx⟩ := Option.bind_eq_some_iff.1 hx
      rcases selector?_push rfl hs with hs | ⟨-, rfl⟩
      · exact Option.bind_eq_some_iff.2 ⟨s, hs, hx⟩
      · cases hx

theorem workspace_declare (b : Builder B) (parent : Option SelectorId) (kind : SelectorKind)
    (constraints : List Constraint) :
    (b.declare parent kind constraints).2.workspace = b.workspace := by
  unfold declare
  split <;> rfl

theorem bookmarks_declare (b : Builder B) (parent : Option SelectorId) (kind : SelectorKind)
    (constraints : List Constraint) :
    (b.declare parent kind constraints).2.bookmarks = b.bookmarks := by
  unfold declare
  split <;> rfl

/-! ### Acting on a cursor -/

/-- A later stage of a scope that remembers, after handlers were attached to the state of a cursor
only. -/
structure Acts (b : Builder B) (cursor : Option SelectorId) (later : Builder B) : Prop where
  memoized : later.Memoized
  grows : b.Grows later
  attached : ∃ new, later.workspace.attachments.toList = b.workspace.attachments.toList ++ new ∧
    ∀ a ∈ new, later.compiled? cursor = some a.state

theorem Acts.trans {a b c : Builder B} {cursor : Option SelectorId} (h : a.Acts cursor b)
    (k : b.Acts cursor c) : a.Acts cursor c := by
  obtain ⟨xs, hxs, hx⟩ := h.attached
  obtain ⟨ys, hys, hy⟩ := k.attached
  refine ⟨k.memoized, h.grows.trans k.grows, xs ++ ys, ?_, fun a ha => ?_⟩
  · rw [hys, hxs, List.append_assoc]
  · rcases List.mem_append.1 ha with ha | ha
    · exact k.grows.compiled? (hx a ha)
    · exact hy a ha

/-- A transition to a point of the model itself. -/
theorem link_of_own {b : Builder B} {x : StateId} {t : Constraint} {p : AttachPoint}
    (ho : p.model = b.workspace.model ∧ b.graph.contains p.state = true) :
    ∃ records, b.link x t p = .ok { b with workspace := { b.workspace with
      graph := (b.graph.link x t p.state).2, records } } := by
  unfold link
  rw [if_pos ho]
  dsimp only
  split
  · exact ⟨_, rfl⟩
  · exact ⟨_, rfl⟩

theorem limitState_eq (b : Builder B) (x : StateId) (n : Nat) :
    ∃ records, b.limitState x n = { b with workspace := { b.workspace with
      graph := b.graph.setLimit x n, records } } := by
  unfold limitState
  dsimp only
  split
  · split
    · exact ⟨_, rfl⟩
    · exact ⟨_, rfl⟩
  · exact ⟨_, rfl⟩

/-- Compiling changes the automaton, and may leave a record. -/
theorem workspace_compile (b : Builder B) (base : StateId) (id : SelectorId) :
    ∃ graph records, (b.compile base id).2.workspace = { b.workspace with graph, records } := by
  unfold compile
  split
  · exact ⟨_, _, rfl⟩
  · dsimp only
    split
    · obtain ⟨records, hlimited⟩ := limitState_eq _ _ ‹Nat›
      rw [hlimited]
      exact ⟨_, _, rfl⟩
    · exact ⟨_, _, rfl⟩

theorem workspace_stateOf (b : Builder B) (cursor : Option SelectorId) :
    ∃ graph records, (b.stateOf cursor).2.workspace = { b.workspace with graph, records } := by
  unfold stateOf
  generalize b.uncompiled cursor [] = pending
  obtain ⟨base, path⟩ := pending
  dsimp only
  induction path generalizing b base with
  | nil => exact ⟨_, _, rfl⟩
  | cons id path ih =>
    obtain ⟨graph, records, hw⟩ := b.workspace_compile base id
    rw [List.foldl_cons]
    obtain ⟨graph', records', hw'⟩ := ih (b.compile base id).2 (b.compile base id).1
    rw [hw']
    exact ⟨graph', records', by rw [hw]⟩

theorem attachments_stateOf (b : Builder B) (cursor : Option SelectorId) :
    (b.stateOf cursor).2.workspace.attachments = b.workspace.attachments := by
  obtain ⟨graph, records, hw⟩ := b.workspace_stateOf cursor
  rw [hw]

namespace Memoized

variable {b : Builder B} {cursor : Option SelectorId}

theorem acts (h : b.Memoized) (cursor : Option SelectorId) : b.Acts cursor b :=
  ⟨h, .refl b, [], (List.append_nil _).symm, fun _ ha => nomatch ha⟩

/-- Selectors stay, and nothing is attached. -/
theorem acts_of_becomes (h : b.Memoized) {observed : List B} {later : Builder B}
    (hk : b.Becomes 0 observed later) (hr : later.root = b.root)
    (hs : later.selectors = b.selectors)
    (ha : later.workspace.attachments = b.workspace.attachments) : b.Acts cursor later :=
  ⟨h.of_fit hk.fit hk.graph hr hs, .of_same hk.graph hr hs, [], by rw [ha, List.append_nil],
    fun _ ha => nomatch ha⟩

theorem acts_stateOf (h : b.Memoized) (hc : b.Knows cursor) :
    b.Acts cursor (b.stateOf cursor).2 := by
  obtain ⟨hm, hg, -⟩ := h.stateOf hc
  exact ⟨hm, hg, [], by rw [attachments_stateOf, List.append_nil], fun _ ha => nomatch ha⟩

theorem acts_attach (h : b.Memoized) {s : StateId} (hs : b.compiled? cursor = some s)
    (handler : HandlerRef B) : b.Acts cursor (b.attach s handler) := by
  have hk := h.fit.becomes_attach (h.within hs) handler
  have hgrows : b.Grows (b.attach s handler) := .of_same hk.graph rfl rfl
  refine ⟨h.of_fit hk.fit hk.graph rfl rfl, hgrows, [⟨s, handler⟩], Array.toList_push, ?_⟩
  intro a ha
  rw [List.mem_singleton.1 ha]
  exact hgrows.compiled? hs

theorem acts_link (h : b.Memoized) {s : StateId} (hs : b.graph.Within 0 s) {test : Constraint}
    {target : AttachPoint} {later : Builder B} (hl : b.link s test target = .ok later) :
    b.Acts cursor later := by
  have hk := h.fit.becomes_link hs (fun _ => Nat.zero_le _) hl
  unfold link at hl
  split at hl
  · dsimp only at hl
    split at hl
    all_goals
      cases hl
      exact h.acts_of_becomes hk rfl rfl rfl
  · cases hl

theorem acts_act (h : b.Memoized) (hc : b.Knows cursor) {action : Action B}
    (ha : action.isUnlimited = true) : b.Acts cursor (b.act cursor action).2 := by
  have hs := h.acts_stateOf hc
  obtain ⟨-, -, hx⟩ := h.stateOf hc
  cases action with
  | compile => exact hs
  | inspect view => cases view <;> exact h.acts cursor
  | only n => cases ha
  | attach behaviour =>
    have hcopy : b.Acts cursor (b.freshCopy behaviour).2 :=
      h.acts_of_becomes (h.fit.becomes_of_same rfl rfl rfl rfl rfl rfl h.fit.selectors) rfl rfl rfl
    have hc' : (b.freshCopy behaviour).2.Knows cursor := hc
    obtain ⟨-, -, hx⟩ := hcopy.memoized.stateOf hc'
    have hs := hcopy.memoized.acts_stateOf hc'
    exact (hcopy.trans hs).trans (hs.memoized.acts_attach hx _)
  | share behaviour => exact hs.trans (hs.memoized.acts_attach hx _)
  | mark key =>
    exact hs.trans (hs.memoized.acts_of_becomes
      (hs.memoized.fit.becomes_mark key fun _ => Nat.zero_le _) rfl rfl rfl)
  | link test key =>
    simp only [act]
    split
    · exact h.acts cursor
    · split
      · exact hs.trans (hs.memoized.acts_link (hs.memoized.within hx) ‹_›)
      · exact hs
  | bookmark key =>
    have hkept : b.Becomes 0 [] { b with bookmarks := (key, cursor) :: b.bookmarks } :=
      h.fit.becomes_of_same rfl rfl rfl rfl rfl rfl h.fit.selectors
    exact h.acts_of_becomes hkept rfl rfl rfl
  | reject e => exact h.acts cursor

theorem acts_actAll (h : b.Memoized) (hc : b.Knows cursor) {actions : List (Action B)}
    (ha : actions.all Action.isUnlimited = true) : b.Acts cursor (b.actAll cursor actions).2 := by
  induction actions generalizing b with
  | nil => exact h.acts cursor
  | cons action actions ih =>
    rw [List.all_cons, Bool.and_eq_true] at ha
    have hk := h.acts_act hc ha.1
    simp only [actAll]
    generalize b.act cursor action = done at hk ⊢
    obtain ⟨answer, later⟩ := done
    cases answer with
    | error e => exact hk
    | ok answer => exact hk.trans (ih hk.memoized (hk.grows.knows hc) ha.2)

end Memoized
end Builder
end StreamSelect
