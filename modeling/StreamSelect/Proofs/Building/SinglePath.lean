import StreamSelect.Proofs.Building.NamedScope

/-! A single path. Where nothing was declared before, each name of a path becomes a selector of its
own, and compiling the last of them adds one state for each name, the last one without edges. -/
namespace StreamSelect

/-! ### Automata of one path -/

/-- An automaton that holds the states of one path of names and nothing else. -/
structure Graph.Trail {H : Type} (g : Graph H) (path : List Name) (s : StateId) : Prop where
  arranged : ∃ o, g.Arranged o
  usable : g.Usable s
  reach : g.reach? .root (childChain path) = some s
  named : g.Named
  /-- States have transitions only. -/
  bare : ∀ t, g.state t = { transitions := (g.state t).transitions }
  last : g.state s = {}

namespace Graph

variable {H : Type} {g : Graph H} {path : List Name} {s : StateId}

theorem trail_initial : (initial : Graph H).Trail [] .root where
  arranged := ⟨_, arranged_initial⟩
  usable := ⟨Nat.le_refl 1, rfl⟩
  reach := rfl
  named := free_initial.named
  bare t := by rw [state_initial]
  last := state_initial _

/-- One more name of the path adds one more state without edges. -/
theorem Trail.extend (h : g.Trail path s) (n : Name) :
    (g.extend s ⟨false, .name n⟩).2.Trail (path ++ [n]) (g.extend s ⟨false, .name n⟩).1 := by
  obtain ⟨o, ha⟩ := h.arranged
  have hnone : g.hop? s ⟨false, .name n⟩ = none := by
    simp [hop?, h.last, Transition.targetOf?]
  have hext : g.Extends (g.extend s ⟨false, .name n⟩).2 := .extend _ _ _
  rcases ha.extend_cases h.usable.2 ⟨false, .name n⟩ with ⟨hsome, -⟩ | ⟨-, ht, hg⟩
  · rw [hnone] at hsome
    cases hsome
  refine ⟨⟨_, ha.grow h.usable.1 h.usable.2 hg⟩, ?_, ?_, ?_, fun t => ?_, ?_⟩
  · rw [ht]
    refine ⟨Nat.le_trans h.usable.1 (Nat.le_of_lt (of_decide_eq_true h.usable.2)), ?_⟩
    exact decide_eq_true (by rw [hg.size_eq]; exact Nat.lt_succ_self _)
  · rw [childChain_concat, reach?_concat, reach?_of_extends hext h.reach, ht]
    exact hg.hop?_eq hnone
  · exact h.named.addTransition s n
  · show (g.addTransition s (.name n)).2.state t =
      { transitions := ((g.addTransition s (.name n)).2.state t).transitions }
    rcases g.state_addTransition_cases s (.name n) t with hsame | ⟨-, u, hsame⟩
    · rw [hsame]
      exact h.bare t
    · rw [hsame, h.bare t]
  · rw [ht, hg.new, h.last]
    rfl

end Graph

namespace Builder

variable {B : Type} {b : Builder B} {cursor : Option SelectorId}

/-! ### Compiling one selector after another -/

theorem selector?_limitState (b : Builder B) (s : StateId) (limit : Nat) (id : SelectorId) :
    (b.limitState s limit).selector? id = b.selector? id := by
  obtain ⟨records, heq⟩ := b.limitState_eq s limit
  rw [heq]
  rfl

theorem selector?_compile_of_ne {id other : SelectorId} (hne : id ≠ other) (base : StateId) :
    (b.compile base id).2.selector? other = b.selector? other := by
  unfold compile
  split
  · rfl
  · dsimp only
    split
    · rw [selector?_limitState, selector?_updateSelector, if_neg hne]
      rfl
    · rw [selector?_updateSelector, if_neg hne]
      rfl

/-- Compiling a cursor changes no selector declared later. -/
theorem Ordered.selector?_stateOf (h : b.Ordered) (hc : b.Knows cursor) {other : SelectorId}
    (hlater : ∀ id, cursor = some id → id.index < other.index) :
    (b.stateOf cursor).2.selector? other = b.selector? other := by
  revert hlater
  apply h.cursor_induction _ _ hc
  · intro _
    rw [stateOf_none]
  · intro id s hs ih hlater
    have hlt := hlater id rfl
    cases hx : s.state with
    | some x => rw [stateOf_of_state hs hx]
    | none =>
      have hne : id ≠ other := by
        rintro rfl
        exact Nat.lt_irrefl _ hlt
      rw [h.stateOf_of_parent hs hx, selector?_compile_of_ne hne]
      exact ih fun p hp => Nat.lt_trans (h _ _ _ hs hp) hlt

/-- A selector that is not compiled yet, after its ancestors are. -/
theorem Ordered.selector?_stateOf_parent (h : b.Ordered) {id : SelectorId} {s : Selector}
    (hs : b.selector? id = some s) : (b.stateOf s.parent).2.selector? id = some s := by
  rw [h.selector?_stateOf (h.knows_parent hs) fun p hp => h _ _ _ hs hp, hs]

/-- Compiling a selector without a limit takes its step from the state of its parent. -/
theorem Ordered.stateOf_of_unlimited (h : b.Ordered) {id : SelectorId} {s : Selector}
    (hs : b.selector? id = some s) (hx : s.state = none) (hl : s.limit = none) :
    b.stateOf (some id) =
      (((b.stateOf s.parent).2.graph.extend (b.stateOf s.parent).1 s.hop).1,
        (b.stateOf s.parent).2.compiledTo id
          ((b.stateOf s.parent).2.graph.extend (b.stateOf s.parent).1 s.hop)) := by
  rw [h.stateOf_of_parent hs hx, compile_of_unlimited (h.selector?_stateOf_parent hs) hl]

/-! ### Declaring one path -/

/-- The cursor of a path of names, none of which is compiled. -/
inductive Fresh (b : Builder B) : Option SelectorId → List Name → Prop
  | root : Fresh b none []
  | step {id : SelectorId} {parent : Option SelectorId} {n : Name} {path : List Name} :
    b.selector? id = some { parent, kind := .child n, constraints := [] } → Fresh b parent path →
      Fresh b (some id) (path ++ [n])

theorem Fresh.knows {path : List Name} (h : b.Fresh cursor path) : b.Knows cursor := by
  intro id hid
  subst hid
  cases h with
  | step hs _ => exact ⟨_, hs⟩

theorem Fresh.mono {later : Builder B} {path : List Name}
    (hs : ∀ id s, b.selector? id = some s → later.selector? id = some s) (h : b.Fresh cursor path) :
    later.Fresh cursor path := by
  induction h with
  | root => exact .root
  | step hid _ ih => exact .step (hs _ _ hid) ih

/-- A path that was declared in an empty automaton, with nothing below it. -/
structure Ahead (b : Builder B) (cursor : Option SelectorId) (path : List Name) : Prop where
  root : b.root = .root
  graph : b.graph = .initial
  ordered : b.Ordered
  fresh : b.Fresh cursor path
  leaf : ∀ id s, b.selector? id = some s → s.parent ≠ cursor

namespace Ahead

variable {path : List Name}

theorem ofModel (n : Nat) : (ofModel n : Builder B).Ahead none [] where
  root := rfl
  graph := rfl
  ordered := fun id s p hs _ => by cases hs
  fresh := .root
  leaf := fun id s hs => by cases hs

/-- The state that the path is compiled to. -/
theorem trail_stateOf (h : b.Ordered) (hroot : b.root = .root) (hg : b.graph = .initial)
    (hf : b.Fresh cursor path) :
    (b.stateOf cursor).2.graph.Trail path (b.stateOf cursor).1 := by
  induction hf with
  | root =>
    rw [stateOf_none, hg, hroot]
    exact Graph.trail_initial
  | @step id parent n path hs _ ih =>
    rw [h.stateOf_of_unlimited hs rfl rfl]
    exact ih.extend n

/-- The state of a step below the path is made from that of the path. -/
theorem stateOf_below (h : b.Ordered) (hroot : b.root = .root) (hg : b.graph = .initial)
    {id : SelectorId} {s : Selector} (hs : b.selector? id = some s) (hx : s.state = none)
    (hl : s.limit = none) (hf : b.Fresh s.parent path) :
    ∃ before p, Graph.Trail before path p ∧ (b.stateOf (some id)).1 = (before.extend p s.hop).1 ∧
      (b.stateOf (some id)).2.graph = (before.extend p s.hop).2 := by
  rw [h.stateOf_of_unlimited hs hx hl]
  exact ⟨_, _, trail_stateOf h hroot hg hf, rfl, rfl⟩

/-- A step below the path becomes a new selector. -/
theorem declare (h : b.Ahead cursor path) (kind : SelectorKind) (constraints : List Constraint) :
    b.declare cursor kind constraints = (⟨b.selectors.size⟩,
      { b with selectors := b.selectors.push { parent := cursor, kind, constraints } }) := by
  have hnone : b.selectors.findIdx? (·.same cursor kind constraints) = none := by
    rw [Array.findIdx?_eq_none_iff]
    intro s hs
    obtain ⟨i, hi⟩ := Array.mem_iff_getElem?.1 hs
    have hne := h.leaf ⟨i⟩ s hi
    rw [Bool.eq_false_iff]
    exact fun hsame => hne (Selector.same_iff.1 hsame).1
  rw [Builder.declare, hnone]

/-- The scope with a new selector below the path. -/
theorem pushed (h : b.Ahead cursor path) (new : Selector) (hp : new.parent = cursor)
    (later : Builder B) (hs : later.selectors = b.selectors.push new) :
    later.Ordered ∧ later.Fresh cursor path ∧ later.selector? ⟨b.selectors.size⟩ = some new ∧
      ∀ id s, later.selector? id = some s → s.parent ≠ some ⟨b.selectors.size⟩ := by
  have hknown : ∀ p, cursor = some p → p.index < b.selectors.size := by
    intro p hc
    obtain ⟨s, hid⟩ := h.fresh.knows p hc
    exact (Array.getElem?_eq_some_iff.1 hid).1
  refine ⟨fun id s p hid hparent => ?_, h.fresh.mono fun id s hid => selector?_of_push hs hid, ?_,
    fun id s hid hparent => ?_⟩
  · rcases selector?_push hs hid with hid | ⟨hi, rfl⟩
    · exact h.ordered id s p hid hparent
    · rw [hi]
      exact hknown p (hp.symm.trans hparent)
  · rw [selector?, hs]
    exact Array.getElem?_push_size
  · rcases selector?_push hs hid with hid | ⟨-, rfl⟩
    · have hlt := h.ordered id s _ hid hparent
      have hsize : id.index < b.selectors.size := (Array.getElem?_eq_some_iff.1 hid).1
      exact Nat.lt_asymm hlt hsize
    · exact Nat.lt_irrefl _ (hknown _ (hp.symm.trans hparent))

/-- Declaring more names of the path. -/
theorem walk (h : b.Ahead cursor path) (more : List Name) :
    ∃ reached later, b.walk cursor (pathSteps more) = (.ok reached, later) ∧
      later.Ahead reached (path ++ more) ∧ later.workspace = b.workspace := by
  induction more generalizing b cursor path with
  | nil => exact ⟨cursor, b, rfl, by rwa [List.append_nil], rfl⟩
  | cons n more ih =>
    let new : Selector := { parent := cursor, kind := .child n, constraints := [] }
    let declared : Builder B := { b with selectors := b.selectors.push new }
    obtain ⟨hordered, hfresh, hnew, hleaf⟩ := h.pushed new rfl declared rfl
    have hahead : declared.Ahead (some ⟨b.selectors.size⟩) (path ++ [n]) :=
      ⟨h.root, h.graph, hordered, .step hnew hfresh, hleaf⟩
    obtain ⟨reached, later, hwalk, hlater, hworkspace⟩ := ih hahead
    rw [List.append_assoc] at hlater
    refine ⟨reached, later, ?_, hlater, hworkspace⟩
    rw [pathSteps, List.map_cons, Builder.walk, h.declare]
    exact hwalk

end Ahead

/-- Steps behind others go on from the cursor these lead to. -/
theorem walk_append {later : Builder B} {reached : Option SelectorId} {steps : List Step}
    (hw : b.walk cursor steps = (.ok reached, later)) (more : List Step) :
    b.walk cursor (steps ++ more) = later.walk reached more := by
  induction steps generalizing b cursor with
  | nil =>
    obtain ⟨hc, rfl⟩ := Prod.mk.inj hw
    rw [Except.ok.inj hc]
    rfl
  | cons step steps ih =>
    cases step with
    | select kind constraints => exact ih hw
    | only n =>
      simp only [List.cons_append, walk] at hw ⊢
      split at hw
      · exact ih hw
      · cases hw

end Builder
end StreamSelect
