import StreamSelect.Proofs.Automaton.Qualifiers
import StreamSelect.Proofs.Building.Inlining

/-! Qualifiers in declarations. Declarations that differ in qualifiers only are carried out alike: with
the same answers, errors and records, and to automata that lead elements to the same states. -/
namespace StreamSelect

open List (Forall₂)

/-! ### What is reported -/

theorem Name.display_congr {a b : Name} (h : (a == b) = true) : a.display = b.display := by
  have hkey := Name.beq_iff_key.1 h
  unfold display
  rw [show a.uri = b.uri from congrArg Prod.fst hkey,
    show a.localName = b.localName from congrArg Prod.snd hkey]

namespace Constraint

mutual
/-- A constraint is shown without qualifiers. -/
theorem describe_of_same : ∀ c d : Constraint, same c d = true → c.describe = d.describe
  | name a, d, h => by
    cases d <;> simp only [same, Bool.false_eq_true] at h
    rw [describe, describe, Name.display_congr h]
  | present a, d, h => by
    cases d <;> simp only [same, Bool.false_eq_true] at h
    rw [describe, describe, Name.display_congr h]
  | equals a v n, d, h => by
    cases d <;> simp only [same, Bool.false_eq_true, Bool.and_eq_true, beq_iff_eq] at h
    rw [describe, describe, Name.display_congr h.1.1, h.1.2, h.2]
  | includes a v n, d, h => by
    cases d <;> simp only [same, Bool.false_eq_true, Bool.and_eq_true, beq_iff_eq] at h
    rw [describe, describe, Name.display_congr h.1.1, h.1.2, h.2]
  | matching a p n, d, h => by
    cases d <;> simp only [same, Bool.false_eq_true, Bool.and_eq_true, beq_iff_eq] at h
    rw [describe, describe, Name.display_congr h.1.1, ValuePattern.beq_iff.1 h.1.2, h.2]
  | attributeFilter a f, d, h => by
    cases d <;> simp only [same, Bool.false_eq_true, Bool.and_eq_true] at h
    rw [describe, describe, Name.display_congr h.1]
  | filter f, d, h => by
    cases d <;> simp only [same, Bool.false_eq_true] at h
    rw [describe, describe]
  | all cs, d, h => by
    cases d <;> simp only [same, Bool.false_eq_true] at h
    rw [describe, describe, describeAll_of_sameAll _ _ h]

theorem describeAll_of_sameAll :
    ∀ cs ds : List Constraint, sameAll cs ds = true → describeAll cs = describeAll ds
  | [], ds, h => by
    cases ds with
    | nil => rfl
    | cons => simp [sameAll] at h
  | c :: cs, ds, h => by
    cases ds with
    | nil => simp [sameAll] at h
    | cons d ds =>
      rw [sameAll, Bool.and_eq_true] at h
      rw [describeAll, describeAll, describe_of_same _ _ h.1, describeAll_of_sameAll _ _ h.2]
end

end Constraint

/-! ### Declarations -/

variable {B : Type}

inductive Step.Requalified : Step → Step → Prop
  | select {kind kind' : SelectorKind} {constraints constraints' : List Constraint} :
    (kind == kind') = true → (constraints == constraints') = true →
      Requalified (.select kind constraints) (.select kind' constraints')
  | only (limit : Nat) : Requalified (.only limit) (.only limit)

/-- Of all actions only an explicit transition names elements. -/
inductive Action.Requalified : Action B → Action B → Prop
  | link {test test' : Constraint} (key : String) :
    (test == test') = true → Requalified (.link test key) (.link test' key)
  | same (action : Action B) : Requalified action action

inductive Statement.Requalified : Statement B → Statement B → Prop
  | select {path path' : List Step} {actions actions' : List (Action B)}
    (origin : Option String) : Forall₂ Step.Requalified path path' →
      Forall₂ Action.Requalified actions actions' →
        Requalified (.select origin path actions) (.select origin path' actions')
  | constraint {c c' : Constraint} : (c == c') = true →
      Requalified (.inspect (.constraint c)) (.inspect (.constraint c'))
  | same (statement : Statement B) : Requalified statement statement

structure Declaration.Requalified (d d' : Declaration B) : Prop where
  statement : d.statement.Requalified d'.statement
  optional : d.optional = d'.optional

/-! ### Stages of a scope -/

structure Selector.Requalified (s t : Selector) : Prop where
  parent : s.parent = t.parent
  kind : (s.kind == t.kind) = true
  constraints : (s.constraints == t.constraints) = true
  limit : s.limit = t.limit
  state : s.state = t.state

namespace Selector.Requalified

variable {s t : Selector}

theorem like (h : s.Requalified t) : s.Like t := ⟨h.kind, h.constraints⟩

theorem same_eq (h : s.Requalified t) (parent : Option SelectorId) {kind kind' : SelectorKind}
    {constraints constraints' : List Constraint} (hk : (kind == kind') = true)
    (hc : (constraints == constraints') = true) :
    s.same parent kind constraints = t.same parent kind' constraints' := by
  have hkind : (s.kind == kind) = (t.kind == kind') :=
    (BEq.congr_left h.kind).trans (BEq.congr_right hk)
  have hconstraints : (s.constraints == constraints) = (t.constraints == constraints') :=
    (BEq.congr_left h.constraints).trans (BEq.congr_right hc)
  simp only [Selector.same, h.parent, hkind, hconstraints]

end Selector.Requalified

structure Workspace.Requalified (w v : Workspace B) : Prop extends w.Alike v where
  records : w.records = v.records

structure Builder.Requalified (b c : Builder B) : Prop where
  workspace : b.workspace.Requalified c.workspace
  root : b.root = c.root
  selectors : ∀ id, Option.Rel Selector.Requalified (b.selector? id) (c.selector? id)
  bookmarks : b.bookmarks = c.bookmarks
  earlier : b.earlier = c.earlier

/-- The same result, and later stages that differ in qualifiers only. -/
def Builder.Agree {α : Type} (x y : α × Builder B) : Prop :=
  ∃ a b c, x = (a, b) ∧ y = (a, c) ∧ b.Requalified c

namespace Builder.Requalified

variable {b c : Builder B}

theorem graph (h : b.Requalified c) : b.graph.Alike c.graph := h.workspace.graph

theorem size_eq (h : b.Requalified c) : b.selectors.size = c.selectors.size := by
  have hnone : ∀ i : Nat, b.selectors.size ≤ i ↔ c.selectors.size ≤ i := by
    intro i
    rw [← Array.getElem?_eq_none_iff, ← Array.getElem?_eq_none_iff]
    have hi : Option.Rel Selector.Requalified b.selectors[i]? c.selectors[i]? := h.selectors ⟨i⟩
    generalize b.selectors[i]? = s at hi ⊢
    generalize c.selectors[i]? = t at hi ⊢
    cases hi <;> simp
  exact Nat.le_antisymm ((hnone _).2 (Nat.le_refl _)) ((hnone _).1 (Nat.le_refl _))

theorem selector?_cases (h : b.Requalified c) (id : SelectorId) :
    (b.selector? id = none ∧ c.selector? id = none) ∨
      ∃ s t, b.selector? id = some s ∧ c.selector? id = some t ∧ s.Requalified t := by
  have hid := h.selectors id
  generalize b.selector? id = s at hid ⊢
  generalize c.selector? id = t at hid ⊢
  cases hid with
  | none => exact .inl ⟨rfl, rfl⟩
  | some hst => exact .inr ⟨_, _, rfl, rfl, hst⟩

theorem state_eq (h : b.Requalified c) (id : SelectorId) :
    (b.selector? id).bind (·.state) = (c.selector? id).bind (·.state) := by
  rcases h.selector?_cases id with ⟨hs, ht⟩ | ⟨s, t, hs, ht, hst⟩
  · rw [hs, ht]
  · rw [hs, ht]
    exact hst.state

theorem forall₂_selectors (h : b.Requalified c) :
    Forall₂ Selector.Requalified b.selectors.toList c.selectors.toList := by
  rw [List.forall₂_iff_get]
  refine ⟨by simpa using h.size_eq, fun i hi hj => ?_⟩
  have hid := h.selectors ⟨i⟩
  rw [Array.length_toList] at hi hj
  rw [selector?, selector?, Array.getElem?_eq_getElem hi, Array.getElem?_eq_getElem hj] at hid
  cases hid with
  | some hst => simpa using hst

theorem refl (b : Builder B) : b.Requalified b := by
  refine ⟨⟨⟨rfl, .refl _, rfl, rfl, rfl, rfl⟩, rfl⟩, rfl, fun id => ?_, rfl, rfl⟩
  cases b.selector? id with
  | none => exact .none
  | some s => exact .some ⟨rfl, BEq.refl _, BEq.refl _, rfl, rfl⟩

/-! ### Operations of a builder -/

theorem withGraph (h : b.Requalified c) {g k : Graph (HandlerRef B)} (hg : g.Alike k) :
    (b.withGraph g).Requalified (c.withGraph k) :=
  { h with workspace := { h.workspace with graph := hg } }

theorem record (h : b.Requalified c) (r : Record) : (b.record r).Requalified (c.record r) :=
  { h with workspace := { h.workspace with records := congrArg (·.push r) h.workspace.records } }

theorem updateSelector (h : b.Requalified c) (id : SelectorId) {f : Selector → Selector}
    (hf : ∀ s t, s.Requalified t → (f s).Requalified (f t)) :
    (b.updateSelector id f).Requalified (c.updateSelector id f) := by
  refine { h with selectors := fun other => ?_ }
  rw [selector?_updateSelector, selector?_updateSelector]
  split
  · rcases h.selector?_cases other with ⟨hs, ht⟩ | ⟨s, t, hs, ht, hst⟩
    · rw [hs, ht]
      exact .none
    · rw [hs, ht]
      exact .some (hf s t hst)
  · exact h.selectors other

/-- What is declared alike is found at the same place. -/
theorem findIdx?_same (h : b.Requalified c) (parent : Option SelectorId) {kind kind' : SelectorKind}
    {constraints constraints' : List Constraint} (hk : (kind == kind') = true)
    (hc : (constraints == constraints') = true) :
    b.selectors.findIdx? (·.same parent kind constraints) =
      c.selectors.findIdx? (·.same parent kind' constraints') := by
  have hsame : b.selectors.map (·.same parent kind constraints) =
      c.selectors.map (·.same parent kind' constraints') := by
    refine Array.ext_getElem? fun i => ?_
    rw [Array.getElem?_map, Array.getElem?_map]
    rcases h.selector?_cases ⟨i⟩ with ⟨hs, ht⟩ | ⟨s, t, hs, ht, hst⟩
    · rw [show b.selectors[i]? = none from hs, show c.selectors[i]? = none from ht]
      rfl
    · rw [show b.selectors[i]? = some s from hs, show c.selectors[i]? = some t from ht]
      exact congrArg some (hst.same_eq parent hk hc)
  have hfind := congrArg (·.findIdx? id) hsame
  rwa [Array.findIdx?_map, Array.findIdx?_map] at hfind

theorem declare (h : b.Requalified c) (parent : Option SelectorId) {kind kind' : SelectorKind}
    {constraints constraints' : List Constraint} (hk : (kind == kind') = true)
    (hc : (constraints == constraints') = true) :
    Agree (b.declare parent kind constraints) (c.declare parent kind' constraints') := by
  unfold Builder.declare
  rw [h.findIdx?_same parent hk hc, h.size_eq]
  split
  · exact ⟨_, b, c, rfl, rfl, h⟩
  · refine ⟨_, _, _, rfl, rfl, { h with selectors := fun id => ?_ }⟩
    show Option.Rel _ (b.selectors.push _)[id.index]? (c.selectors.push _)[id.index]?
    rw [Array.getElem?_push, Array.getElem?_push, h.size_eq]
    split
    · exact .some ⟨rfl, hk, hc, rfl, rfl⟩
    · exact h.selectors id

theorem limitState (h : b.Requalified c) (s : StateId) (n : Nat) :
    (b.limitState s n).Requalified (c.limitState s n) := by
  have hset : (b.withGraph (b.graph.setLimit s n)).Requalified
      (c.withGraph (c.graph.setLimit s n)) :=
    h.withGraph (h.graph.update s fun x y hxy => { hxy with limit := rfl })
  unfold Builder.limitState
  rw [(h.graph.state s).limit]
  split
  · split
    · exact hset
    · exact hset.record _
  · exact hset

/-- Both refuse a limit, or both take it. -/
theorem limit (h : b.Requalified c) (cursor : Option SelectorId) (n : Nat) :
    (∃ e, b.limit cursor n = .error e ∧ c.limit cursor n = .error e) ∨
      ∃ b' c', b.limit cursor n = .ok b' ∧ c.limit cursor n = .ok c' ∧ b'.Requalified c' := by
  unfold Builder.limit
  split
  · exact .inl ⟨_, rfl, rfl⟩
  cases cursor with
  | none =>
    dsimp only
    rw [h.root]
    split
    · exact .inl ⟨_, rfl, rfl⟩
    · exact .inr ⟨_, _, rfl, rfl, h.limitState _ n⟩
  | some id =>
    dsimp only
    have hpending := h.updateSelector id (f := fun s => { s with limit := some n })
      fun s t hst => { hst with limit := rfl }
    rw [h.state_eq]
    split
    · exact .inr ⟨_, _, rfl, rfl, hpending.limitState _ n⟩
    · exact .inr ⟨_, _, rfl, rfl, hpending⟩

/-! ### Compilation -/

/-- Both have the same steps on the way up, up to qualifiers. -/
theorem lineageIn {selectors selectors' : List Selector}
    (h : Forall₂ Selector.Requalified selectors selectors') (cursor : Option SelectorId) :
    Forall₂ (fun x y => x.1 = y.1 ∧ x.2.Requalified y.2)
      (Builder.lineageIn selectors cursor) (Builder.lineageIn selectors' cursor) := by
  induction h generalizing cursor with
  | nil => cases cursor <;> exact .nil
  | cons hst hrest ih =>
    cases cursor with
    | none => exact .nil
    | some id =>
      rw [Builder.lineageIn, Builder.lineageIn, hrest.length_eq, hst.parent]
      split
      · exact .cons ⟨rfl, hst⟩ (ih _)
      · exact ih _

theorem lineage (h : b.Requalified c) (cursor : Option SelectorId) :
    Forall₂ (fun x y => x.1 = y.1 ∧ x.2.Requalified y.2) (b.lineage cursor) (c.lineage cursor) :=
  lineageIn (List.rel_reverse h.forall₂_selectors) cursor

theorem uncompiled (h : b.Requalified c) (cursor : Option SelectorId) (below : List SelectorId) :
    b.uncompiled cursor below = c.uncompiled cursor below := by
  have hclimb : ∀ {above above' : List (SelectorId × Selector)},
      Forall₂ (fun x y => x.1 = y.1 ∧ x.2.Requalified y.2) above above' → ∀ below,
        climb b.root above below = climb c.root above' below := by
    intro above above' habove
    induction habove with
    | nil =>
      intro below
      rw [climb, climb, h.root]
    | @cons x y _ _ hxy _ ih =>
      obtain ⟨id, s⟩ := x
      obtain ⟨id', t⟩ := y
      obtain ⟨rfl, hst⟩ := hxy
      intro below
      rw [climb, climb, hst.state, ih]
  exact hclimb (h.lineage cursor) below

theorem compile (h : b.Requalified c) (base : StateId) (id : SelectorId) :
    Agree (b.compile base id) (c.compile base id) := by
  unfold Builder.compile
  rcases h.selector?_cases id with ⟨hs, ht⟩ | ⟨s, t, hs, ht, hst⟩
  · rw [hs, ht]
    exact ⟨_, b, c, rfl, rfl, h⟩
  · rw [hs, ht]
    simp only [edge_selector, ← hst.limit]
    obtain ⟨hstate, hgraph⟩ := h.graph.extend base hst.like.hop
    generalize b.graph.extend base s.hop = reached at hstate hgraph ⊢
    generalize c.graph.extend base t.hop = reached' at hstate hgraph ⊢
    obtain ⟨x, g⟩ := reached
    obtain ⟨y, k⟩ := reached'
    obtain rfl : x = y := hstate
    have hcompiled := (h.withGraph hgraph).updateSelector id
      (f := fun s => { s with state := some x }) fun s t hst => { hst with state := rfl }
    split
    · exact ⟨x, _, _, rfl, rfl, hcompiled.limitState x _⟩
    · exact ⟨x, _, _, rfl, rfl, hcompiled⟩

theorem stateOf (h : b.Requalified c) (cursor : Option SelectorId) :
    Agree (b.stateOf cursor) (c.stateOf cursor) := by
  unfold Builder.stateOf
  rw [h.uncompiled]
  generalize c.uncompiled cursor [] = start
  obtain ⟨base, path⟩ := start
  dsimp only
  induction path generalizing b c base with
  | nil => exact ⟨base, b, c, rfl, rfl, h⟩
  | cons id path ih =>
    obtain ⟨x, b', c', hb, hc, hk⟩ := h.compile base id
    rw [List.foldl_cons, List.foldl_cons, hb, hc]
    exact ih hk x

/-! ### Handlers and explicit transitions -/

theorem freshCopy (h : b.Requalified c) (behaviour : B) :
    Agree (b.freshCopy behaviour) (c.freshCopy behaviour) := by
  unfold Builder.freshCopy
  rw [h.workspace.copies]
  exact ⟨_, _, _, rfl, rfl, { h with workspace := { h.workspace with copies := rfl } }⟩

theorem attach (h : b.Requalified c) (s : StateId) (handler : HandlerRef B) :
    (b.attach s handler).Requalified (c.attach s handler) :=
  { h with workspace := { h.workspace with
      graph := h.graph.attach s handler
      attachments := congrArg (·.push ⟨s, handler⟩) h.workspace.attachments } }

theorem observe (h : b.Requalified c) (behaviour : B) :
    (b.observe behaviour).Requalified (c.observe behaviour) :=
  { h with workspace := { h.workspace with
      observers := congrArg (·.push behaviour) h.workspace.observers } }

theorem mark (h : b.Requalified c) (key : String) (point : AttachPoint) :
    (b.mark key point).Requalified (c.mark key point) :=
  { h with workspace := { h.workspace with
      landmarks := congrArg ((key, point) :: ·) h.workspace.landmarks } }

/-- Both refuse an explicit transition, or both take it. -/
theorem link (h : b.Requalified c) (s : StateId) {test test' : Constraint}
    (ht : (test == test') = true) (target : AttachPoint) :
    (∃ e, b.link s test target = .error e ∧ c.link s test' target = .error e) ∨
      ∃ b' c', b.link s test target = .ok b' ∧ c.link s test' target = .ok c' ∧
        b'.Requalified c' := by
  unfold Builder.link
  rw [h.workspace.model, h.graph.contains_eq]
  split
  · obtain ⟨hreached, hgraph⟩ := h.graph.link s ht target.state
    dsimp only
    rw [hreached]
    have hlinked := h.withGraph hgraph
    split
    · exact .inr ⟨_, _, rfl, rfl, hlinked⟩
    · exact .inr ⟨_, _, rfl, rfl, hlinked.record _⟩
  · exact .inl ⟨_, rfl, rfl⟩

/-! ### Carrying out declarations -/

theorem walk (h : b.Requalified c) (cursor : Option SelectorId) {path path' : List Step}
    (hp : Forall₂ Step.Requalified path path') : Agree (b.walk cursor path) (c.walk cursor path') := by
  induction hp generalizing b c cursor with
  | nil => exact ⟨_, b, c, rfl, rfl, h⟩
  | cons hstep _ ih =>
    cases hstep with
    | select hkind hconstraints =>
      obtain ⟨id, b', c', hb, hc, hk⟩ := h.declare cursor hkind hconstraints
      rw [Builder.walk, Builder.walk, hb, hc]
      exact ih hk (some id)
    | only n =>
      rw [Builder.walk, Builder.walk]
      rcases h.limit cursor n with ⟨e, hb, hc⟩ | ⟨b', c', hb, hc, hk⟩
      · rw [hb, hc]
        exact ⟨_, b, c, rfl, rfl, h⟩
      · rw [hb, hc]
        exact ih hk cursor

theorem act_link (h : b.Requalified c) (cursor : Option SelectorId) {test test' : Constraint}
    (ht : (test == test') = true) (key : String) :
    Agree (b.act cursor (.link test key)) (c.act cursor (.link test' key)) := by
  have hmark : b.landmark? key = c.landmark? key := by
    rw [Builder.landmark?, Builder.landmark?, h.workspace.landmarks]
  rw [Builder.act, Builder.act, hmark]
  cases c.landmark? key with
  | none => exact ⟨_, b, c, rfl, rfl, h⟩
  | some target =>
    obtain ⟨x, b', c', hb, hc, hk⟩ := h.stateOf cursor
    simp only [hb, hc]
    rcases hk.link x ht target with ⟨e, hb, hc⟩ | ⟨b', c', hb, hc, hl⟩
    · rw [hb, hc]
      exact ⟨_, _, _, rfl, rfl, hk⟩
    · rw [hb, hc]
      exact ⟨_, b', c', rfl, rfl, hl⟩

theorem act (h : b.Requalified c) (cursor : Option SelectorId) {action action' : Action B}
    (ha : action.Requalified action') : Agree (b.act cursor action) (c.act cursor action') := by
  obtain ⟨x, b', c', hb, hc, hk⟩ := h.stateOf cursor
  cases ha with
  | link key ht => exact h.act_link cursor ht key
  | same =>
    cases action with
    | compile =>
      rw [Builder.act, Builder.act, hb, hc]
      exact ⟨_, b', c', rfl, rfl, hk⟩
    | inspect view => cases view <;> exact ⟨_, b, c, rfl, rfl, h⟩
    | only n =>
      rw [Builder.act, Builder.act]
      rcases h.limit cursor n with ⟨e, hb, hc⟩ | ⟨b', c', hb, hc, hl⟩
      · rw [hb, hc]
        exact ⟨_, b, c, rfl, rfl, h⟩
      · rw [hb, hc]
        exact ⟨_, b', c', rfl, rfl, hl⟩
    | attach behaviour =>
      obtain ⟨handler, b₁, c₁, hb, hc, hf⟩ := h.freshCopy behaviour
      obtain ⟨y, b₂, c₂, hb', hc', hk⟩ := hf.stateOf cursor
      rw [Builder.act, Builder.act, hb, hc]
      simp only [hb', hc']
      exact ⟨_, _, _, rfl, rfl, hk.attach y handler⟩
    | share behaviour =>
      rw [Builder.act, Builder.act, hb, hc]
      exact ⟨_, _, _, rfl, rfl, hk.attach x _⟩
    | mark key =>
      rw [Builder.act, Builder.act, hb, hc]
      simp only [Builder.attachPoint, hk.workspace.model]
      exact ⟨_, _, _, rfl, rfl, hk.mark key _⟩
    | link test key => exact h.act_link cursor (BEq.refl test) key
    | bookmark key =>
      exact ⟨_, _, _, rfl, rfl, { h with bookmarks := congrArg ((key, cursor) :: ·) h.bookmarks }⟩
    | reject e => exact ⟨_, b, c, rfl, rfl, h⟩

theorem actAll (h : b.Requalified c) (cursor : Option SelectorId) {actions actions' : List (Action B)}
    (ha : Forall₂ Action.Requalified actions actions') :
    Agree (b.actAll cursor actions) (c.actAll cursor actions') := by
  induction ha generalizing b c with
  | nil => exact ⟨_, b, c, rfl, rfl, h⟩
  | cons hact _ ih =>
    obtain ⟨answer, b', c', hb, hc, hk⟩ := h.act cursor hact
    rw [Builder.actAll, Builder.actAll, hb, hc]
    cases answer with
    | error e => exact ⟨_, b', c', rfl, rfl, hk⟩
    | ok answer =>
      obtain ⟨rest, b'', c'', hb, hc, hk⟩ := ih hk
      simp only [hb, hc]
      exact ⟨_, b'', c'', rfl, rfl, hk⟩

theorem view (h : b.Requalified c) (v : BuilderView) : b.view v = c.view v := by
  cases v with
  | root => exact congrArg Answer.state h.root
  | summary =>
    have hdescribe : b.describe = c.describe := by
      unfold Builder.describe
      rw [h.root, h.size_eq, h.graph.size_eq, h.workspace.attachments, h.earlier]
    exact congrArg Answer.text hdescribe
  | constraint _ => rfl

theorem carryOut_select (h : b.Requalified c) (origin : Option String) {path path' : List Step}
    {actions actions' : List (Action B)} (hp : Forall₂ Step.Requalified path path')
    (ha : Forall₂ Action.Requalified actions actions') :
    Agree (b.carryOut (.select origin path actions))
      (c.carryOut (.select origin path' actions')) := by
  have hstart : b.start origin = c.start origin := by
    cases origin with
    | none => rfl
    | some key => rw [Builder.start, Builder.start, h.bookmarks]
  rw [Builder.carryOut, Builder.carryOut, hstart]
  obtain ⟨reached, b', c', hb, hc, hk⟩ := h.walk (c.start origin) hp
  rw [hb, hc]
  cases reached with
  | error e => exact ⟨_, b', c', rfl, rfl, hk⟩
  | ok cursor => exact hk.actAll cursor ha

theorem carryOut (h : b.Requalified c) {statement statement' : Statement B}
    (hs : statement.Requalified statement') :
    Agree (b.carryOut statement) (c.carryOut statement') := by
  cases hs with
  | select origin hp ha => exact h.carryOut_select origin hp ha
  | @constraint d d' hd =>
    have hdescribe : d.describe = d'.describe := Constraint.describe_of_same d d' hd
    rw [Builder.carryOut, Builder.carryOut, Builder.view, Builder.view, hdescribe]
    exact ⟨_, b, c, rfl, rfl, h⟩
  | same =>
    cases statement with
    | select origin path actions =>
      refine h.carryOut_select origin (List.forall₂_same.2 fun step _ => ?_)
        (List.forall₂_same.2 fun action _ => .same action)
      cases step with
      | select kind constraints => exact .select (BEq.refl _) (BEq.refl _)
      | only n => exact .only n
    | observe behaviour => exact ⟨_, _, _, rfl, rfl, h.observe behaviour⟩
    | landmark key point => exact ⟨_, _, _, rfl, rfl, h.mark key point⟩
    | inspect v =>
      rw [Builder.carryOut, Builder.carryOut, h.view]
      exact ⟨_, b, c, rfl, rfl, h⟩

theorem perform (h : b.Requalified c) {d d' : Declaration B} (hd : d.Requalified d') :
    Agree (b.perform d) (c.perform d') := by
  obtain ⟨done, b', c', hb, hc, hk⟩ := h.carryOut hd.statement
  rw [Builder.perform, Builder.perform, hb, hc]
  simp only [hk.workspace.records, h.workspace.records]
  exact ⟨_, b', c', rfl, rfl, hk⟩

theorem performEach (h : b.Requalified c) {ds ds' : List (Declaration B)}
    (hd : Forall₂ Declaration.Requalified ds ds') :
    Agree (b.performEach ds) (c.performEach ds') := by
  induction hd generalizing b c with
  | nil => exact ⟨_, b, c, rfl, rfl, h⟩
  | cons hd _ ih =>
    obtain ⟨outcome, b', c', hb, hc, hk⟩ := h.perform hd
    obtain ⟨rest, b'', c'', hb', hc', hk⟩ := ih hk
    rw [Builder.performEach, Builder.performEach, hb, hc]
    simp only [hb', hc']
    exact ⟨_, b'', c'', rfl, rfl, hk⟩

theorem performAll (h : b.Requalified c) {ds ds' : List (Declaration B)}
    (hd : Forall₂ Declaration.Requalified ds ds') :
    Agree (b.performAll ds) (c.performAll ds') := by
  induction hd generalizing b c with
  | nil => exact ⟨_, b, c, rfl, rfl, h⟩
  | cons hd _ ih =>
    obtain ⟨outcome, b', c', hb, hc, hk⟩ := h.perform hd
    rw [Builder.performAll, Builder.performAll, hb, hc, hd.optional]
    dsimp only
    split
    · exact ⟨_, b', c', rfl, rfl, hk⟩
    · obtain ⟨rest, b'', c'', hb, hc, hk⟩ := ih hk
      rw [hb, hc]
      exact ⟨_, b'', c'', rfl, rfl, hk⟩

end Builder.Requalified

/-! ### Constructions -/

namespace Construction

structure Requalified (c c' : Construction B) : Prop where
  workspace : c.workspace.Requalified c'.workspace
  position : c.position = c'.position
  built : c.built = c'.built
  reports : c.reports = c'.reports
  failure : c.failure = c'.failure

namespace Requalified

variable {declared declared' : B → Nat → List (Declaration B)} {budget : Nat}
  {c c' : Construction B}

theorem next (h : c.Requalified c') :
    c.workspace.attachments[c.position]? = c'.workspace.attachments[c'.position]? := by
  rw [h.workspace.attachments, h.position]

theorem build (h : c.Requalified c')
    (hd : ∀ x n, Forall₂ Declaration.Requalified (declared x n) (declared' x n))
    (a : Attachment B) : (c.build declared a).Requalified (c'.build declared' a) := by
  have hscope : (Builder.nested c.workspace a.state).Requalified
      (Builder.nested c'.workspace a.state) :=
    ⟨h.workspace, rfl, fun _ => .none, rfl, congrArg Array.size h.workspace.attachments⟩
  obtain ⟨done, b', c'', hb, hc, hk⟩ :=
    hscope.performAll (hd a.handler.behaviour c.built.length)
  unfold Construction.build
  simp only [← h.built, hb, hc]
  exact ⟨hk.workspace, congrArg (· + 1) h.position, rfl, congrArg (⟨a, done.1⟩ :: ·) h.reports,
    rfl⟩

/-- Both look at the same attachments, build for the same ones, and end alike. -/
theorem run [DecidableEq B] (h : c.Requalified c')
    (hd : ∀ x n, Forall₂ Declaration.Requalified (declared x n) (declared' x n)) :
    (c.run declared budget).Requalified (c'.run declared' budget) := by
  fun_induction c.run declared budget generalizing c' with
  | case1 c hn =>
    rw [run_eq declared' budget c', ← h.next, hn]
    exact h
  | case2 c a ha hm ih =>
    rw [run_eq declared' budget c', ← h.next, ha, ← h.built]
    simp only [hm, ↓reduceIte]
    exact ih { h with position := congrArg (· + 1) h.position, built := rfl }
  | case3 c a ha hm hb next =>
    rename_i hf
    have hnext := h.build hd a
    rw [run_eq declared' budget c', ← h.next, ha, ← h.built]
    simp only [hm, hb, ↓reduceIte]
    rw [← hnext.failure, if_pos hf]
    exact hnext
  | case4 c a ha hm hb next =>
    rename_i hf ih
    have hnext := h.build hd a
    rw [run_eq declared' budget c', ← h.next, ha, ← h.built]
    simp only [hm, hb, ↓reduceIte]
    rw [← hnext.failure, if_neg hf]
    exact ih hnext
  | case5 c a ha hm hb =>
    rw [run_eq declared' budget c', ← h.next, ha, ← h.built]
    simp only [hm, hb, ↓reduceIte]
    exact { h with built := rfl, failure := rfl }

/-- What declarations make of a model does not depend on how they are qualified. -/
theorem ofProgram [DecidableEq B] (m : Nat) {top top' : List (Declaration B)}
    (settings : BuildSettings) (ht : Forall₂ Declaration.Requalified top top')
    (hd : ∀ x n, Forall₂ Declaration.Requalified (declared x n) (declared' x n)) :
    (Construction.ofProgram m top declared settings).Requalified
      (Construction.ofProgram m top' declared' settings) := by
  obtain ⟨outcomes, b, c, hb, hc, hk⟩ := (Builder.Requalified.refl (.ofModel m)).performEach ht
  unfold Construction.ofProgram
  rw [hb, hc]
  have hstart : Requalified { workspace := b.workspace } { workspace := c.workspace } :=
    ⟨hk.workspace, rfl, rfl, rfl, rfl⟩
  exact hstart.run hd

end Requalified

end Construction

/-- What may be relied on where things are merged because they are equal, and where names are
qualified in other ways. -/
structure MergesSoundly (fs : Filters) (B H : Type) [DecidableEq B] : Prop where
  equivalence : Equivalence fun c d : Constraint => (c == d) = true
  /-- Equal constraints accept the same elements, however the names of the elements are qualified. -/
  accepts : ∀ (c d : Constraint) (e e' : StartElement), (c == d) = true → e.Alike e' →
    c.holds fs e = d.holds fs e'
  /-- Declared again or not, the edge that is returned accepts what was asked for. -/
  edges : ∀ (g : Graph H) (s : StateId) (test : Constraint), g.contains s = true →
    Transition.Serves fs ((g.addTransition s test).2.state s).transitions test
        (g.addTransition s test).1 ∧
      Transition.Serves fs ((g.addRule s test).2.state s).rules test (g.addRule s test).1 ∧
      ∀ target, Transition.Serves fs ((g.link s test target).2.state s).transitions test
        (g.link s test target).1
  /-- The edge that is saved would never have been followed. -/
  saved : ∀ edges test target other e, Transition.targetOf? edges test = some target →
    Transition.follow fs e (edges ++ [⟨test, other⟩]) = Transition.follow fs e edges
  /-- So it is with selectors. -/
  selectors : ∀ (b : Builder B) parent kind constraints, ∃ s,
    (b.declare parent kind constraints).2.selector? (b.declare parent kind constraints).1 = some s ∧
      s.parent = parent ∧ s.kind.isDescendant = kind.isDescendant ∧
      ∀ e e' : StartElement, e.Alike e' →
        s.test.holds fs e = (combinedTest kind constraints).holds fs e'
  /-- Elements enter the same states, in one automaton and in those that are alike. -/
  documents : ∀ g k : Graph H, g.Alike k → ∀ current scope (e e' : StartElement), e.Alike e' →
    g.resolve fs current scope e = k.resolve fs current scope e'
  /-- So they do after one declaration in any scope. -/
  declarations : ∀ (b : Builder B) (d d' : Declaration B), d.Requalified d' →
    (b.perform d).1 = (b.perform d').1 ∧
      ∀ current scope (e e' : StartElement), e.Alike e' →
        (b.perform d).2.graph.resolve fs current scope e =
          (b.perform d').2.graph.resolve fs current scope e'
  /-- And after all declarations of a model and of its handlers. -/
  programs : ∀ (m : Nat) (top top' : List (Declaration B))
    (declared declared' : B → Nat → List (Declaration B)) (settings : BuildSettings),
    Forall₂ Declaration.Requalified top top' →
    (∀ x n, Forall₂ Declaration.Requalified (declared x n) (declared' x n)) →
    (Construction.ofProgram m top declared settings).failure =
        (Construction.ofProgram m top' declared' settings).failure ∧
      ∀ current scope (e e' : StartElement), e.Alike e' →
        (Construction.ofProgram m top declared settings).workspace.graph.resolve fs current scope e =
          (Construction.ofProgram m top' declared' settings).workspace.graph.resolve fs current
            scope e'

/-- What is merged because it is equal cannot be told apart, and qualifiers matter neither in
documents nor in declarations. -/
theorem sharing_sound {B H : Type} [DecidableEq B] {fs : Filters} (hf : fs.Indifferent) :
    MergesSoundly fs B H := by
  constructor
  · exact Constraint.equivalence_beq
  · exact fun c d e e' => Constraint.holds_alike hf
  · exact fun g s test hs => ⟨Graph.serves_addTransition hf hs test, Graph.serves_addRule hf hs test,
      Graph.serves_link hf hs test⟩
  · exact fun edges test target other e h => Transition.follow_concat_of_targetOf? hf h e other
  · intro b parent kind constraints
    obtain ⟨s, hs, hparent, hlike⟩ := b.selector?_declare parent kind constraints
    obtain ⟨hdeep, htest⟩ := hlike.hop
    exact ⟨s, hs, hparent, hdeep, fun e e' => Constraint.holds_alike hf htest⟩
  · exact fun g k hgk current scope e e' he => hgk.resolve hf he current scope
  · intro b d d' hd
    obtain ⟨outcome, c, c', hc, hc', hk⟩ := (Builder.Requalified.refl b).perform hd
    rw [hc, hc']
    exact ⟨rfl, fun current scope e e' he => hk.graph.resolve hf he current scope⟩
  · intro m top top' declared declared' settings ht hd
    have hk := Construction.Requalified.ofProgram m settings ht hd
    exact ⟨hk.failure, fun current scope e e' he => hk.workspace.graph.resolve hf he current scope⟩

/-! Books of a shelf, in a namespace that everyone abbreviates in their own way. -/

def shelfName (qualifier localName : String) : Name :=
  ⟨some "urn:shelf", localName, some qualifier⟩

def shelfTop (qualifier : String) : List (Declaration Bool) :=
  [{ statement := .select none
      [.select (.child (shelfName qualifier "book"))
        [.equals (shelfName qualifier "lang") "en" false]] [.mark "book", .attach true] }]

def shelfBelow (qualifier : String) : Bool → Nat → List (Declaration Bool) := fun _ _ =>
  [{ statement := .select none [.select (.named (shelfName qualifier "title")) []]
      [.link (.name (shelfName qualifier "part")) "book"] }]

def shelfBook (qualifier : String) : StartElement :=
  ⟨shelfName qualifier "book", ⟨[(shelfName qualifier "lang", "en")]⟩, none⟩

/-- Filters that look at local parts only. -/
def shelfFilters : Filters where
  onElement f e := e.name.localName.length == f.index
  onValue _ name value := name.localName == value

theorem shelfFilters_indifferent : shelfFilters.Indifferent where
  values _ _ _ value h := congrArg (· == value) (congrArg Prod.snd (Name.beq_iff_key.1 h))
  elements f _ _ h :=
    congrArg (·.length == f.index) (congrArg Prod.snd (Name.beq_iff_key.1 h.name))

/-- A book written with one abbreviation enters, under declarations written with a second, the state
that a book written with a third enters under declarations written with a fourth. -/
theorem resolve_shelf :
    shelfFilters.Indifferent ∧
      (Construction.ofProgram 0 (shelfTop "a") (shelfBelow "a") {}).workspace.graph.resolve
          shelfFilters .root [] (shelfBook "x") =
        (Construction.ofProgram 0 (shelfTop "b") (shelfBelow "b") {}).workspace.graph.resolve
          shelfFilters .root [] (shelfBook "y") ∧
      (Construction.ofProgram 0 (shelfTop "a") (shelfBelow "a") {}).workspace.graph.resolve
          shelfFilters .root [] (shelfBook "x") = ⟨2⟩ := by
  have hname : ∀ q r localName, (shelfName q localName == shelfName r localName) = true :=
    fun _ _ _ => Name.beq_iff_key.2 rfl
  have htop : Forall₂ Declaration.Requalified (shelfTop "a") (shelfTop "b") :=
    .cons ⟨.select none (.cons (.select (hname _ _ _) rfl) .nil)
      (.cons (.same _) (.cons (.same _) .nil)), rfl⟩ .nil
  have hbelow : ∀ x n,
      Forall₂ Declaration.Requalified (shelfBelow "a" x n) (shelfBelow "b" x n) := by
    intro x n
    exact .cons ⟨.select none (.cons (.select (hname _ _ _) rfl) .nil)
      (.cons (.link "book" (hname _ _ _)) .nil), rfl⟩ .nil
  have hbook : (shelfBook "x").Alike (shelfBook "y") :=
    ⟨hname _ _ _, .cons ⟨hname _ _ _, rfl⟩ .nil, rfl⟩
  have hsound : MergesSoundly shelfFilters Bool Unit := sharing_sound shelfFilters_indifferent
  obtain ⟨-, hresolve⟩ := hsound.programs 0 _ _ _ _ {} htop hbelow
  exact ⟨shelfFilters_indifferent, hresolve .root [] _ _ hbook, by cbv⟩

end StreamSelect
