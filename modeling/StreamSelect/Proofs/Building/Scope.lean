import StreamSelect.Builder.Perform
import StreamSelect.Proofs.Automaton.Coherence
import StreamSelect.Proofs.Automaton.Origin

/-! Scopes of declarations. In a sound scope the states kept with selectors are those that their
steps lead to in the automaton. All declarations but explicit transitions keep a scope sound, in
whatever order they are carried out. -/
namespace StreamSelect

/-- A state that edges may start from: any but the sink. -/
def Graph.Usable {H : Type} (g : Graph H) (s : StateId) : Prop :=
  1 ≤ s.index ∧ g.contains s = true

theorem Graph.Usable.mono {H : Type} {g later : Graph H} (hg : g.Extends later) {s : StateId}
    (hs : g.Usable s) : later.Usable s :=
  Within.mono hg hs

theorem Graph.Arranged.usable_of_reach? {H : Type} {g : Graph H} {o : Origins} (ha : g.Arranged o)
    {r s : StateId} (hr : g.Usable r) {chain : Chain} (hs : g.reach? r chain = some s) : g.Usable s := by
  induction chain generalizing r with
  | nil => exact Option.some.inj hs ▸ hr
  | cons h chain ih =>
    obtain ⟨t, ht, hs⟩ := Option.bind_eq_some_iff.1 hs
    exact ih (ha.hop?_bounds ht) hs

structure Workspace.Sound {B : Type} (w : Workspace B) : Prop where
  arranged : ∃ o, w.graph.Arranged o
  attachments : ∀ a ∈ w.attachments, w.graph.Usable a.state
  /-- Every handler of a state was attached to it. -/
  handlers : ∀ s, ∀ h ∈ (w.graph.state s).handlers, ⟨s, h⟩ ∈ w.attachments

namespace Builder

variable {B : Type}

/-- The state that a cursor was compiled to. -/
def compiled? (b : Builder B) : Option SelectorId → Option StateId
  | none => some b.root
  | some id => (b.selector? id).bind (·.state)

/-- The steps from the root of a scope to a cursor. -/
inductive Spells (b : Builder B) : Option SelectorId → Chain → Prop
  | root : Spells b none []
  | step {id : SelectorId} {s : Selector} {chain : Chain} :
    b.selector? id = some s → Spells b s.parent chain → Spells b (some id) (chain ++ [s.hop])

/-- A cursor that points at the root or at a declared selector. -/
def Knows (b : Builder B) (cursor : Option SelectorId) : Prop :=
  ∀ id, cursor = some id → ∃ s, b.selector? id = some s

theorem knows_of_compiled? {b : Builder B} {cursor : Option SelectorId} {x : StateId}
    (hx : b.compiled? cursor = some x) : b.Knows cursor := by
  rintro id rfl
  obtain ⟨s, hs, -⟩ := Option.bind_eq_some_iff.1 hx
  exact ⟨s, hs⟩

/-- Where selectors keep their states, what was compiled stays. -/
theorem compiled?_mono {b later : Builder B} (hr : later.root = b.root)
    (hs : ∀ {id s}, b.selector? id = some s →
      ∃ s', later.selector? id = some s' ∧ ∀ x, s.state = some x → s'.state = some x)
    {cursor : Option SelectorId} {x : StateId} (hx : b.compiled? cursor = some x) :
    later.compiled? cursor = some x := by
  cases cursor with
  | none =>
    rw [compiled?] at hx ⊢
    rw [hr, hx]
  | some id =>
    obtain ⟨s, hid, hx⟩ := Option.bind_eq_some_iff.1 hx
    obtain ⟨s', hid', hstate⟩ := hs hid
    rw [compiled?, hid']
    exact hstate x hx

/-- A parent is declared before its children. -/
def Ordered (b : Builder B) : Prop :=
  ∀ id s p, b.selector? id = some s → s.parent = some p → p.index < id.index

namespace Ordered

variable {b : Builder B}

theorem knows_parent (h : b.Ordered) {id : SelectorId} {s : Selector} (hs : b.selector? id = some s) :
    b.Knows s.parent := by
  intro p hp
  have hlt := h _ _ _ hs hp
  have hsize : id.index < b.selectors.size := (Array.getElem?_eq_some_iff.1 hs).1
  exact ⟨_, Array.getElem?_eq_getElem (Nat.lt_trans hlt hsize)⟩

/-- What holds of the root and passes from parents to children holds of every cursor. -/
theorem cursor_induction (h : b.Ordered) {P : Option SelectorId → Prop} (root : P none)
    (step : ∀ id s, b.selector? id = some s → P s.parent → P (some id))
    {cursor : Option SelectorId} (hc : b.Knows cursor) : P cursor := by
  cases cursor with
  | none => exact root
  | some id =>
    obtain ⟨n, hn⟩ : ∃ n, id.index = n := ⟨_, rfl⟩
    induction n using Nat.strongRecOn generalizing id with
    | ind n ih =>
      obtain ⟨s, hs⟩ := hc id rfl
      apply step id s hs
      cases hp : s.parent with
      | none => exact root
      | some p =>
        have hk := h.knows_parent hs
        rw [hp] at hk
        exact ih p.index (hn ▸ h _ _ _ hs hp) p hk rfl

end Ordered

structure Sound (b : Builder B) : Prop where
  workspace : b.workspace.Sound
  root : b.graph.Usable b.root
  /-- A parent is declared before its children. -/
  parent : ∀ {id s p}, b.selector? id = some s → s.parent = some p → p.index < id.index
  compiled : ∀ {id s x}, b.selector? id = some s → s.state = some x →
    ∃ base, b.compiled? s.parent = some base ∧ b.graph.hop? base s.hop = some x
  bookmarks : ∀ entry ∈ b.bookmarks, b.Knows entry.2

/-- A later stage of the same scope. What was compiled stays; handlers were attached to the states
of cursors only. -/
structure Extends (b later : Builder B) : Prop where
  graph : b.graph.Extends later.graph
  root : later.root = b.root
  selector : ∀ {id s}, b.selector? id = some s → ∃ s', later.selector? id = some s' ∧
    s'.parent = s.parent ∧ s'.hop = s.hop ∧ ∀ x, s.state = some x → s'.state = some x
  attachments : ∀ a ∈ later.workspace.attachments, a ∈ b.workspace.attachments ∨
    ∃ cursor, later.compiled? cursor = some a.state

namespace Extends

theorem refl (b : Builder B) : b.Extends b :=
  ⟨.refl _, rfl, fun h => ⟨_, h, rfl, rfl, fun _ => id⟩, fun _ => .inl⟩

theorem compiled? {b later : Builder B} (h : b.Extends later) {cursor : Option SelectorId}
    {x : StateId} (hx : b.compiled? cursor = some x) : later.compiled? cursor = some x := by
  apply compiled?_mono h.root _ hx
  intro id s hs
  obtain ⟨s', hs', -, -, hstate⟩ := h.selector hs
  exact ⟨s', hs', hstate⟩

theorem trans {a b c : Builder B} (h : a.Extends b) (k : b.Extends c) : a.Extends c := by
  refine ⟨h.graph.trans k.graph, k.root.trans h.root, fun hs => ?_, fun x hx => ?_⟩
  · obtain ⟨s', hs', hp, hh, hstate⟩ := h.selector hs
    obtain ⟨s'', hs'', hp', hh', hstate'⟩ := k.selector hs'
    exact ⟨s'', hs'', hp'.trans hp, hh'.trans hh, fun x hx => hstate' x (hstate x hx)⟩
  · rcases k.attachments x hx with hx | hx
    · rcases h.attachments x hx with hx | ⟨cursor, hc⟩
      · exact .inl hx
      · exact .inr ⟨cursor, k.compiled? hc⟩
    · exact .inr hx

theorem knows {b later : Builder B} (h : b.Extends later) {cursor : Option SelectorId}
    (hc : b.Knows cursor) : later.Knows cursor := by
  intro id hid
  obtain ⟨s, hs⟩ := hc id hid
  obtain ⟨s', hs', -⟩ := h.selector hs
  exact ⟨s', hs'⟩

end Extends

/-- A later stage of the same scope that is sound. -/
structure Keeps (b later : Builder B) : Prop where
  sound : later.Sound
  extension : b.Extends later

theorem Keeps.trans {a b c : Builder B} (h : a.Keeps b) (k : b.Keeps c) : a.Keeps c :=
  ⟨k.sound, h.extension.trans k.extension⟩

namespace Sound

variable {b : Builder B}

theorem keeps (h : b.Sound) : b.Keeps b := ⟨h, .refl b⟩

theorem ordered (h : b.Sound) : b.Ordered := fun _ _ _ => h.parent

theorem usable (h : b.Sound) {cursor : Option SelectorId} {x : StateId}
    (hx : b.compiled? cursor = some x) : b.graph.Usable x := by
  cases cursor with
  | none =>
    rw [compiled?, Option.some.injEq] at hx
    rw [← hx]
    exact h.root
  | some id =>
    obtain ⟨s, hs, hx⟩ := Option.bind_eq_some_iff.1 hx
    obtain ⟨base, -, hh⟩ := h.compiled hs hx
    obtain ⟨o, ho⟩ := h.workspace.arranged
    exact ho.hop?_bounds hh

/-- A cursor that was compiled has the state its steps lead to. -/
theorem reach? (h : b.Sound) {cursor : Option SelectorId} {chain : Chain}
    (hs : b.Spells cursor chain) {x : StateId} (hx : b.compiled? cursor = some x) :
    b.graph.reach? b.root chain = some x := by
  induction hs generalizing x with
  | root => exact hx
  | step hs _ ih =>
    rw [compiled?, hs] at hx
    obtain ⟨base, hb, hh⟩ := h.compiled hs hx
    rw [Graph.reach?_concat, ih hb]
    exact hh

/-- Every cursor has its steps. -/
theorem exists_spells (h : b.Sound) {cursor : Option SelectorId} (hc : b.Knows cursor) :
    ∃ chain, b.Spells cursor chain := by
  apply h.ordered.cursor_induction ⟨[], .root⟩ _ hc
  intro id s hs hp
  obtain ⟨chain, hchain⟩ := hp
  exact ⟨_, .step hs hchain⟩

/-! ### Changes that keep a scope sound -/

/-- Only the automaton, the selectors, the bookmarks and the attachments matter. -/
theorem keeps_of_same (h : b.Sound) {later : Builder B} (hg : later.graph = b.graph)
    (hr : later.root = b.root) (hs : later.selectors = b.selectors)
    (hb : later.bookmarks = b.bookmarks)
    (ha : later.workspace.attachments = b.workspace.attachments) : b.Keeps later := by
  have hsel : later.selector? = b.selector? := by
    funext id
    simp only [selector?, hs]
  have hcomp : later.compiled? = b.compiled? := by
    funext cursor
    cases cursor <;> simp only [compiled?, hr, hsel]
  have hw : later.workspace.Sound := by
    have hg' : later.workspace.graph = b.workspace.graph := hg
    refine ⟨hg' ▸ h.workspace.arranged, ?_, ?_⟩
    · rw [ha, hg']
      exact h.workspace.attachments
    · rw [ha, hg']
      exact h.workspace.handlers
  refine ⟨⟨hw, ?_, ?_, ?_, ?_⟩, ⟨?_, hr, ?_, ?_⟩⟩
  · rw [hg, hr]
    exact h.root
  · rw [hsel]
    exact h.parent
  · rw [hsel, hcomp, hg]
    exact h.compiled
  · rw [hb]
    unfold Knows
    rw [hsel]
    exact h.bookmarks
  · rw [hg]
    exact .refl _
  · intro id s hs
    rw [hsel]
    exact ⟨s, hs, rfl, rfl, fun _ hx => hx⟩
  · intro a hm
    rw [ha] at hm
    exact .inl hm

/-- The automaton may grow by edges; handlers come with their attachments. -/
theorem keeps_withGraph (h : b.Sound) {g : Graph (HandlerRef B)} (hg : b.graph.Extends g)
    (ha : ∃ o, g.Arranged o)
    (hh : ∀ s, ∀ x ∈ (g.state s).handlers, x ∈ (b.graph.state s).handlers) :
    b.Keeps (b.withGraph g) := by
  have hw : (b.withGraph g).workspace.Sound :=
    ⟨ha, fun a hm => (h.workspace.attachments a hm).mono hg,
      fun s x hx => h.workspace.handlers s x (hh s x hx)⟩
  refine ⟨⟨hw, h.root.mono hg, h.parent, ?_, h.bookmarks⟩, ⟨hg, rfl, ?_, fun _ => .inl⟩⟩
  · intro id s x hs hx
    obtain ⟨base, hb, hh⟩ := h.compiled hs hx
    exact ⟨base, hb, Graph.hop?_of_extends hg hh⟩
  · exact fun hs => ⟨_, hs, rfl, rfl, fun _ hx => hx⟩

end Sound

theorem selector?_updateSelector (b : Builder B) (id other : SelectorId) (f : Selector → Selector) :
    (b.updateSelector id f).selector? other =
      if id = other then (b.selector? other).map f else b.selector? other := by
  unfold selector? updateSelector
  rw [Array.getElem?_modify]
  by_cases h : id = other
  · simp [h]
  · have hi : id.index ≠ other.index := fun hi => h (by cases id; cases other; simp_all)
    simp [h, hi]

/-- A selector may take a limit, and the state its step leads to. -/
theorem Sound.keeps_updateSelector {b : Builder B} (h : b.Sound) {id : SelectorId}
    {f : Selector → Selector} (hp : ∀ s, (f s).parent = s.parent) (hh : ∀ s, (f s).hop = s.hop)
    (hstay : ∀ s x, b.selector? id = some s → s.state = some x → (f s).state = some x)
    (hnew : ∀ s x, b.selector? id = some s → (f s).state = some x →
      ∃ base, b.compiled? s.parent = some base ∧ b.graph.hop? base s.hop = some x) :
    b.Keeps (b.updateSelector id f) := by
  have hsel : ∀ {other s}, b.selector? other = some s →
      ∃ s', (b.updateSelector id f).selector? other = some s' ∧ s'.parent = s.parent ∧
        s'.hop = s.hop ∧ ∀ x, s.state = some x → s'.state = some x := by
    intro other s hs
    rw [selector?_updateSelector, hs]
    split
    · rename_i heq
      subst heq
      exact ⟨f s, rfl, hp s, hh s, fun x => hstay s x hs⟩
    · exact ⟨s, rfl, rfl, rfl, fun _ hx => hx⟩
  have hext : b.Extends (b.updateSelector id f) := ⟨.refl _, rfl, hsel, fun _ => .inl⟩
  refine ⟨⟨h.workspace, h.root, ?_, ?_, ?_⟩, hext⟩
  · intro other s p hs hparent
    rw [selector?_updateSelector] at hs
    split at hs
    · obtain ⟨old, hold, rfl⟩ := Option.map_eq_some_iff.1 hs
      rw [hp] at hparent
      exact h.parent hold hparent
    · exact h.parent hs hparent
  · intro other s x hs hx
    rw [selector?_updateSelector] at hs
    split at hs
    · rename_i heq
      subst heq
      obtain ⟨old, hold, rfl⟩ := Option.map_eq_some_iff.1 hs
      rw [hp, hh]
      obtain ⟨base, hb, hhop⟩ := hnew old x hold hx
      exact ⟨base, hext.compiled? hb, hhop⟩
    · obtain ⟨base, hb, hhop⟩ := h.compiled hs hx
      exact ⟨base, hext.compiled? hb, hhop⟩
  · exact fun entry he => hext.knows (h.bookmarks entry he)

end Builder
end StreamSelect
