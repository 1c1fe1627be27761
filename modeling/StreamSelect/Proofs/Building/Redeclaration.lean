import StreamSelect.Proofs.Automaton.Likeness
import StreamSelect.Proofs.Building.History

/-! States are never forgotten. What a selector holds is what its step leads to in the automaton of
the moment, so compiling it again, from the root or not, changes nothing; and whoever declares the
steps of a compiled chain again, in whatever words, is led to its state. -/
namespace StreamSelect

open List (Forall₂)

/-- The step selects elements as the hop does. -/
def Step.Declares (step : Step) (hop : Hop) : Prop :=
  match step with
  | .select kind constraints =>
    Hop.Same ⟨kind.isDescendant, combinedTest kind constraints⟩ hop
  | .only _ => False

namespace Builder

variable {B : Type} {b : Builder B} {cursor : Option SelectorId}

/-! ### Compiling from the root -/

/-- Compiles a selector below a state, whether it holds a state or not. A limit takes effect when
the selector is given its state. -/
def recompile (b : Builder B) (base : StateId) (id : SelectorId) : StateId × Builder B :=
  match b.selector? id with
  | none => (base, b)
  | some s =>
    match s.state with
    | none => b.compile base id
    | some _ =>
      let (state, grown) := edge b.graph base s.kind s.test
      (state, (b.withGraph grown).updateSelector id fun s => { s with state := some state })

/-- The state of a cursor. All selectors from the root down to it are compiled. -/
def stateFromRoot (b : Builder B) (cursor : Option SelectorId) : StateId × Builder B :=
  (b.lineage cursor).foldr (fun step reached => reached.2.recompile reached.1 step.1) (b.root, b)

theorem stateFromRoot_none (b : Builder B) : b.stateFromRoot none = (b.root, b) := by
  rw [stateFromRoot, lineage_none]
  rfl

theorem stateFromRoot_of_unknown {id : SelectorId} (hs : b.selector? id = none) :
    b.stateFromRoot (some id) = (b.root, b) := by
  rw [stateFromRoot, lineage_of_unknown hs]
  rfl

theorem Ordered.stateFromRoot_of_parent (h : b.Ordered) {id : SelectorId} {s : Selector}
    (hs : b.selector? id = some s) :
    b.stateFromRoot (some id) =
      (b.stateFromRoot s.parent).2.recompile (b.stateFromRoot s.parent).1 id := by
  rw [stateFromRoot, h.lineage_of_parent hs]
  rfl

namespace Cached

/-- The edge of a selector that holds a state leads there, and is not made again. -/
theorem edge_of_state (h : b.Cached) {id : SelectorId} {s : Selector} {x : StateId}
    (hs : b.selector? id = some s) (hx : s.state = some x) :
    ∃ base, b.compiled? s.parent = some base ∧ edge b.graph base s.kind s.test = (x, b.graph) := by
  obtain ⟨base, hb, hhop⟩ := h.compiled id s x hs hx
  refine ⟨base, hb, ?_⟩
  rw [edge_selector]
  exact Graph.Coherent.extend_of_hop? h.fit.workspace.coherent (h.within hb) hhop

theorem recompile_of_state (h : b.Cached) {id : SelectorId} {s : Selector} {base x : StateId}
    (hs : b.selector? id = some s) (hb : b.compiled? s.parent = some base) (hx : s.state = some x) :
    b.recompile base id = (x, b) := by
  obtain ⟨base', hb', hedge⟩ := h.edge_of_state hs hx
  obtain rfl : base' = base := Option.some.inj (hb'.symm.trans hb)
  have hsame : b.selectors.modify id.index (fun s => { s with state := some x }) = b.selectors := by
    refine Array.ext_getElem? fun i => ?_
    rw [Array.getElem?_modify]
    split
    · rename_i hi
      subst hi
      rw [show b.selectors[id.index]? = some s from hs]
      exact congrArg some (congrArg (fun state => { s with state }) hx.symm)
    · rfl
  rw [recompile, hs]
  simp only [hx, hedge]
  exact Prod.ext rfl (congrArg (fun selectors => { b with selectors }) hsame)

theorem stateFromRoot_eq (h : b.Cached) (cursor : Option SelectorId) :
    b.stateFromRoot cursor = b.stateOf cursor := by
  rcases b.knows_or_unknown cursor with hc | ⟨id, rfl, hs⟩
  · apply h.ordered.cursor_induction _ _ hc
    · rw [stateFromRoot_none, stateOf_none]
    · intro id s hs ih
      rw [h.ordered.stateFromRoot_of_parent hs, ih]
      cases hx : s.state with
      | some x =>
        obtain ⟨base, hb, -⟩ := h.compiled id s x hs hx
        rw [stateOf_of_compiled hb, stateOf_of_state hs hx]
        exact h.recompile_of_state hs hb hx
      | none =>
        rw [h.ordered.stateOf_of_parent hs hx, recompile, h.ordered.selector?_stateOf_parent hs]
        simp only [hx]
  · rw [stateFromRoot_of_unknown hs, stateOf_of_unknown hs]

/-- A cursor that has its state keeps it. -/
theorem stateOf_stateOf (h : b.Cached) (cursor : Option SelectorId) :
    (b.stateOf cursor).2.stateOf cursor = b.stateOf cursor := by
  rcases b.knows_or_unknown cursor with hc | ⟨id, rfl, hs⟩
  · exact stateOf_of_compiled (h.changes_stateOf hc).2
  · rw [stateOf_of_unknown hs, stateOf_of_unknown hs]

end Cached

/-! ### Declaring a chain again -/

/-- No selector on the way to a cursor waits for its state with a limit. -/
inductive Settled (b : Builder B) : Option SelectorId → Prop
  | root : Settled b none
  | step {id : SelectorId} {s : Selector} :
    b.selector? id = some s → (s.state = none → s.limit = none) → Settled b s.parent →
      Settled b (some id)

/-- The steps of a cursor are known from the selectors alone. -/
theorem Spells.onto {chain : Chain} (h : b.Spells cursor chain) (w : Workspace B) :
    { b with workspace := w }.Spells cursor chain := by
  induction h with
  | root => exact .root
  | step hs _ ih => exact .step hs ih

namespace Cached

/-- A cursor that was compiled has the state its steps lead to. -/
theorem reach? (h : b.Cached) {chain : Chain} (hs : b.Spells cursor chain) {x : StateId}
    (hx : b.compiled? cursor = some x) : b.graph.reach? b.root chain = some x := by
  induction hs generalizing x with
  | root => exact hx
  | step hs _ ih =>
    rw [compiled?, hs] at hx
    obtain ⟨base, hb, hhop⟩ := h.compiled _ _ x hs hx
    rw [Graph.reach?_concat, ih hb]
    exact hhop

/-- A cursor whose steps lead to a state is compiled to that state, and the automaton stays. -/
theorem stateOf_of_reach? (h : b.Cached) {chain : Chain} (hs : b.Spells cursor chain)
    (hset : b.Settled cursor) {x : StateId} (hx : b.graph.reach? b.root chain = some x) :
    (b.stateOf cursor).1 = x ∧ (b.stateOf cursor).2.workspace = b.workspace := by
  induction hs generalizing x with
  | root =>
    rw [stateOf_none]
    exact ⟨Option.some.inj hx, rfl⟩
  | @step id s chain hs hspell ih =>
    have hreach := hx
    rw [Graph.reach?_concat] at hx
    obtain ⟨base, hbase, hhop⟩ := Option.bind_eq_some_iff.1 hx
    obtain ⟨hlimit, hparent⟩ : (s.state = none → s.limit = none) ∧ b.Settled s.parent := by
      cases hset with
      | step hs' hlimit hparent =>
        obtain rfl := Option.some.inj (hs'.symm.trans hs)
        exact ⟨hlimit, hparent⟩
    cases hstate : s.state with
    | some y =>
      have hy : b.compiled? (some id) = some y := by
        rw [compiled?, hs]
        exact hstate
      have hreached := h.reach? (.step hs hspell) hy
      rw [stateOf_of_state hs hstate]
      exact ⟨Option.some.inj (hreached.symm.trans hreach), rfl⟩
    | none =>
      obtain ⟨hi, hw⟩ := ih hparent hbase
      have hk := (h.changes_stateOf (h.ordered.knows_parent hs)).1
      have hwithin := (h.fit.becomes_stateOf s.parent).2
      rw [h.ordered.stateOf_of_unlimited hs hstate (hlimit hstate)]
      generalize b.stateOf s.parent = reached at hi hw hk hwithin ⊢
      have hc : reached.2.graph.Coherent 0 := (h.changes hk).1.fit.workspace.coherent
      have hg : reached.2.graph = b.graph := congrArg Workspace.graph hw
      rw [← hi, ← hg] at hhop
      rw [hc.extend_of_hop? hwithin hhop]
      exact ⟨rfl, hw⟩

end Cached

/-- Steps that are declared lead to a cursor that they spell. -/
theorem Cached.walk_declares (h : b.Cached) {above : Chain} (hs : b.Spells cursor above)
    {path : List Step} {chain : Chain} (hp : Forall₂ Step.Declares path chain) :
    ∃ reached later spelled, b.walk cursor path = (.ok reached, later) ∧ later.Cached ∧
      later.root = b.root ∧ later.workspace = b.workspace ∧
      later.Spells reached (above ++ spelled) ∧ Forall₂ Hop.Same spelled chain := by
  induction hp generalizing b cursor above with
  | nil => exact ⟨cursor, b, [], rfl, h, rfl, rfl, by rwa [List.append_nil], .nil⟩
  | @cons step hop path chain hstep _ ih =>
    cases step with
    | only n => cases hstep
    | select kind constraints =>
      obtain ⟨hd, hgrows⟩ := h.change (.declare kind constraints (knows_of_spells hs))
      obtain ⟨s, hsel, hparent, hlike⟩ := b.selector?_declare cursor kind constraints
      have hw := b.workspace_declare cursor kind constraints
      have habove : (b.declare cursor kind constraints).2.Spells s.parent above := by
        rw [hparent]
        exact hs.mono hgrows
      have hsame : s.hop.Same hop := hlike.hop.trans hstep
      obtain ⟨reached, later, spelled, hwalk, hlater, hroot, hworkspace, hreached, hall⟩ :=
        ih hd (.step hsel habove)
      rw [List.append_assoc] at hreached
      exact ⟨reached, later, s.hop :: spelled, hwalk, hlater, hroot.trans hgrows.root,
        hworkspace.trans hw, hreached, .cons hsame hall⟩

end Builder

/-! ### Scopes of one model -/

/-- What selectors hold agrees with the automaton that all scopes share. -/
structure Workspace.Remembers {B : Type} (w : Workspace B) (scopes : List (Builder B)) : Prop where
  /-- A selector that holds a state stands below a state, from which its step leads to the one it
  holds along an edge that is there. -/
  cached : ∀ b ∈ scopes, ∀ id s x, b.selector? id = some s → s.state = some x →
    ∃ base, b.compiled? s.parent = some base ∧
      Builder.edge w.graph base s.kind s.test = (x, w.graph)
  /-- Compiling a cursor once more changes nothing. -/
  again : ∀ b ∈ scopes, ∀ cursor, ({ b with workspace := w }.stateOf cursor).2.stateOf cursor =
    { b with workspace := w }.stateOf cursor
  /-- It makes no difference from where a cursor is compiled. -/
  fromRoot : ∀ b ∈ scopes, ∀ cursor,
    { b with workspace := w }.stateFromRoot cursor = { b with workspace := w }.stateOf cursor
  /-- The steps of a compiled chain may be declared again in any scope with the same root. -/
  redeclared : ∀ b ∈ scopes, ∀ cursor chain x, b.Spells cursor chain →
    b.compiled? cursor = some x → ∀ c ∈ scopes, c.root = b.root →
    ∀ path, Forall₂ Step.Declares path chain → ∃ reached later,
      { c with workspace := w }.walk none path = (.ok reached, later) ∧ later.workspace = w ∧
        (later.Settled reached →
          (later.stateOf reached).1 = x ∧ (later.stateOf reached).2.workspace = w)

namespace Workspace.History

variable {B : Type} {n : Nat} {allowed : Declaration B → Prop} {w : Workspace B}
  {scopes : List (Builder B)}

/-- Whatever the scopes of a model have declared, explicit transitions and limits included, every
selector that holds a state can be compiled again, and every compiled chain declared again, without
any change. -/
theorem remembers (h : w.History n allowed scopes) : w.Remembers scopes := by
  obtain ⟨-, hcached⟩ := h.cached
  constructor
  · intro b hb id s x hs hx
    exact (hcached b hb).edge_of_state hs hx
  · intro b hb cursor
    exact (hcached b hb).stateOf_stateOf cursor
  · intro b hb cursor
    exact (hcached b hb).stateFromRoot_eq cursor
  · intro b hb cursor chain x hs hx c hc hroot path hpath
    have hreach := (hcached b hb).reach? (hs.onto w) hx
    obtain ⟨reached, later, spelled, hwalk, hlater, hlaterRoot, hworkspace, hspells, hall⟩ :=
      (hcached c hc).walk_declares (.root) hpath
    refine ⟨reached, later, hwalk, hworkspace, fun hset => ?_⟩
    have hfound : later.graph.reach? later.root spelled = some x := by
      rw [Graph.reach?_congr _ _ hall, hlaterRoot.trans hroot]
      show later.workspace.graph.reach? b.root chain = some x
      rw [hworkspace]
      exact hreach
    obtain ⟨hstate, hsame⟩ := hlater.stateOf_of_reach? hspells hset hfound
    exact ⟨hstate, hsame.trans hworkspace⟩

end Workspace.History

/-! Sections at any depth, also reached from the parts of a book. One handler of a section looks for
at most two titles in it, the other one for children of the same name. -/

def chapterTop : Declaration Bool :=
  { statement := .select none [.select (.named (.plain "section")) []]
      [.mark "section", .attach false, .attach true] }

def chapterLink : Declaration Bool :=
  { statement := .select none [.select (.child (.plain "book")) []]
      [.link (.name (.plain "part")) "section"] }

def chapterTitles : Declaration Bool :=
  { statement := .select none [.select (.child (.plain "title")) [], .only 2] [.compile] }

def chapterBuilder : Builder Bool :=
  ((Builder.ofModel 0).performEach [chapterTop, chapterLink]).2

/-- The scope of the first handler, and that of the second one, opened when the first has declared. -/
def titleScope : Builder Bool :=
  ((Builder.nested chapterBuilder.workspace ⟨2⟩).perform chapterTitles).2

def captionScope : Builder Bool := .nested titleScope.workspace ⟨2⟩

theorem history_chapter : ∃ scopes, titleScope.workspace.History 0 (fun _ => True) scopes ∧
    titleScope ∈ scopes ∧ captionScope ∈ scopes := by
  have hstart : Workspace.History 0 (fun _ => True) _ [(Builder.ofModel 0 : Builder Bool)] := .ofModel
  have htop := hstart.perform List.mem_cons_self (d := chapterTop) trivial
  have hlinked := htop.perform List.mem_cons_self (d := chapterLink) trivial
  have hfirst : (⟨⟨2⟩, ⟨false, some 0⟩⟩ : Attachment Bool) ∈ chapterBuilder.workspace.attachments :=
    Array.mem_of_getElem? (i := 0) (by decide +kernel)
  have hsecond : (⟨⟨2⟩, ⟨true, some 1⟩⟩ : Attachment Bool) ∈ titleScope.workspace.attachments :=
    Array.mem_of_getElem? (i := 1) (by decide +kernel)
  have htitles := (hlinked.nested hfirst).perform List.mem_cons_self (d := chapterTitles) trivial
  exact ⟨_, htitles.nested hsecond, List.mem_cons_of_mem _ List.mem_cons_self, List.mem_cons_self⟩

/-- The second handler is led to the state that the first one made, and leaves the limit of the
first one in place. -/
theorem remembers_title :
    (titleScope.selector? ⟨0⟩).bind (·.state) = some ⟨4⟩ ∧
      (titleScope.graph.state ⟨4⟩).limit = some 2 ∧
      Forall₂ Step.Declares [.select .anyChild [.name (.plain "title")]]
        [⟨false, .name (.plain "title")⟩] ∧
      ∃ reached later, captionScope.walk none [.select .anyChild [.name (.plain "title")]] =
        (.ok reached, later) ∧ (later.stateOf reached).1 = ⟨4⟩ ∧
          (later.stateOf reached).2.workspace = titleScope.workspace := by
  have hstate : (titleScope.selector? ⟨0⟩).bind (·.state) = some ⟨4⟩ := by decide +kernel
  have hlimit : (titleScope.graph.state ⟨4⟩).limit = some 2 := by decide +kernel
  have hselector : titleScope.selector? ⟨0⟩ =
      some ⟨none, .child (.plain "title"), [], some 2, some ⟨4⟩⟩ := by with_unfolding_all rfl
  have hdeclares : Forall₂ Step.Declares [.select .anyChild [.name (.plain "title")]]
      [⟨false, .name (.plain "title")⟩] := .cons ⟨rfl, by decide⟩ .nil
  have hroot : captionScope.root = titleScope.root := by decide +kernel
  obtain ⟨scopes, hhistory, htitle, hcaption⟩ := history_chapter
  obtain ⟨reached, later, hwalk, -, hlater⟩ := hhistory.remembers.redeclared titleScope htitle _ _ _
    (.step hselector .root) hstate captionScope hcaption hroot _ hdeclares
  have hset : later.Settled reached := by
    have hcursor : captionScope.walk none [.select .anyChild [.name (.plain "title")]] =
        (.ok (some ⟨0⟩), { captionScope with
          selectors := #[⟨none, .anyChild, [.name (.plain "title")], none, none⟩] }) := by
      with_unfolding_all rfl
    obtain ⟨hreached, rfl⟩ := Prod.mk.inj (hwalk.symm.trans hcursor)
    rw [Except.ok.inj hreached]
    exact .step rfl (fun _ => rfl) .root
  obtain ⟨hx, hw⟩ := hlater hset
  exact ⟨hstate, hlimit, hdeclares, reached, later, hwalk, hx, hw⟩

end StreamSelect
