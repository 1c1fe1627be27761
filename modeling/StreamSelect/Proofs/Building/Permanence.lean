import StreamSelect.Proofs.Automaton.Edit
import StreamSelect.Proofs.Building.Redeclaration

/-! What is declared stays. Every operation of every scope edits the automaton of the model, failing
ones included, and so do whole constructions. So elements are led where they were led before, and the
states that selectors hold and the attach points that were handed out can be used in any scope at any
later point of the build. -/
namespace StreamSelect

variable {B : Type}

/-! ### Operations edit the automaton -/

/-- A later stage of the same model, with its automaton edited. -/
structure Workspace.Edited (w later : Workspace B) : Prop where
  model : later.model = w.model
  graph : w.graph.Edits later.graph

namespace Workspace.Edited

variable {w later last : Workspace B}

theorem refl (w : Workspace B) : w.Edited w := ⟨rfl, .refl⟩

theorem trans (h : w.Edited later) (k : later.Edited last) : w.Edited last :=
  ⟨k.model.trans h.model, h.graph.trans k.graph⟩

end Workspace.Edited

namespace Builder

variable {b : Builder B}

/-- What becomes of the workspace between two stages of a scope. -/
abbrev Edited (b later : Builder B) : Prop := b.workspace.Edited later.workspace

theorem edited_limitState (b : Builder B) (s : StateId) (n : Nat) : b.Edited (b.limitState s n) := by
  obtain ⟨records, heq⟩ := b.limitState_eq s n
  rw [heq]
  exact ⟨rfl, .single (.limit s n)⟩

theorem edited_limit {cursor : Option SelectorId} {n : Nat} {later : Builder B}
    (hl : b.limit cursor n = .ok later) : b.Edited later := by
  have hpending : ∀ id, b.Edited (b.updateSelector id fun s => { s with limit := some n }) :=
    fun _ => .refl _
  unfold limit at hl
  split at hl
  · cases hl
  split at hl
  · split at hl
    · cases hl
    · cases hl
      exact b.edited_limitState _ _
  · split at hl
    · cases hl
      exact (hpending _).trans (edited_limitState _ _ _)
    · cases hl
      exact hpending _

theorem edited_declare (b : Builder B) (parent : Option SelectorId) (kind : SelectorKind)
    (constraints : List Constraint) : b.Edited (b.declare parent kind constraints).2 := by
  unfold Edited
  rw [workspace_declare]
  exact .refl _

theorem edited_compile (b : Builder B) (base : StateId) (id : SelectorId) :
    b.Edited (b.compile base id).2 := by
  unfold compile
  split
  · exact .refl _
  · rename_i s hs
    rw [edge_selector]
    have hcompiled : b.Edited (b.compiledTo id (b.graph.extend base s.hop)) :=
      ⟨rfl, b.graph.edits_extend base s.hop⟩
    dsimp only
    split
    · exact hcompiled.trans (edited_limitState _ _ _)
    · exact hcompiled

theorem edited_stateOf (b : Builder B) (cursor : Option SelectorId) :
    b.Edited (b.stateOf cursor).2 := by
  unfold stateOf
  generalize b.uncompiled cursor [] = pending
  obtain ⟨base, path⟩ := pending
  dsimp only
  induction path generalizing b base with
  | nil => exact .refl _
  | cons id path ih => exact (b.edited_compile base id).trans (ih _ _)

theorem edited_attach (b : Builder B) (s : StateId) (handler : HandlerRef B) :
    b.Edited (b.attach s handler) :=
  ⟨rfl, .single (.handler s handler)⟩

theorem edited_link {s : StateId} {test : Constraint} {target : AttachPoint} {later : Builder B}
    (hl : b.link s test target = .ok later) : b.Edited later := by
  obtain ⟨records, rfl⟩ := link_eq hl
  exact ⟨rfl, b.graph.edits_link s test target.state⟩

theorem edited_walk (b : Builder B) (cursor : Option SelectorId) (path : List Step) :
    b.Edited (b.walk cursor path).2 := by
  induction path generalizing b cursor with
  | nil => exact .refl _
  | cons step path ih =>
    cases step with
    | select kind constraints => exact (b.edited_declare cursor kind constraints).trans (ih _ _)
    | only n =>
      rw [walk]
      split
      · exact (edited_limit ‹_›).trans (ih _ _)
      · exact .refl _

theorem edited_act (b : Builder B) (cursor : Option SelectorId) (action : Action B) :
    b.Edited (b.act cursor action).2 := by
  have hk := b.edited_stateOf cursor
  cases action with
  | compile => exact hk
  | inspect view => cases view <;> exact .refl _
  | only n =>
    rw [act]
    split
    · exact edited_limit ‹_›
    · exact .refl _
  | attach behaviour =>
    have hcopy : b.Edited (b.freshCopy behaviour).2 := ⟨rfl, .refl⟩
    exact (hcopy.trans (edited_stateOf _ cursor)).trans (edited_attach _ _ _)
  | share behaviour => exact hk.trans (edited_attach _ _ _)
  | mark key => exact hk.trans ⟨rfl, .refl⟩
  | link test key =>
    rw [act]
    split
    · exact .refl _
    · dsimp only
      split
      · exact hk.trans (edited_link ‹_›)
      · exact hk
  | bookmark key => exact .refl _
  | reject e => exact .refl _

theorem edited_actAll (b : Builder B) (cursor : Option SelectorId) (actions : List (Action B)) :
    b.Edited (b.actAll cursor actions).2 := by
  induction actions generalizing b with
  | nil => exact .refl _
  | cons action actions ih =>
    have hk := b.edited_act cursor action
    rw [actAll]
    generalize b.act cursor action = done at hk ⊢
    obtain ⟨answer, later⟩ := done
    cases answer with
    | error e => exact hk
    | ok answer => exact hk.trans (ih later)

theorem edited_perform (b : Builder B) (d : Declaration B) : b.Edited (b.perform d).2 := by
  obtain ⟨statement, optional⟩ := d
  show b.Edited (b.carryOut statement).2
  cases statement with
  | select origin path actions =>
    have hw := b.edited_walk (b.start origin) path
    rw [carryOut]
    generalize b.walk (b.start origin) path = walked at hw ⊢
    obtain ⟨reached, later⟩ := walked
    cases reached with
    | error e => exact hw
    | ok cursor => exact hw.trans (later.edited_actAll cursor actions)
  | observe behaviour => exact ⟨rfl, .refl⟩
  | landmark key point => exact ⟨rfl, .refl⟩
  | inspect view => exact .refl _

theorem edited_performAll (b : Builder B) (ds : List (Declaration B)) :
    b.Edited (b.performAll ds).2 := by
  induction ds generalizing b with
  | nil => exact .refl _
  | cons d ds ih =>
    have hk := b.edited_perform d
    rw [performAll]
    dsimp only
    split
    · exact hk
    · exact hk.trans (ih _)

end Builder

namespace Construction

variable {declared : B → Nat → List (Declaration B)}

theorem edited_build (c : Construction B) (a : Attachment B) :
    c.workspace.Edited (c.build declared a).workspace :=
  (Builder.nested c.workspace a.state).edited_performAll _

theorem edited_run [DecidableEq B] (c : Construction B) (budget : Nat) :
    c.workspace.Edited (c.run declared budget).workspace := by
  fun_induction c.run declared budget with
  | case1 c hn => exact .refl _
  | case2 c a ha hm ih => exact ih
  | case3 c a ha hm hb next hf => exact c.edited_build a
  | case4 c a ha hm hb next hf ih => exact (c.edited_build a).trans ih
  | case5 c a ha hm hb => exact .refl _

end Construction

/-! ### Later points of a build -/

namespace Workspace

variable {n : Nat} {allowed : Declaration B → Prop} {w w' : Workspace B}
  {scopes scopes' : List (Builder B)}

theorem Later.edited (h : Later allowed w scopes w' scopes') : w.Edited w' := by
  induction h with
  | now => exact .refl _
  | @perform w' scopes' b d _ _ _ ih => exact ih.trans ({ b with workspace := w' }.edited_perform d)
  | nested _ _ ih => exact ih

/-- What a workspace and its scopes may rely on at a later point of the build. -/
structure Stays (w : Workspace B) (scopes : List (Builder B)) (w' : Workspace B)
    (scopes' : List (Builder B)) : Prop where
  /-- States are where they were, with all they had. -/
  states : ∀ s, w.graph.contains s = true →
    w'.graph.contains s = true ∧ (w.graph.state s).Lasts (w'.graph.state s)
  /-- The children that a transition took are taken to the same state, whatever rules are in scope. -/
  children : ∀ fs e s t, (w.graph.state s).follow fs e = some t →
    ∀ scope, w'.graph.resolve fs s scope e = t
  /-- So is what a rule with a test took. -/
  descendants : ∀ fs e s t, Transition.follow fs e (w.graph.state s).rules = some t →
    (w'.graph.state s).followRules fs e = some t
  /-- The state of a selector is the one its steps lead to, and is returned as it is. -/
  cached : ∀ b ∈ scopes, ∀ cursor x, b.compiled? cursor = some x →
    w'.graph.contains x = true ∧
      { b with workspace := w' }.stateOf cursor = (x, { b with workspace := w' }) ∧
      ∀ chain, b.Spells cursor chain → w'.graph.reach? b.root chain = some x
  /-- An explicit transition may lead to an attach point from any scope. -/
  attachPoints : ∀ point : AttachPoint, point.model = w.model →
    w.graph.contains point.state = true → ∀ b ∈ scopes', ∀ source test, ∃ linked,
      { b with workspace := w' }.link source test point = .ok linked

theorem Later.stays (hl : Later allowed w scopes w' scopes') (h : w.History n allowed scopes) :
    w.Stays scopes w' scopes' := by
  have hedited := hl.edited
  have hlasts := hedited.graph.lasts
  obtain ⟨-, hcached⟩ := (h.later hl).cached
  constructor
  · exact fun s hs => ⟨hlasts.contains hs, hlasts.state s⟩
  · exact fun fs e s t ht scope => hlasts.resolve ht scope
  · exact fun fs e s t ht => (hlasts.state s).followRules ht
  · intro b hb cursor x hx
    have hb' := hcached b (hl.mem hb)
    have hx' : { b with workspace := w' }.compiled? cursor = some x := by
      cases cursor <;> exact hx
    exact ⟨(hb'.within hx').2, Builder.stateOf_of_compiled hx',
      fun chain hchain => hb'.reach? (hchain.onto w') hx'⟩
  · intro point hmodel hstate b _ source test
    have hown : point.model = w'.model ∧ w'.graph.contains point.state = true :=
      ⟨hmodel.trans hedited.model.symm, hlasts.contains hstate⟩
    obtain ⟨records, hlinked⟩ :=
      Builder.link_of_own (b := { b with workspace := w' }) (x := source) (t := test) hown
    exact ⟨_, hlinked⟩

end Workspace

/-- Declarations only extend. Whatever a scope does, and whatever the handlers do that a construction
lets declare, every state lasts; and from any point of a build on, the elements that transitions and
rules took, the states that selectors hold, and the attach points stay good in all scopes. -/
theorem Workspace.History.declarations_extend [DecidableEq B] {n : Nat}
    {allowed : Declaration B → Prop} {w : Workspace B} {scopes : List (Builder B)}
    (h : w.History n allowed scopes) :
    (∀ b : Builder B,
      (∀ cursor path, b.graph.Lasts (b.walk cursor path).2.graph) ∧
      (∀ cursor action, b.graph.Lasts (b.act cursor action).2.graph) ∧
      (∀ d, b.graph.Lasts (b.perform d).2.graph) ∧
      ∀ declared settings, b.graph.Lasts (b.construct declared settings).workspace.graph) ∧
    (∀ w' scopes', Later allowed w scopes w' scopes' → w.Stays scopes w' scopes') ∧
    (∀ b ∈ scopes, ∀ d, allowed d → ∀ cursor x, b.compiled? cursor = some x →
      ({ b with workspace := w }.perform d).2.compiled? cursor = some x) ∧
    ∀ b ∈ scopes, ∀ declared settings, (∀ x k, ∀ d ∈ declared x k, allowed d) →
      ∃ scopes', Later allowed w scopes
        ({ b with workspace := w }.construct declared settings).workspace scopes' := by
  refine ⟨fun b => ⟨fun cursor path => ?_, fun cursor action => ?_, fun d => ?_,
    fun declared settings => ?_⟩, fun w' scopes' hl => hl.stays h, ?_, ?_⟩
  · exact (b.edited_walk cursor path).graph.lasts
  · exact (b.edited_act cursor action).graph.lasts
  · exact (b.edited_perform d).graph.lasts
  · exact (Construction.edited_run { workspace := b.workspace } _).graph.lasts
  · intro b hb d _ cursor x hx
    have hcached := h.cached.2 b hb
    have hx' : { b with workspace := w }.compiled? cursor = some x := by
      cases cursor <;> exact hx
    exact (hcached.changes (hcached.changes_perform d)).2.compiled? hx'
  · exact fun b hb declared settings hd => Later.run hd ⟨scopes, .now⟩

/-- A declaration that makes a state for figures before it fails. -/
def chapterFigures : Declaration Bool :=
  { statement := .select none [.select (.child (.plain "figure")) []] [.compile, .only 0] }

/-- The second handler of a section fails after it has added a state. The title of the first handler
keeps its state, and its scope may still lead to the section. -/
theorem stays_chapter :
    (captionScope.perform chapterFigures).1.error = some (.configuration .zeroLimit) ∧
      (captionScope.perform chapterFigures).2.graph.size = titleScope.graph.size + 1 ∧
      titleScope.compiled? (some ⟨0⟩) = some ⟨4⟩ ∧
      { titleScope with workspace := (captionScope.perform chapterFigures).2.workspace }.stateOf
          (some ⟨0⟩) =
        (⟨4⟩, { titleScope with workspace := (captionScope.perform chapterFigures).2.workspace }) ∧
      ∃ linked, { titleScope with
          workspace := (captionScope.perform chapterFigures).2.workspace }.link ⟨4⟩
        (.name (.plain "part")) ⟨0, ⟨2⟩⟩ = .ok linked := by
  have hstate : titleScope.compiled? (some ⟨0⟩) = some ⟨4⟩ := by decide +kernel
  obtain ⟨scopes, hhistory, htitle, hcaption⟩ := history_chapter
  obtain ⟨-, hstays, -⟩ := hhistory.declarations_extend
  have hlater : Workspace.Later (fun _ => True) titleScope.workspace scopes
      (captionScope.perform chapterFigures).2.workspace _ :=
    Workspace.Later.now.perform hcaption (d := chapterFigures) trivial
  have hs := hstays _ _ hlater
  obtain ⟨-, hkept, -⟩ := hs.cached titleScope htitle _ _ hstate
  exact ⟨rfl, by decide +kernel, hstate, hkept,
    hs.attachPoints ⟨0, ⟨2⟩⟩ (by decide +kernel) (by decide +kernel) titleScope
      (hlater.mem htitle) _ _⟩

end StreamSelect
