import StreamSelect.Proofs.Building.Attachments
import StreamSelect.Proofs.Building.Limits
import StreamSelect.Proofs.Selection.NamedPath

/-! Scopes that declare handlers on paths of names. Each declaration attaches its handler to the state
of its path, whatever paths were declared before; what was attached stays where it was, in the order
of the declarations. -/
namespace StreamSelect

variable {B : Type}

/-- The steps of a path to named children. -/
def pathSteps (path : List Name) : List Step := path.map fun n => .select (.child n) []

/-- A handler attached to the elements of a path of names. -/
def pathDeclaration (entry : List Name × B) : Declaration B :=
  { statement := .select none (pathSteps entry.1) [.attach entry.2] }

/-! ### Automata of named children -/

namespace Graph

variable {H : Type} {g : Graph H}

/-- A step to a child changes no state but the one it is taken from, and that one by a transition
only. -/
theorem state_addTransition_cases (g : Graph H) (s : StateId) (test : Constraint) (t : StateId) :
    (g.addTransition s test).2.state t = g.state t ∨ t = s ∧
      ∃ u, (g.addTransition s test).2.state t =
        { g.state t with transitions := (g.state t).transitions ++ [⟨test, u⟩] } := by
  unfold addTransition
  split
  · exact .inl rfl
  · rw [state_update, state_addState]
    split
    · rename_i ht
      rw [ht.1]
      exact .inr ⟨rfl, _, rfl⟩
    · exact .inl (state_addState g t)

/-- So does an explicit transition. -/
theorem state_link_cases (g : Graph H) (s : StateId) (test : Constraint) (target t : StateId) :
    (g.link s test target).2.state t = g.state t ∨ t = s ∧
      ∃ u, (g.link s test target).2.state t =
        { g.state t with transitions := (g.state t).transitions ++ [⟨test, u⟩] } := by
  unfold link
  split
  · exact .inl rfl
  · rw [state_update]
    split
    · rename_i ht
      rw [ht.1]
      exact .inr ⟨rfl, _, rfl⟩
    · exact .inl rfl

/-- Transitions test names alone, and no state is limited. -/
structure Free (g : Graph H) : Prop where
  named : g.Named
  limit : ∀ s, (g.state s).limit = none

theorem free_initial : (initial : Graph H).Free := by
  refine ⟨fun s edge he => ?_, fun s => ?_⟩
  · rw [state_initial] at he
    cases he
  · rw [state_initial]

theorem Named.of_state_cases (h : g.Named) {later : Graph H} {s : StateId} {n : Name}
    (hl : ∀ t, later.state t = g.state t ∨ t = s ∧ ∃ u, later.state t =
      { g.state t with transitions := (g.state t).transitions ++ [⟨.name n, u⟩] }) :
    later.Named := by
  intro t edge he
  rcases hl t with ht | ⟨-, u, ht⟩
  · exact h t edge (ht ▸ he)
  · rw [ht] at he
    rcases List.mem_append.1 he with he | he
    · exact h t edge he
    · exact ⟨n, by rw [List.mem_singleton.1 he]⟩

theorem Named.addTransition (h : g.Named) (s : StateId) (n : Name) :
    (g.addTransition s (.name n)).2.Named :=
  h.of_state_cases (g.state_addTransition_cases s (.name n))

theorem Named.update (h : g.Named) (s : StateId) {f : State H → State H}
    (hf : ∀ x, (f x).transitions = x.transitions) : (g.update s f).Named := by
  have hsame : ∀ t, ((g.update s f).state t).transitions = (g.state t).transitions :=
    rel_state_update (R := fun x y => y.transitions = x.transitions) (hf _) fun _ => rfl
  intro t edge he
  rw [hsame] at he
  exact h t edge he

theorem Free.addTransition (h : g.Free) (s : StateId) (n : Name) :
    (g.addTransition s (.name n)).2.Free :=
  ⟨h.named.addTransition s n, fun t => (SameLimits.addTransition g s _ t).trans (h.limit t)⟩

theorem Free.link (h : g.Free) (s : StateId) (n : Name) (target : StateId) :
    (g.link s (.name n) target).2.Free :=
  ⟨h.named.of_state_cases (g.state_link_cases s (.name n) target),
    fun t => (SameLimits.link g s _ target t).trans (h.limit t)⟩

theorem Free.attach (h : g.Free) (s : StateId) (handler : H) : (g.attach s handler).Free :=
  ⟨h.named.update s fun _ => rfl, fun t => (SameLimits.attach g s handler t).trans (h.limit t)⟩

end Graph

namespace Builder

variable {b : Builder B} {cursor : Option SelectorId}

theorem Spells.mono {later : Builder B} (hg : b.Grows later) {chain : Chain}
    (h : b.Spells cursor chain) : later.Spells cursor chain := by
  induction h with
  | root => exact .root
  | @step id s chain hs _ ih =>
    obtain ⟨s', hs', hparent, hkind, hconstraints, -⟩ := hg.selector hs
    have hhop : s'.hop = s.hop := by
      rw [Selector.hop, Selector.hop, Selector.test, Selector.test, hkind, hconstraints]
    rw [← hhop]
    exact .step hs' (hparent ▸ ih)

theorem knows_of_spells {chain : Chain} (h : b.Spells cursor chain) : b.Knows cursor := by
  intro id hid
  subst hid
  cases h with
  | step hs _ => exact ⟨_, hs⟩

namespace Memoized

/-- A cursor that was compiled has the state its steps lead to. -/
theorem reach? (h : b.Memoized) {chain : Chain} (hs : b.Spells cursor chain) {x : StateId}
    (hx : b.compiled? cursor = some x) : b.graph.reach? b.root chain = some x := by
  induction hs generalizing x with
  | root => exact hx
  | step hs _ ih =>
    rw [compiled?, hs] at hx
    obtain ⟨base, hb, hhop⟩ := h.compiled _ _ x hs hx
    rw [Graph.reach?_concat, ih hb]
    exact hhop

/-- A path that is declared leads to a cursor whose steps go to children of its names. -/
theorem walk_pathSteps (h : b.Memoized) {above : List Name}
    (hs : b.Spells cursor (childChain above)) (path : List Name) :
    ∃ reached later spelled, b.walk cursor (pathSteps path) = (.ok reached, later) ∧
      later.Memoized ∧ b.Grows later ∧ later.workspace = b.workspace ∧
      later.Spells reached (childChain (above ++ spelled)) ∧ (spelled == path) = true := by
  induction path generalizing b cursor above with
  | nil => exact ⟨cursor, b, [], rfl, h, .refl b, rfl, by rwa [List.append_nil], rfl⟩
  | cons n path ih =>
    obtain ⟨hd, hg, s, hid, hparent, hlike⟩ := h.declare (knows_of_spells hs) (.child n) []
    have hw := workspace_declare b cursor (.child n) []
    rw [pathSteps, List.map_cons, walk]
    generalize b.declare cursor (.child n) [] = declared at hd hg hid hw ⊢
    obtain ⟨id, declared⟩ := declared
    obtain ⟨k, hkind, hk⟩ : ∃ k, s.kind = .child k ∧ (k == n) = true := by
      have hsame : (s.kind == .child n) = true := hlike.kind
      cases hc : s.kind with
      | child k =>
        rw [hc] at hsame
        exact ⟨k, rfl, hsame⟩
      | _ =>
        rw [hc] at hsame
        cases hsame
    have hconstraints : s.constraints = [] := by
      have hsame : (s.constraints == []) = true := hlike.constraints
      simpa using hsame
    have hhop : s.hop = ⟨false, .name k⟩ := by
      rw [Selector.hop, Selector.test, hkind, hconstraints]
      rfl
    have hspells : declared.Spells (some id) (childChain (above ++ [k])) := by
      rw [childChain_concat, ← hhop]
      exact .step hid (hparent ▸ hs.mono hg)
    obtain ⟨reached, later, spelled, hwalk, hm, hgrows, hworkspace, hreached, hsame⟩ := ih hd hspells
    refine ⟨reached, later, k :: spelled, hwalk, hm, hg.trans hgrows, hworkspace.trans hw, ?_, ?_⟩
    · rwa [List.append_assoc] at hreached
    · rw [List.cons_beq_cons, hk, hsame]
      rfl

/-- What every step of a path of named children keeps is kept by compiling the path. -/
theorem stateOf_invariant (h : b.Memoized) {P : Graph (HandlerRef B) → Prop} {path : List Name}
    (hs : b.Spells cursor (childChain path)) (start : P b.graph)
    (step : ∀ (g : Graph (HandlerRef B)) s front n, front ++ [n] <+: path →
      g.reach? b.root (childChain front) = some s → P g → P (g.extend s ⟨false, .name n⟩).2) :
    P (b.stateOf cursor).2.graph := by
  generalize hc : childChain path = chain at hs
  induction hs generalizing path with
  | root =>
    rw [stateOf_none]
    exact start
  | @step id s chain hid habove ih =>
    rcases path.eq_nil_or_concat' with rfl | ⟨front, n, rfl⟩
    · exact absurd hc (by simp [childChain])
    rw [childChain_concat] at hc
    obtain ⟨rfl, hlast⟩ := List.append_inj' hc rfl
    have hup := ih (fun g s before k hk => step g s before k (hk.trans (List.prefix_append _ _))) rfl
    obtain ⟨hm, hg, hx⟩ := h.stateOf (knows_of_spells habove)
    have hreach := hm.reach? (habove.mono hg) hx
    rw [h.stateOf_eq hid]
    rw [hg.root] at hreach
    generalize b.stateOf s.parent = reached at hup hm hg hreach ⊢
    obtain ⟨s', hid', -, hkind, hconstraints, -⟩ := hg.selector hid
    have hhop : s'.hop = ⟨false, .name n⟩ := by
      rw [List.singleton_inj.1 hlast, Selector.hop, Selector.test, hkind, hconstraints]
      rfl
    rw [compile_of_unlimited hid' (hm.unlimited _ s' hid'), hhop]
    exact step _ _ front n List.prefix_rfl hreach hup

/-- Compiling a path of named children makes steps of named children only. -/
theorem free_stateOf (h : b.Memoized) (hf : b.graph.Free) {path : List Name}
    (hs : b.Spells cursor (childChain path)) : (b.stateOf cursor).2.graph.Free :=
  h.stateOf_invariant hs hf fun _ _ _ n _ _ hg => hg.addTransition _ n

end Memoized

/-! ### Attaching handlers to paths -/

/-- The attachment of a handler to the state of its path. -/
structure Registers (g : Graph (HandlerRef B)) (entry : List Name × B) (a : Attachment B) :
    Prop where
  behaviour : a.handler.behaviour = entry.2
  reach : ∃ path, (path == entry.1) = true ∧ g.reach? .root (childChain path) = some a.state

theorem Registers.mono {g later : Graph (HandlerRef B)} (hg : g.Extends later)
    {entry : List Name × B} {a : Attachment B} (h : Registers g entry a) :
    Registers later entry a := by
  obtain ⟨path, hpath, hreach⟩ := h.reach
  exact ⟨h.behaviour, path, hpath, Graph.reach?_of_extends hg hreach⟩

/-- A scope in which handlers were attached to paths, in this order. -/
structure Registered (entries : List (List Name × B)) (b : Builder B) : Prop where
  memoized : b.Memoized
  root : b.root = .root
  free : b.graph.Free
  inOrder : b.workspace.InOrder
  observers : b.workspace.observers = #[]
  attachments : List.Forall₂ (Registers b.graph) entries b.workspace.attachments.toList

theorem registered_ofModel (n : Nat) : (ofModel n : Builder B).Registered [] where
  memoized := .of_empty (fit_ofModel n (Nat.zero_le 1)) rfl
  root := rfl
  free := Graph.free_initial
  inOrder s := by
    show ((Graph.initial : Graph (HandlerRef B)).state s).handlers = _
    rw [Graph.state_initial]
    rfl
  observers := rfl
  attachments := .nil

/-- Attaching a handler to the cursor that steps lead to. -/
theorem perform_attach {later : Builder B} {steps : List Step}
    (hw : b.walk none steps = (.ok cursor, later)) (x : B) :
    (b.perform { statement := .select none steps [.attach x] }).2 =
      ((later.freshCopy x).2.stateOf cursor).2.attach
        ((later.freshCopy x).2.stateOf cursor).1 ⟨x, some later.workspace.copies⟩ :=
  perform_of_walk hw [.attach x]

variable {entries : List (List Name × B)} {path : List Name}

namespace Registered

/-- Selectors and bookmarks may change. -/
theorem of_workspace (h : b.Registered entries) {later : Builder B} (hm : later.Memoized)
    (hr : later.root = b.root) (hw : later.workspace = b.workspace) : later.Registered entries where
  memoized := hm
  root := hr.trans h.root
  free := by
    rw [graph, hw]
    exact h.free
  inOrder := by
    rw [hw]
    exact h.inOrder
  observers := by
    rw [hw]
    exact h.observers
  attachments := by
    rw [graph, hw]
    exact h.attachments

theorem freshCopy (h : b.Registered entries) (x : B) : (b.freshCopy x).2.Registered entries := by
  have hk : b.Becomes 0 [] (b.freshCopy x).2 :=
    h.memoized.fit.becomes_of_same rfl rfl rfl rfl rfl rfl h.memoized.fit.selectors
  exact ⟨h.memoized.of_fit hk.fit hk.graph rfl rfl, h.root, h.free, h.inOrder, h.observers,
    h.attachments⟩

theorem stateOf (h : b.Registered entries) (hs : b.Spells cursor (childChain path)) :
    (b.stateOf cursor).2.Registered entries := by
  have hfit := h.memoized.fit
  obtain ⟨hm, hg, -⟩ := h.memoized.stateOf (knows_of_spells hs)
  have hattaches : Attaches (fun _ => True) b (b.stateOf cursor).2 := hfit.attaches_stateOf cursor
  have hobservers := (hfit.becomes_stateOf cursor).1.observers
  refine ⟨hm, hg.root.trans h.root, h.memoized.free_stateOf h.free hs,
    hattaches.inOrder h.inOrder, ?_, ?_⟩
  · rw [h.observers] at hobservers
    exact Array.toList_inj.1 hobservers
  · rw [attachments_stateOf]
    exact h.attachments.imp fun _ _ hr => hr.mono hg.graph

end Registered

/-- A scope with handlers on paths, and the cursor of a path. -/
structure AtPath (entries : List (List Name × B)) (path : List Name) (cursor : Option SelectorId)
    (b : Builder B) : Prop where
  registered : b.Registered entries
  spells : ∃ spelled, b.Spells cursor (childChain spelled) ∧ (spelled == path) = true

/-- The steps of a path lead to its cursor, and change selectors only. -/
theorem Registered.walk (h : b.Registered entries) (path : List Name) :
    ∃ cursor walked, b.walk none (pathSteps path) = (.ok cursor, walked) ∧
      walked.AtPath entries path cursor ∧ walked.workspace = b.workspace := by
  have hroot : b.Spells none (childChain []) := .root
  obtain ⟨cursor, walked, spelled, hwalk, hm, hg, hw, hspells, hsame⟩ :=
    h.memoized.walk_pathSteps hroot path
  rw [List.nil_append] at hspells
  exact ⟨cursor, walked, hwalk, ⟨h.of_workspace hm hg.root hw, spelled, hspells, hsame⟩, hw⟩

namespace AtPath

variable (h : b.AtPath entries path cursor)
include h

theorem freshCopy (x : B) : (b.freshCopy x).2.AtPath entries path cursor := by
  obtain ⟨spelled, hspells, hsame⟩ := h.spells
  have hgrows : b.Grows (b.freshCopy x).2 := .of_same (.refl _) rfl rfl
  exact ⟨h.registered.freshCopy x, spelled, hspells.mono hgrows, hsame⟩

/-- The cursor is compiled. -/
theorem stateOf : (b.stateOf cursor).2.AtPath entries path cursor ∧ b.Grows (b.stateOf cursor).2 ∧
    (b.stateOf cursor).2.compiled? cursor = some (b.stateOf cursor).1 := by
  obtain ⟨spelled, hspells, hsame⟩ := h.spells
  obtain ⟨-, hgrows, hx⟩ := h.registered.memoized.stateOf (knows_of_spells hspells)
  exact ⟨⟨h.registered.stateOf hspells, spelled, hspells.mono hgrows, hsame⟩, hgrows, hx⟩

/-- The path leads to the state of its cursor. -/
theorem reach? {x : StateId} (hx : b.compiled? cursor = some x) :
    b.graph.reach? .root (childChain path) = some x := by
  obtain ⟨spelled, hspells, hsame⟩ := h.spells
  have hreach := h.registered.memoized.reach? hspells hx
  rw [h.registered.root] at hreach
  rwa [← Graph.reach?_congr _ _ (same_childChain_iff.2 hsame)]

/-- A handler that is attached to the cursor is the next one. -/
theorem attach {s : StateId} (hx : b.compiled? cursor = some s) (x : B) (copy : Option Nat) :
    (b.attach s ⟨x, copy⟩).Registered (entries ++ [(path, x)]) := by
  have hacts := h.registered.memoized.acts_attach hx ⟨x, copy⟩
  have hattaches : Attaches (fun _ => True) b (b.attach s ⟨x, copy⟩) :=
    attaches_attach (h.registered.memoized.within hx).2 trivial
  have hg := hacts.grows.graph
  refine ⟨hacts.memoized, h.registered.root, h.registered.free.attach s _,
    hattaches.inOrder h.registered.inOrder, h.registered.observers, ?_⟩
  show List.Forall₂ _ _ (b.workspace.attachments.push ⟨s, ⟨x, copy⟩⟩).toList
  rw [Array.toList_push]
  refine List.rel_append (h.registered.attachments.imp fun _ _ hr => hr.mono hg) (.cons ?_ .nil)
  exact ⟨rfl, path, BEq.rfl, Graph.reach?_of_extends hg (h.reach? hx)⟩

end AtPath

/-- A declared handler is attached to the state of its path, behind all others. -/
theorem Registered.perform (h : b.Registered entries) (entry : List Name × B) :
    (b.perform (pathDeclaration entry)).2.Registered (entries ++ [entry]) := by
  obtain ⟨path, x⟩ := entry
  obtain ⟨cursor, walked, hwalk, hat, -⟩ := h.walk path
  obtain ⟨hstate, -, hx⟩ := (hat.freshCopy x).stateOf
  rw [pathDeclaration, perform_attach hwalk]
  exact hstate.attach hx x _

theorem Registers.behaviours {g : Graph (HandlerRef B)} {entries : List (List Name × B)}
    {attachments : List (Attachment B)} (h : List.Forall₂ (Registers g) entries attachments) :
    attachments.map (·.handler.behaviour) = entries.map (·.2) := by
  induction h with
  | nil => rfl
  | cons hr _ ih => rw [List.map_cons, List.map_cons, ih, hr.behaviour]

/-- Where one handler was attached it is to the state of its path. -/
theorem Registered.single {x : B} (h : b.Registered [(path, x)]) :
    ∃ s copy, b.workspace.attachments = #[⟨s, ⟨x, copy⟩⟩] ∧
      b.graph.reach? .root (childChain path) = some s := by
  obtain ⟨a, rest, ha, hrest, hall⟩ := List.forall₂_cons_left_iff.1 h.attachments
  obtain rfl : rest = [] := List.forall₂_nil_left_iff.1 hrest
  obtain ⟨spelled, hspelled, hreach⟩ := ha.reach
  obtain ⟨state, behaviour, copy⟩ := a
  obtain rfl : behaviour = x := ha.behaviour
  rw [Graph.reach?_congr _ _ (same_childChain_iff.2 hspelled)] at hreach
  exact ⟨state, copy, Array.toList_inj.1 hall, hreach⟩

theorem Registered.performEach (h : b.Registered entries) (more : List (List Name × B)) :
    (b.performEach (more.map pathDeclaration)).2.Registered (entries ++ more) := by
  induction more generalizing b entries with
  | nil => rwa [List.append_nil]
  | cons entry more ih =>
    rw [List.append_cons]
    exact ih (h.perform entry)

end Builder
end StreamSelect
