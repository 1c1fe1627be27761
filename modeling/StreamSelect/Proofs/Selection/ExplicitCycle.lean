import Mathlib.Computability.Primrec.List
import StreamSelect.Proofs.Building.Change
import StreamSelect.Proofs.Selection.Cycle
import StreamSelect.Proofs.Selection.SoleHandler

-- `Primrec.List` has the equations of `List.lookup` that `cbv` evaluates the example below with.

/-! Explicit cycles are exact. A handler is attached to a path of names, and a transition leads from
a longer path back to it. Whichever is declared first, the handler is called for the elements whose
names go along the path and then round the cycle, and for no others. -/
namespace StreamSelect

variable {B : Type}

/-- Keeps the attach point of a path. -/
def markDeclaration (path : List Name) (key : String) : Declaration B :=
  { statement := .select none (pathSteps path) [.mark key] }

/-- Leads children with a name below a path to a kept attach point. -/
def linkDeclaration (path : List Name) (n : Name) (key : String) : Declaration B :=
  { statement := .select none (pathSteps path) [.link (.name n) key] }

/-- Properties of automata that the steps of a path keep, and handlers. -/
structure KeptAlong (path : List Name) (P : Graph (HandlerRef B) → Prop) : Prop where
  step : ∀ {g s front n rest}, (front ++ n :: rest == path) = true →
    g.reach? .root (childChain front) = some s → P g → P (g.extend s ⟨false, .name n⟩).2
  attach : ∀ {g} s handler, P g → P (g.attach s handler)

theorem keptAlong_stem {path : List Name} {length : Nat} (hl : path.length ≤ length) :
    KeptAlong path fun g : Graph (HandlerRef B) => g.Stem length where
  step {g s front n rest} hp hs h := by
    have hlen := congrArg List.length (names_beq_iff.1 hp)
    simp only [List.length_map, List.length_append, List.length_cons] at hlen
    exact h.extend hs (by omega) n
  attach s handler h := h.attach s handler

/-- The path of a cycle is there, so that its steps change nothing. -/
theorem keptAlong_cycle {path round : List Name} {n : Name} {x : StateId} :
    KeptAlong path fun g : Graph (HandlerRef B) => g.Cycle path round n x where
  step {g s front k rest} hp hs h := by
    have hx : g.reach? .root (childChain (front ++ k :: rest)) = some x := by
      refine (h.reach_iff _).2 ⟨0, ?_⟩
      rwa [cyclePath_zero]
    rw [g.reach?_childChain_append hs] at hx
    obtain ⟨u, hu, -⟩ := Option.bind_eq_some_iff.1 hx
    have hfound : Transition.targetOf? (g.state s).transitions (.name k) = some u := hu
    have hsame : g.extend s ⟨false, .name k⟩ = (u, g) := by
      show g.addTransition s (.name k) = _
      rw [Graph.addTransition, hfound]
    rw [hsame]
    exact h
  attach s handler h := h.attach s handler

namespace Builder

variable {b : Builder B} {entries : List (List Name × B)} {path : List Name}
  {cursor : Option SelectorId} {P : Graph (HandlerRef B) → Prop}

/-- Compiling the cursor of a path takes its steps. -/
theorem AtPath.kept (h : b.AtPath entries path cursor) (hk : KeptAlong path P) (hP : P b.graph) :
    P (b.stateOf cursor).2.graph := by
  obtain ⟨spelled, hspells, hsame⟩ := h.spells
  refine h.registered.memoized.stateOf_invariant hspells hP fun g s front n hf hs hg => ?_
  obtain ⟨rest, rfl⟩ := hf
  rw [h.registered.root] at hs
  rw [List.append_assoc] at hsame
  exact hk.step hsame hs hg

/-- A key stands for the attach point of a path. -/
def Marks (b : Builder B) (key : String) (path : List Name) : Prop :=
  ∃ x, b.landmark? key = some ⟨b.workspace.model, x⟩ ∧
    b.graph.reach? .root (childChain path) = some x

theorem Marks.mono {key : String} (h : b.Marks key path) {later : Builder B}
    (hl : later.workspace.landmarks = b.workspace.landmarks)
    (hm : later.workspace.model = b.workspace.model) (hg : b.graph.Extends later.graph) :
    later.Marks key path := by
  obtain ⟨x, hkey, hreach⟩ := h
  refine ⟨x, ?_, Graph.reach?_of_extends hg hreach⟩
  rw [landmark?, hl, hm]
  exact hkey

/-- Selectors do not matter. -/
theorem Marks.of_workspace {key : String} (h : b.Marks key path) {later : Builder B}
    (hw : later.workspace = b.workspace) : later.Marks key path := by
  unfold Marks landmark? graph at h ⊢
  rwa [hw]

/-- Compiling a cursor keeps the points that are marked. -/
theorem Marks.stateOf {key : String} {marked : List Name} (h : b.AtPath entries path cursor)
    (hm : b.Marks key marked) : (b.stateOf cursor).2.Marks key marked := by
  obtain ⟨graph, records, hw⟩ := b.workspace_stateOf cursor
  exact hm.mono (by rw [hw]) (by rw [hw]) h.stateOf.2.1.graph

namespace Registered

variable (h : b.Registered entries)
include h

/-- Attaching a handler to a path keeps what its steps keep, and all marks. -/
theorem kept_perform (x : B) (hk : KeptAlong path P) (hP : P b.graph) :
    P (b.perform (pathDeclaration (path, x))).2.graph ∧ ∀ key marked, b.Marks key marked →
      (b.perform (pathDeclaration (path, x))).2.Marks key marked := by
  obtain ⟨cursor, walked, hwalk, hat, hw⟩ := h.walk path
  have hcopied := hat.freshCopy x
  rw [pathDeclaration, perform_attach hwalk]
  refine ⟨hk.attach _ _ (hcopied.kept hk ?_), fun key marked hm => ?_⟩
  · show P walked.workspace.graph
    rw [hw]
    exact hP
  · have hmarked : (walked.freshCopy x).2.Marks key marked :=
      (hm.of_workspace hw).mono rfl rfl (.refl _)
    exact (hmarked.stateOf hcopied).mono rfl rfl (.attach _ _ _)

theorem mark (key : String) (point : AttachPoint) : (b.mark key point).Registered entries := by
  have hk : b.Becomes 0 [] (b.mark key point) :=
    h.memoized.fit.becomes_mark key fun _ => Nat.zero_le _
  exact ⟨h.memoized.of_fit hk.fit hk.graph rfl rfl, h.root, h.free, h.inOrder, h.observers,
    h.attachments⟩

/-- A path that is marked has its state. -/
theorem perform_mark (key : String) (hk : KeptAlong path P) (hP : P b.graph) :
    (b.perform (markDeclaration path key)).2.Registered entries ∧
      P (b.perform (markDeclaration path key)).2.graph ∧
      (b.perform (markDeclaration path key)).2.Marks key path := by
  obtain ⟨cursor, walked, hwalk, hat, hw⟩ := h.walk path
  have hperform : (b.perform (markDeclaration path key)).2 =
      (walked.stateOf cursor).2.mark key
        ((walked.stateOf cursor).2.attachPoint (walked.stateOf cursor).1) :=
    perform_of_walk hwalk [.mark key]
  obtain ⟨hstate, -, hx⟩ := hat.stateOf
  rw [hperform]
  refine ⟨hstate.registered.mark key _, hat.kept hk ?_, _, ?_, hstate.reach? hx⟩
  · rw [graph, hw]
    exact hP
  · exact List.lookup_cons_self

/-- An explicit transition for a name. -/
theorem link {x : StateId} (hx : b.compiled? cursor = some x) {n : Name} {target : AttachPoint}
    {later : Builder B} (hl : b.link x (.name n) target = .ok later) : later.Registered entries := by
  have hext : b.graph.Extends (b.graph.link x (.name n) target.state).2 := .link _ _ _ _
  have hacts : b.Acts cursor later := h.memoized.acts_link (h.memoized.within hx) hl
  obtain ⟨records, rfl⟩ := link_eq hl
  exact ⟨hacts.memoized, h.root, h.free.link x n target.state,
    fun t => (b.graph.handlers_link x _ _ t).trans (h.inOrder t), h.observers,
    h.attachments.imp fun _ _ hr => hr.mono hext⟩

/-- A transition from the end of a longest path to a marked point on it makes a cycle. -/
theorem perform_link {round : List Name} {n : Name} {key : String} (hm : b.Marks key path)
    (hg : b.graph.Stem (path ++ round).length) :
    (b.perform (linkDeclaration (path ++ round) n key)).2.Registered entries ∧
      ∃ s, (b.perform (linkDeclaration (path ++ round) n key)).2.graph.Cycle path round n s := by
  obtain ⟨cursor, walked, hwalk, hat, hw⟩ := h.walk (path ++ round)
  obtain ⟨target, hkey, htarget⟩ := hm.of_workspace hw
  obtain ⟨hstate, hgrows, hx⟩ := hat.stateOf
  have hpoint := Graph.reach?_of_extends hgrows.graph htarget
  have hstem : (walked.stateOf cursor).2.graph.Stem (path ++ round).length := by
    refine hat.kept (keptAlong_stem (Nat.le_refl _)) ?_
    rw [graph, hw]
    exact hg
  obtain ⟨graph, records, hstays⟩ := walked.workspace_stateOf cursor
  have hown : walked.workspace.model = (walked.stateOf cursor).2.workspace.model ∧
      (walked.stateOf cursor).2.graph.contains target = true :=
    ⟨by rw [hstays], (hstem.usable hpoint).2⟩
  obtain ⟨linked, hlinked⟩ :=
    link_of_own (x := (walked.stateOf cursor).1) (t := .name n)
      (p := ⟨walked.workspace.model, target⟩) hown
  have hperform : (b.perform (linkDeclaration (path ++ round) n key)).2 =
      { (walked.stateOf cursor).2 with workspace := { (walked.stateOf cursor).2.workspace with
        graph := ((walked.stateOf cursor).2.graph.link (walked.stateOf cursor).1 (.name n) target).2
        records := linked } } := by
    rw [linkDeclaration, perform_of_walk hwalk]
    simp only [actAll, act, hkey, hlinked]
  rw [hperform]
  exact ⟨hstate.registered.link hx hlinked, target,
    Graph.cycle_link hstem hpoint (hstate.reach? hx)⟩

end Registered
end Builder

/-! ### Models of one cycle -/

/-- A handler at a path, and a transition from a longer path back to it. The point that the
transition leads to is marked before; the handler is attached before, between or after the two. -/
def cycleDeclarations (path round : List Name) (n : Name) (key : String) (b : B) (position : Fin 3) :
    List (Declaration B) :=
  [markDeclaration path key, linkDeclaration (path ++ round) n key].insertIdx position
    (pathDeclaration (path, b))

/-- The scope of a model whose only declarations they are. -/
def cycleBuilder (model : Nat) (path round : List Name) (n : Name) (key : String) (b : B)
    (position : Fin 3) : Builder B :=
  ((Builder.ofModel model).performEach (cycleDeclarations path round n key b position)).2

/-- Whether the names from the document element down to an element go along a path and then a number
of times round a cycle. -/
def onCycle (path round : List Name) (n : Name) (around : List StartElement) (e : StartElement) :
    Bool :=
  (List.range (around.length + 2)).any fun times =>
    namePath (e :: around) == cyclePath path round n times

theorem onCycle_iff {path round : List Name} {n : Name} {around : List StartElement}
    {e : StartElement} : onCycle path round n around e = true ↔
      ∃ times, (namePath (e :: around) == cyclePath path round n times) = true := by
  rw [onCycle, List.any_eq_true]
  refine ⟨fun ⟨times, _, hnames⟩ => ⟨times, hnames⟩, fun ⟨times, hnames⟩ => ⟨times, ?_, hnames⟩⟩
  -- every round takes at least one name
  have hlength : ∀ k, k ≤ (cyclePath path round n k).length := by
    intro k
    induction k with
    | zero => exact Nat.zero_le _
    | succ k ih =>
      rw [cyclePath_succ, List.length_append, List.length_append, List.length_singleton]
      omega
  have hsame := congrArg List.length (names_beq_iff.1 hnames)
  simp only [namePath, List.length_map, List.length_reverse, List.length_cons] at hsame
  have hle := hlength times
  rw [List.mem_range]
  omega

section

variable (model : Nat) (path round : List Name) (n : Name) (key : String) (b : B)

/-- In every order the declarations make the cycle and attach the handler to the path. -/
theorem cycle_cycleBuilder (position : Fin 3) :
    (cycleBuilder model path round n key b position).Registered [(path, b)] ∧
      ∃ s, (cycleBuilder model path round n key b position).graph.Cycle path round n s := by
  have hempty : (Builder.ofModel model : Builder B).Registered [] := Builder.registered_ofModel model
  have hstart : (Builder.ofModel model : Builder B).graph.Stem (path ++ round).length :=
    Graph.stem_initial _
  have hshort : path.length ≤ (path ++ round).length := by
    rw [List.length_append]
    exact Nat.le_add_right _ _
  have hstem : KeptAlong path fun g : Graph (HandlerRef B) => g.Stem (path ++ round).length :=
    keptAlong_stem hshort
  match position with
  | 0 =>
    have hattached := hempty.perform (path, b)
    obtain ⟨hgraph, -⟩ := hempty.kept_perform b hstem hstart
    obtain ⟨hmarked, hlong, hmarks⟩ := hattached.perform_mark key hstem hgraph
    exact hmarked.perform_link hmarks hlong
  | 1 =>
    obtain ⟨hmarked, hgraph, hmarks⟩ := hempty.perform_mark key hstem hstart
    have hattached := hmarked.perform (path, b)
    obtain ⟨hlong, hkeeps⟩ := hmarked.kept_perform b hstem hgraph
    exact hattached.perform_link (hkeeps key path hmarks) hlong
  | 2 =>
    obtain ⟨hmarked, hgraph, hmarks⟩ := hempty.perform_mark key hstem hstart
    obtain ⟨hlinked, s, hcycle⟩ := hmarked.perform_link (n := n) hmarks hgraph
    exact ⟨hlinked.perform (path, b), s, (hlinked.kept_perform b keptAlong_cycle hcycle).1⟩

theorem sole_cycleBuilder (position : Fin 3) :
    ∃ s, (cycleBuilder model path round n key b position).Sole s b ∧
      (cycleBuilder model path round n key b position).graph.Cycle path round n s := by
  obtain ⟨hregistered, s, hcycle⟩ := cycle_cycleBuilder model path round n key b position
  generalize cycleBuilder model path round n key b position = top at *
  obtain ⟨x, copy, hattachments, hreach⟩ := hregistered.single
  have hs : top.graph.reach? .root (childChain path) = some s := by
    refine (hcycle.reach_iff _).2 ⟨0, ?_⟩
    rw [cyclePath_zero]
    exact BEq.rfl
  obtain rfl : x = s := Option.some.inj (hreach.symm.trans hs)
  exact ⟨x, ⟨hregistered.memoized.fit, hregistered.inOrder, ⟨copy, hattachments⟩,
    hregistered.free.limit⟩, hcycle⟩

/-- A handler at a path to which a transition leads back is called for the elements that are reached
along the path and any number of rounds, and for no others. -/
theorem exact_cycles [DecidableEq B] (position : Fin 3) {declared : B → Nat → List (Declaration B)}
    (hd : ∀ k, declared b k = []) (settings : BuildSettings) :
    (cycleBuilder model path round n key b position).CalledWhere
      (fun _ => onCycle path round n) b declared settings := by
  obtain ⟨s, hsole, hcycle⟩ := sole_cycleBuilder model path round n key b position
  refine hsole.calledWhere hd settings fun m hgraph hroot f outer he => ?_
  have hstate := Machine.innermost_eq_iff_reach? (hgraph ▸ hcycle.children) hroot he hcycle.ne_sink
  rw [hgraph] at hstate
  rw [onCycle_iff, ← hcycle.reach_iff]
  exact hstate

end

/-! Parts that hold chapters, which hold parts again. -/

def partBuilder : Builder Unit :=
  cycleBuilder 0 [.plain "part"] [.plain "chapter"] (.plain "part") "part" () 2

def partMachine : Machine Unit Unit where
  model := ⟨(partBuilder.construct (fun _ _ => []) {}).workspace.graph, .root, []⟩
  behaviours := ⟨fun _ => {}, fun _ => {}⟩
  filters := ⟨fun _ _ => false, fun _ _ _ => false⟩

def numberedPart (number : String) : StartElement :=
  ⟨.plain "part", ⟨[(.plain "number", number)]⟩, none⟩

/-- A part in a chapter of a part, with a part right in it and one in a note. -/
def partEvents : List Event :=
  [.startElement (numberedPart "1"), .startElement (.ofName (.plain "chapter")),
    .startElement (numberedPart "2"), .startElement (numberedPart "3"),
    .endElement ⟨.plain "part", none⟩, .startElement (.ofName (.plain "note")),
    .startElement (numberedPart "4")]

/-- The part in a part and the one in a note are on no round. -/
theorem exact_parts :
    openings (partMachine.recorded.play partEvents {} ((), [])).data.2 =
      [((), numberedPart "1"), ((), numberedPart "2")] := by
  have hd : ∀ _ : Nat, ([] : List (Declaration Unit)) = [] := fun _ => rfl
  have hexact : partBuilder.CalledWhere
      (fun _ => onCycle [.plain "part"] [.plain "chapter"] (.plain "part")) () (fun _ _ => []) {} :=
    exact_cycles 0 [.plain "part"] [.plain "chapter"] (.plain "part") "part" () 2 hd {}
  have hm : (partBuilder.construct (fun _ _ => []) {}).model = .ok partMachine.model := by cbv
  have herror : (partMachine.recorded.play partEvents {} ((), [])).error = none := by cbv
  obtain ⟨-, hall⟩ := hexact.openings partMachine hm partEvents ()
  exact (hall herror).trans rfl

end StreamSelect
