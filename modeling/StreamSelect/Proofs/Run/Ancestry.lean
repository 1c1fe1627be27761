import StreamSelect.Proofs.Run.Play
import StreamSelect.Proofs.Run.Step

/-! Scopes and ancestors. A run keeps in each frame the states whose rules hold there and does not
repeat a state that is entered again right below itself. The state an element enters is all the same
the one that the full list of its ancestors' states gives. -/
namespace StreamSelect

/-- An open element and the state it entered. -/
structure Ancestor where
  state : StateId
  element : StartElement

def Frame.ancestor (f : Frame) : Ancestor := ⟨f.state, f.element⟩

namespace Run

variable {D : Type}

/-- The open elements, innermost first. -/
def ancestors (r : Run) : List Ancestor := r.frames.map Frame.ancestor

theorem frames_settle {next stopped : Run} (h : stopped.frames = next.frames)
    (reaction : Reaction D) (notes : List Note) :
    (settle next stopped reaction notes).run.frames = next.frames :=
  run_settle (f := Run.frames) (fun _ => rfl) h reaction notes

end Run

/-- The target of the first edge whose test an element passes. -/
def Transition.passed? (fs : Filters) (e : StartElement) : List Transition → Option StateId
  | [] => none
  | edge :: edges => if edge.test.holds fs e then some edge.target else passed? fs e edges

/-- The state that other states leave to an element below them: each in its turn offers its rules in
their order and then its fallback; where none of them takes the element, the sink does. -/
def Model.inherited {B : Type} (model : Model B) (fs : Filters) (e : StartElement) :
    List StateId → StateId
  | [] => .sink
  | s :: states =>
    match Transition.passed? fs e (model.state s).rules, (model.state s).fallback with
    | some target, _ => target
    | none, some fallback => fallback
    | none, none => model.inherited fs e states

theorem Transition.passed?_eq_follow (fs : Filters) (e : StartElement) (edges : List Transition) :
    passed? fs e edges = follow fs e edges := by
  induction edges with
  | nil => rfl
  | cons edge edges ih =>
    rw [passed?, ih, follow, follow, List.find?_cons]
    by_cases h : edge.test.holds fs e = true
    · simp [h]
    · simp [Bool.eq_false_iff.2 h]

theorem Model.inherited_eq {B : Type} (model : Model B) (fs : Filters) (e : StartElement)
    (states : List StateId) :
    model.inherited fs e states =
      (states.findSome? fun s => (model.state s).followRules fs e).getD .sink := by
  induction states with
  | nil => rfl
  | cons s states ih =>
    rw [inherited, Transition.passed?_eq_follow, List.findSome?_cons, State.followRules]
    cases Transition.follow fs e (model.state s).rules with
    | some target => rfl
    | none =>
      cases (model.state s).fallback with
      | some fallback => rfl
      | none => exact ih

namespace Machine

variable {B D : Type}

/-- The state of the innermost ancestor, or the root. -/
def innermost (m : Machine B D) (above : List Ancestor) : StateId :=
  (above.head?.map (·.state)).getD m.model.root

/-- The states of the ancestors, innermost first, and the root. -/
def statesAbove (m : Machine B D) (above : List Ancestor) : List StateId :=
  above.map (·.state) ++ [m.model.root]

/-- Those that declare rules, each as often as it was entered. -/
def ruleSources (m : Machine B D) (above : List Ancestor) : List StateId :=
  (m.statesAbove above).filter fun s => (m.state s).declaresRules

/-- The state an element enters below its ancestors: by a transition of the state around it, or else
the one it inherits from their states. -/
def entry (m : Machine B D) (above : List Ancestor) (e : StartElement) : StateId :=
  match Transition.passed? m.filters e (m.state (m.innermost above)).transitions with
  | some target => target
  | none => m.model.inherited m.filters e (m.statesAbove above)

@[simp] theorem ruleSources_cons (m : Machine B D) (a : Ancestor) (above : List Ancestor) :
    m.ruleSources (a :: above) =
      if (m.state a.state).declaresRules then a.state :: m.ruleSources above
      else m.ruleSources above := by
  simp [ruleSources, statesAbove, List.filter_cons]

/-- States without rules give nothing, so they may stay in the list. -/
theorem findSome?_ruleSources (m : Machine B D) (above : List Ancestor) (e : StartElement) :
    (m.ruleSources above).findSome? (fun s => (m.state s).followRules m.filters e) =
      (m.statesAbove above).findSome? fun s => (m.state s).followRules m.filters e := by
  unfold ruleSources
  induction m.statesAbove above with
  | nil => rfl
  | cons s states ih =>
    by_cases hs : (m.state s).declaresRules = true
    · simp only [List.filter_cons, hs, ↓reduceIte, List.findSome?_cons, ih]
    · rw [Bool.not_eq_true] at hs
      simp only [List.filter_cons, hs, Bool.false_eq_true, ↓reduceIte, List.findSome?_cons, ih,
        State.followRules_eq_none_of_not_declaresRules hs]

/-- A transition of the state around an element goes first, then the rules of the ancestors. -/
theorem entry_eq (m : Machine B D) (above : List Ancestor) (e : StartElement) :
    m.entry above e = ((m.state (m.innermost above)).follow m.filters e).getD
      (((m.statesAbove above).findSome? fun s =>
        (m.state s).followRules m.filters e).getD .sink) := by
  rw [entry, Transition.passed?_eq_follow, Model.inherited_eq, State.follow]
  cases Transition.follow m.filters e (m.state (m.innermost above)).transitions <;> rfl

/-- The graph resolves an element to that state when all sources of rules are in scope. -/
theorem resolve_ruleSources (m : Machine B D) (above : List Ancestor) (e : StartElement) :
    m.model.graph.resolve m.filters (m.innermost above) (m.ruleSources above) e =
      m.entry above e := by
  rw [entry_eq, ← findSome?_ruleSources, Graph.resolve]
  show _ = ((m.model.graph.state (m.innermost above)).follow m.filters e).getD _
  cases (m.model.graph.state (m.innermost above)).follow m.filters e <;> rfl

/-! ### Scopes of a run -/

/-- A scope gives whatever the full list of ancestors gives. -/
def Covers (m : Machine B D) (scope : List StateId) (above : List Ancestor) : Prop :=
  ∀ f : StateId → Option StateId, scope.findSome? f = (m.ruleSources above).findSome? f

/-- The scope of every frame covers the frames from there outwards. -/
def Covered (m : Machine B D) : List Frame → Prop
  | [] => True
  | f :: frames => m.Covers f.scope ((f :: frames).map Frame.ancestor) ∧ Covered m frames

theorem covers_rootScope (m : Machine B D) : m.Covers m.rootScope [] := by
  intro f
  unfold rootScope ruleSources statesAbove
  by_cases h : (m.state m.model.root).declaresRules = true <;> simp [h]

theorem covers_scope {m : Machine B D} {r : Run} (h : m.Covered r.frames) :
    m.Covers (m.scope r) r.ancestors := by
  unfold scope Run.ancestors
  cases hr : r.frames with
  | nil => exact m.covers_rootScope
  | cons f frames =>
    rw [hr] at h
    exact h.1

/-- Leaving out a state that already stands in front changes no answer. -/
theorem covers_scopeInside {m : Machine B D} {r : Run} (h : m.Covered r.frames) (s : StateId)
    (e : StartElement) : m.Covers (m.scopeInside r s) (⟨s, e⟩ :: r.ancestors) := by
  intro f
  have hc := covers_scope h f
  unfold scopeInside
  rw [ruleSources_cons]
  by_cases hs : (m.state s).declaresRules = true
  · by_cases hh : (m.scope r).head? = some s
    · obtain ⟨scope, hr⟩ := List.head?_eq_some_iff.1 hh
      rw [hr] at hc
      simp only [hs, hr, List.head?_cons, bne_self_eq_false, Bool.and_false, Bool.false_eq_true,
        ↓reduceIte]
      -- the repeated state answers first in both lists
      rw [List.findSome?_cons, List.findSome?_cons, ← hc, List.findSome?_cons]
      cases f s <;> rfl
    · have hb : ((m.scope r).head? != some s) = true := bne_iff_ne.2 hh
      simp only [hs, hb, Bool.and_self, ↓reduceIte, List.findSome?_cons, hc]
  · rw [Bool.not_eq_true] at hs
    simp only [hs, Bool.false_and, Bool.false_eq_true, ↓reduceIte, hc]

theorem current_eq_innermost (m : Machine B D) (r : Run) :
    m.current r = m.innermost r.ancestors := by
  simp [current, innermost, Run.ancestors, Frame.ancestor, Function.comp_def]

theorem target_eq_entry {m : Machine B D} {r : Run} (h : m.Covered r.frames) (e : StartElement) :
    m.target r e = m.entry r.ancestors e := by
  rw [← resolve_ruleSources, ← current_eq_innermost]
  unfold target Graph.resolve
  rw [covers_scope h]

/-! ### What an event does to the frames -/

theorem frames_of_enter {m : Machine B D} {r entered : Run} {e : StartElement}
    (h : m.enter r e = .ok entered) : entered.frames = m.frame r e :: r.frames :=
  congrArg Run.frames (enter_eq_ok h)

/-- An event opens one frame, closes the innermost one, or leaves the frames as they are. -/
theorem frames_step (m : Machine B D) (r : Run) (event : Event) (d : D) :
    (m.step r event d).run.frames = r.frames ∨
      (∃ e, event = .startElement e ∧ (m.step r event d).run.frames = m.frame r e :: r.frames) ∨
      (∃ e f, event = .endElement e ∧ r.frames = f :: (m.step r event d).run.frames) := by
  cases hp : r.poisoned with
  | true =>
    left
    rw [step_of_poisoned hp]
    rfl
  | false =>
    cases event with
    | startElement e =>
      cases he : m.enter r e with
      | error cause =>
        obtain ⟨notes, hstep⟩ := step_start_of_error hp he d
        left
        rw [hstep]
        rfl
      | ok entered =>
        obtain ⟨notes, hstep⟩ := step_start_of_ok hp he d
        refine .inr (.inl ⟨e, rfl, ?_⟩)
        rw [hstep, Run.frames_settle rfl]
        have hframes := frames_of_enter he
        exact hframes
    | endElement e =>
      have hl : (r.locate e.location).frames = r.frames := rfl
      simp only [step_of_running hp, finish, hl]
      cases hf : r.frames with
      | nil => exact .inl hf
      | cons f frames =>
        refine .inr (.inr ⟨e, f, rfl, ?_⟩)
        dsimp only
        rw [Run.frames_settle]
        rfl
    | characters c =>
      left
      simp only [step_of_running hp, text]
      split
      · rfl
      · exact Run.frames_settle rfl _ _
    | declaration x =>
      left
      simp only [step_of_running hp, declare]
      exact Run.frames_settle rfl _ _

theorem covered_step {m : Machine B D} {r : Run} (h : m.Covered r.frames) (event : Event) (d : D) :
    m.Covered (m.step r event d).run.frames := by
  rcases m.frames_step r event d with hs | ⟨e, -, hs⟩ | ⟨e, f, -, hs⟩
  · rwa [hs]
  · rw [hs]
    exact ⟨covers_scopeInside h _ e, h⟩
  · rw [hs] at h
    exact h.2

theorem covered_play (m : Machine B D) (events : List Event) (d : D) :
    m.Covered (m.play events {} d).run.frames :=
  play_invariant (P := fun r => m.Covered r.frames) (fun _ event d h => covered_step h event d)
    events d trivial

/-- In every run the state an element enters is the one its ancestors give it. -/
theorem target_play (m : Machine B D) (events : List Event) (d : D) (e : StartElement) :
    m.target (m.play events {} d).run e = m.entry (m.play events {} d).run.ancestors e :=
  target_eq_entry (m.covered_play events d) e

/-- Every open element is in the state that its ancestors gave it. -/
def EnteredAll (m : Machine B D) (frames : List Frame) : Prop :=
  ∀ f outer, f :: outer <:+ frames → f.state = m.entry (outer.map Frame.ancestor) f.element

theorem enteredAll_nil (m : Machine B D) : m.EnteredAll [] := by
  intro f outer hf
  cases List.suffix_nil.1 hf

theorem EnteredAll.suffix {m : Machine B D} {frames inner : List Frame} (h : m.EnteredAll frames)
    (hs : inner <:+ frames) : m.EnteredAll inner :=
  fun f outer hf => h f outer (hf.trans hs)

theorem EnteredAll.cons {m : Machine B D} {frames : List Frame} (h : m.EnteredAll frames) {f : Frame}
    (hf : f.state = m.entry (frames.map Frame.ancestor) f.element) : m.EnteredAll (f :: frames) := by
  intro g outer hg
  rcases List.suffix_cons_iff.1 hg with hg | hg
  · obtain ⟨rfl, rfl⟩ := List.cons.inj hg
    exact hf
  · exact h g outer hg

theorem enteredAll_step {m : Machine B D} {r : Run} (hc : m.Covered r.frames)
    (h : m.EnteredAll r.frames) (event : Event) (d : D) :
    m.EnteredAll (m.step r event d).run.frames := by
  rcases m.frames_step r event d with hs | ⟨e, -, hs⟩ | ⟨e, f, -, hs⟩
  · rwa [hs]
  · rw [hs]
    exact h.cons (target_eq_entry hc e)
  · rw [hs] at h
    exact h.suffix (List.suffix_cons f _)

theorem enteredAll_play (m : Machine B D) (events : List Event) (d : D) :
    m.EnteredAll (m.play events {} d).run.frames := by
  have hstart : m.Covered ({} : Run).frames ∧ m.EnteredAll ({} : Run).frames :=
    ⟨trivial, m.enteredAll_nil⟩
  have hstep : ∀ r event d, m.Covered r.frames ∧ m.EnteredAll r.frames →
      m.Covered (m.step r event d).run.frames ∧ m.EnteredAll (m.step r event d).run.frames :=
    fun _ event d ⟨hc, h⟩ => ⟨covered_step hc event d, enteredAll_step hc h event d⟩
  exact (play_invariant (P := fun r => m.Covered r.frames ∧ m.EnteredAll r.frames) hstep events d
    hstart).2

end Machine
end StreamSelect
