import StreamSelect.Proofs.Run.Elements

/-! Machines that serve alike. Two machines may differ in their automata and in how they number
states; if they give every element the same handlers, and limit no state, the same events make the
same calls, on the same data and with the same errors. -/
namespace StreamSelect

variable {B D : Type}

/-- Runs with the same open elements, whatever states these are in. -/
structure Run.Parallel (r r' : Run) : Prop where
  elements : r.elements = r'.elements
  done : r.done = r'.done
  poisoned : r.poisoned = r'.poisoned
  location : r.location = r'.location

namespace Run.Parallel

variable {r r' : Run}

theorem locate (h : r.Parallel r') (l : Option Location) : (r.locate l).Parallel (r'.locate l) :=
  ⟨h.elements, h.done, h.poisoned, congrArg l.or h.location⟩

theorem depth_eq (h : r.Parallel r') : r.depth = r'.depth := by
  have hlength := congrArg List.length h.elements
  unfold Run.elements at hlength
  rw [List.length_map, List.length_map] at hlength
  exact hlength

/-- The runs after an element has opened in both. -/
theorem opened (h : r.Parallel r') {f f' : Frame} (hf : f.element = f'.element) :
    ({ r with frames := f :: r.frames } : Run).Parallel { r' with frames := f' :: r'.frames } := by
  refine ⟨?_, h.done, h.poisoned, h.location⟩
  have helements := h.elements
  unfold Run.elements at helements ⊢
  rw [List.map_cons, List.map_cons, hf, helements]

/-- The runs after the innermost element was left in both. -/
theorem left (h : r.Parallel r') {outer outer' : List Frame}
    (ho : outer.map (·.element) = outer'.map (·.element)) :
    ({ r with frames := outer } : Run).Parallel { r' with frames := outer' } :=
  ⟨ho, h.done, h.poisoned, h.location⟩

theorem closed (h : r.Parallel r') {outer outer' : List Frame}
    (ho : outer.map (·.element) = outer'.map (·.element)) :
    ({ r with frames := outer, done := r.done || outer.isEmpty } : Run).Parallel
      { r' with frames := outer', done := r'.done || outer'.isEmpty } := by
  have hempty : outer.isEmpty = outer'.isEmpty := by
    rw [← List.isEmpty_map, ho, List.isEmpty_map]
  refine ⟨ho, ?_, h.poisoned, h.location⟩
  show (r.done || outer.isEmpty) = (r'.done || outer'.isEmpty)
  rw [h.done, hempty]

end Run.Parallel

/-- Replies alike to whoever does not see the states. -/
structure Reply.Alike (reply reply' : Reply D) : Prop where
  data : reply.data = reply'.data
  error : reply.error = reply'.error
  run : reply.run.Parallel reply'.run

theorem Run.Parallel.fail {r r' : Run} (h : r.Parallel r') (d : D) (cause : Cause)
    (notes notes' : List Note) : (r.fail d cause notes).Alike (r'.fail d cause notes') :=
  ⟨rfl, by rw [Run.fail, Run.fail, h.location], ⟨h.elements, h.done, rfl, h.location⟩⟩

theorem Run.Parallel.settle {next next' stopped stopped' : Run} (h : next.Parallel next')
    (hs : stopped.Parallel stopped') (reaction : Reaction D) (notes notes' : List Note) :
    (Run.settle next stopped reaction notes).Alike (Run.settle next' stopped' reaction notes') := by
  unfold Run.settle
  cases reaction.failure with
  | none => exact ⟨rfl, rfl, h⟩
  | some message => exact hs.fail _ _ _ _

namespace Machine

/-- Machines of one set of handlers, which both give to elements as `who` says. -/
structure Twins (m m' : Machine B D) (who : List StartElement → List B) : Prop where
  behaviours : m.behaviours = m'.behaviours
  settings : m.settings = m'.settings
  observers : m.model.observers = m'.model.observers
  serves : m.Serves (fun _ => true) who
  serves' : m'.Serves (fun _ => true) who
  limit : ∀ s, (m.state s).limit = none
  limit' : ∀ s, (m'.state s).limit = none

theorem Serves.audience_eq {m : Machine B D} {who : List StartElement → List B}
    (h : m.Serves (fun _ => true) who) {f : Frame} {outer : List Frame}
    (he : m.EnteredAll (f :: outer)) : m.audience f.state = who ((f :: outer).map (·.element)) := by
  rw [← h f outer he]
  exact (List.filter_eq_self.2 fun _ _ => rfl).symm

namespace Twins

variable {m m' : Machine B D} {who : List StartElement → List B} {r r' : Run}

theorem tell_eq (h : Twins m m' who) (o : Occasion) (audience : List B) (d : D) :
    m.tell o audience d = m'.tell o audience d := by
  rw [tell, tell, h.behaviours]

theorem refusal?_eq (h : Twins m m' who) (hr : r.Parallel r') (e : StartElement) :
    m.refusal? r e = m'.refusal? r' e := by
  unfold refusal?
  rw [h.settings, hr.done, hr.depth_eq]

/-- What is known of a run of a machine that serves handlers by the elements alone. -/
def Steady (m : Machine B D) (r : Run) : Prop := m.Covered r.frames ∧ m.EnteredAll r.frames

theorem steady_step (h : Steady m r) (event : Event) (d : D) : Steady m (m.step r event d).run :=
  ⟨covered_step h.1 event d, enteredAll_step h.1 h.2 event d⟩

theorem alike_start (h : Twins m m' who) (hr : r.Parallel r') (hk : Steady m r)
    (hk' : Steady m' r') (hp : r.poisoned = false) (e : StartElement) (d : D) :
    (m.step r (.startElement e) d).Alike (m'.step r' (.startElement e) d) := by
  have hp' := hr.poisoned ▸ hp
  have henter := enter_of_unlimited h.limit r e
  have henter' := enter_of_unlimited h.limit' r' e
  rw [← h.refusal?_eq hr] at henter'
  cases hc : m.refusal? r e with
  | some cause =>
    rw [hc] at henter henter'
    obtain ⟨notes, hstep⟩ := step_start_of_error hp henter d
    obtain ⟨notes', hstep'⟩ := step_start_of_error hp' henter' d
    rw [hstep, hstep']
    exact (hr.locate _).fail _ _ _ _
  | none =>
    rw [hc] at henter henter'
    obtain ⟨notes, hstep⟩ := step_start_of_ok hp henter d
    obtain ⟨notes', hstep'⟩ := step_start_of_ok hp' henter' d
    have hopen := (@Run.Parallel.opened _ _ hr (m.frame r e) (m'.frame r' e) rfl).locate e.location
    have haudience : m.audience (m.target r e) = m'.audience (m'.target r' e) := by
      have ha := h.serves.audience_eq (enteredAll_frame hk.1 hk.2 e)
      have ha' := h.serves'.audience_eq (enteredAll_frame hk'.1 hk'.2 e)
      have helements : (m.frame r e :: r.frames).map (·.element) =
          (m'.frame r' e :: r'.frames).map (·.element) := hopen.elements
      rw [helements] at ha
      exact ha.trans ha'.symm
    rw [hstep, hstep', sequence_onStart, sequence_onStart, haudience, h.tell_eq]
    exact hopen.settle hopen _ _ _

/-- Open elements of one run are those of the other. -/
theorem frames_cases (hr : r.Parallel r') :
    (r.frames = [] ∧ r'.frames = []) ∨
      ∃ f outer f' outer', r.frames = f :: outer ∧ r'.frames = f' :: outer' ∧
        f.element = f'.element ∧ outer.map (·.element) = outer'.map (·.element) := by
  have helements := hr.elements
  unfold Run.elements at helements
  cases hf : r.frames with
  | nil =>
    rw [hf] at helements
    exact .inl ⟨rfl, List.map_eq_nil_iff.1 helements.symm⟩
  | cons f outer =>
    cases hf' : r'.frames with
    | nil => simp [hf, hf'] at helements
    | cons f' outer' =>
      rw [hf, hf', List.map_cons, List.map_cons] at helements
      obtain ⟨hinner, houter⟩ := List.cons.inj helements
      exact .inr ⟨f, outer, f', outer', rfl, rfl, hinner, houter⟩

theorem audience_eq (h : Twins m m' who) {f f' : Frame} {outer outer' : List Frame}
    (he : m.EnteredAll (f :: outer)) (he' : m'.EnteredAll (f' :: outer'))
    (hinner : f.element = f'.element)
    (houter : outer.map (·.element) = outer'.map (·.element)) :
    m.audience f.state = m'.audience f'.state := by
  rw [h.serves.audience_eq he, h.serves'.audience_eq he', List.map_cons, List.map_cons, hinner,
    houter]

theorem alike_step (h : Twins m m' who) (hr : r.Parallel r') (hk : Steady m r) (hk' : Steady m' r')
    (event : Event) (d : D) : (m.step r event d).Alike (m'.step r' event d) := by
  cases hp : r.poisoned with
  | true =>
    rw [step_of_poisoned hp, step_of_poisoned (hr.poisoned ▸ hp)]
    exact (hr.locate _).fail _ _ _ _
  | false =>
    have hp' := hr.poisoned ▸ hp
    cases event with
    | startElement e => exact h.alike_start hr hk hk' hp e d
    | endElement e =>
      have hl := hr.locate e.location
      simp only [step_of_running hp, step_of_running hp', finish, sequence_onEnd]
      rcases frames_cases hl with ⟨hf, hf'⟩ | ⟨f, outer, f', outer', hf, hf', hinner, houter⟩
      · rw [hf, hf']
        exact hl.fail _ _ _ _
      · have he : m.EnteredAll (f :: outer) := hf ▸ hk.2
        have he' : m'.EnteredAll (f' :: outer') := hf' ▸ hk'.2
        rw [hf, hf']
        dsimp only
        rw [h.audience_eq he he' hinner houter, h.tell_eq]
        exact (hl.closed houter).settle (hl.left houter) _ _ _
    | characters c =>
      have hl := hr.locate c.location
      simp only [step_of_running hp, step_of_running hp', text, sequence_onText]
      rcases frames_cases hl with ⟨hf, hf'⟩ | ⟨f, outer, f', outer', hf, hf', hinner, houter⟩
      · rw [hf, hf']
        exact ⟨rfl, rfl, hl⟩
      · have he : m.EnteredAll (f :: outer) := hf ▸ hk.2
        have he' : m'.EnteredAll (f' :: outer') := hf' ▸ hk'.2
        rw [hf, hf']
        dsimp only
        rw [h.audience_eq he he' hinner houter, hinner, h.tell_eq]
        exact hl.settle hl _ _ _
    | declaration x =>
      have hl := hr.locate x.location
      simp only [step_of_running hp, step_of_running hp', declare, sequence_onDeclaration]
      rw [h.observers, h.tell_eq]
      exact hl.settle hl _ _ _

/-- Twins answer all events alike. -/
theorem alike_play (h : Twins m m' who) (events : List Event) (hr : r.Parallel r')
    (hk : Steady m r) (hk' : Steady m' r') (d : D) :
    (m.play events r d).Alike (m'.play events r' d) := by
  induction events generalizing r r' d with
  | nil => exact ⟨rfl, rfl, hr⟩
  | cons event events ih =>
    have hstep := h.alike_step hr hk hk' event d
    cases he : (m.step r event d).error with
    | some e =>
      have he' := hstep.error ▸ he
      rw [play, play, Reply.andThen_of_error he, Reply.andThen_of_error he']
      exact hstep
    | none =>
      have he' := hstep.error ▸ he
      have hrest := ih hstep.run (steady_step hk event d) (steady_step hk' event d)
        (m.step r event d).data
      rw [play, play, Reply.andThen_of_ok he, Reply.andThen_of_ok he']
      rw [← hstep.data]
      exact ⟨hrest.data, hrest.error, hrest.run⟩

end Twins
end Machine
end StreamSelect
