import StreamSelect.Proofs.Run.Acceptance
import StreamSelect.Proofs.Run.Course

/-! Elements among events. The events before an event tell which elements it lies in. Where these
alone decide which handlers an element has, they decide the calls of a run: it makes them in the
order of the events, up to the first error. -/
namespace StreamSelect

variable {B D : Type}

namespace Event

/-- The open elements after an event, innermost first. -/
def opened (around : List StartElement) : Event → List StartElement
  | .startElement e => e :: around
  | .endElement _ => around.tail
  | .characters _ | .declaration _ => around

/-- The element that an event opens, if a test accepts it inside the elements around. -/
def picked (accepts : List StartElement → StartElement → Bool) (around : List StartElement) :
    Event → List StartElement
  | .startElement e => if accepts around e then [e] else []
  | _ => []

/-- The calls that an event asks for, if `who` gives the handlers of an element by the elements
that end with it, innermost first. Nothing outside all elements is told to handlers of elements. -/
def wanted (who : List StartElement → List B) (around : List StartElement) :
    Event → List (B × Occasion)
  | .startElement e => (who (e :: around)).map (·, .opened e)
  | .endElement e => if around.isEmpty then [] else (who around).map (·, .closed e)
  | .characters c =>
    match around with
    | [] => []
    | inner :: outer => (who (inner :: outer)).map (·, .text inner c)
  | .declaration _ => []

end Event

/-- The elements that a test accepts inside those around them, in document order. -/
def elementsWhere (accepts : List StartElement → StartElement → Bool) (around : List StartElement) :
    List Event → List StartElement
  | [] => []
  | event :: events =>
    event.picked accepts around ++ elementsWhere accepts (event.opened around) events

/-- The calls that events ask for, in order. -/
def wantedCalls (who : List StartElement → List B) (around : List StartElement) :
    List Event → List (B × Occasion)
  | [] => []
  | event :: events =>
    event.wanted who around ++ wantedCalls who (event.opened around) events

theorem elementsWhere_append (accepts : List StartElement → StartElement → Bool)
    (around : List StartElement) (xs ys : List Event) :
    elementsWhere accepts around (xs ++ ys) = elementsWhere accepts around xs ++
      elementsWhere accepts (xs.foldl Event.opened around) ys := by
  induction xs generalizing around with
  | nil => rfl
  | cons event xs ih =>
    rw [List.cons_append, elementsWhere, elementsWhere, ih, List.append_assoc]
    rfl

/-! ### Calls of handlers of elements -/

def Occasion.isOfElement : Occasion → Bool
  | .declared _ => false
  | _ => true

/-- The handler and the occasion of a call, if it is one for an element and of these handlers. -/
def Call.ofElement? (own : B → Bool) (c : Call B D) : Option (B × Occasion) :=
  if c.occasion.isOfElement && own c.behaviour then some (c.behaviour, c.occasion) else none

def elementCalls (own : B → Bool) (calls : List (Call B D)) : List (B × Occasion) :=
  calls.filterMap (Call.ofElement? own)

theorem elementCalls_append (own : B → Bool) (xs ys : List (Call B D)) :
    elementCalls own (xs ++ ys) = elementCalls own xs ++ elementCalls own ys :=
  List.filterMap_append

theorem elementCalls_round (bs : Behaviours B D) (own : B → Bool) {o : Occasion}
    (ho : o.isOfElement = true) (audience : List B) (d : D) :
    elementCalls own (bs.round o audience d) = (audience.filter own).map (·, o) := by
  induction audience generalizing d with
  | nil => rfl
  | cons b audience ih =>
    have hrest := ih (bs.react b o d).data
    unfold elementCalls at hrest ⊢
    rw [Behaviours.round, List.filterMap_cons, hrest, List.filter_cons]
    unfold Call.ofElement?
    cases own b <;> simp [ho]

/-- Handlers of declarations are none of elements. -/
theorem elementCalls_round_of_declared (bs : Behaviours B D) (own : B → Bool) {o : Occasion}
    (ho : o.isOfElement = false) (audience : List B) (d : D) :
    elementCalls own (bs.round o audience d) = [] := by
  induction audience generalizing d with
  | nil => rfl
  | cons b audience ih =>
    have hrest := ih (bs.react b o d).data
    unfold elementCalls at hrest ⊢
    rw [Behaviours.round, List.filterMap_cons, hrest]
    simp [Call.ofElement?, ho]

/-- The calls of elements that a request asks for. -/
def requested (own : B → Bool) : Option (Occasion × List B) → List (B × Occasion)
  | none => []
  | some (o, audience) => if o.isOfElement then (audience.filter own).map (·, o) else []

theorem elementCalls_of_request (bs : Behaviours B D) (own : B → Bool) (o : Occasion)
    (audience : List B) (d : D) :
    elementCalls own (bs.round o audience d) = requested own (some (o, audience)) := by
  cases ho : o.isOfElement with
  | true => simp only [requested, ho, ↓reduceIte, elementCalls_round bs own ho]
  | false => simp [requested, ho, elementCalls_round_of_declared bs own ho]

theorem requested_prefix (own : B → Bool) (o : Occasion) (told untold : List B) :
    requested own (some (o, told)) <+: requested own (some (o, told ++ untold)) := by
  unfold requested
  dsimp only
  split
  · rw [List.filter_append, List.map_append]
    exact List.prefix_append _ _
  · exact List.prefix_rfl

/-- Between two logs calls of elements were made, all of those expected unless there was an error. -/
def Makes (own : B → Bool) (calls later : List (Call B D)) (error : Option Error)
    (expected : List (B × Occasion)) : Prop :=
  ∃ done, elementCalls own later = elementCalls own calls ++ done ∧ done <+: expected ∧
    (error = none → done = expected)

theorem Makes.nothing {own : B → Bool} {calls : List (Call B D)} {error : Option Error}
    {expected : List (B × Occasion)} (h : error = none → expected = []) :
    Makes own calls calls error expected :=
  ⟨[], (List.append_nil _).symm, List.nil_prefix, fun he => (h he).symm⟩

namespace Run

/-- The open elements, innermost first. -/
def elements (r : Run) : List StartElement := r.frames.map (·.element)

end Run

namespace Machine

variable {m : Machine B D} {r : Run} {own : B → Bool} {who : List StartElement → List B}

/-- An event that goes well makes the calls it requests; one that fails, the first of them. -/
theorem makes_step (m : Machine B D) (r : Run) (event : Event) (own : B → Bool)
    (log : CallLog B D) :
    Makes own log.2 (m.recorded.step r event log).data.2 (m.recorded.step r event log).error
      (requested own (m.request? r event)) := by
  cases m.recorded.course r event with
  | refused _ hstep =>
    obtain ⟨notes, hstep⟩ := hstep log
    rw [hstep]
    exact .nothing fun he => by cases he
  | unheard hrequest hstep =>
    rw [hstep]
    refine .nothing fun _ => ?_
    rw [show m.request? r event = none from hrequest]
    rfl
  | @told o audience next stopped hrequest _ _ hstep =>
    obtain ⟨notes, hstep⟩ := hstep log
    rw [hstep, tell_recorded, show m.request? r event = some (o, audience) from hrequest]
    unfold Run.settle
    cases hf : (Reaction.sequence (audience.map fun b => m.behaviours.record b o) log).failure with
    | none =>
      dsimp only
      rw [Behaviours.round_of_success hf]
      refine ⟨_, ?_, List.prefix_rfl, fun _ => rfl⟩
      rw [elementCalls_append, elementCalls_of_request]
    | some message =>
      obtain ⟨told, b, untold, rfl, -, -, hdata⟩ := Behaviours.round_of_failure hf
      dsimp only [Run.fail]
      rw [hdata, List.append_cons told b untold]
      refine ⟨_, ?_, requested_prefix own o _ _, fun he => by cases he⟩
      rw [elementCalls_append, elementCalls_of_request]

/-- An event that is taken opens and closes the elements it says. -/
theorem elements_of_accepts {next : Run} {event : Event} (h : Accepts m r next event) :
    next.elements = event.opened r.elements := by
  unfold Run.elements
  cases h with
  | start _ hframes _ =>
    rw [hframes]
    rfl
  | finish hframes _ =>
    rw [hframes]
    rfl
  | characters hframes _ =>
    rw [hframes]
    rfl
  | declaration hframes _ =>
    rw [hframes]
    rfl

/-- Of the handlers `own`, the state of an element has those that `who` gives the element. -/
def Serves (m : Machine B D) (own : B → Bool) (who : List StartElement → List B) : Prop :=
  ∀ f outer, m.EnteredAll (f :: outer) →
    (m.audience f.state).filter own = who ((f :: outer).map (·.element))

/-- The frame of an element that opens belongs to the state that its ancestors give it. -/
theorem enteredAll_frame (hc : m.Covered r.frames) (he : m.EnteredAll r.frames)
    (e : StartElement) : m.EnteredAll (m.frame r e :: r.frames) :=
  he.cons (target_eq_entry hc e)

/-- What an event requests of the handlers `own` is what it asks for by the open elements. -/
theorem requested_eq_wanted (h : m.Serves own who) (hc : m.Covered r.frames)
    (he : m.EnteredAll r.frames) (event : Event) :
    requested own (m.request? r event) = event.wanted who r.elements := by
  unfold Run.elements
  cases event with
  | startElement e =>
    have hs := h _ _ (enteredAll_frame hc he e)
    have ha : (m.audience (m.target r e)).filter own = who (e :: r.frames.map (·.element)) := hs
    simp only [request?, requested, Occasion.isOfElement, ↓reduceIte, ha, Event.wanted]
  | endElement e =>
    cases hr : r.frames with
    | nil => simp [request?, hr, requested, Event.wanted]
    | cons f outer =>
      have hs := h f outer (hr ▸ he)
      simp [request?, hr, requested, Occasion.isOfElement, hs, Event.wanted]
  | characters c =>
    cases hr : r.frames with
    | nil => simp [request?, hr, requested, Event.wanted]
    | cons f outer =>
      have hs := h f outer (hr ▸ he)
      simp [request?, hr, requested, Occasion.isOfElement, hs, Event.wanted]
  | declaration x => simp [request?, requested, Occasion.isOfElement, Event.wanted]

/-- A run makes the calls that its events ask for, in order, up to the first error. -/
theorem makes_play (h : m.Serves own who) (events : List Event) (hc : m.Covered r.frames)
    (he : m.EnteredAll r.frames) (log : CallLog B D) :
    Makes own log.2 (m.recorded.play events r log).data.2 (m.recorded.play events r log).error
      (wantedCalls who r.elements events) := by
  induction events generalizing r log with
  | nil => exact .nothing fun _ => rfl
  | cons event events ih =>
    obtain ⟨done, hdone, hpre, hall⟩ := m.makes_step r event own log
    rw [requested_eq_wanted h hc he] at hpre hall
    cases herror : (m.recorded.step r event log).error with
    | some e =>
      rw [play, Reply.andThen_of_error herror, herror]
      exact ⟨done, hdone, hpre.trans (List.prefix_append _ _), fun hnone => by cases hnone⟩
    | none =>
      have hnone : (m.step r event log.1).error = none := by
        rw [← error_step_recorded, herror]
      have hopened := elements_of_accepts (accepts_of_step hnone)
      have hrun := m.run_step_recorded r event log
      obtain ⟨rest, hrest, hrestpre, hrestall⟩ := ih (covered_step hc event log.1)
        (enteredAll_step hc he event log.1) (m.recorded.step r event log).data
      rw [play, Reply.andThen_of_ok herror, hrun, wantedCalls, ← hopened]
      refine ⟨done ++ rest, ?_, ?_, fun hnone => ?_⟩
      · rw [hrest, hdone, List.append_assoc]
      · rw [hall herror, hopened]
        exact (List.prefix_append_right_inj _).2 (hopened ▸ hrestpre)
      · rw [hall herror, hrestall hnone]

end Machine
end StreamSelect
