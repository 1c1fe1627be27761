import StreamSelect.Proofs.Run.Ancestry

/-! What a run has accepted. An event that is taken opens a frame, closes the innermost one, or
leaves the frames as they are; so the frames of a run are the elements its events left open. -/
namespace StreamSelect

/-- The names of the open elements after an event, innermost first. An end carries the whole name
of the innermost element, the qualifier included. -/
def Event.nest (names : List Name) : Event → Option (List Name)
  | .startElement e => some (e.name :: names)
  | .endElement e =>
    match names with
    | [] => none
    | name :: outer => if e.name = name then some outer else none
  | .characters _ => some names
  | .declaration _ => some names

/-- The names of the elements that events leave open; none if an end does not fit. -/
def openElements (events : List Event) : Option (List Name) := events.foldlM Event.nest []

theorem openElements_concat (events : List Event) (event : Event) :
    openElements (events ++ [event]) = (openElements events).bind (Event.nest · event) := by
  simp [openElements, List.foldlM_append]

theorem openElements_of_prefix {pre events : List Event} {names : List Name} (hp : pre <+: events)
    (h : openElements events = some names) : ∃ names, openElements pre = some names := by
  obtain ⟨rest, rfl⟩ := hp
  rw [openElements, List.foldlM_append] at h
  obtain ⟨inner, hinner, -⟩ := Option.bind_eq_some_iff.1 h
  exact ⟨inner, hinner⟩

def Run.openNames (r : Run) : List Name := r.frames.map (·.element.name)

namespace Machine

variable {B D : Type} {m : Machine B D} {r : Run}

/-- What an event does to a run that takes it. -/
inductive Accepts (m : Machine B D) (r next : Run) : Event → Prop
  | start {e : StartElement} {entered : Run} (henter : m.enter r e = .ok entered)
    (hframes : next.frames = m.frame r e :: r.frames) (hdone : next.done = r.done) :
    Accepts m r next (.startElement e)
  | finish {e : EndElement} {f : Frame} (hframes : r.frames = f :: next.frames)
    (hdone : next.done = (r.done || next.frames.isEmpty)) : Accepts m r next (.endElement e)
  | characters {c : Characters} (hframes : next.frames = r.frames) (hdone : next.done = r.done) :
    Accepts m r next (.characters c)
  | declaration {x : DocumentDeclaration} (hframes : next.frames = r.frames)
    (hdone : next.done = r.done) : Accepts m r next (.declaration x)

theorem accepts_of_step {event : Event} {d : D} (h : (m.step r event d).error = none) :
    Accepts m r (m.step r event d).run event := by
  have hsettle : ∀ {next stopped : Run} {reaction : Reaction D} {notes : List Note},
      (Run.settle next stopped reaction notes).error = none →
        (Run.settle next stopped reaction notes).run = next := by
    intro next stopped reaction notes hs
    unfold Run.settle at hs ⊢
    cases hf : reaction.failure with
    | none => rfl
    | some message =>
      rw [hf] at hs
      cases hs
  cases hr : r.poisoned with
  | true =>
    rw [step_of_poisoned hr] at h
    cases h
  | false =>
    cases event with
    | startElement e =>
      cases he : m.enter r e with
      | error cause =>
        obtain ⟨notes, hstep⟩ := step_start_of_error hr he d
        rw [hstep] at h
        cases h
      | ok entered =>
        obtain ⟨notes, hstep⟩ := step_start_of_ok hr he d
        rw [hstep] at h ⊢
        rw [hsettle h]
        refine .start he ?_ ?_
        all_goals
          rw [enter_eq_ok he]
          rfl
    | endElement e =>
      simp only [step_of_running hr, finish] at h ⊢
      split at h
      · cases h
      · rename_i f frames hframes
        rw [hsettle h]
        exact .finish hframes rfl
    | characters c =>
      simp only [step_of_running hr, text] at h ⊢
      split at h
      · rename_i hframes
        exact .characters rfl rfl
      · rw [hsettle h]
        exact .characters rfl rfl
    | declaration x =>
      simp only [step_of_running hr, declare] at h ⊢
      rw [hsettle h]
      exact .declaration rfl rfl

/-- A run that takes an event of elements that nest keeps the names of the open ones. -/
theorem openNames_step {event : Event} {names : List Name} {d : D}
    (hnest : Event.nest r.openNames event = some names) (h : (m.step r event d).error = none) :
    (m.step r event d).run.openNames = names := by
  have haccepts := accepts_of_step h
  generalize (m.step r event d).run = next at haccepts ⊢
  cases haccepts with
  | start henter hframes hdone =>
    rw [Run.openNames, hframes]
    exact Option.some.inj hnest
  | finish hframes hdone =>
    rw [Run.openNames, hframes] at hnest
    simp only [Event.nest, List.map_cons, Option.ite_none_right_eq_some, Option.some.injEq] at hnest
    exact hnest.2
  | characters hframes hdone =>
    rw [Run.openNames, hframes]
    exact Option.some.inj hnest
  | declaration hframes hdone =>
    rw [Run.openNames, hframes]
    exact Option.some.inj hnest

/-- An end that fits closes an element. -/
theorem not_nothingOpen_step {event : Event} {names : List Name} {d : D}
    (hnest : Event.nest r.openNames event = some names) (name : Name) :
    (m.step r event d).cause? ≠ some (.protocol (.nothingOpen name)) := by
  intro h
  rcases cause?_step h with h | ⟨e, -, henter⟩ | ⟨e, rfl, hframes, -⟩ | ⟨message, h⟩
  · cases h
  · rcases enter_eq_error henter with h | ⟨limit, h⟩ | ⟨limit, h⟩
    all_goals cases h
  · rw [Run.openNames, hframes] at hnest
    cases hnest
  · cases h

/-- A run over elements that nest never meets an end with nothing open. -/
theorem play_open {events : List Event} {names : List Name}
    (hopen : events.foldlM Event.nest r.openNames = some names) (d : D) :
    (∀ name, (m.play events r d).cause? ≠ some (.protocol (.nothingOpen name))) ∧
      ((m.play events r d).error = none → (m.play events r d).run.openNames = names) := by
  induction events generalizing r d with
  | nil =>
    constructor
    · intro name h
      cases h
    · exact fun _ => Option.some.inj hopen
  | cons event events ih =>
    rw [List.foldlM_cons] at hopen
    obtain ⟨inner, hnest, hrest⟩ := Option.bind_eq_some_iff.1 hopen
    cases he : (m.step r event d).error with
    | some e =>
      rw [play, Reply.andThen_of_error he]
      refine ⟨not_nothingOpen_step hnest, ?_⟩
      intro h
      cases he.symm.trans h
    | none =>
      rw [← openNames_step hnest he] at hrest
      rw [play, Reply.andThen_of_ok he]
      exact ih hrest _

end Machine
end StreamSelect
