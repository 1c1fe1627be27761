import StreamSelect.Proofs.Run.Play

/-! Calls of handlers. A machine whose handlers note each call they get runs like the machine
itself; its data show which handlers were called, in which order, on what and with which data. -/
namespace StreamSelect

/-- What a handler is called for. -/
inductive Occasion where
  | opened (e : StartElement)
  | closed (e : EndElement)
  | text (inside : StartElement) (c : Characters)
  | declared (x : DocumentDeclaration)

/-- A call of a handler and the data it found. -/
structure Call (B D : Type) where
  behaviour : B
  occasion : Occasion
  data : D

/-- Data with the calls made so far. -/
abbrev CallLog (B D : Type) := D × List (Call B D)

namespace Reaction

variable {D E : Type}

def map (f : D → E) (reaction : Reaction D) : Reaction E := ⟨f reaction.data, reaction.failure⟩

theorem sequence_cons (call : D → Reaction D) (calls : List (D → Reaction D)) (d : D) :
    sequence (call :: calls) d =
      if (call d).failure.isSome then call d else sequence calls (call d).data := by
  rw [sequence]
  obtain ⟨d', failure⟩ := call d
  cases failure <;> rfl

end Reaction

namespace Reply

variable {D E : Type}

def map (f : D → E) (reply : Reply D) : Reply E :=
  ⟨reply.run, f reply.data, reply.error, reply.notes⟩

theorem map_andThen (f : D → E) (reply : Reply D) {next : Run → D → Reply D}
    {next' : Run → E → Reply E} (h : ∀ r d, (next r d).map f = next' r (f d)) :
    (reply.andThen next).map f = (reply.map f).andThen next' := by
  cases he : reply.error with
  | some e => rw [andThen_of_error he, andThen_of_error (by exact he)]
  | none =>
    rw [andThen_of_ok he, andThen_of_ok (by exact he)]
    have hn := h reply.run reply.data
    simp only [map] at hn ⊢
    rw [← hn]

theorem map_settle (f : D → E) (next stopped : Run) (reaction : Reaction D) (notes : List Note) :
    (Run.settle next stopped reaction notes).map f =
      Run.settle next stopped (reaction.map f) notes := by
  obtain ⟨d, failure⟩ := reaction
  cases failure <;> rfl

end Reply

namespace Behaviours

variable {B D : Type}

def react (bs : Behaviours B D) (b : B) : Occasion → D → Reaction D
  | .opened e => (bs.element b).onStart e
  | .closed e => (bs.element b).onEnd e
  | .text inside c => (bs.element b).onText inside c
  | .declared x => (bs.observer b).onDeclaration x

/-- Notes a call before it is made. -/
def record (bs : Behaviours B D) (b : B) (o : Occasion) (log : CallLog B D) :
    Reaction (CallLog B D) :=
  (bs.react b o log.1).map fun d => (d, log.2 ++ [⟨b, o, log.1⟩])

/-- The same handlers, noting their calls. -/
def recorded (bs : Behaviours B D) : Behaviours B (CallLog B D) where
  element b :=
    { onStart := fun e => bs.record b (.opened e)
      onEnd := fun e => bs.record b (.closed e)
      onText := fun inside c => bs.record b (.text inside c)
      declared := (bs.element b).declared }
  observer b := { onDeclaration := fun x => bs.record b (.declared x) }

theorem sequence_record (bs : Behaviours B D) (o : Occasion) (audience : List B)
    (log : CallLog B D) :
    (Reaction.sequence (audience.map fun b => bs.record b o) log).map Prod.fst =
      Reaction.sequence (audience.map fun b => bs.react b o) log.1 := by
  induction audience generalizing log with
  | nil => rfl
  | cons b audience ih =>
    simp only [List.map_cons, Reaction.sequence_cons]
    have hf : (bs.record b o log).failure = (bs.react b o log.1).failure := rfl
    rw [hf]
    split
    · rfl
    · exact ih _

end Behaviours

namespace Machine

variable {B D : Type}

/-- Whose handlers are told of an element in a state. -/
def audience (m : Machine B D) (s : StateId) : List B := (m.state s).handlers.map (·.behaviour)

/-- The machine whose handlers note their calls. -/
def recorded (m : Machine B D) : Machine B (CallLog B D) :=
  ⟨m.model, m.behaviours.recorded, m.filters, m.settings⟩

/-- What an event asks of the handlers of a state. -/
def tell (m : Machine B D) (o : Occasion) (audience : List B) (d : D) : Reaction D :=
  Reaction.sequence (audience.map fun b => m.behaviours.react b o) d

theorem sequence_handlers (m : Machine B D) (s : StateId) {o : Occasion}
    {f : ElementHandler B D → D → Reaction D}
    (hf : ∀ b, f (m.behaviours.element b) = m.behaviours.react b o) :
    Reaction.sequence ((m.handlers s).map f) = m.tell o (m.audience s) := by
  funext d
  unfold handlers tell audience
  rw [List.map_map, List.map_map]
  exact congrArg (Reaction.sequence · d) (List.map_congr_left fun h _ => hf h.behaviour)

theorem sequence_onStart (m : Machine B D) (s : StateId) (e : StartElement) :
    Reaction.sequence ((m.handlers s).map fun h => h.onStart e) =
      m.tell (.opened e) (m.audience s) :=
  m.sequence_handlers s fun _ => rfl

theorem sequence_onEnd (m : Machine B D) (s : StateId) (e : EndElement) :
    Reaction.sequence ((m.handlers s).map fun h => h.onEnd e) =
      m.tell (.closed e) (m.audience s) :=
  m.sequence_handlers s fun _ => rfl

theorem sequence_onText (m : Machine B D) (s : StateId) (inside : StartElement) (c : Characters) :
    Reaction.sequence ((m.handlers s).map fun h => h.onText inside c) =
      m.tell (.text inside c) (m.audience s) :=
  m.sequence_handlers s fun _ => rfl

theorem sequence_onDeclaration (m : Machine B D) (x : DocumentDeclaration) :
    Reaction.sequence (m.observers.map fun o => o.onDeclaration x) =
      m.tell (.declared x) m.model.observers := by
  funext d
  unfold observers tell
  rw [List.map_map]
  rfl

theorem tell_recorded (m : Machine B D) (o : Occasion) (audience : List B) (log : CallLog B D) :
    m.recorded.tell o audience log =
      Reaction.sequence (audience.map fun b => m.behaviours.record b o) log := by
  unfold tell
  congr 1
  apply List.map_congr_left
  intro b _
  cases o <;> rfl

theorem tell_recorded_map (m : Machine B D) (o : Occasion) (audience : List B)
    (log : CallLog B D) :
    (m.recorded.tell o audience log).map Prod.fst = m.tell o audience log.1 := by
  rw [tell_recorded]
  exact m.behaviours.sequence_record o audience log

theorem settle_tell_recorded (m : Machine B D) (o : Occasion) (audience : List B)
    (log : CallLog B D) (done failed : Run) (notes : List Note) :
    (done.settle failed (m.recorded.tell o audience log) notes).map Prod.fst =
      done.settle failed (m.tell o audience log.1) notes := by
  rw [Reply.map_settle, tell_recorded_map]

/-- Noting the calls changes nothing else about a step. -/
theorem step_recorded (m : Machine B D) (r : Run) (event : Event) (log : CallLog B D) :
    (m.recorded.step r event log).map Prod.fst = m.step r event log.1 := by
  unfold step
  split
  · rfl
  cases event with
  | startElement e =>
    simp only [start, sequence_onStart]
    rw [show m.recorded.enter = m.enter from rfl]
    split
    · rfl
    · exact m.settle_tell_recorded _ _ log _ _ _
  | endElement e =>
    simp only [finish, sequence_onEnd]
    split
    · rfl
    · exact m.settle_tell_recorded _ _ log _ _ _
  | characters c =>
    simp only [text, sequence_onText]
    split
    · rfl
    · exact m.settle_tell_recorded _ _ log _ _ _
  | declaration x =>
    simp only [declare, sequence_onDeclaration]
    exact m.settle_tell_recorded _ _ log _ _ _

theorem play_recorded (m : Machine B D) (events : List Event) (r : Run) (log : CallLog B D) :
    (m.recorded.play events r log).map Prod.fst = m.play events r log.1 := by
  induction events generalizing r log with
  | nil => rfl
  | cons event events ih =>
    rw [play, Reply.map_andThen Prod.fst _ ih, step_recorded]
    rfl

theorem error_play_recorded (m : Machine B D) (events : List Event) (r : Run) (log : CallLog B D) :
    (m.recorded.play events r log).error = (m.play events r log.1).error :=
  congrArg Reply.error (m.play_recorded events r log)

end Machine
end StreamSelect
