import StreamSelect.Proofs.Run.Calls
import StreamSelect.Proofs.Run.Step

/-! The course of an event. A run refuses an event before any handler hears of it, or tells it to
the handlers it concerns, one after another, up to the first that fails. -/
namespace StreamSelect

/-- True of the causes for which a run takes an event back before it is told to handlers. -/
def Cause.isRefusal : Cause → Bool
  | .protocol _ | .depth _ | .cardinality _ _ => true
  | _ => false

/-! ### Rounds of calls -/

namespace Behaviours

variable {B D : Type}

/-- What handlers called one after another leave of the data. -/
def leave (bs : Behaviours B D) (o : Occasion) (audience : List B) (d : D) : D :=
  audience.foldl (fun d b => (bs.react b o d).data) d

/-- The calls of handlers one after another, each on the data that the one before it left. -/
def round (bs : Behaviours B D) (o : Occasion) : List B → D → List (Call B D)
  | [], _ => []
  | b :: audience, d => ⟨b, o, d⟩ :: round bs o audience (bs.react b o d).data

/-- A round that goes well calls all handlers. -/
theorem round_of_success {bs : Behaviours B D} {o : Occasion} {audience : List B}
    {log : CallLog B D}
    (h : (Reaction.sequence (audience.map fun b => bs.record b o) log).failure = none) :
    (Reaction.sequence (audience.map fun b => bs.record b o) log).data =
      (bs.leave o audience log.1, log.2 ++ bs.round o audience log.1) := by
  induction audience generalizing log with
  | nil => exact Prod.ext rfl (List.append_nil _).symm
  | cons b audience ih =>
    simp only [List.map_cons, Reaction.sequence_cons] at h ⊢
    split at h
    · rename_i hf
      rw [h] at hf
      cases hf
    · rename_i hf
      rw [if_neg hf, ih h]
      simp only [round, leave, List.foldl_cons, record, Reaction.map, List.append_assoc,
        List.cons_append, List.nil_append]

/-- A round that fails ends with the first handler that does. -/
theorem round_of_failure {bs : Behaviours B D} {o : Occasion} {audience : List B}
    {log : CallLog B D} {message : String}
    (h : (Reaction.sequence (audience.map fun b => bs.record b o) log).failure = some message) :
    ∃ told b untold, audience = told ++ b :: untold ∧
      (∀ c ∈ bs.round o told log.1, (bs.react c.behaviour o c.data).failure = none) ∧
      (bs.react b o (bs.leave o told log.1)).failure = some message ∧
      (Reaction.sequence (audience.map fun b => bs.record b o) log).data =
        (bs.leave o (told ++ [b]) log.1, log.2 ++ bs.round o (told ++ [b]) log.1) := by
  induction audience generalizing log with
  | nil => cases h
  | cons b audience ih =>
    simp only [List.map_cons, Reaction.sequence_cons] at h ⊢
    cases hb : (bs.react b o log.1).failure with
    | some failure =>
      have hf : (bs.record b o log).failure = some failure := hb
      rw [if_pos (by rw [hf]; rfl)] at h ⊢
      refine ⟨[], b, audience, rfl, ?_, h, rfl⟩
      intro c hc
      cases hc
    | none =>
      have hf : ¬ (bs.record b o log).failure.isSome = true := by
        rw [show (bs.record b o log).failure = none from hb]
        simp
      rw [if_neg hf] at h ⊢
      obtain ⟨told, a, untold, rfl, hquiet, hfails, hdata⟩ := ih h
      refine ⟨b :: told, a, untold, rfl, ?_, hfails, ?_⟩
      · intro c hc
        rcases List.mem_cons.1 hc with rfl | hc
        · exact hb
        · exact hquiet c hc
      · rw [hdata]
        simp only [List.cons_append, round, leave, List.foldl_cons, record, Reaction.map,
          List.append_assoc, List.nil_append]

end Behaviours

namespace Machine

variable {B D : Type} {m : Machine B D} {r : Run}

theorem error_step_recorded (m : Machine B D) (r : Run) (event : Event) (log : CallLog B D) :
    (m.recorded.step r event log).error = (m.step r event log.1).error :=
  congrArg Reply.error (m.step_recorded r event log)

theorem run_step_recorded (m : Machine B D) (r : Run) (event : Event) (log : CallLog B D) :
    (m.recorded.step r event log).run = (m.step r event log.1).run :=
  congrArg Reply.run (m.step_recorded r event log)

/-! ### What becomes of an event -/

/-- The handlers that an event is told to, and what they are called for. -/
def request? (m : Machine B D) (r : Run) : Event → Option (Occasion × List B)
  | .startElement e => some (.opened e, m.audience (m.target r e))
  | .endElement e => r.frames.head?.map fun f => (.closed e, m.audience f.state)
  | .characters c => r.frames.head?.map fun f => (.text f.element c, m.audience f.state)
  | .declaration x => some (.declared x, m.model.observers)

/-- An event is refused, concerns no handler, or is told to the handlers it concerns. -/
inductive Course (m : Machine B D) (r : Run) (event : Event) : Prop
  | refused {cause : Cause} (hcause : cause.isRefusal = true)
    (hstep : ∀ d, ∃ notes, m.step r event d = (r.locate event.location).fail d cause notes)
  | unheard (hrequest : m.request? r event = none)
    (hstep : ∀ d, m.step r event d = ⟨r.locate event.location, d, none, []⟩)
  | told {o : Occasion} {audience : List B} {next stopped : Run}
    (hrequest : m.request? r event = some (o, audience))
    (hnext : next.location = event.location.or r.location)
    (hstopped : stopped.location = event.location.or r.location)
    (hstep : ∀ d, ∃ notes,
      m.step r event d = Run.settle next stopped (m.tell o audience d) notes)

theorem course (m : Machine B D) (r : Run) (event : Event) : m.Course r event := by
  cases hr : r.poisoned with
  | true => exact .refused rfl fun d => ⟨[], step_of_poisoned hr event d⟩
  | false =>
    cases event with
    | startElement e =>
      cases he : m.enter r e with
      | error cause =>
        refine .refused ?_ fun d => step_start_of_error hr he d
        rcases enter_eq_error he with rfl | ⟨limit, rfl⟩ | ⟨limit, rfl⟩ <;> rfl
      | ok entered =>
        have hlocation : (entered.locate e.location).location = e.location.or r.location := by
          rw [enter_eq_ok he]
          rfl
        refine .told rfl hlocation hlocation fun d => ?_
        obtain ⟨notes, hstep⟩ := step_start_of_ok hr he d
        exact ⟨notes, by rw [hstep, sequence_onStart]⟩
    | endElement e =>
      cases hf : r.frames with
      | nil =>
        have hl : (r.locate e.location).frames = [] := hf
        have hstep : ∀ d, m.step r (.endElement e) d =
            (r.locate e.location).fail d (.protocol (.nothingOpen e.name)) [] := by
          intro d
          simp only [step_of_running hr, finish, hl]
        exact .refused rfl fun d => ⟨[], hstep d⟩
      | cons f frames =>
        have hl : (r.locate e.location).frames = f :: frames := hf
        have hrequest : m.request? r (.endElement e) = some (.closed e, m.audience f.state) := by
          rw [request?, hf]
          rfl
        let left : Run := { r.locate e.location with frames }
        have hstep : ∀ d, m.step r (.endElement e) d =
            Run.settle { left with done := r.done || frames.isEmpty } left
              (m.tell (.closed e) (m.audience f.state) d) [.left e.name f.state left.depth] := by
          intro d
          simp only [step_of_running hr, finish, hl, sequence_onEnd]
          rfl
        exact .told hrequest rfl rfl fun d => ⟨_, hstep d⟩
    | characters c =>
      cases hf : r.frames with
      | nil =>
        have hl : (r.locate c.location).frames = [] := hf
        refine .unheard ?_ fun d => ?_
        · rw [request?, hf]
          rfl
        · simp only [step_of_running hr, text, hl, Event.location]
      | cons f frames =>
        have hl : (r.locate c.location).frames = f :: frames := hf
        have hrequest : m.request? r (.characters c) =
            some (.text f.element c, m.audience f.state) := by
          rw [request?, hf]
          rfl
        have hstep : ∀ d, m.step r (.characters c) d =
            Run.settle (r.locate c.location) (r.locate c.location)
              (m.tell (.text f.element c) (m.audience f.state) d) [] := by
          intro d
          simp only [step_of_running hr, text, hl, sequence_onText]
        exact .told hrequest rfl rfl fun d => ⟨[], hstep d⟩
    | declaration x =>
      have hstep : ∀ d, m.step r (.declaration x) d =
          Run.settle (r.locate x.location) (r.locate x.location)
            (m.tell (.declared x) m.model.observers d) [] := by
        intro d
        simp only [step_of_running hr, declare, sequence_onDeclaration]
      exact .told rfl rfl rfl fun d => ⟨[], hstep d⟩

/-- Told handlers end an event with an error exactly if one of them fails. -/
theorem settle_of_error {next stopped : Run} {reaction : Reaction D} {notes : List Note}
    {e : Error} (h : (Run.settle next stopped reaction notes).error = some e) :
    ∃ message, reaction.failure = some message ∧ e.cause = .handler message ∧
      (Run.settle next stopped reaction notes).data = reaction.data := by
  unfold Run.settle at h ⊢
  cases hf : reaction.failure with
  | none =>
    rw [hf] at h
    cases h
  | some message =>
    rw [hf] at h
    obtain rfl := Option.some.inj h
    exact ⟨message, rfl, rfl, rfl⟩

theorem location_settle {next stopped : Run} {location : Option Location}
    (hnext : next.location = location) (hstopped : stopped.location = location)
    (reaction : Reaction D) (notes : List Note) :
    (Run.settle next stopped reaction notes).run.location = location ∧
      ∀ e, (Run.settle next stopped reaction notes).error = some e → e.location = location := by
  unfold Run.settle
  split
  · exact ⟨hnext, fun e he => by cases he⟩
  · refine ⟨hstopped, fun e he => ?_⟩
    obtain rfl := Option.some.inj he
    exact hstopped

/-- A run and its error are at the location of the event, or where the run was before. -/
theorem location_step (m : Machine B D) (r : Run) (event : Event) (d : D) :
    (m.step r event d).run.location = event.location.or r.location ∧
      ∀ e, (m.step r event d).error = some e → e.location = event.location.or r.location := by
  cases m.course r event with
  | refused hcause hstep =>
    obtain ⟨notes, hstep⟩ := hstep d
    rw [hstep]
    exact ⟨rfl, fun e he => by obtain rfl := Option.some.inj he; rfl⟩
  | unheard _ hstep =>
    rw [hstep]
    exact ⟨rfl, fun e he => by cases he⟩
  | told hrequest hnext hstopped hstep =>
    obtain ⟨notes, hstep⟩ := hstep d
    rw [hstep]
    exact location_settle hnext hstopped _ _

end Machine
end StreamSelect
