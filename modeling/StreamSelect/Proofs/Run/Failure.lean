import Mathlib.Data.List.Permutation
import StreamSelect.Construction
import StreamSelect.Proofs.Run.Course

-- `List.Permutation` has the equations of pairs that `cbv` evaluates the example below with.

/-! Events that fail. A run that refuses an event keeps what it had; if a handler fails, those after
it are not called. Either way the run is at its end and refuses all that follows. -/
namespace StreamSelect

/-- The location of the last event that has one. -/
def lastLocation (events : List Event) : Option Location := events.reverse.findSome? Event.location

theorem lastLocation_concat (events : List Event) (event : Event) :
    lastLocation (events ++ [event]) = event.location.or (lastLocation events) := by
  unfold lastLocation
  rw [List.reverse_append, List.reverse_singleton, List.singleton_append, List.findSome?_cons]
  cases event.location <;> rfl

/-- The open elements, the counters and the end of the document are the same. -/
structure Run.Agrees (r s : Run) : Prop where
  frames : r.frames = s.frames
  remaining : r.remaining = s.remaining
  done : r.done = s.done

namespace Machine

variable {B D : Type} {m : Machine B D} {r : Run}

/-! ### Runs led by events -/

/-- Where events take a run, whatever their data; the source of the events may fail in between. -/
inductive Leads (m : Machine B D) (r : Run) : List Event → Run → Prop
  | refl : Leads m r [] r
  | step {events : List Event} {s : Run} (h : Leads m r events s) (event : Event) (d : D) :
    Leads m r (events ++ [event]) (m.step s event d).run
  | broken {events : List Event} {s : Run} (h : Leads m r events s) :
    Leads m r events { s with poisoned := true }

theorem Leads.location {before events : List Event} {s : Run} (h : m.Leads r events s)
    (hr : r.location = lastLocation before) : s.location = lastLocation (before ++ events) := by
  induction h with
  | refl => rw [hr, List.append_nil]
  | step h event d ih =>
    rw [(m.location_step _ event d).1, ih, ← List.append_assoc, lastLocation_concat]
  | broken h ih => exact ih

/-- A poisoned run stays as it is. -/
theorem Leads.of_poisoned {events : List Event} {s : Run} (h : m.Leads r events s)
    (hr : r.poisoned = true) : s.poisoned = true ∧ s.Agrees r := by
  induction h with
  | refl => exact ⟨hr, rfl, rfl, rfl⟩
  | step h event d ih =>
    rw [step_of_poisoned ih.1]
    exact ⟨rfl, ih.2.frames, ih.2.remaining, ih.2.done⟩
  | broken h ih => exact ⟨rfl, ih.2.frames, ih.2.remaining, ih.2.done⟩

/-! ### What a failing event leaves -/

/-- What an event that fails means for the run that took it, for the handlers, and for the events
that follow. -/
structure Fails (m : Machine B D) (events : List Event) (r : Run) (event : Event)
    (log : CallLog B D) (e : Error) : Prop where
  location : e.location = lastLocation (events ++ [event])
  /-- No handler hears of an event that is refused, and nothing has changed. -/
  refused : e.cause.isRefusal = true → (m.recorded.step r event log).data = log ∧
    (m.step r event log.1).run.Agrees r
  /-- Otherwise a handler fails. Those attached before it were called, and did not fail. -/
  told : e.cause.isRefusal = false → ∃ message o told b untold, e.cause = .handler message ∧
    m.request? r event = some (o, told ++ b :: untold) ∧
    (∀ c ∈ m.behaviours.round o told log.1,
      (m.behaviours.react c.behaviour o c.data).failure = none) ∧
    (m.behaviours.react b o (m.behaviours.leave o told log.1)).failure = some message ∧
    (m.recorded.step r event log).data = (m.behaviours.leave o (told ++ [b]) log.1,
      log.2 ++ m.behaviours.round o (told ++ [b]) log.1)
  /-- Whatever follows is refused. -/
  final : ∀ more s, m.Leads (m.step r event log.1).run more s → ∀ next log',
    (m.step s next log'.1).error =
        some ⟨.protocol .afterError, lastLocation (events ++ event :: more ++ [next])⟩ ∧
      (m.recorded.step s next log').data = log' ∧
      (m.step s next log'.1).run.Agrees (m.step r event log.1).run

/-- Every later event of a run that has failed is refused. -/
theorem Leads.refuses {before more : List Event} {s : Run} (h : m.Leads r more s)
    (hr : r.poisoned = true) (hl : r.location = lastLocation before) (next : Event)
    (log : CallLog B D) :
    (m.step s next log.1).error =
        some ⟨.protocol .afterError, lastLocation (before ++ more ++ [next])⟩ ∧
      (m.recorded.step s next log).data = log ∧ (m.step s next log.1).run.Agrees r := by
  obtain ⟨hs, hagrees⟩ := h.of_poisoned hr
  rw [step_of_poisoned hs, step_of_poisoned hs]
  refine ⟨?_, rfl, hagrees.frames, hagrees.remaining, hagrees.done⟩
  rw [lastLocation_concat, ← h.location hl]
  rfl

section

variable {event : Event} {log : CallLog B D} {e : Error}

/-- No handler hears of an event that is refused, and the run keeps what it had. -/
theorem step_of_refusal (h : (m.step r event log.1).error = some e)
    (hcause : e.cause.isRefusal = true) :
    (m.recorded.step r event log).data = log ∧ (m.step r event log.1).run.Agrees r := by
  rw [← error_step_recorded] at h
  rw [← run_step_recorded]
  cases m.recorded.course r event with
  | refused _ hstep =>
    obtain ⟨notes, hstep⟩ := hstep log
    rw [hstep]
    exact ⟨rfl, rfl, rfl, rfl⟩
  | unheard _ hstep =>
    rw [hstep] at h
    cases h
  | told _ _ _ hstep =>
    obtain ⟨notes, hstep⟩ := hstep log
    rw [hstep] at h
    obtain ⟨message, -, hhandler, -⟩ := settle_of_error h
    rw [hhandler] at hcause
    cases hcause

/-- An event that fails without being refused was told to the handlers up to one that failed. -/
theorem step_of_failure (h : (m.step r event log.1).error = some e)
    (hcause : e.cause.isRefusal = false) :
    ∃ message o told b untold, e.cause = .handler message ∧
      m.request? r event = some (o, told ++ b :: untold) ∧
      (∀ c ∈ m.behaviours.round o told log.1,
        (m.behaviours.react c.behaviour o c.data).failure = none) ∧
      (m.behaviours.react b o (m.behaviours.leave o told log.1)).failure = some message ∧
      (m.recorded.step r event log).data = (m.behaviours.leave o (told ++ [b]) log.1,
        log.2 ++ m.behaviours.round o (told ++ [b]) log.1) := by
  rw [← error_step_recorded] at h
  cases m.recorded.course r event with
  | refused hrefusal hstep =>
    obtain ⟨notes, hstep⟩ := hstep log
    rw [hstep] at h
    obtain rfl := Option.some.inj h
    cases hrefusal.symm.trans hcause
  | unheard _ hstep =>
    rw [hstep] at h
    cases h
  | @told o audience _ _ hrequest _ _ hstep =>
    obtain ⟨notes, hstep⟩ := hstep log
    rw [hstep, tell_recorded] at h ⊢
    obtain ⟨message, hfailure, hhandler, hdata⟩ := settle_of_error h
    obtain ⟨told, b, untold, rfl, hquiet, hfails, hleave⟩ := Behaviours.round_of_failure hfailure
    exact ⟨message, o, told, b, untold, hhandler, hrequest, hquiet, hfails, hdata.trans hleave⟩

/-- In every run an event that fails either was refused and changed nothing, or was told to the
handlers up to the one that failed. The error is at the last location seen, and nothing is done
for any later event. -/
theorem fails_step {events : List Event} (hr : m.Leads {} events r)
    (h : (m.step r event log.1).error = some e) : m.Fails events r event log e := by
  have hlocation : r.location = lastLocation ([] ++ events) := hr.location rfl
  rw [List.nil_append] at hlocation
  have hpoisoned : (m.step r event log.1).run.poisoned = true := by
    rw [poisoned_step, h]
    rfl
  refine ⟨?_, step_of_refusal h, step_of_failure h, fun more s hs next log' => ?_⟩
  · rw [(m.location_step r event log.1).2 e h, hlocation, lastLocation_concat]
  · have hl := (m.location_step r event log.1).1
    rw [hlocation, ← lastLocation_concat] at hl
    have hrefuses := hs.refuses hpoisoned hl next log'
    rwa [List.append_assoc events, List.singleton_append] at hrefuses

end

end Machine

/-! Three handlers on the document element `log`, the second of which fails. -/

def threeHandlersBuilder : Builder Nat :=
  ((Builder.ofModel 0).performEach
    [{ statement :=
        .select none [.select (.child (.plain "log")) []] [.share 1, .share 2, .share 3] }]).2

/-- A handler puts its number in front of the data; the second handler then fails. -/
def threeHandlers : Machine Nat (List Nat) where
  model := ⟨(threeHandlersBuilder.construct (fun _ _ => []) {}).workspace.graph, .root, []⟩
  behaviours :=
    { element := fun b =>
        { onStart := fun _ d => ⟨b :: d, if b = 2 then some "full" else none⟩ }
      observer := fun _ => {} }
  filters := ⟨fun _ _ => false, fun _ _ _ => false⟩

def logStart : Event := .startElement ⟨.plain "log", .empty, some ⟨1, 1, 0⟩⟩

/-- The third handler is not called. -/
theorem fails_secondHandler :
    threeHandlers.Leads {} [] {} ∧
      (threeHandlers.step {} logStart []).error = some ⟨.handler "full", some ⟨1, 1, 0⟩⟩ ∧
      threeHandlers.Fails [] {} logStart ([], []) ⟨.handler "full", some ⟨1, 1, 0⟩⟩ ∧
      (threeHandlers.recorded.step {} logStart ([], [])).data.1 = [2, 1] := by
  have h : (threeHandlers.step {} logStart []).error =
      some ⟨.handler "full", some ⟨1, 1, 0⟩⟩ := by cbv
  exact ⟨.refl, h, Machine.fails_step .refl h, by cbv⟩

end StreamSelect
