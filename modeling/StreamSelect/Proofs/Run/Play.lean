import Mathlib.Data.List.Induction
import StreamSelect.Parser

/-! Runs over lists of events. A run takes events in order and ends with the first error; what holds
of a fresh run and survives every event holds at the end of every run. -/
namespace StreamSelect

namespace Reply

variable {D : Type}

/-- Goes on after a reply, unless it met an error. -/
def andThen (reply : Reply D) (next : Run → D → Reply D) : Reply D :=
  if reply.error.isSome then reply
  else
    let final := next reply.run reply.data
    { final with notes := reply.notes ++ final.notes }

theorem andThen_of_error {reply : Reply D} {e : Error} (h : reply.error = some e)
    (next : Run → D → Reply D) : reply.andThen next = reply := by
  simp [andThen, h]

theorem andThen_of_ok {reply : Reply D} (h : reply.error = none) (next : Run → D → Reply D) :
    reply.andThen next =
      { next reply.run reply.data with
        notes := reply.notes ++ (next reply.run reply.data).notes } := by
  simp [andThen, h]

theorem andThen_assoc (reply : Reply D) (next last : Run → D → Reply D) :
    (reply.andThen next).andThen last = reply.andThen fun r d => (next r d).andThen last := by
  cases h : reply.error with
  | some e => rw [andThen_of_error h, andThen_of_error h, andThen_of_error h]
  | none =>
    rw [andThen_of_ok h, andThen_of_ok h]
    cases hn : (next reply.run reply.data).error with
    | some e =>
      rw [andThen_of_error (by exact hn), andThen_of_error hn]
    | none =>
      rw [andThen_of_ok (by exact hn), andThen_of_ok hn]
      simp only [List.append_assoc]

end Reply

namespace Machine

variable {B D : Type}

/-- Takes events in order, up to the first error. -/
def play (m : Machine B D) : List Event → Run → D → Reply D
  | [], r, d => ⟨r, d, none, []⟩
  | event :: events, r, d => (m.step r event d).andThen (play m events)

theorem play_append (m : Machine B D) (xs ys : List Event) (r : Run) (d : D) :
    m.play (xs ++ ys) r d = (m.play xs r d).andThen (m.play ys) := by
  induction xs generalizing r d with
  | nil => simp [play, Reply.andThen]
  | cons x xs ih =>
    simp only [List.cons_append, play, Reply.andThen_assoc]
    congr 1
    funext r d
    exact ih r d

theorem play_singleton (m : Machine B D) (event : Event) (r : Run) (d : D) :
    m.play [event] r d = m.step r event d := by
  cases h : (m.step r event d).error with
  | some e => rw [play, Reply.andThen_of_error h]
  | none => rw [play, Reply.andThen_of_ok h, play, List.append_nil, ← h]

/-- What survives every event holds after every run. -/
theorem play_invariant {m : Machine B D} {P : Run → Prop}
    (hstep : ∀ r event d, P r → P (m.step r event d).run) (events : List Event) {r : Run} (d : D)
    (h : P r) : P (m.play events r d).run := by
  induction events generalizing r d with
  | nil => exact h
  | cons event events ih =>
    have hs := hstep r event d h
    cases he : (m.step r event d).error with
    | some e => rwa [play, Reply.andThen_of_error he]
    | none =>
      rw [play, Reply.andThen_of_ok he]
      exact ih _ hs

/-- What holds at the start, and survives events that are taken without an error, holds at the end of
a run that meets none. -/
theorem play_induction {m : Machine B D} {r : Run} {d : D} {P : List Event → Run → D → Prop}
    (hstart : P [] r d)
    (hstep : ∀ events r d event, P events r d → (m.step r event d).error = none →
      P (events ++ [event]) (m.step r event d).run (m.step r event d).data)
    {events : List Event} (h : (m.play events r d).error = none) :
    P events (m.play events r d).run (m.play events r d).data := by
  induction events using List.reverseRecOn with
  | nil => exact hstart
  | append_singleton events event ih =>
    rw [play_append] at h ⊢
    cases he : (m.play events r d).error with
    | some e =>
      rw [Reply.andThen_of_error he, he] at h
      cases h
    | none =>
      rw [Reply.andThen_of_ok he, play_singleton] at h ⊢
      exact hstep events _ _ event (ih he) h

/-! ### Runs that fail -/

section

variable {m : Machine B D} {r : Run} {d : D} {e : Error}

/-- A run that fails does so at one event, and takes those before it. -/
theorem exists_failing {events : List Event} (h : (m.play events r d).error = some e) :
    ∃ pre event post, events = pre ++ event :: post ∧ (m.play pre r d).error = none ∧
      (m.step (m.play pre r d).run event (m.play pre r d).data).error = some e := by
  induction events generalizing r d with
  | nil => cases h
  | cons event events ih =>
    cases hs : (m.step r event d).error with
    | some stopped =>
      rw [play, Reply.andThen_of_error hs] at h
      exact ⟨[], event, events, rfl, rfl, h⟩
    | none =>
      rw [play, Reply.andThen_of_ok hs] at h
      obtain ⟨pre, failing, post, rfl, hpre, hfails⟩ := ih h
      refine ⟨event :: pre, failing, post, rfl, ?_⟩
      rw [play, Reply.andThen_of_ok hs]
      exact ⟨hpre, hfails⟩

/-- A run that ends with an error ends with it whatever follows. -/
theorem play_of_error {pre : List Event} (h : (m.play pre r d).error = some e) (post : List Event) :
    m.play (pre ++ post) r d = m.play pre r d := by
  rw [play_append, Reply.andThen_of_error h]

/-- The event at which a run fails decides its error and its data. -/
theorem play_of_failing {pre : List Event} {event : Event} (hpre : (m.play pre r d).error = none)
    (h : (m.step (m.play pre r d).run event (m.play pre r d).data).error = some e)
    (post : List Event) :
    (m.play (pre ++ event :: post) r d).error = some e ∧
      (m.play (pre ++ event :: post) r d).data =
        (m.step (m.play pre r d).run event (m.play pre r d).data).data := by
  rw [play_append, Reply.andThen_of_ok hpre, play, Reply.andThen_of_error h]
  exact ⟨h, rfl⟩

end

/-! ### Sources of events -/

theorem drain_of_none {σ : Type} (m : Machine B D) {src : EventSource σ} {s t : σ}
    (h : src.poll s = (none, t)) (r : Run) (d : D) :
    m.drain src s r d = ⟨r, d, none, [.finished r.done r.depth]⟩ := by
  rw [drain]
  split <;> simp_all

theorem drain_of_event {σ : Type} (m : Machine B D) {src : EventSource σ} {s t : σ}
    {event : Event} (h : src.poll s = (some (.ok event), t)) (r : Run) (d : D) :
    m.drain src s r d = (m.step r event d).andThen (m.drain src t) := by
  rw [drain]
  split
  · simp_all
  · simp_all
  · rename_i found rest _
    obtain ⟨rfl, rfl⟩ : found = event ∧ rest = t := by simp_all
    rfl

theorem drain_of_failure {σ : Type} (m : Machine B D) {src : EventSource σ} {s t : σ}
    {failure : String} (h : src.poll s = (some (.error failure), t)) (r : Run) (d : D) :
    m.drain src s r d = ⟨{ r with poisoned := true }, d, some { cause := .source failure }, []⟩ := by
  rw [drain]
  split <;> simp_all

/-- Draining a source that holds a list of events plays them and notes the end. -/
theorem drain_ofList (m : Machine B D) (events : List Event) (r : Run) (d : D) :
    m.drain .ofList (events.map .ok) r d =
      (m.play events r d).andThen fun r d => ⟨r, d, none, [.finished r.done r.depth]⟩ := by
  induction events generalizing r d with
  | nil => exact m.drain_of_none (t := []) rfl r d
  | cons event events ih =>
    rw [List.map_cons, m.drain_of_event (t := events.map .ok) rfl, play, Reply.andThen_assoc]
    congr 1
    funext r d
    exact ih r d

end Machine
end StreamSelect
