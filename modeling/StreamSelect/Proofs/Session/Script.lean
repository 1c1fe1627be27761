import StreamSelect.Proofs.Run.Play

/-! What a source gives when it is polled: events, and then its end or a failure. A run over a source
takes these events in order and sees nothing else of the source. -/
namespace StreamSelect

/-- What one poll gives. -/
abbrev Poll := Option (Except String Event)

/-- The events of a source before its end, or before the failure that ends it. -/
structure Script where
  events : List Event
  failure : Option String

namespace Script

def cons (event : Event) (s : Script) : Script := ⟨event :: s.events, s.failure⟩

def drop (s : Script) (n : Nat) : Script := ⟨s.events.drop n, s.failure⟩

/-- What the polls give, up to the first that gives no event. -/
def polls (s : Script) : List Poll :=
  s.events.map (fun event => some (.ok event)) ++ [s.failure.map .error]

@[simp] theorem length_polls (s : Script) : s.polls.length = s.events.length + 1 := by
  simp [polls]

theorem take_succ_polls {s : Script} {n : Nat} (h : n < s.events.length) :
    s.polls.take (n + 1) = s.polls.take n ++ [some (.ok s.events[n])] := by
  have hn : n < s.polls.length := by
    rw [length_polls]
    omega
  rw [List.take_add_one, List.getElem?_eq_getElem hn, Option.toList_some]
  simp [polls, List.getElem_append_left, h]

/-- The last poll gives the end or the failure. -/
theorem take_length_polls (s : Script) :
    s.polls = s.polls.take s.events.length ++ [s.failure.map .error] := by
  simp [polls]

/-- A script that goes on with an event. -/
theorem of_drop_eq_cons {s later : Script} {n : Nat} {event : Event}
    (h : later.cons event = s.drop n) :
    ∃ hn : n < s.events.length, s.events[n] = event ∧ later = s.drop (n + 1) := by
  simp only [cons, drop, Script.mk.injEq] at h
  obtain ⟨hevents, hfailure⟩ := h
  have hn : n < s.events.length := by
    have hlength := congrArg List.length hevents
    simp only [List.length_cons, List.length_drop] at hlength
    omega
  rw [List.drop_eq_getElem_cons hn, List.cons.injEq] at hevents
  refine ⟨hn, hevents.1.symm, ?_⟩
  rw [drop, ← hevents.2, ← hfailure]

/-- A script that has no more events. -/
theorem of_drop_eq_nil {s : Script} {n : Nat} {failure : Option String}
    (h : ⟨[], failure⟩ = s.drop n) : s.events.length ≤ n ∧ s.failure = failure := by
  simp only [drop, Script.mk.injEq] at h
  exact ⟨List.drop_eq_nil_iff.1 h.1.symm, h.2.symm⟩

end Script

namespace EventSource

variable {σ : Type}

/-- What a source gives from a state on. -/
def script (src : EventSource σ) (s : σ) : Script :=
  match _h : src.poll s with
  | (none, _) => ⟨[], none⟩
  | (some (.error failure), _) => ⟨[], some failure⟩
  | (some (.ok event), rest) => (script src rest).cons event
termination_by src.size s
decreasing_by exact src.size_lt _ _ _ ‹_›

theorem script_of_none {src : EventSource σ} {s t : σ} (h : src.poll s = (none, t)) :
    src.script s = ⟨[], none⟩ := by
  rw [script]
  split <;> simp_all

theorem script_of_failure {src : EventSource σ} {s t : σ} {failure : String}
    (h : src.poll s = (some (.error failure), t)) : src.script s = ⟨[], some failure⟩ := by
  rw [script]
  split <;> simp_all

theorem script_of_event {src : EventSource σ} {s t : σ} {event : Event}
    (h : src.poll s = (some (.ok event), t)) : src.script s = (src.script t).cons event := by
  rw [script]
  split
  · simp_all
  · simp_all
  · rename_i found rest _
    obtain ⟨rfl, rfl⟩ : found = event ∧ rest = t := by simp_all
    rfl

/-- What a number of polls give, one after the other. -/
def pollTimes (src : EventSource σ) : Nat → σ → List Poll
  | 0, _ => []
  | n + 1, s => (src.poll s).1 :: pollTimes src n (src.poll s).2

/-- A source that keeps what each poll gave, the first poll first. -/
def recorded (src : EventSource σ) : EventSource (σ × List Poll) where
  poll s := ((src.poll s.1).1, (src.poll s.1).2, s.2 ++ [(src.poll s.1).1])
  size s := src.size s.1
  size_lt s item s' h := by
    obtain ⟨hitem, rfl⟩ := Prod.mk.injEq _ _ _ _ ▸ h
    exact src.size_lt s.1 item _ (Prod.ext hitem rfl)

end EventSource

namespace Machine

variable {B D σ : Type}

/-- What follows the last event of a source: its end or its failure. -/
def conclude (failure : Option String) (r : Run) (d : D) : Reply D :=
  match failure with
  | none => ⟨r, d, none, [.finished r.done r.depth]⟩
  | some text => ⟨{ r with poisoned := true }, d, some { cause := .source text }, []⟩

/-- A run over a source plays the events it gives. -/
theorem drain_eq_play (m : Machine B D) (src : EventSource σ) (s : σ) (r : Run) (d : D) :
    m.drain src s r d =
      (m.play (src.script s).events r d).andThen (conclude (src.script s).failure) := by
  fun_induction src.script s generalizing r d with
  | case1 s t h =>
    rw [m.drain_of_none h]
    rfl
  | case2 s failure t h =>
    rw [m.drain_of_failure h]
    rfl
  | case3 s event rest h ih =>
    rw [m.drain_of_event h, Script.cons, play, Reply.andThen_assoc]
    congr 1
    funext r d
    exact ih r d

end Machine
end StreamSelect
