import StreamSelect.Machine

/-! Runs advanced one event at a time by their caller. A session looks at most one event ahead. -/
namespace StreamSelect

structure Session (σ : Type) where
  run : Run := {}
  source : σ
  /-- An event, or a failure of the source, that was asked for and not processed yet. -/
  pending : Option (Except String Event) := none
  exhausted : Bool := false

/-- What processing one event leaves. -/
structure SessionReply (σ D : Type) where
  session : Session σ
  data : D
  result : Except Error Event
  notes : List Note := []

namespace Session

variable {σ B D : Type}

/-- Looks at the next event of the source, unless one is held already. -/
def peek (src : EventSource σ) (s : Session σ) : Session σ :=
  if s.pending.isSome || s.exhausted then s
  else
    let (item, source) := src.poll s.source
    { s with source, pending := item, exhausted := item.isNone }

/-- True if another event is available. -/
def hasMore (src : EventSource σ) (s : Session σ) : Bool := (s.peek src).pending.isSome

/-- Processes the next event. A failure of the source ends the session and leaves the run as it is. -/
def advance (m : Machine B D) (src : EventSource σ) (s : Session σ) (d : D) : SessionReply σ D :=
  let s := s.peek src
  match s.pending with
  | none => ⟨s, d, .error ⟨.protocol .noMoreEvents, s.run.location⟩, []⟩
  | some (.error failure) =>
    ⟨{ s with pending := none, exhausted := true }, d, .error { cause := .source failure }, []⟩
  | some (.ok event) =>
    let reply := m.step s.run event d
    let result := match reply.error with
      | some e => .error e
      | none => .ok event
    ⟨{ s with run := reply.run, pending := none }, reply.data, result, reply.notes⟩

def describe (m : Machine B D) (s : Session σ) : String :=
  "ParseSession \x7b executor: " ++ m.describe s.run ++ ", buffered: " ++
    toString s.pending.isSome ++ ", exhausted: " ++ toString s.exhausted ++ ", .. \x7d"

end Session
end StreamSelect
