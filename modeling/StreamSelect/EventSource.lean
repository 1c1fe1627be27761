import StreamSelect.Event

/-! Finite sources of events, polled one event at a time. -/
namespace StreamSelect

/-- A source with states `σ`. A poll gives an event, a failure with its text, or nothing; what a
source still holds shrinks with every poll that gives something. -/
structure EventSource (σ : Type) where
  poll : σ → Option (Except String Event) × σ
  size : σ → Nat
  size_lt : ∀ s item s', poll s = (some item, s') → size s' < size s

namespace EventSource

def pollList : List (Except String Event) → Option (Except String Event) × List (Except String Event)
  | [] => (none, [])
  | item :: rest => (some item, rest)

/-- Gives the items of a list in order. -/
def ofList : EventSource (List (Except String Event)) where
  poll := pollList
  size := List.length
  size_lt s item s' h := by
    cases s with
    | nil => simp [pollList] at h
    | cons a rest =>
      simp only [pollList, Prod.mk.injEq] at h
      simp [h.2]

end EventSource
end StreamSelect
