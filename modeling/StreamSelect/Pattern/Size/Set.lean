import StreamSelect.Pattern.ByteRange
import StreamSelect.Pattern.Size.Tally
import StreamSelect.Pattern.Slots

/-! What sets of characters add to an automaton. Sequences of byte ranges share states: forward those
of their ends, backward those of their starts. What can be shared is looked up in a memory with so
many slots, which is empty at the start of each set. -/
namespace StreamSelect.Pattern

open Unicode

/-- Forward, the memory finds states by their transitions. -/
def forwardSlots : Nat := 10000

/-- Backward, the memory finds states by the one that they lead to and the bytes that they read. -/
def backwardSlots : Nat := 1000

/-- The automaton so far, with the memory of the set that is added. -/
structure SetDraft where
  tally : Tally
  memory : Slots

/-- Neighbouring sequences that begin alike, with what remains of them. -/
def groupByFirst : List (List ByteRange) → List (ByteRange × List (List ByteRange))
  | [] => []
  | [] :: rest => groupByFirst rest
  | (range :: tail) :: rest =>
    match groupByFirst rest with
    | (range', tails) :: groups =>
      if range = range' then (range, tail :: tails) :: groups
      else (range, [tail]) :: (range', tails) :: groups
    | [] => [(range, [tail])]

namespace SetDraft

/-- The number of the state that a key stands for. Unless the memory holds it, `added` is added. -/
def share (s : SetDraft) (key : List Nat) (added : Tally) : Nat × SetDraft :=
  match s.memory.get? key with
  | some number => (number, s)
  | none => (s.tally.states, ⟨s.tally + added, s.memory.put key s.tally.states⟩)

/-- The state where sequences of so many ranges at most begin that end in the state `goal`. States
come after those that they lead to. -/
def addForward (goal : Nat) : Nat → List (List ByteRange) → SetDraft → Nat × SetDraft
  | 0, _, s => (goal, s)
  | depth + 1, sequences, s =>
    if sequences.all (·.isEmpty) then (goal, s)
    else
      let groups := groupByFirst sequences
      let (key, s) := groups.foldl (fun (key, s) ((first, last), tails) =>
        let (target, s) := addForward goal depth tails s
        (key ++ [first, last, target], s)) ([], s)
      s.share key (.reader groups.length)

/-- The state that the ranges of a sequence lead to one after another, beginning at the state
`goal`. -/
def addBackward (goal : Nat) (sequence : List ByteRange) (s : SetDraft) : Nat × SetDraft :=
  sequence.foldl (fun (target, s) (first, last) => s.share [target, first, last] (.plain 1))
    (goal, s)

end SetDraft

/-- Forward, the sequences come together in one state. -/
def addForward (sequences : List (List ByteRange)) (t : Tally) : Tally :=
  (SetDraft.addForward t.states 4 sequences ⟨t + .plain 1, ⟨forwardSlots, {}⟩⟩).2.tally

/-- Backward, a fork leads to the sequences and they come together in one state. -/
def addBackward (sequences : List (List ByteRange)) (t : Tally) : Tally :=
  let start : SetDraft := ⟨t + .fork sequences.length + .plain 1, ⟨backwardSlots, {}⟩⟩
  (sequences.foldl (fun s sequence => (s.addBackward (t.states + 1) sequence).2) start).tally

/-- ASCII characters are read in one step. -/
def Extension.ofSet (d : Direction) (set : CharSet) : Extension :=
  if set.isAscii then .fixed (.plain 1 + .reader set.ranges.size)
  else
    let sequences := byteSequences set
    match d with
    | .forward => .placed (addForward sequences)
    | .backward => .placed (addBackward sequences)

end StreamSelect.Pattern
