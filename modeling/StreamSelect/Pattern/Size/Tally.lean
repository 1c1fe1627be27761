/-! What an automaton takes while it is built: its states, which are numbered as they come, and its
bytes. Most parts of an expression always add the same; some add more or less according to how many
states there are before them. -/
namespace StreamSelect.Pattern

/-- How many bytes an automaton may take. -/
def maxSize : Nat := 10485760

/-- A state, without what is stored apart. -/
def stateSize : Nat := 32

/-- A byte range with the state it leads to. -/
def transitionSize : Nat := 8

/-- A state that is entered without reading. -/
def alternativeSize : Nat := 4

/-- Which way an automaton reads. -/
inductive Direction where
  | forward
  | backward
  deriving Repr, DecidableEq, Inhabited

/-- The states and the bytes so far. The next state is numbered by how many there are. -/
structure Tally where
  states : Nat := 0
  bytes : Nat := 0
  deriving Repr, DecidableEq, Inhabited

namespace Tally

instance : Add Tally := ⟨fun a b => ⟨a.states + b.states, a.bytes + b.bytes⟩⟩

/-- As many times over. -/
def scale (n : Nat) (t : Tally) : Tally := ⟨n * t.states, n * t.bytes⟩

/-- States that read one byte or none and lead to one other. -/
def plain (count : Nat) : Tally := ⟨count, stateSize * count⟩

/-- A state that reads bytes of several ranges. -/
def reader (ranges : Nat) : Tally := ⟨1, stateSize + transitionSize * ranges⟩

/-- A state that goes on with one of several others. -/
def fork (alternatives : Nat) : Tally := ⟨1, stateSize + alternativeSize * alternatives⟩

/-- True once there is no more room. -/
def isFull (t : Tally) : Bool := maxSize < t.bytes

@[simp] theorem states_add (a b : Tally) : (a + b).states = a.states + b.states := rfl

@[simp] theorem bytes_add (a b : Tally) : (a + b).bytes = a.bytes + b.bytes := rfl

theorem add_assoc (a b c : Tally) : a + b + c = a + (b + c) := by
  change Tally.mk _ _ = Tally.mk _ _
  simp [Nat.add_assoc]

end Tally

/-- What a part of an expression adds to an automaton: always the same, or what depends on the
automaton before it. -/
inductive Extension where
  | fixed (added : Tally)
  | placed (extend : Tally → Tally)

namespace Extension

/-- The automaton with the part. -/
def apply : Extension → Tally → Tally
  | fixed added, t => t + added
  | placed extend, t => extend t

/-- One part and then another. -/
def append : Extension → Extension → Extension
  | fixed a, fixed b => fixed (a + b)
  | a, b => placed fun t => b.apply (a.apply t)

instance : Append Extension := ⟨append⟩

theorem apply_append (a b : Extension) (t : Tally) :
    (a ++ b).apply t = b.apply (a.apply t) := by
  change (a.append b).apply t = _
  cases a <;> cases b <;> simp [append, apply, Tally.add_assoc]

/-- Repeats what is added, as long as there is room. -/
def rounds (extend : Tally → Tally) : Nat → Tally → Tally
  | 0, t => t
  | n + 1, t => if t.isFull then t else rounds extend n (extend t)

/-- A part a number of times. -/
def times (n : Nat) : Extension → Extension
  | fixed added => fixed (added.scale n)
  | placed extend => placed (rounds extend n)

/-- States that read one byte or none. -/
def plain (count : Nat) : Extension := fixed (.plain count)

/-- A state that goes on with one of several others. -/
def fork (alternatives : Nat) : Extension := fixed (.fork alternatives)

end Extension
end StreamSelect.Pattern
