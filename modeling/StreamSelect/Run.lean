import StreamSelect.Handler
import StreamSelect.Filter

/-! The state of a run over events. A run has a frame for each open element: the state the element
entered and the states whose rules hold inside it. Limits count entries in one run. -/
namespace StreamSelect

/-- One open element. -/
structure Frame where
  state : StateId
  /-- States whose rules hold inside the element, nearest first. -/
  scope : List StateId
  element : StartElement
  deriving Inhabited

structure Run where
  /-- Open elements, innermost first. -/
  frames : List Frame := []
  /-- How many elements may still enter a limited state; states not entered yet are absent. -/
  remaining : List (StateId × Nat) := []
  /-- The document element has closed. -/
  done : Bool := false
  poisoned : Bool := false
  /-- The last location seen. -/
  location : Option Location := none
  deriving Inhabited

/-- What happened inside a run, beside its effect. -/
inductive Note where
  | consulted (c : Consultation)
  | entered (element : Name) (source target : StateId) (depth : Nat)
  | left (element : Name) (state : StateId) (depth : Nat)
  | started (root : StateId)
  | finished (done : Bool) (depth : Nat)
  | reading (bytes : Nat) (trimText : Bool)
  deriving Repr, DecidableEq, Inhabited

/-- The record of a note. Filters leave none. -/
def Note.record? : Note → Option Record
  | .consulted _ => none
  | .entered element source target depth =>
    some ⟨.trace, "enter", [("element", element.display), ("from", source.describe),
      ("to", target.describe), ("depth", toString depth)]⟩
  | .left element state depth =>
    some ⟨.trace, "leave", [("element", element.display), ("state", state.describe),
      ("depth", toString depth)]⟩
  | .started root => some ⟨.debug, "run started", [("root", root.describe)]⟩
  | .finished done depth =>
    some ⟨.debug, "run finished", [("done", toString done), ("depth", toString depth)]⟩
  | .reading bytes trimText =>
    some ⟨.debug, "parsing text", [("bytes", toString bytes), ("trim_text", toString trimText)]⟩

/-- What an event leaves: the run, its data, the error it met, and notes. -/
structure Reply (D : Type) where
  run : Run
  data : D
  error : Option Error := none
  notes : List Note := []

namespace Run

variable {D : Type}

def depth (r : Run) : Nat := r.frames.length

/-- Keeps the location of an event that has one. -/
def locate (r : Run) (location : Option Location) : Run :=
  { r with location := location.or r.location }

/-- How many elements may still enter a state with this limit. -/
def remainingIn (r : Run) (s : StateId) (limit : Nat) : Nat := (r.remaining.lookup s).getD limit

def setRemaining (r : Run) (s : StateId) (n : Nat) : Run :=
  { r with remaining := (s, n) :: r.remaining.filter fun entry => !(entry.1 == s) }

/-- Ends a run with an error at the last location seen. -/
def fail (r : Run) (d : D) (cause : Cause) (notes : List Note) : Reply D :=
  ⟨{ r with poisoned := true }, d, some ⟨cause, r.location⟩, notes⟩

/-- Takes the outcome of callbacks: `next` is the run if all went well, `stopped` if one failed. -/
def settle (next stopped : Run) (reaction : Reaction D) (notes : List Note) : Reply D :=
  match reaction.failure with
  | none => ⟨next, reaction.data, none, notes⟩
  | some message => stopped.fail reaction.data (.handler message) notes

end Run

end StreamSelect
