import StreamSelect.Location

/-! Lines and columns of byte offsets that never go back. A column counts characters: the bytes that
continue a character are not counted. Counts stop at 32 bits. -/
namespace StreamSelect.Markup

def maxCount : Nat := 4294967295

structure LineTracker where
  bytes : Array UInt8
  offset : Nat
  line : Nat
  column : Nat
  deriving Repr, Inhabited

namespace LineTracker

def ofBytes (bytes : Array UInt8) : LineTracker := ⟨bytes, 0, 1, 1⟩

def isContinuation (b : UInt8) : Bool := b &&& 0xC0 == 0x80

/-- Line and column after one more byte. -/
def count (place : Nat × Nat) (b : UInt8) : Nat × Nat :=
  if b = 10 then (min (place.1 + 1) maxCount, 1)
  else if isContinuation b then place
  else (place.1, min (place.2 + 1) maxCount)

/-- Line and column at a later offset. -/
def placeAt (t : LineTracker) (offset : Nat) : Nat × Nat :=
  (t.bytes.extract t.offset offset).foldl count (t.line, t.column)

/-- Moves on to an offset, or to the end of the text if that comes first. -/
def advance (t : LineTracker) (goal : Nat) : LineTracker :=
  if t.offset < min goal t.bytes.size then
    { t with
      offset := min goal t.bytes.size
      line := (t.placeAt (min goal t.bytes.size)).1
      column := (t.placeAt (min goal t.bytes.size)).2 }
  else t

def location (t : LineTracker) : Location := ⟨t.line, t.column, t.offset⟩

@[simp] theorem advance_bytes (t : LineTracker) (goal : Nat) : (t.advance goal).bytes = t.bytes := by
  unfold advance
  split <;> rfl

@[simp] theorem advance_offset (t : LineTracker) (goal : Nat) :
    (t.advance goal).offset = max t.offset (min goal t.bytes.size) := by
  unfold advance
  split
  · simp only
    omega
  · omega

end LineTracker
end StreamSelect.Markup
