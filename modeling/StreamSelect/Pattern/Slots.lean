import Std.Data.HashMap

/-! A memory with a fixed number of slots for what has been built. The hash of a key says which slot
it belongs to. A slot holds its last key with what was noted for it and forgets the one before, so
keys are never confused, but one may be lost. -/
namespace StreamSelect.Pattern

/-- The hash of numbers one after another: each is mixed in by an exclusive or, then spread by a
multiplication with a prime. -/
def mixedHash (numbers : List Nat) : UInt64 :=
  numbers.foldl (fun hash n => (hash ^^^ UInt64.ofNat n) * 0x100000001B3) 0xCBF29CE484222325

/-- So many slots, each with a key and what is noted for it. -/
structure Slots where
  count : Nat
  held : Std.HashMap Nat (List Nat × Nat) := {}

namespace Slots

def slotOf (s : Slots) (key : List Nat) : Nat := (mixedHash key).toNat % s.count

/-- What is noted for a key, if its slot holds it. -/
def get? (s : Slots) (key : List Nat) : Option Nat :=
  match s.held[s.slotOf key]? with
  | some (key', note) => if key' = key then some note else none
  | none => none

/-- Puts a key into its slot. -/
def put (s : Slots) (key : List Nat) (note : Nat) : Slots :=
  { s with held := s.held.insert (s.slotOf key) (key, note) }

@[simp] theorem slotOf_put (s : Slots) (key key' : List Nat) (note : Nat) :
    (s.put key note).slotOf key' = s.slotOf key' := rfl

/-- The last key of a slot is the only one that it holds. -/
theorem get?_put (s : Slots) (key key' : List Nat) (note : Nat) :
    (s.put key note).get? key' =
      if key = key' then some note
      else if s.slotOf key = s.slotOf key' then none
      else s.get? key' := by
  simp only [get?, slotOf_put]
  by_cases hkey : key = key'
  · simp [put, hkey]
  · by_cases hslot : s.slotOf key = s.slotOf key'
    · simp [put, hkey, hslot]
    · simp [put, hkey, hslot, Std.HashMap.getElem?_insert]

@[simp] theorem get?_put_self (s : Slots) (key : List Nat) (note : Nat) :
    (s.put key note).get? key = some note := by
  simp [get?_put]

end Slots
end StreamSelect.Pattern
