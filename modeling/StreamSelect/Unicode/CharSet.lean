/-! Sets of characters as ranges of code points in ascending order. A table is written as lines of
numbers in pairs: the gap since the range before, and how many code points follow the first of the
range. Sets are combined at their boundaries, the code points from which on membership changes. -/
namespace StreamSelect.Unicode

structure CharSet where
  ranges : Array (Nat × Nat)
  deriving Repr, DecidableEq, Inhabited

namespace CharSet

/-- Ranges from gap and length, counted from a code point on. -/
def ofGaps : Nat → List Nat → List (Nat × Nat)
  | start, gap :: extra :: rest =>
    (start + gap, start + gap + extra) :: ofGaps (start + gap + extra + 1) rest
  | _, _ => []

def ofLines (lines : List String) : CharSet :=
  ⟨(ofGaps 0 ((lines.flatMap (·.splitOn " ")).filterMap String.toNat?)).toArray⟩

def empty : CharSet := ⟨#[]⟩

/-- The last code point. -/
def lastCode : Nat := 0x10FFFF

def all : CharSet := ⟨#[(0, lastCode)]⟩

def range (first last : Char) : CharSet := ⟨#[(first.toNat, last.toNat)]⟩

def single (c : Char) : CharSet := range c c

def ascii : CharSet := range '\x00' '\x7f'

/-! ### Membership -/

/-- Looks for the range of a code point between two indices, halving what is left. -/
def find (s : CharSet) (code low high : Nat) : Bool :=
  if low < high then
    let middle := (low + high) / 2
    match s.ranges[middle]? with
    | none => false
    | some (first, last) =>
      if code < first then s.find code low middle
      else if last < code then s.find code (middle + 1) high
      else true
  else false
termination_by high - low

def containsCode (s : CharSet) (code : Nat) : Bool := s.find code 0 s.ranges.size

def contains (s : CharSet) (c : Char) : Bool := s.containsCode c.toNat

def isEmpty (s : CharSet) : Bool := s.ranges.isEmpty

/-- The one character of a set that has no other. -/
def only? (s : CharSet) : Option Char :=
  match s.ranges.toList with
  | [(first, last)] => if first = last then some (Char.ofNat first) else none
  | _ => none

/-- The least and the greatest code point. -/
def bounds? (s : CharSet) : Option (Nat × Nat) := do
  let (first, _) ← s.ranges[0]?
  let (_, last) ← s.ranges.back?
  some (first, last)

def isAscii (s : CharSet) : Bool := s.bounds?.all fun bounds => bounds.2 < 0x80

@[simp] theorem find_self (s : CharSet) (code place : Nat) : s.find code place place = false := by
  rw [find]
  simp

theorem contains_range (first last c : Char) :
    (range first last).contains c = (first.toNat ≤ c.toNat && c.toNat ≤ last.toNat) := by
  simp only [contains, containsCode, range, List.size_toArray, List.length_singleton]
  rw [find]
  by_cases hlow : c.toNat < first.toNat
  · simp [hlow, Nat.not_le_of_lt hlow]
  · by_cases hhigh : last.toNat < c.toNat
    · simp [hlow, hhigh, Nat.not_le_of_lt hhigh]
    · simp [hlow, hhigh, Nat.le_of_not_lt hlow, Nat.le_of_not_lt hhigh]

@[simp] theorem contains_empty (c : Char) : empty.contains c = false := find_self ..

theorem contains_single (a c : Char) : (single a).contains c = (a == c) := by
  rw [single, contains_range, Bool.eq_iff_iff]
  simp only [Bool.and_eq_true, decide_eq_true_eq, beq_iff_eq]
  exact ⟨fun h => Char.ext (UInt32.toNat_inj.mp (Nat.le_antisymm h.1 h.2)), fun h => by simp [h]⟩

/-! ### Boundaries -/

def isSurrogate (code : Nat) : Bool := 0xD800 ≤ code && code ≤ 0xDFFF

def boundaries (s : CharSet) : List Nat :=
  s.ranges.toList.flatMap fun (first, last) => [first, last + 1]

/-- The ranges that boundaries in pairs enclose, without surrogates at their ends. -/
def ofBoundaries : List Nat → List (Nat × Nat)
  | start :: stop :: rest =>
    let first := if isSurrogate start then 0xE000 else start
    let last := if isSurrogate (stop - 1) then 0xD7FF else stop - 1
    if first ≤ last then (first, last) :: ofBoundaries rest else ofBoundaries rest
  | _ => []

/-- Boundaries met twice are none. -/
def cancel (boundaries : List Nat) : List Nat :=
  boundaries.foldr (fun b found => if found.head? == some b then found.tail else b :: found) []

/-- The boundaries of what `test` makes of the membership in two sets, from a place on where that
membership is known. -/
def sweep (test : Bool → Bool → Bool) (inA inB : Bool) (as bs : List Nat) : List Nat :=
  match as, bs with
  | [], [] => []
  | a :: as', [] =>
    let rest := sweep test (!inA) inB as' []
    if test inA inB == test (!inA) inB then rest else a :: rest
  | [], b :: bs' =>
    let rest := sweep test inA (!inB) [] bs'
    if test inA inB == test inA (!inB) then rest else b :: rest
  | a :: as', b :: bs' =>
    if a ≤ b then
      let rest := sweep test (!inA) inB as' (b :: bs')
      if test inA inB == test (!inA) inB then rest else a :: rest
    else
      let rest := sweep test inA (!inB) (a :: as') bs'
      if test inA inB == test inA (!inB) then rest else b :: rest
termination_by as.length + bs.length

/-- The set that `test` makes of two sets; what is in neither is not in it. -/
def combine (test : Bool → Bool → Bool) (a b : CharSet) : CharSet :=
  ⟨(ofBoundaries (cancel (sweep test false false a.boundaries b.boundaries))).toArray⟩

def union (a b : CharSet) : CharSet := combine (· || ·) a b

def inter (a b : CharSet) : CharSet := combine (· && ·) a b

def diff (a b : CharSet) : CharSet := combine (fun inA inB => inA && !inB) a b

def symmetric (a b : CharSet) : CharSet := combine (· != ·) a b

def unionAll : List CharSet → CharSet
  | [] => empty
  | [s] => s
  | s :: rest => s.union (unionAll rest)

/-- Each of the numbers in ascending order once. -/
def dropRepeated (numbers : List Nat) : List Nat :=
  numbers.foldr (fun n found => if found.head? == some n then found else n :: found) []

/-- The set of code points in any order. -/
def ofCodes (codes : List Nat) : CharSet :=
  let ascending := dropRepeated codes.mergeSort
  ⟨(ofBoundaries (cancel (ascending.flatMap fun code => [code, code + 1]))).toArray⟩

/-! ### Complement -/

/-- The character after one, past the surrogates. -/
def nextCode (code : Nat) : Nat := if code = 0xD7FF then 0xE000 else code + 1

/-- The character before one, past the surrogates. -/
def previousCode (code : Nat) : Nat := if code = 0xE000 then 0xD7FF else code - 1

/-- What lies between a range that ends at `last` and one that begins at `first`. Where no character
does, because only the surrogates lie there, it is the two characters themselves. -/
def gap (last first : Nat) : Nat × Nat :=
  let low := nextCode last
  let high := previousCode first
  if low ≤ high then (low, high) else (high, low)

/-- The gaps behind a range that ends at `last`. -/
def gapsAfter (last : Nat) : List (Nat × Nat) → List (Nat × Nat)
  | [] => if last < lastCode then [(nextCode last, lastCode)] else []
  | (first, last') :: rest => gap last first :: gapsAfter last' rest

def complement (s : CharSet) : CharSet :=
  match s.ranges.toList with
  | [] => all
  | (first, last) :: rest =>
    let before := if 0 < first then [(0, previousCode first)] else []
    ⟨(before ++ gapsAfter last rest).toArray⟩

end CharSet
end StreamSelect.Unicode
