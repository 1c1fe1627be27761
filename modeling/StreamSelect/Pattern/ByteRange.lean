import StreamSelect.Unicode.CharSet

/-! The bytes of characters. A set of characters is a list of sequences of byte ranges: a sequence
stands for all characters whose bytes lie in its ranges one by one, and the sequences come in
ascending order. -/
namespace StreamSelect.Pattern

open Unicode

/-- The bytes of a code point. -/
def bytesOfCode (code : Nat) : List Nat :=
  if code < 0x80 then [code]
  else if code < 0x800 then [0xC0 + code / 64, 0x80 + code % 64]
  else if code < 0x10000 then [0xE0 + code / 4096, 0x80 + code / 64 % 64, 0x80 + code % 64]
  else [0xF0 + code / 262144, 0x80 + code / 4096 % 64, 0x80 + code / 64 % 64, 0x80 + code % 64]

def bytesOfChars (chars : List Char) : List Nat := chars.flatMap fun c => bytesOfCode c.toNat

/-- A byte from one to another. -/
abbrev ByteRange := Nat × Nat

/-- Code points with as many bytes, the surrogates left out, and the sizes of the blocks that share
all but the last bytes. -/
def codeBlocks : List (Nat × Nat × List Nat) :=
  [(0, 0x7F, []), (0x80, 0x7FF, [64]), (0x800, 0xD7FF, [64, 4096]), (0xE000, 0xFFFF, [64, 4096]),
   (0x10000, 0x10FFFF, [64, 4096, 262144])]

/-- Cuts a range of code points into pieces that are full in all bytes after the first one in which
their ends differ: what does not fill a block is cut off at both ends, from small blocks to large. -/
def fullPieces : List Nat → Nat → Nat → List (Nat × Nat)
  | [], first, last => [(first, last)]
  | size :: larger, first, last =>
    if first / size = last / size then [(first, last)]
    else
      let first' := if first % size = 0 then first else (first / size + 1) * size
      let last' := if last % size = size - 1 then last else last / size * size - 1
      (if first < first' then [(first, first' - 1)] else []) ++
        (if first' ≤ last' then fullPieces larger first' last' else []) ++
        if last' < last then [(last' + 1, last)] else []

/-- The sequences of byte ranges of a set. -/
def byteSequences (set : CharSet) : List (List ByteRange) :=
  set.ranges.toList.flatMap fun (first, last) =>
    codeBlocks.flatMap fun (blockFirst, blockLast, sizes) =>
      let low := max first blockFirst
      let high := min last blockLast
      if low ≤ high then
        (fullPieces sizes low high).map fun (a, b) => (bytesOfCode a).zip (bytesOfCode b)
      else []

end StreamSelect.Pattern
