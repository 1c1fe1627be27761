import StreamSelect.Unicode.CharSet
import StreamSelect.Unicode.BinaryProperty
import StreamSelect.Unicode.Category

/-! Regular expressions over characters with tests of the place between two characters. The
functions that build them keep a normal form: sequences and choices hang to the right, parts of a
sequence are no sequences, neighbouring texts are one text, and a choice of characters is a set. -/
namespace StreamSelect.Pattern

open Unicode

/-- Letters, marks, digits, connectors and joiners: what a word is made of. -/
def wordSet : CharSet :=
  .unionAll (BinaryProperty.alphabetic.set :: BinaryProperty.joinControl.set ::
    Category.table .decimalNumber :: Category.table .connectorPunctuation ::
    Category.mark.map (·.table))

def isWordChar (c : Char) : Bool :=
  if c.val < 0x80 then c.isAlphanum || c == '_' else wordSet.contains c

def isAsciiWordChar (c : Char) : Bool := c.val < 0x80 && (c.isAlphanum || c == '_')

/-- A test of the place between two characters. Tests of words take either all letters or, where
`ascii` is set, the ASCII ones only. -/
inductive Look where
  | textStart
  | textEnd
  | lineStart
  | lineEnd
  | carriageLineStart
  | carriageLineEnd
  | boundary (ascii : Bool)
  | noBoundary (ascii : Bool)
  | wordStart (ascii : Bool)
  | wordEnd (ascii : Bool)
  | wordStartHalf (ascii : Bool)
  | wordEndHalf (ascii : Bool)
  deriving Repr, DecidableEq, Inhabited

/-- Whether a neighbour is there and belongs to a word. -/
def inWord (ascii : Bool) (neighbour : Option Char) : Bool :=
  neighbour.any (if ascii then isAsciiWordChar else isWordChar)

/-- The test at the place between the characters `prev` and `next`, where there are such. -/
def Look.holds (prev next : Option Char) : Look → Bool
  | textStart => prev.isNone
  | textEnd => next.isNone
  | lineStart => prev.isNone || prev == some '\n'
  | lineEnd => next.isNone || next == some '\n'
  | carriageLineStart =>
    prev.isNone || prev == some '\n' || (prev == some '\r' && next != some '\n')
  | carriageLineEnd =>
    next.isNone || next == some '\r' || (next == some '\n' && prev != some '\r')
  | boundary ascii => inWord ascii prev != inWord ascii next
  | noBoundary ascii => inWord ascii prev == inWord ascii next
  | wordStart ascii => !inWord ascii prev && inWord ascii next
  | wordEnd ascii => inWord ascii prev && !inWord ascii next
  | wordStartHalf ascii => !inWord ascii prev
  | wordEndHalf ascii => !inWord ascii next

inductive Regex where
  | empty
  | text (chars : List Char)
  /-- A character out of a set; `ascii` marks a set that is written without Unicode. -/
  | one (set : CharSet) (ascii : Bool)
  | look (test : Look)
  | seq (a b : Regex)
  | either (a b : Regex)
  /-- One of several texts. -/
  | oneOf (texts : List (List Char))
  /-- A `lazy` loop prefers fewer rounds, which makes no difference to whether a text matches. -/
  | loop (r : Regex) (least : Nat) (most : Option Nat) (lazy : Bool)
  /-- A numbered part whose place in the value is to be known. -/
  | captured (number : Nat) (r : Regex)
  deriving Repr, DecidableEq, Inhabited

namespace Regex

/-- How many bytes a match takes at least. Unknown where a part matches nothing at all. -/
def minBytes : Regex → Option Nat
  | empty => some 0
  | text chars => some (chars.foldl (fun n c => n + c.utf8Size) 0)
  | one set _ => set.bounds?.map fun bounds => (Char.ofNat bounds.1).utf8Size
  | look _ => some 0
  | seq a b => do return (← a.minBytes) + (← b.minBytes)
  | either a b => do return min (← a.minBytes) (← b.minBytes)
  | oneOf texts => (texts.map fun chars => chars.foldl (fun n c => n + c.utf8Size) 0).min?
  | loop r least _ _ => r.minBytes.map (least * ·)
  | captured _ r => r.minBytes

/-- True if no match takes a character. -/
def isBare : Regex → Bool
  | empty => true
  | text chars => chars.isEmpty
  | one _ _ => false
  | look _ => true
  | seq a b => a.isBare && b.isBare
  | either a b => a.isBare && b.isBare
  | oneOf texts => texts.all (·.isEmpty)
  | loop r _ most _ => r.isBare || most == some 0
  | captured _ r => r.isBare

/-! ### Sets -/

/-- What matches nothing. -/
def never : Regex := one .empty true

/-- A character out of a set. Where there is one only, it is a text. -/
def ofSet (set : CharSet) (ascii : Bool) : Regex :=
  match set.only? with
  | some c => text [c]
  | none => if set.isEmpty then never else one set ascii

/-! ### Sequences -/

/-- The parts of a sequence in normal form. -/
def parts : Regex → List Regex
  | empty => []
  | seq a b => a :: b.parts
  | r => [r]

def ofParts : List Regex → Regex
  | [] => empty
  | [r] => r
  | r :: rest => seq r (ofParts rest)

/-- Puts a part in front of others; a text goes together with one that follows. -/
def prepend (r : Regex) (rest : List Regex) : List Regex :=
  match r, rest with
  | text a, text b :: rest => text (a ++ b) :: rest
  | r, rest => r :: rest

def sequence (rs : List Regex) : Regex := ofParts ((rs.flatMap parts).foldr prepend [])

/-! ### Choices -/

/-- The branches of a choice in normal form. -/
def branches : Regex → List Regex
  | either a b => a :: b.branches
  | oneOf texts => texts.map text
  | r => [r]

def ofBranches : List Regex → Regex
  | [] => never
  | [r] => r
  | r :: rest => either r (ofBranches rest)

def text? : Regex → Option (List Char)
  | text chars => some chars
  | _ => none

def set? : Regex → Option CharSet
  | one set _ => some set
  | _ => none

/-- The one character that the expression matches. -/
def char? : Regex → Option Char
  | text [c] => some c
  | _ => none

/-- The parts that two sequences begin with alike. -/
def commonStart : List Regex → List Regex → List Regex
  | a :: as, b :: bs => if a = b then a :: commonStart as bs else []
  | _, _ => []

/-- What all branches begin with, if each has more parts than one. -/
def sharedStart : List Regex → List Regex
  | [] => []
  | r :: rest =>
    if (r :: rest).all fun b => 1 < b.parts.length then
      rest.foldl (fun common b => commonStart common b.parts) r.parts
    else []

/-- Joins the branches of a choice. Characters and sets become one set; parts that all branches begin
with come before the choice of what remains, as long as there is fuel for it. -/
def join : Nat → List Regex → Regex
  | 0, rs => ofBranches rs
  | fuel + 1, rs =>
    match rs.flatMap branches with
    | [] => never
    | [r] => r
    | all =>
      match all.mapM char?, all.mapM set?, all.mapM text? with
      | some chars, _, _ => ofSet (.ofCodes (chars.map Char.toNat)) false
      | none, some sets, _ => ofSet (.unionAll sets) false
      | none, none, some texts => oneOf texts
      | none, none, none =>
        match sharedStart all with
        | [] => ofBranches all
        | start =>
          let rests := all.map fun b => sequence (b.parts.drop start.length)
          sequence (start ++ [join fuel rests])

/-- How many parts there are in the branches of an expression. -/
def extent : Regex → Nat
  | seq a b => a.extent + b.extent
  | either a b => a.extent + b.extent
  | _ => 1

/-- Every part that branches share is one less to choose from, so the fuel suffices. -/
def choice (rs : List Regex) : Regex := join (rs.foldl (fun fuel r => fuel + r.extent) 1) rs

/-! ### Repetitions -/

/-- A repetition of what takes no character is at most one round. None and one round are no loops. -/
def repeated (r : Regex) (least : Nat) (most : Option Nat) (lazy : Bool) : Regex :=
  let least := if r.isBare then min least 1 else least
  let most := if r.isBare then some (min (most.getD 1) 1) else most
  if least = 0 && most == some 0 then empty
  else if least = 1 && most == some 1 then r
  else loop r least most lazy

end Regex
end StreamSelect.Pattern
