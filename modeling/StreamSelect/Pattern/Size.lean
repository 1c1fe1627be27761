import StreamSelect.Pattern.Regex
import StreamSelect.Pattern.Size.Set
import StreamSelect.Pattern.Size.Words

/-! How much room the automata of an expression take. There are two, one that reads the bytes of a
match forward and one that reads them backward; the forward one also marks where captured parts
begin and end. Both may take so many bytes at most. An automaton is built part by part in the order in
which it reads, because what parts of it share depends on how many states there are before them. -/
namespace StreamSelect.Pattern

namespace Extension

/-- The branches of a choice one after another. Behind the second one comes the fork that leads to
all of them, and the state in which all of them end. -/
def ofBranches : List Extension → Extension
  | [] => fixed {}
  | [only] => only
  | first :: second :: others =>
    others.foldl (· ++ ·) (first ++ second ++ fork (others.length + 2) ++ plain 1)

/-- The rounds of a loop; `takesSome` tells that a round takes a character at least. Every round of a
bounded loop has states of its own, and a round that may be left out has a fork before it. -/
def ofLoop (round : Extension) (takesSome : Bool) (least : Nat) : Option Nat → Extension
  | none =>
    if 0 < least then round.times least ++ fork 2
    else if takesSome then fork 2 ++ round
    else round ++ fork 2 ++ fork 2 ++ plain 1
  | some most =>
    if least = most then round.times least
    else if most = 1 then fork 2 ++ round ++ plain 1
    else
      (if least = 0 then plain 1 else round.times least) ++ plain 1 ++
        (fork 2 ++ round).times (most - least)

end Extension

namespace Regex

/-- What each branch of an expression adds to an automaton. -/
def branchExtensions (d : Direction) : Regex → List Extension
  | empty => [.plain 1]
  | text chars => [.plain (bytesOfChars chars).length]
  | one set _ => [.ofSet d set]
  | look _ => [.plain 1]
  | seq a b =>
    let first := Extension.ofBranches (a.branchExtensions d)
    let second := Extension.ofBranches (b.branchExtensions d)
    match d with
    | .forward => [first ++ second]
    | .backward => [second ++ first]
  | either a b => .ofBranches (a.branchExtensions d) :: b.branchExtensions d
  | oneOf texts => [.ofWords d (texts.map bytesOfChars)]
  | loop r least most _ =>
    [.ofLoop (.ofBranches (r.branchExtensions d)) (r.minBytes.any (0 < ·)) least most]
  | captured _ r =>
    let inner := Extension.ofBranches (r.branchExtensions d)
    match d with
    | .forward => [.plain 1 ++ inner ++ .plain 1]
    | .backward => [inner]

/-- What an expression adds to an automaton. -/
def extension (d : Direction) (r : Regex) : Extension := .ofBranches (r.branchExtensions d)

/-- True if every match begins at the start of the text. -/
def startsText : Regex → Bool
  | look test => test == .textStart
  | seq a b => a.startsText || (a.isBare && b.startsText)
  | either a b => a.startsText && b.startsText
  | loop r least _ _ => 0 < least && r.startsText
  | captured _ r => r.startsText
  | _ => false

/-- True if every match ends at the end of the text. -/
def endsText : Regex → Bool
  | look test => test == .textEnd
  | seq a b => b.endsText || (b.isBare && a.endsText)
  | either a b => a.endsText && b.endsText
  | loop r least _ _ => 0 < least && r.endsText
  | captured _ r => r.endsText
  | _ => false

/-- The automaton that finds the expression in a text: with a loop that passes over other bytes where
a match may lie anywhere, and with a state for the match. The whole match is captured. -/
def automaton (d : Direction) (r : Regex) : Tally :=
  let anchored := match d with
    | .forward => r.startsText
    | .backward => r.endsText
  let approach : Tally := if anchored then .plain 1 else .fork 2 + .plain 1 + .reader 1
  ((captured 0 r).extension d).apply approach + .plain 1

def isOversized (r : Regex) : Bool :=
  (r.automaton .forward).isFull || (r.automaton .backward).isFull

end Regex
end StreamSelect.Pattern
