import StreamSelect.Pattern.Regex

/-! Whether a regular expression matches somewhere in a text. The places between the characters of a
text are numbered from its start, and a set of places is a number with a bit for each. An expression
takes the places where a match may begin to those where one may end. -/
namespace StreamSelect.Pattern

/-- Places in a text, as the bits of a number. -/
abbrev Places := Nat

/-- The places in a text of so many characters. -/
def allPlaces (length : Nat) : Places := 1 <<< (length + 1) - 1

/-- The characters of a text, each with the places before it. -/
abbrev Survey := List (Char × Places)

namespace Survey

/-- Adds a place before a character. -/
def add (c : Char) (place : Nat) : Survey → Survey
  | [] => [(c, 1 <<< place)]
  | (c', places) :: rest =>
    if c = c' then (c', places ||| 1 <<< place) :: rest else (c', places) :: add c place rest

def ofText (text : List Char) : Survey :=
  text.zipIdx.foldl (fun survey (c, place) => survey.add c place) []

/-- The places before characters that pass a test. -/
def before (survey : Survey) (test : Char → Bool) : Places :=
  survey.foldl (fun found (c, places) => if test c then found ||| places else found) 0

end Survey

/-- The places that a look at the characters on both sides finds, when the text begins at place
`place` behind `prev`. -/
def Look.places (look : Look) (prev : Option Char) (place : Nat) : List Char → Places
  | [] => (look.holds prev none).toNat <<< place
  | c :: text =>
    (look.holds prev (some c)).toNat <<< place ||| look.places (some c) (place + 1) text

/-- An expression on one text: what it reads and what it looks at are the places where that is
found. -/
inductive Route where
  | stay (places : Places)
  | step (places : Places)
  | seq (a b : Route)
  | either (a b : Route)
  | loop (r : Route) (least : Nat) (most : Option Nat)
  deriving Repr, DecidableEq, Inhabited

namespace Route

/-- Takes places on a number of times, or until nothing changes any more. -/
def iterate (f : Places → Places) : Nat → Places → Places
  | 0, start => start
  | n + 1, start =>
    let next := f start
    if next = start then start else iterate f n next

/-- Adds what can be reached in a number of rounds at most, or until nothing is added any more. -/
def spread (f : Places → Places) : Nat → Places → Places
  | 0, start => start
  | n + 1, start =>
    let more := start ||| f start
    if more = start then start else spread f n more

/-- The places where matches end that begin at one of the given places, in a text of so many
characters. A loop without an upper bound gets in as many rounds as the text has places to all that
it can reach. -/
def ends (length : Nat) : Route → Places → Places
  | stay places, start => start &&& places
  | step places, start => (start &&& places) <<< 1
  | seq a b, start => b.ends length (a.ends length start)
  | either a b, start => a.ends length start ||| b.ends length start
  | loop r least most, start =>
    let rounds := match most with
      | none => length + 1
      | some most => most - least
    spread (r.ends length) rounds (iterate (r.ends length) least start)

theorem testBit_ends_stay (length : Nat) (places start : Places) (i : Nat) :
    ((stay places).ends length start).testBit i = (start.testBit i && places.testBit i) :=
  Nat.testBit_and ..

/-- A step ends one place after the place where it begins. -/
theorem testBit_ends_step_succ (length : Nat) (places start : Places) (i : Nat) :
    ((step places).ends length start).testBit (i + 1) = (start.testBit i && places.testBit i) := by
  simp [ends, Nat.testBit_shiftLeft]

theorem testBit_ends_step_zero (length : Nat) (places start : Places) :
    ((step places).ends length start).testBit 0 = false := by
  simp [ends]

theorem testBit_ends_either (length : Nat) (a b : Route) (start : Places) (i : Nat) :
    ((either a b).ends length start).testBit i =
      ((a.ends length start).testBit i || (b.ends length start).testBit i) :=
  Nat.testBit_or ..

end Route

namespace Regex

/-- A word on a text of so many characters. -/
def wordRoute (length : Nat) (survey : Survey) (word : List Char) : Route :=
  word.foldr (fun c rest => .seq (.step (survey.before (· == c))) rest) (.stay (allPlaces length))

/-- The expression on a text with a survey of it. -/
def route (text : List Char) (survey : Survey) : Regex → Route
  | empty => .stay (allPlaces text.length)
  | .text word => wordRoute text.length survey word
  | one set _ => .step (survey.before set.contains)
  | look test => .stay (test.places none 0 text)
  | seq a b => .seq (a.route text survey) (b.route text survey)
  | either a b => .either (a.route text survey) (b.route text survey)
  | oneOf texts =>
    texts.foldr (fun word rest => .either (wordRoute text.length survey word) rest) (.step 0)
  | loop r least most _ => .loop (r.route text survey) least most
  | captured _ r => r.route text survey

/-- Whether the expression matches some part of the text. -/
def occursIn (r : Regex) (value : String) : Bool :=
  let text := value.toList
  (r.route text (.ofText text)).ends text.length (allPlaces text.length) != 0

end Regex
end StreamSelect.Pattern
