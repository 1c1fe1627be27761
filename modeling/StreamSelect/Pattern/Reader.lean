import StreamSelect.Pattern.Reader.Bracket
import StreamSelect.Unicode.Character

/-! Reading patterns. A reading walks over the characters with the open groups on a stack, so nothing
is read twice; whatever is no pattern gives nothing. -/
namespace StreamSelect.Pattern

def mode? : Char → Option Mode
  | 'i' => some .ignoreCase
  | 'm' => some .multiLine
  | 's' => some .dotAll
  | 'U' => some .swapGreed
  | 'u' => some .unicode
  | 'R' => some .carriage
  | 'x' => some .ignoreBlank
  | _ => none

/-- Changes of modes up to a colon or a closing parenthesis. Each mode occurs once and the minus
sign once, and not at the end. -/
def readModes (on : Bool) (lastMinus : Bool) (found : ModeChanges) :
    List Char → Option (ModeChanges × List Char)
  | [] => none
  | c :: rest =>
    if c = ':' || c = ')' then if lastMinus then none else some (found.reverse, c :: rest)
    else if c = '-' then if on then readModes false true found rest else none
    else do
      let mode ← mode? c
      if (changeOf found mode).isSome then none else readModes on false ((mode, on) :: found) rest

/-- Names of groups start with a letter or an underscore. -/
def isGroupNameChar (first : Bool) (c : Char) : Bool :=
  c = '_' || Unicode.isLetter c ||
    (!first && (c = '.' || c = '[' || c = ']' || Unicode.isNumber c))

/-- The name of a group, closed by an angle bracket. -/
def readGroupName (text : List Char) : Option (String × List Char) :=
  let name := text.takeWhile (· != '>')
  match text.dropWhile (· != '>') with
  | [] => none
  | _ :: rest =>
    let valid := match name with
      | [] => false
      | c :: cs => isGroupNameChar true c && cs.all (isGroupNameChar false)
    if valid then some (String.ofList name, rest) else none

/-- What follows an opening parenthesis: modes on their own, or a group with its modes or its name.
What a group without modes matches is captured. -/
inductive Opening where
  | modes (changes : ModeChanges)
  | group (changes : ModeChanges) (captured : Bool) (name : Option String)

def readOpening (ignoreBlank : Bool) (text : List Char) : Option (Opening × List Char) :=
  let text := if ignoreBlank then skipBlanks false text else text
  if ["?=", "?!", "?<=", "?<!"].any fun mark => (afterText? mark text).isSome then none
  else match (afterText? "?P<" text).or (afterText? "?<" text) with
    | some named => (readGroupName named).map fun (name, rest) => (.group [] true (some name), rest)
    | none =>
      match afterText? "?" text with
      | none => some (.group [] true none, text)
      | some rest => do
        let (changes, remaining) ← readModes true false [] rest
        if remaining.head? == some ':' then some (.group changes false none, remaining.tail)
        else if changes.isEmpty then none
        else some (.modes changes, remaining.tail)

/-- Alternatives with the last one still open, newest first throughout. -/
structure Branches where
  closed : List Tree := []
  items : List Tree := []

def Branches.tree (b : Branches) : Tree :=
  Tree.ofBranches ((Tree.ofParts b.items.reverse :: b.closed).reverse)

def Branches.push (b : Branches) (t : Tree) : Branches := { b with items := t :: b.items }

/-- A group whose closing parenthesis has not been read. -/
structure OpenGroup where
  outer : Branches
  changes : ModeChanges
  number : Option Nat
  ignoreBlank : Bool

/-- What has been read of a pattern, with the names and the number of its captured groups. -/
structure Reading where
  ignoreBlank : Bool := false
  names : List String := []
  captures : Nat := 0
  branches : Branches := {}
  enclosing : List OpenGroup := []

/-- Repeats the last part read; nothing and modes cannot be repeated. -/
def Reading.repeatLast (r : Reading) (least : Nat) (most : Option Nat) (lazy : Bool) :
    Option Reading :=
  match r.branches.items with
  | [] => none
  | .empty :: _ => none
  | .modes _ :: _ => none
  | t :: items =>
    let repetition := Tree.repetition t least most lazy
    some { r with branches := { r.branches with items := repetition :: items } }

/-- The question mark that makes a repetition lazy, if there is one. -/
def readLazy : List Char → Bool × List Char
  | '?' :: rest => (true, rest)
  | rest => (false, rest)

/-- Bounds of a repetition between braces. -/
def readBounds (ignoreBlank : Bool) (text : List Char) : Option (Nat × Option Nat × List Char) := do
  let start := past ignoreBlank text
  if start.isEmpty then none
  else
    let (least, rest) ← readNumber ignoreBlank start
    let next ← rest.head?
    let (bounds, rest) ← (do
      if next = ',' then
        let rest := past ignoreBlank rest
        let next ← rest.head?
        let least ← least
        if next = '}' then some ((least, none), rest)
        else
          let (most, rest) ← readNumber ignoreBlank rest
          let most ← most
          some ((least, some most), rest)
      else
        let least ← least
        some ((least, some least), rest))
    if rest.head? != some '}' then none
    else
      if (bounds.2.map fun most => decide (most < bounds.1)).getD false then none
      else some (bounds.1, bounds.2, past ignoreBlank rest)

/-- Reads on to the end of the pattern. -/
def readFrom : Nat → Reading → List Char → Option Tree
  | 0, _, _ => none
  | fuel + 1, r, text =>
    let text := if r.ignoreBlank then skipBlanks false text else text
    let repeated := fun (least : Nat) (most : Option Nat) (rest : List Char) => do
      let (lazy, rest) := readLazy rest
      readFrom fuel (← r.repeatLast least most lazy) rest
    match text with
    | [] => if r.enclosing.isEmpty then some r.branches.tree else none
    | '(' :: rest => do
      let (opening, remaining) ← readOpening r.ignoreBlank rest
      match opening with
      | .modes changes =>
        let r' : Reading :=
          { r with
            branches := r.branches.push (.modes changes)
            ignoreBlank := (changeOf changes .ignoreBlank).getD r.ignoreBlank }
        readFrom fuel r' remaining
      | .group changes captured name =>
        if name.any r.names.contains then none
        else
          let captures := if captured then r.captures + 1 else r.captures
          let number := if captured then some captures else none
          let r' : Reading :=
            { ignoreBlank := (changeOf changes .ignoreBlank).getD r.ignoreBlank
              names := name.toList ++ r.names
              captures
              branches := {}
              enclosing := ⟨r.branches, changes, number, r.ignoreBlank⟩ :: r.enclosing }
          readFrom fuel r' remaining
    | ')' :: rest =>
      match r.enclosing with
      | [] => none
      | group :: enclosing =>
        let r' : Reading :=
          { r with
            ignoreBlank := group.ignoreBlank
            branches := group.outer.push (.group group.changes group.number r.branches.tree)
            enclosing }
        readFrom fuel r' rest
    | '|' :: rest =>
      let branches : Branches :=
        { closed := Tree.ofParts r.branches.items.reverse :: r.branches.closed, items := [] }
      readFrom fuel { r with branches } rest
    | '[' :: rest => do
      let (cls, remaining) ← readClass r.ignoreBlank ('[' :: rest)
      readFrom fuel { r with branches := r.branches.push cls } remaining
    | '?' :: rest => repeated 0 (some 1) rest
    | '*' :: rest => repeated 0 none rest
    | '+' :: rest => repeated 1 none rest
    | '{' :: rest => do
      let (least, most, remaining) ← readBounds r.ignoreBlank ('{' :: rest)
      repeated least most remaining
    | '\\' :: rest => do
      let (part, remaining) ← readEscape r.ignoreBlank rest
      readFrom fuel { r with branches := r.branches.push part } remaining
    | c :: rest =>
      let part : Tree := match c with
        | '.' => .dot
        | '^' => .anchor .lineStart
        | '$' => .anchor .lineEnd
        | _ => .letter ⟨c, false⟩
      readFrom fuel { r with branches := r.branches.push part } rest

/-- How deep the parts of a pattern may nest. -/
def maxDepth : Nat := 250

/-- The tree of a pattern, if the text is one. -/
def Tree.read? (text : String) : Option Tree := do
  let tree ← readFrom (text.length + 1) {} text.toList
  if tree.depth ≤ maxDepth then some tree else none

end StreamSelect.Pattern
