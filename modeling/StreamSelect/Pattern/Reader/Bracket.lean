import StreamSelect.Pattern.Reader.Escape

/-! Classes between brackets. A reading walks over the characters with the open classes on a stack. -/
namespace StreamSelect.Pattern

/-- A class whose closing bracket has not been read. -/
structure OpenClass where
  negated : Bool
  /-- Members of the class around it, newest first. -/
  outer : List ClassTree
  /-- The operation under way around it, with its left side. -/
  outerOperation : Option (SetOperation × ClassTree)

/-- Where the reading of a class stands: its members since the last operation, newest first. -/
structure ClassReading where
  items : List ClassTree
  operation : Option (SetOperation × ClassTree)
  enclosing : List OpenClass
  negated : Bool

namespace ClassReading

/-- What has been read of the innermost class, with the operation under way applied. -/
def current (r : ClassReading) : ClassTree :=
  let right := ClassTree.ofItems r.items.reverse
  match r.operation with
  | some (op, left) => .operation op left right
  | none => right

def push (r : ClassReading) (item : ClassTree) : ClassReading := { r with items := item :: r.items }

/-- Starts the right side of an operation. -/
def startOperation (r : ClassReading) (op : SetOperation) : ClassReading :=
  { r with items := [], operation := some (op, r.current) }

end ClassReading

/-- Hyphens in front of the members stand for themselves. -/
def takeHyphens (ignoreBlank : Bool) (fuel : Nat) (text : List Char) : List ClassTree × List Char :=
  match fuel, text with
  | fuel + 1, '-' :: rest =>
    let (items, remaining) := takeHyphens ignoreBlank fuel (past ignoreBlank ('-' :: rest))
    (.letter ⟨'-', false⟩ :: items, remaining)
  | _, _ => ([], text)

/-- The opening of a class: its bracket, a caret, and the members that only stand in front. -/
def readClassOpening (ignoreBlank : Bool) (text : List Char) :
    Option (Bool × List ClassTree × List Char) := do
  let inside := past ignoreBlank text
  let first ← inside.head?
  let negated := first = '^'
  let start := if negated then past ignoreBlank inside else inside
  let (hyphens, rest) := takeHyphens ignoreBlank start.length start
  let next ← rest.head?
  if hyphens.isEmpty && next = ']' then
    let rest := past ignoreBlank rest
    if rest.isEmpty then none else some (negated, [.letter ⟨']', false⟩], rest)
  else some (negated, hyphens, rest)

def posixClass? : String → Option PosixClass
  | "alnum" => some .alnum
  | "alpha" => some .alpha
  | "ascii" => some .ascii
  | "blank" => some .blank
  | "cntrl" => some .cntrl
  | "digit" => some .digit
  | "graph" => some .graph
  | "lower" => some .lower
  | "print" => some .print
  | "punct" => some .punct
  | "space" => some .space
  | "upper" => some .upper
  | "word" => some .word
  | "xdigit" => some .xdigit
  | _ => none

/-- A class between colons inside brackets. Anything else is no such class. -/
def readPosix? (text : List Char) : Option (ClassTree × List Char) := do
  let inside ← afterText? "[:" text
  let negated := inside.head? == some '^'
  let named := if negated then inside.tail else inside
  let name := named.takeWhile (· != ':')
  let rest ← afterText? ":]" (named.dropWhile (· != ':'))
  let kind ← posixClass? (String.ofList name)
  some (.posix kind negated, rest)

/-- A member of a class before it is known whether a range starts with it. -/
def readClassPrimitive (ignoreBlank : Bool) : List Char → Option (Tree × List Char)
  | [] => none
  | '\\' :: rest => readEscape ignoreBlank rest
  | c :: rest => some (.letter ⟨c, false⟩, rest)

/-- A primitive as a member; tests of places are none. -/
def classItem? : Tree → Option ClassTree
  | .letter l => some (.letter l)
  | .shorthand kind negated => some (.shorthand kind negated)
  | .property query negated => some (.property query negated)
  | _ => none

/-- A member of a class, or a range of two. -/
def readClassItem (ignoreBlank : Bool) (text : List Char) : Option (ClassTree × List Char) := do
  let (left, rest) ← readClassPrimitive ignoreBlank text
  let rest := if ignoreBlank then skipBlanks false rest else rest
  let next ← rest.head?
  let follower := peekPast ignoreBlank rest
  if next != '-' || follower == some ']' || follower == some '-' then
    let item ← classItem? left
    some (item, rest)
  else
    let start := past ignoreBlank rest
    if start.isEmpty then none
    else
      let (right, rest) ← readClassPrimitive ignoreBlank start
      match left, right with
      | .letter a, .letter b => if a.char ≤ b.char then some (.range a b, rest) else none
      | _, _ => none

/-- Reads a class from its opening bracket on, with the classes inside it. -/
def readClassFrom (ignoreBlank : Bool) :
    Nat → ClassReading → List Char → Option (Tree × List Char)
  | 0, _, _ => none
  | fuel + 1, r, text =>
    let text := if ignoreBlank then skipBlanks false text else text
    match text with
    | [] => none
    | '[' :: rest =>
      match readPosix? ('[' :: rest) with
      | some (item, remaining) => readClassFrom ignoreBlank fuel (r.push item) remaining
      | none => do
        let (negated, items, remaining) ← readClassOpening ignoreBlank ('[' :: rest)
        let nested : ClassReading :=
          { items := items.reverse, operation := none, negated
            enclosing := ⟨r.negated, r.items, r.operation⟩ :: r.enclosing }
        readClassFrom ignoreBlank fuel nested remaining
    | ']' :: rest =>
      match r.enclosing with
      | [] => some (.bracket r.negated r.current, rest)
      | around :: enclosing =>
        let r' : ClassReading :=
          { items := .bracket r.negated r.current :: around.outer
            operation := around.outerOperation, enclosing, negated := around.negated }
        readClassFrom ignoreBlank fuel r' rest
    | '&' :: '&' :: rest => readClassFrom ignoreBlank fuel (r.startOperation .intersection) rest
    | '-' :: '-' :: rest => readClassFrom ignoreBlank fuel (r.startOperation .difference) rest
    | '~' :: '~' :: rest => readClassFrom ignoreBlank fuel (r.startOperation .symmetric) rest
    | c :: rest => do
      let (item, remaining) ← readClassItem ignoreBlank (c :: rest)
      readClassFrom ignoreBlank fuel (r.push item) remaining

def readClass (ignoreBlank : Bool) (text : List Char) : Option (Tree × List Char) := do
  let (negated, items, rest) ← readClassOpening ignoreBlank text
  readClassFrom ignoreBlank (rest.length + 1) ⟨items.reverse, none, [], negated⟩ rest

end StreamSelect.Pattern
