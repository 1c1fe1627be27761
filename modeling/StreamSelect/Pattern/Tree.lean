/-! Patterns as they are written: a tree of their parts, before modes are applied to them. -/
namespace StreamSelect.Pattern

/-- Modes that a pattern switches on and off for the parts that follow. -/
inductive Mode where
  | ignoreCase
  | multiLine
  | dotAll
  | swapGreed
  | unicode
  | carriage
  | ignoreBlank
  deriving Repr, DecidableEq, Inhabited

abbrev ModeChanges := List (Mode × Bool)

/-- What the changes make of a mode, if they name it. -/
def changeOf (changes : ModeChanges) (mode : Mode) : Option Bool :=
  (changes.find? fun change => change.1 = mode).map (·.2)

/-- A character as written; `isByte` marks one written as two hexadecimal digits. -/
structure Letter where
  char : Char
  isByte : Bool := false
  deriving Repr, DecidableEq, Inhabited

inductive Shorthand where
  | digit
  | space
  | word
  deriving Repr, DecidableEq, Inhabited

inductive PosixClass where
  | alnum
  | alpha
  | ascii
  | blank
  | cntrl
  | digit
  | graph
  | lower
  | print
  | punct
  | space
  | upper
  | word
  | xdigit
  deriving Repr, DecidableEq, Inhabited

/-- A property of characters by its written name, or by name and value. -/
inductive PropertyQuery where
  | named (name : String)
  | valued (name value : String)
  deriving Repr, DecidableEq, Inhabited

inductive SetOperation where
  | intersection
  | difference
  | symmetric
  deriving Repr, DecidableEq, Inhabited

inductive ClassTree where
  | letter (l : Letter)
  | range (first last : Letter)
  | posix (kind : PosixClass) (negated : Bool)
  | shorthand (kind : Shorthand) (negated : Bool)
  | property (query : PropertyQuery) (negated : Bool)
  | bracket (negated : Bool) (inner : ClassTree)
  | union (items : List ClassTree)
  | operation (op : SetOperation) (left right : ClassTree)
  deriving Repr, Inhabited

/-- A test of a place as written; which one it is depends on the modes. -/
inductive Anchor where
  | lineStart
  | lineEnd
  | textStart
  | textEnd
  | boundary
  | noBoundary
  | wordStart
  | wordEnd
  | wordStartHalf
  | wordEndHalf
  deriving Repr, DecidableEq, Inhabited

inductive Tree where
  | empty
  | modes (changes : ModeChanges)
  | letter (l : Letter)
  | dot
  | anchor (a : Anchor)
  | shorthand (kind : Shorthand) (negated : Bool)
  | property (query : PropertyQuery) (negated : Bool)
  | bracket (negated : Bool) (inner : ClassTree)
  /-- A `lazy` repetition prefers fewer rounds. -/
  | repetition (inner : Tree) (least : Nat) (most : Option Nat) (lazy : Bool)
  /-- A captured group has a number. -/
  | group (changes : ModeChanges) (number : Option Nat) (inner : Tree)
  | alternation (branches : List Tree)
  | concat (parts : List Tree)
  deriving Repr, Inhabited

/-- The members of a class read in one go. -/
def ClassTree.ofItems : List ClassTree → ClassTree
  | [item] => item
  | items => union items

def Tree.ofParts : List Tree → Tree
  | [] => empty
  | [part] => part
  | parts => concat parts

def Tree.ofBranches : List Tree → Tree
  | [] => empty
  | [branch] => branch
  | branches => alternation branches

mutual
/-- How deep classes nest inside one another. -/
def ClassTree.depth : ClassTree → Nat
  | bracket _ inner => inner.depth + 1
  | union items => if items.isEmpty then 0 else depthOfItems items + 1
  | operation _ left right => max left.depth right.depth + 1
  | _ => 0

def ClassTree.depthOfItems : List ClassTree → Nat
  | [] => 0
  | item :: rest => max item.depth (depthOfItems rest)
end

mutual
/-- How deep the parts of a pattern nest inside one another. -/
def Tree.depth : Tree → Nat
  | bracket _ inner => inner.depth + 1
  | repetition inner _ _ _ => inner.depth + 1
  | group _ _ inner => inner.depth + 1
  | alternation branches => depthOfParts branches + 1
  | concat parts => depthOfParts parts + 1
  | _ => 0

def Tree.depthOfParts : List Tree → Nat
  | [] => 0
  | part :: rest => max part.depth (depthOfParts rest)
end

end StreamSelect.Pattern
