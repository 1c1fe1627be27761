import StreamSelect.Pattern.Tree
import StreamSelect.Pattern.Regex
import StreamSelect.Unicode.Age
import StreamSelect.Unicode.CaseOrbit
import StreamSelect.Unicode.Script
import StreamSelect.Unicode.TextBreak

/-! What a pattern tree means: the modes in force decide which characters its parts stand for. -/
namespace StreamSelect.Pattern

open Unicode

/-- The modes in force at a place of a pattern. -/
structure Modes where
  ignoreCase : Bool := false
  multiLine : Bool := false
  dotAll : Bool := false
  swapGreed : Bool := false
  unicode : Bool := true
  carriage : Bool := false
  deriving Repr, DecidableEq, Inhabited

def Modes.change (m : Modes) (changes : ModeChanges) : Modes :=
  { ignoreCase := (changeOf changes .ignoreCase).getD m.ignoreCase
    multiLine := (changeOf changes .multiLine).getD m.multiLine
    dotAll := (changeOf changes .dotAll).getD m.dotAll
    swapGreed := (changeOf changes .swapGreed).getD m.swapGreed
    unicode := (changeOf changes .unicode).getD m.unicode
    carriage := (changeOf changes .carriage).getD m.carriage }

/-! ### Properties by name -/

/-- Names of properties are compared without case, blanks, hyphens, underscores and a leading `is`. -/
def normalizedName (name : String) : String :=
  let chars := name.toList
  let startsWithIs := match chars with
    | a :: b :: _ => a.toLower = 'i' && b.toLower = 's'
    | _ => false
  let body := if startsWithIs then chars.drop 2 else chars
  let kept := body.filter fun c => c.val < 0x80 && c != ' ' && c != '_' && c != '-'
  let lower := String.ofList (kept.map Char.toLower)
  if startsWithIs && lower == "c" then "isc" else lower

/-- All characters, those with a category, ASCII, and the categories and groups of categories. -/
def categorySet? (name : String) : Option CharSet :=
  if name = "any" then some .all
  else if name = "assigned" then some (Category.table .unassigned).complement
  else if name = "ascii" then some .ascii
  else (Category.named.find? fun entry => entry.1 = name).map fun entry =>
    .unionAll (entry.2.map (·.table))

/-- Names that stand for a category although a property has the same abbreviation. -/
def categoryFirst : List String := ["cf", "sc", "lc"]

def PropertyQuery.meaning : PropertyQuery → Option CharSet
  | named written =>
    let name := normalizedName written
    let property :=
      if categoryFirst.contains name then none else NamedSet.find? BinaryProperty.all name
    property.or ((categorySet? name).or ((Script.find? name).map (·.own)))
  | valued written value =>
    let name := normalizedName written
    let value := normalizedName value
    if ["gc", "generalcategory"].contains name then categorySet? value
    else if ["sc", "script"].contains name then (Script.find? value).map (·.own)
    else if ["scx", "scriptextensions"].contains name then (Script.find? value).map (·.extended)
    else if name = "age" then Age.upTo? value
    else if ["gcb", "graphemeclusterbreak"].contains name then NamedSet.find? ClusterBreak.all value
    else if ["wb", "wordbreak"].contains name then NamedSet.find? WordBreak.all value
    else if ["sb", "sentencebreak"].contains name then NamedSet.find? SentenceBreak.all value
    else none

/-! ### Classes -/

def digits : CharSet := .range '0' '9'
def lowers : CharSet := .range 'a' 'z'
def uppers : CharSet := .range 'A' 'Z'

def PosixClass.meaning : PosixClass → CharSet
  | alnum => .unionAll [digits, uppers, lowers]
  | alpha => uppers.union lowers
  | ascii => .ascii
  | blank => .union (.single '\t') (.single ' ')
  | cntrl => .union (.range '\x00' '\x1f') (.single '\x7f')
  | digit => digits
  | graph => .range '!' '~'
  | lower => lowers
  | print => .range ' ' '~'
  | punct => .unionAll [.range '!' '/', .range ':' '@', .range '[' '`', .range '\x7b' '~']
  | space => .union (.range '\t' '\r') (.single ' ')
  | upper => uppers
  | word => .unionAll [digits, uppers, .single '_', lowers]
  | xdigit => .unionAll [digits, .range 'A' 'F', .range 'a' 'f']

def Shorthand.meaning : Shorthand → CharSet
  | digit => Category.table .decimalNumber
  | space => BinaryProperty.whiteSpace.set
  | word => wordSet

def Shorthand.asciiMeaning : Shorthand → CharSet
  | digit => PosixClass.meaning .digit
  | space => PosixClass.meaning .space
  | word => PosixClass.meaning .word

/-- The letters of a set in both cases, ASCII letters only. -/
def foldAsciiCase (set : CharSet) : CharSet :=
  let letters := (List.range 26).flatMap fun i => [65 + i, 97 + i]
  set.union (.ofCodes (letters.filter fun code =>
    set.containsCode (if code < 97 then code + 32 else code - 32)))

namespace Modes

def fold (m : Modes) (set : CharSet) : CharSet :=
  if !m.ignoreCase then set else if m.unicode then set.foldCase else foldAsciiCase set

/-- Case first, then the complement. Without Unicode a complement would take in bytes that are no
characters, so it is refused. -/
def finish (m : Modes) (negated : Bool) (set : CharSet) : Option CharSet :=
  if !negated then some (m.fold set)
  else if m.unicode then some (m.fold set).complement
  else none

/-- Without Unicode only ASCII characters are members of classes. -/
def member? (m : Modes) (l : Letter) : Option Char :=
  if m.unicode || l.char.val < 0x80 then some l.char else none

def shorthand (m : Modes) (kind : Shorthand) (negated : Bool) : Option CharSet :=
  if m.unicode then some (if negated then kind.meaning.complement else kind.meaning)
  else if negated then none
  else some kind.asciiMeaning

def property (m : Modes) (query : PropertyQuery) (negated : Bool) : Option CharSet :=
  if m.unicode then query.meaning.bind (m.finish negated) else none

end Modes

def SetOperation.apply : SetOperation → CharSet → CharSet → CharSet
  | intersection => .inter
  | difference => .diff
  | symmetric => .symmetric

mutual
def ClassTree.meaning (m : Modes) : ClassTree → Option CharSet
  | letter l => (m.member? l).map .single
  | range first last => do
    let first ← m.member? first
    let last ← m.member? last
    some (.range first last)
  | posix kind negated => m.finish negated kind.meaning
  | shorthand kind negated => m.shorthand kind negated
  | property query negated => m.property query negated
  | bracket negated inner => do m.finish negated (← inner.meaning m)
  | union items => (meanings m items).map CharSet.unionAll
  | operation op left right => do
    let left ← left.meaning m
    let right ← right.meaning m
    some (op.apply (m.fold left) (m.fold right))

def ClassTree.meanings (m : Modes) : List ClassTree → Option (List CharSet)
  | [] => some []
  | item :: rest => do
    let set ← item.meaning m
    let others ← meanings m rest
    some (set :: others)
end

/-! ### Trees -/

def Anchor.meaning (m : Modes) : Anchor → Look
  | lineStart =>
    if !m.multiLine then .textStart else if m.carriage then .carriageLineStart else .lineStart
  | lineEnd =>
    if !m.multiLine then .textEnd else if m.carriage then .carriageLineEnd else .lineEnd
  | textStart => .textStart
  | textEnd => .textEnd
  | boundary => .boundary !m.unicode
  | noBoundary => .noBoundary !m.unicode
  | wordStart => .wordStart !m.unicode
  | wordEnd => .wordEnd !m.unicode
  | wordStartHalf => .wordStartHalf !m.unicode
  | wordEndHalf => .wordEndHalf !m.unicode

namespace Modes

/-- Every character, or all but the ends of lines. Without Unicode a dot would match parts of
characters, so it is refused. -/
def dot (m : Modes) : Option CharSet :=
  if !m.unicode then none
  else if m.dotAll then some .all
  else if m.carriage then some (CharSet.union (.single '\r') (.single '\n')).complement
  else some (CharSet.single '\n').complement

/-- Without Unicode a byte that is no ASCII character is refused. -/
def letter (m : Modes) (l : Letter) : Option CharSet :=
  if !m.unicode && l.isByte && 0x80 ≤ l.char.val then none else some (m.fold (.single l.char))

/-- A character out of a set that is read in these modes. -/
def oneOf (m : Modes) (set : CharSet) : Regex := .ofSet set !m.unicode

end Modes

mutual
/-- The meaning of a tree, and the modes in force after it. -/
def Tree.meaning (m : Modes) : Tree → Option (Regex × Modes)
  | empty => some (.empty, m)
  | modes changes => some (.empty, m.change changes)
  | letter l => do some (m.oneOf (← m.letter l), m)
  | dot => do some (m.oneOf (← m.dot), m)
  | anchor a => some (.look (a.meaning m), m)
  | shorthand kind negated => do some (m.oneOf (← m.shorthand kind negated), m)
  | property query negated => do some (m.oneOf (← m.property query negated), m)
  | bracket negated inner => do
    let set ← inner.meaning m
    some (m.oneOf (← m.finish negated set), m)
  | repetition inner least most lazy => do
    let (r, m') ← inner.meaning m
    some (r.repeated least most (lazy != m'.swapGreed), m')
  | group changes number inner => do
    let (r, _) ← inner.meaning (m.change changes)
    some (match number with | some number => .captured number r | none => r, m)
  | alternation branches => do
    let (rs, m') ← meanings m branches
    some (.choice rs, m')
  | concat parts => do
    let (rs, m') ← meanings m parts
    some (.sequence rs, m')

/-- The meanings of parts in order; modes changed in one are in force in those after it. -/
def Tree.meanings (m : Modes) : List Tree → Option (List Regex × Modes)
  | [] => some ([], m)
  | part :: rest => do
    let (r, m') ← part.meaning m
    let (rs, m'') ← meanings m' rest
    some (r :: rs, m'')
end

end StreamSelect.Pattern
