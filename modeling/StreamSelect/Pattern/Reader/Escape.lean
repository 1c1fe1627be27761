import StreamSelect.Pattern.Tree
import StreamSelect.Text.Blank
import StreamSelect.Text.Split

/-! Numbers and escapes in patterns. Where blanks do not count, they are left out between all
characters. Readings give what they read and the text after it, or nothing. -/
namespace StreamSelect.Pattern

/-- Leaves out blanks, and comments from a number sign to the end of the line. -/
def skipBlanks (inComment : Bool) : List Char → List Char
  | [] => []
  | c :: rest =>
    if inComment then skipBlanks (c != '\n') rest
    else if Text.isBlank c then skipBlanks false rest
    else if c = '#' then skipBlanks true rest
    else c :: rest

/-- The place after the next character, past blanks where they do not count. -/
def past (ignoreBlank : Bool) (text : List Char) : List Char :=
  if ignoreBlank then skipBlanks false text.tail else text.tail

/-- The character after the next one, past blanks and one number sign where they do not count. -/
def peekPast (ignoreBlank : Bool) (text : List Char) : Option Char :=
  if ignoreBlank then
    let ahead := text.tail.dropWhile Text.isBlank
    let ahead := if ahead.head? == some '#' then ahead.tail.dropWhile Text.isBlank else ahead
    ahead.head?.or text.tail.head?
  else text.tail.head?

def afterText? (expected : String) (text : List Char) : Option (List Char) :=
  Text.after? expected.toList text

/-! ### Numbers -/

def digitValue (c : Char) : Nat := c.toNat - '0'.toNat

def hexValue? (c : Char) : Option Nat :=
  if c.isDigit then some (digitValue c)
  else if 'a' ≤ c && c ≤ 'f' then some (c.toNat - 'a'.toNat + 10)
  else if 'A' ≤ c && c ≤ 'F' then some (c.toNat - 'A'.toNat + 10)
  else none

/-- The character of a code point, where there is one. -/
def charOfCode? (code : Nat) : Option Char :=
  if code < 0xD800 || (0xDFFF < code && code < 0x110000) then some (Char.ofNat code) else none

/-- The digits that come next, past blanks between them where they do not count. -/
def takeDigits (ignoreBlank : Bool) (fuel : Nat) (text : List Char) : List Char × List Char :=
  match fuel, text with
  | fuel + 1, c :: rest =>
    if c.isDigit then
      let (digits, remaining) := takeDigits ignoreBlank fuel (past ignoreBlank (c :: rest))
      (c :: digits, remaining)
    else ([], c :: rest)
  | _, _ => ([], text)

/-- A number with blanks around it. Without digits it is absent; above 32 bits it is refused. -/
def readNumber (ignoreBlank : Bool) (text : List Char) : Option (Option Nat × List Char) :=
  let start := text.dropWhile Text.isBlank
  let (digits, remaining) := takeDigits ignoreBlank start.length start
  let remaining :=
    if ignoreBlank then skipBlanks false (remaining.dropWhile Text.isBlank)
    else remaining.dropWhile Text.isBlank
  let value := digits.foldl (fun n c => 10 * n + digitValue c) 0
  if digits.isEmpty then some (none, remaining)
  else if value < 4294967296 then some (some value, remaining)
  else none

/-! ### Escapes -/

/-- A fixed number of hexadecimal digits. -/
def readHexDigits (ignoreBlank : Bool) : Nat → Nat → List Char → Option (Nat × List Char)
  | 0, value, text => some (value, text)
  | count + 1, value, text =>
    match text with
    | [] => none
    | c :: rest => do
      let digit ← hexValue? c
      readHexDigits ignoreBlank count (16 * value + digit) (past ignoreBlank (c :: rest))

/-- Hexadecimal digits up to the closing brace. -/
def readHexBrace (ignoreBlank : Bool) (fuel : Nat) (digits : List Nat) (text : List Char) :
    Option (List Nat × List Char) :=
  match fuel, text with
  | _, '}' :: rest => some (digits.reverse, past ignoreBlank ('}' :: rest))
  | fuel + 1, c :: rest => do
    let digit ← hexValue? c
    readHexBrace ignoreBlank fuel (digit :: digits) (past ignoreBlank (c :: rest))
  | _, _ => none

/-- A character by its code point; the text starts with the letter that says how it is written. -/
def readHex (ignoreBlank : Bool) (text : List Char) : Option (Letter × List Char) := do
  let kind ← text.head?
  let start := past ignoreBlank text
  let first ← start.head?
  if first = '{' then
    let inner := past ignoreBlank start
    let (digits, rest) ← readHexBrace ignoreBlank inner.length [] inner
    if digits.isEmpty then none
    else
      let c ← charOfCode? (digits.foldl (fun n d => 16 * n + d) 0)
      some (⟨c, false⟩, rest)
  else
    let count := if kind = 'x' then 2 else if kind = 'u' then 4 else 8
    let (code, rest) ← readHexDigits ignoreBlank count 0 start
    let c ← charOfCode? code
    some (⟨c, kind = 'x'⟩, rest)

/-- The characters up to the closing brace, past blanks where they do not count. -/
def readBraced (ignoreBlank : Bool) (fuel : Nat) (text : List Char) :
    Option (List Char × List Char) :=
  match fuel, text with
  | _, '}' :: rest => some ([], rest)
  | fuel + 1, c :: rest => do
    let (inner, remaining) ← readBraced ignoreBlank fuel (past ignoreBlank (c :: rest))
    some (c :: inner, remaining)
  | _, _ => none

/-- The property that a text between braces names, and whether an unequal sign turns it around. -/
def propertyQuery (text : List Char) : PropertyQuery × Bool :=
  let valued := fun (parts : List Char × List Char) =>
    PropertyQuery.valued (String.ofList parts.1) (String.ofList parts.2)
  match Text.splitAt? ['!', '='] text, Text.splitAt? [':'] text, Text.splitAt? ['='] text with
  | some parts, _, _ => (valued parts, true)
  | none, some parts, _ => (valued parts, false)
  | none, none, some parts => (valued parts, false)
  | none, none, none => (.named (String.ofList text), false)

/-- A property of characters; the text starts with the letter `p`, or `P` for its complement. An
unequal sign turns the class around as `P` does, so that both together leave it as it is. -/
def readProperty (ignoreBlank : Bool) (text : List Char) : Option (Tree × List Char) := do
  let kind ← text.head?
  let start := past ignoreBlank text
  let first ← start.head?
  if first = '{' then
    let inner := past ignoreBlank start
    let (name, rest) ← readBraced ignoreBlank inner.length inner
    let (query, turned) := propertyQuery name
    some (.property query ((kind == 'P') != turned), rest)
  else if first = '\\' then none
  else some (.property (.named first.toString) (kind == 'P'), past ignoreBlank start)

/-- Letters and hyphens, past blanks where they do not count. -/
def takeKeyword (ignoreBlank : Bool) (fuel : Nat) (text : List Char) : List Char × List Char :=
  match fuel, text with
  | fuel + 1, c :: rest =>
    if c.isAlpha || c = '-' then
      let (word, remaining) := takeKeyword ignoreBlank fuel (past ignoreBlank (c :: rest))
      (c :: word, remaining)
    else ([], c :: rest)
  | _, _ => ([], text)

/-- A boundary, with the kind in braces after it if there is one. Braces that start otherwise are
left to be read as a repetition. -/
def readBoundary (ignoreBlank : Bool) (text : List Char) : Option (Tree × List Char) :=
  match text with
  | '{' :: _ =>
    let start := past ignoreBlank text
    match start with
    | [] => none
    | c :: _ =>
      if c.isAlpha || c = '-' then
        match takeKeyword ignoreBlank start.length start with
        | (word, '}' :: rest) =>
          match String.ofList word with
          | "start" => some (.anchor .wordStart, rest)
          | "end" => some (.anchor .wordEnd, rest)
          | "start-half" => some (.anchor .wordStartHalf, rest)
          | "end-half" => some (.anchor .wordEndHalf, rest)
          | _ => none
        | _ => none
      else some (.anchor .boundary, text)
  | _ => some (.anchor .boundary, text)

/-- ASCII characters other than letters and digits stand for themselves after a backslash, angle
brackets apart. -/
def isEscapable (c : Char) : Bool := c.val < 0x80 && !c.isAlphanum && c != '<' && c != '>'

/-- What a backslash makes of the text after it. -/
def readEscape (ignoreBlank : Bool) (text : List Char) : Option (Tree × List Char) :=
  match text with
  | [] => none
  | c :: rest =>
    if c.isDigit then none
    else if c = 'x' || c = 'u' || c = 'U' then
      (readHex ignoreBlank text).map fun (l, remaining) => (.letter l, remaining)
    else if c = 'p' || c = 'P' then readProperty ignoreBlank text
    else if isEscapable c then some (.letter ⟨c, false⟩, rest)
    else match c with
      | 'd' => some (.shorthand .digit false, rest)
      | 'D' => some (.shorthand .digit true, rest)
      | 's' => some (.shorthand .space false, rest)
      | 'S' => some (.shorthand .space true, rest)
      | 'w' => some (.shorthand .word false, rest)
      | 'W' => some (.shorthand .word true, rest)
      | 'a' => some (.letter ⟨'\x07', false⟩, rest)
      | 'f' => some (.letter ⟨'\x0c', false⟩, rest)
      | 't' => some (.letter ⟨'\t', false⟩, rest)
      | 'n' => some (.letter ⟨'\n', false⟩, rest)
      | 'r' => some (.letter ⟨'\r', false⟩, rest)
      | 'v' => some (.letter ⟨'\x0b', false⟩, rest)
      | 'A' => some (.anchor .textStart, rest)
      | 'z' => some (.anchor .textEnd, rest)
      | 'B' => some (.anchor .noBoundary, rest)
      | '<' => some (.anchor .wordStart, rest)
      | '>' => some (.anchor .wordEnd, rest)
      | 'b' => readBoundary ignoreBlank rest
      | _ => none

end StreamSelect.Pattern
