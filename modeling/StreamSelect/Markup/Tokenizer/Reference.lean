import StreamSelect.Text.Split

/-! Character references: an ampersand, a name or number, and a semicolon. -/
namespace StreamSelect.Markup

inductive ReferenceFault where
  /-- No semicolon before the next ampersand or the end; the text has so many bytes. -/
  | unterminated (start length : Nat)
  | unknown (first last : Nat) (name : String)
  | sign
  | noDigits
  | wrongDigit
  | tooLarge
  | zero
  | noCharacter (code : Nat)
  deriving Repr, DecidableEq, Inhabited

def ReferenceFault.message : ReferenceFault → String
  | .unterminated start length =>
    "Error while escaping character at range " ++ toString start ++ ".." ++ toString length ++
      ": Cannot find ';' after '&'"
  | .unknown first last name =>
    "at " ++ toString first ++ ".." ++ toString last ++ ": unrecognized entity `" ++ name ++ "`"
  | .sign => "invalid character reference: unexpected number sign"
  | .noDigits => "invalid character reference: cannot parse integer from empty string"
  | .wrongDigit => "invalid character reference: invalid digit found in string"
  | .tooLarge => "invalid character reference: number too large to fit in target type"
  | .zero => "invalid character reference: 0x0 character is not permitted in XML"
  | .noCharacter code =>
    "invalid character reference: `" ++ toString code ++ "` is not a valid codepoint"

namespace Reference

def digit? (radix : Nat) (c : Char) : Option Nat :=
  let value :=
    if '0' ≤ c && c ≤ '9' then some (c.toNat - '0'.toNat)
    else if 'a' ≤ c && c ≤ 'f' then some (c.toNat - 'a'.toNat + 10)
    else if 'A' ≤ c && c ≤ 'F' then some (c.toNat - 'A'.toNat + 10)
    else none
  value.filter (· < radix)

/-- Reads digits from left to right; the first one that is wrong or leaves 32 bits is reported. -/
def number (radix : Nat) (value : Nat) : List Char → Except ReferenceFault Nat
  | [] => .ok value
  | c :: rest =>
    match digit? radix c with
    | none => .error .wrongDigit
    | some d =>
      if radix * value + d < 4294967296 then number radix (radix * value + d) rest
      else .error .tooLarge

/-- The character of a number; a leading `x` says that it is hexadecimal. -/
def numbered (text : List Char) : Except ReferenceFault Char := do
  let (radix, digits) := match text with
    | 'x' :: rest => (16, rest)
    | _ => (10, text)
  let code ← match digits with
    | [] => .error .noDigits
    | c :: _ => if c = '+' || c = '-' then .error .sign else number radix 0 digits
  if code = 0 then .error .zero
  else if code < 0xD800 || (0xDFFF < code && code < 0x110000) then .ok (Char.ofNat code)
  else .error (.noCharacter code)

def named? : String → Option Char
  | "lt" => some '<'
  | "gt" => some '>'
  | "amp" => some '&'
  | "apos" => some '\''
  | "quot" => some '"'
  | _ => none

/-- The character that the text between ampersand and semicolon stands for; `first` is where that
text begins. -/
def character (first : Nat) (text : List Char) : Except ReferenceFault Char :=
  match text with
  | '#' :: digits => numbered digits
  | _ =>
    match named? (String.ofList text) with
    | some c => .ok c
    | none => .error (.unknown first (first + Text.byteLength text) (String.ofList text))

def isDelimiter (c : Char) : Bool := c = '&' || c = ';'

/-- Replaces the references of a text of `length` bytes, from the byte at `position` on. -/
def expandFrom (length position : Nat) : List Char → Except ReferenceFault (List Char)
  | [] => .ok []
  | c :: rest =>
    if c = '&' then
      let name := rest.takeWhile (!isDelimiter ·)
      match h : rest.dropWhile (!isDelimiter ·) with
      | ';' :: more => do
        let replaced ← character (position + 1) name
        let others ← expandFrom length (position + 1 + Text.byteLength name + 1) more
        .ok (replaced :: others)
      | _ => .error (.unterminated position length)
    else do
      let others ← expandFrom length (position + c.utf8Size) rest
      .ok (c :: others)
termination_by text => text.length
decreasing_by
  · have := (List.dropWhile_sublist (!isDelimiter ·) (l := rest)).length_le
    simp only [h, List.length_cons] at this
    simp only [List.length_cons]
    omega
  · simp

def expand (text : List Char) : Except ReferenceFault (List Char) :=
  expandFrom (Text.byteLength text) 0 text

end Reference
end StreamSelect.Markup
