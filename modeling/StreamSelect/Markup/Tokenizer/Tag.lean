import StreamSelect.Text.Split

/-! The inside of a tag: a name up to the first blank, then attributes. Positions count bytes from
the start of the name. -/
namespace StreamSelect.Markup

def isBlank (c : Char) : Bool := c = ' ' || c = '\t' || c = '\n' || c = '\r'

inductive AttributeFault where
  | missingEquals (position : Nat)
  | duplicated (position earlier : Nat)
  | unquoted (position : Nat)
  | missingValue (position : Nat)
  | openQuote (position : Nat) (quote : Char)
  deriving Repr, DecidableEq, Inhabited

def AttributeFault.message : AttributeFault → String
  | .missingEquals p =>
    "position " ++ toString p ++ ": attribute key must be directly followed by `=` or space"
  | .duplicated p earlier =>
    "position " ++ toString p ++ ": duplicated attribute, previous declaration at position " ++
      toString earlier
  | .unquoted p =>
    "position " ++ toString p ++ ": attribute value must be enclosed in `\"` or `'`"
  | .missingValue p => "position " ++ toString p ++ ": `=` must be followed by an attribute value"
  | .openQuote p quote =>
    "position " ++ toString p ++ ": missing closing quote `" ++ quote.toString ++
      "` in attribute value"

/-- An attribute as written, its value between the quotes. -/
structure RawAttribute where
  key : List Char
  value : List Char
  deriving Repr, DecidableEq, Inhabited

/-- Text that remains of a tag, and the position where it starts. -/
structure TagRest where
  position : Nat
  text : List Char
  deriving Repr, Inhabited

namespace TagRest

def skipBlanks (r : TagRest) : TagRest :=
  ⟨r.position + (r.text.takeWhile isBlank).length, r.text.dropWhile isBlank⟩

theorem skipBlanks_length_le (r : TagRest) : r.skipBlanks.text.length ≤ r.text.length :=
  (List.dropWhile_sublist isBlank).length_le

def endsKey (c : Char) : Bool := c = '=' || isBlank c

/-- The key that starts at once: its first character, and what follows up to an equals sign or a
blank. -/
def key (r : TagRest) : List Char × TagRest :=
  let key := r.text.take 1 ++ r.text.tail.takeWhile (!endsKey ·)
  (key, ⟨r.position + Text.byteLength key, r.text.tail.dropWhile (!endsKey ·)⟩)

theorem key_length_le (r : TagRest) : r.key.2.text.length ≤ r.text.length := by
  have := (List.dropWhile_sublist (!endsKey ·) (l := r.text.tail)).length_le
  simp only [key, List.length_tail] at *
  omega

/-- The rest after an equals sign with blanks before it. -/
def equals (r : TagRest) : Except AttributeFault TagRest :=
  let next := r.skipBlanks
  match next.text with
  | '=' :: rest => .ok ⟨next.position + 1, rest⟩
  | _ => .error (.missingEquals next.position)

theorem equals_length_lt {r rest : TagRest} (h : r.equals = .ok rest) :
    rest.text.length < r.text.length := by
  simp only [equals] at h
  have hle := r.skipBlanks_length_le
  split at h
  · rename_i tail heq
    cases h
    simp only [heq, List.length_cons] at hle
    simp only
    omega
  · cases h

/-- A quoted value with blanks before it. -/
def value (r : TagRest) : Except AttributeFault (List Char × TagRest) :=
  let next := r.skipBlanks
  match next.text with
  | [] => .error (.missingValue next.position)
  | quote :: inside =>
    if quote = '"' || quote = '\'' then
      let value := inside.takeWhile (· != quote)
      let stop := next.position + 1 + Text.byteLength value
      match inside.dropWhile (· != quote) with
      | [] => .error (.openQuote stop quote)
      | _ :: rest => .ok (value, ⟨stop + 1, rest⟩)
    else .error (.unquoted next.position)

theorem value_length_le {r rest : TagRest} {v : List Char} (h : r.value = .ok (v, rest)) :
    rest.text.length ≤ r.text.length := by
  simp only [value] at h
  have hle := r.skipBlanks_length_le
  split at h
  · cases h
  · rename_i quote inside heq
    split at h
    · split at h
      · cases h
      · rename_i c tail hdrop
        cases h
        have := (List.dropWhile_sublist (· != quote) (l := inside)).length_le
        simp only [hdrop, List.length_cons] at this
        simp only [heq, List.length_cons] at hle
        simp only
        omega
    · cases h

end TagRest

/-- Attributes from left to right up to the first fault. If `seen` is given, it holds the keys before
with their positions, and a key that comes again is a fault. -/
def attributesFrom (seen : Option (List (List Char × Nat))) (r : TagRest) :
    List RawAttribute × Option AttributeFault :=
  let start := r.skipBlanks
  if start.text.isEmpty then ([], none)
  else
    let key := start.key.1
    match _hEquals : start.key.2.equals with
    | .error fault => ([], some fault)
    | .ok afterEquals =>
      match (seen.getD []).find? (·.1 = key) with
      | some (_, earlier) => ([], some (.duplicated start.position earlier))
      | none =>
        match _hValue : afterEquals.value with
        | .error fault => ([], some fault)
        | .ok (value, rest) =>
          let others := attributesFrom (seen.map ((key, start.position) :: ·)) rest
          (⟨key, value⟩ :: others.1, others.2)
termination_by r.text.length
decreasing_by
  have h1 := r.skipBlanks_length_le
  have h2 := start.key_length_le
  have h3 := TagRest.equals_length_lt ‹start.key.2.equals = _›
  have h4 := TagRest.value_length_le ‹afterEquals.value = _›
  simp only [start] at h2 h3
  omega

/-- The inside of a tag, without its brackets and the slash of an empty one. -/
structure TagContent where
  text : List Char
  deriving Repr, Inhabited

namespace TagContent

def name (t : TagContent) : List Char := t.text.takeWhile (!isBlank ·)

def rest (t : TagContent) : TagRest :=
  ⟨Text.byteLength t.name, t.text.dropWhile (!isBlank ·)⟩

/-- The attributes; no key comes twice before the fault, if there is one. -/
def attributes (t : TagContent) : List RawAttribute × Option AttributeFault :=
  attributesFrom (some []) t.rest

/-- The attributes up to the first one that cannot be read, keys that come again among them. -/
def readableAttributes (t : TagContent) : List RawAttribute := (attributesFrom none t.rest).1

end TagContent
end StreamSelect.Markup
