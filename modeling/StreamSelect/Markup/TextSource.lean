import StreamSelect.EventSource
import StreamSelect.Markup.LineTracker
import StreamSelect.Markup.SourceError

/-! Events of markup text. Names are resolved in the namespaces in scope; declarations of namespaces
are not reported as attributes. A tag that closes itself gives a start and an end. Comments and
processing instructions are left out. Every event carries the place where it begins. -/
namespace StreamSelect.Markup

structure TextSource extends Tokenizer where
  tracker : LineTracker
  pendingEnd : Option EndElement
  finished : Bool
  deriving Inhabited

namespace TextSource

def ofText (text : String) (trimText : Bool) : TextSource where
  toTokenizer := .ofText text trimText
  tracker := .ofBytes text.toUTF8.data
  pendingEnd := none
  finished := false

/-- Blank bytes as counted when places are looked up: the form feed is among them. -/
def isBlankByte (b : UInt8) : Bool := b = 32 || b = 9 || b = 10 || b = 12 || b = 13

def skipBlankBytes (bytes : Array UInt8) (offset : Nat) : Nat :=
  if h : offset < bytes.size then
    if isBlankByte bytes[offset] then skipBlankBytes bytes (offset + 1) else offset
  else offset
termination_by bytes.size - offset

/-- Moves to the place where the next token begins. -/
def locate (s : TextSource) : TextSource :=
  let bytes := s.tracker.bytes
  let offset :=
    if 0 < s.position && bytes[s.position - 1]? == some 60 then s.position - 1 else s.position
  let offset := if s.trimText then skipBlankBytes bytes offset else offset
  { s with tracker := s.tracker.advance offset }

/-- Lets the tokenizer leave out blanks in front of the next token. -/
def trimFront (s : TextSource) : TextSource := { s with toTokenizer := s.toTokenizer.trimFront }

/-- The start of an element from its tag, and the scope inside it. -/
def startElement (scope : Scope) (content : TagContent) (location : Location) :
    Except SourceError (StartElement × Scope) := do
  let inner ← (scope.enter content.readableAttributes).mapError fun fault =>
    .malformed (.binding fault) location
  let name ← ((RawName.ofText content.name).elementName inner).mapError
    (.unknownLabel · location)
  let (written, fault) := content.attributes
  let attributes ← written.foldlM (fun (found : Attributes) a => do
    if (boundLabel? a.key).isSome then return found
    let name ← ((RawName.ofText a.key).attributeName inner).mapError (.unknownLabel · location)
    let value ← (Reference.expand a.value).mapError fun fault =>
      .malformed (.reference fault) location
    return found.insert name (String.ofList value)) Attributes.empty
  match fault with
  | some fault => .error (.malformed (.attribute fault) location)
  | none => .ok (⟨name, attributes, some location⟩, inner)

/-- What a token makes of a source that has read it: an event, nothing, or an error. -/
def take (s : TextSource) (location : Location) : Token →
    Except SourceError (Option Event × TextSource)
  | .characters raw => do
    let raw := if s.trimText then Text.dropTrailing isBlank raw else raw
    let text ← (Reference.expand raw).mapError fun fault => .malformed (.reference fault) location
    if text.isEmpty then .ok (none, s)
    else .ok (some (.characters ⟨String.ofList text, some location⟩), s)
  | .cdata raw => .ok (some (.characters ⟨String.ofList raw, some location⟩), s)
  | .doctype raw =>
    .ok (some (.declaration (.doctype ⟨String.ofList raw, some location⟩)), s)
  | .comment _ => .ok (none, s)
  | .instruction _ => .ok (none, s)
  | .startTag content => do
    let (element, inner) ← startElement s.scope content location
    .ok (some (.startElement element),
      { s with openTags := (content.name, s.scope) :: s.openTags, scope := inner })
  | .emptyTag content => do
    let (element, _) ← startElement s.scope content location
    .ok (some (.startElement element), { s with pendingEnd := some ⟨element.name, some location⟩ })
  | .endTag found =>
    match s.openTags with
    | [] => .error (.malformed (.unmatchedEnd found) location)
    | (expected, outer) :: openTags =>
      if found = expected then do
        let name ← ((RawName.ofText found).elementName s.scope).mapError (.unknownLabel · location)
        .ok (some (.endElement ⟨name, some location⟩), { s with openTags, scope := outer })
      else .error (.malformed (.mismatchedEnd expected found) location)

theorem take_rest {s s' : TextSource} {l : Location} {t : Token} {e : Option Event}
    (h : s.take l t = .ok (e, s')) : s'.rest = s.rest := by
  cases t <;> simp only [take] at h
  case characters raw =>
    revert h
    cases Reference.expand (if s.trimText then Text.dropTrailing isBlank raw else raw) with
    | error f => intro h; cases h
    | ok text =>
      show (if text.isEmpty then Except.ok (none, s) else .ok (some _, s)) = _ → _
      intro h
      split at h <;> cases h <;> rfl
  case cdata => cases h; rfl
  case doctype => cases h; rfl
  case comment => cases h; rfl
  case instruction => cases h; rfl
  case startTag content =>
    revert h
    cases startElement s.scope content l with
    | error f => intro h; cases h
    | ok p => intro h; cases h; rfl
  case emptyTag content =>
    revert h
    cases startElement s.scope content l with
    | error f => intro h; cases h
    | ok p => intro h; cases h; rfl
  case endTag found =>
    split at h
    · cases h
    · split at h
      · revert h
        cases (RawName.ofText found).elementName s.scope with
        | error f => intro h; cases h
        | ok n => intro h; cases h; rfl
      · cases h

/-- Reads tokens up to the first that gives an event. -/
def readEvent (s : TextSource) : Except SourceError (Option Event) × TextSource :=
  let located := s.locate
  let location := located.tracker.location
  let ready := located.trimFront
  match _hRest : ready.rest with
  | [] => (.ok none, ready)
  | c :: text =>
    match _hRead : Token.read c text with
    | .error fault => (.error (.malformed (.lexical fault) location), ready)
    | .ok lexeme =>
      let after : TextSource :=
        { ready with
          rest := lexeme.rest
          position := ready.position + Text.byteLength lexeme.source }
      match _hTake : after.take location lexeme.token with
      | .error e => (.error e, after)
      | .ok (some event, next) => (.ok (some event), next)
      | .ok (none, next) => readEvent next
termination_by s.rest.length
decreasing_by
  have h1 := take_rest ‹after.take location lexeme.token = _›
  have h2 := Token.rest_length_lt ‹Token.read c text = _›
  have h3 : ready.rest.length ≤ s.rest.length := located.length_trimFront_le
  rw [‹ready.rest = _›, List.length_cons] at h3
  simp only [h1, after]
  omega

/-- The next event. The end of the text and an error finish the source for good. -/
def next (s : TextSource) : Option (Except SourceError Event) × TextSource :=
  if s.finished then (none, s)
  else match s.pendingEnd with
    | some e => (some (.ok (.endElement e)), { s with pendingEnd := none })
    | none =>
      match s.readEvent with
      | (.ok (some event), s') => (some (.ok event), s')
      | (.ok none, s') => (none, { s' with finished := true })
      | (.error e, s') => (some (.error e), { s' with finished := true })

def describe (s : TextSource) : String :=
  "XmlReaderSource \x7b offset: " ++ toString s.tracker.offset ++ ", trim_text: " ++
    toString s.trimText ++ ", finished: " ++ toString s.finished ++ ", .. \x7d"

/-- What a source still holds: the text, an end to give, and its own end. -/
def size (s : TextSource) : Nat :=
  if s.finished then 0 else 1 + 2 * s.rest.length + (if s.pendingEnd.isSome then 1 else 0)

theorem rest_length_lt_of_readEvent {s s' : TextSource} {e : Event}
    (h : s.readEvent = (.ok (some e), s')) : s'.rest.length < s.rest.length := by
  fun_induction readEvent s
  case case1 => cases h
  case case2 => cases h
  case case3 => cases h
  case case4 s located location ready c text hRest lexeme hRead after event next hTake =>
    cases h
    have h1 := take_rest hTake
    have h2 := Token.rest_length_lt hRead
    have h3 : ready.rest.length ≤ s.rest.length := located.length_trimFront_le
    rw [hRest, List.length_cons] at h3
    simp only [h1, after]
    omega
  case case5 s located location ready c text hRest lexeme hRead after next hTake ih =>
    have h1 := take_rest hTake
    have h2 := Token.rest_length_lt hRead
    have h3 : ready.rest.length ≤ s.rest.length := located.length_trimFront_le
    rw [hRest, List.length_cons] at h3
    have h4 := ih h
    simp only [h1, after] at h4
    omega

theorem size_lt_of_next {s s' : TextSource} {item : Except SourceError Event}
    (h : s.next = (some item, s')) : s'.size < s.size := by
  simp only [next] at h
  split at h
  · cases h
  · rename_i open_
    have hs : s.size = 1 + 2 * s.rest.length + (if s.pendingEnd.isSome then 1 else 0) := by
      simp [size, open_]
    split at h
    · rename_i e he
      cases h
      simp [size, open_, he]
    · split at h
      · rename_i hp event next hRead
        cases h
        have h1 := rest_length_lt_of_readEvent hRead
        rw [hs]
        simp only [size]
        split
        · omega
        · split <;> omega
      · cases h
      · cases h
        rw [hs]
        simp only [size, if_true]
        omega

/-- Pulls one event; a failure is given by its text. -/
def poll (s : TextSource) : Option (Except String Event) × TextSource :=
  match s.next with
  | (none, next) => (none, next)
  | (some (.ok event), next) => (some (.ok event), next)
  | (some (.error e), next) => (some (.error e.message), next)

/-- The events of a text. -/
def events : EventSource TextSource where
  poll := poll
  size := size
  size_lt s item s' h := by
    simp only [poll] at h
    split at h
    · cases h
    · rename_i hn
      cases h
      exact size_lt_of_next hn
    · rename_i hn
      cases h
      exact size_lt_of_next hn

end TextSource
end StreamSelect.Markup
