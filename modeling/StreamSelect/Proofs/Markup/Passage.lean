import StreamSelect.Proofs.Markup.Completeness
import StreamSelect.Proofs.Markup.Tokenizer

/-! What a source reads, token by token. The tokens, with the blanks left out between them, lie one
behind the other in the text, and the events of a source are those of its tokens in order. -/
namespace StreamSelect

namespace Script

/-- A script that begins with some events. -/
def behind (s : Script) (events : List Event) : Script := ⟨events ++ s.events, s.failure⟩

@[simp] theorem behind_nil (s : Script) : s.behind [] = s := rfl

theorem behind_behind (s : Script) (first later : List Event) :
    (s.behind later).behind first = s.behind (first ++ later) := by
  simp [behind]

end Script

theorem EventSource.script_congr {σ : Type} {src : EventSource σ} {s t : σ}
    (h : src.poll s = src.poll t) : src.script s = src.script t := by
  cases hpoll : src.poll t with
  | mk item next =>
    have hs : src.poll s = (item, next) := by rw [h, hpoll]
    match item with
    | none => rw [script_of_none hpoll, script_of_none hs]
    | some (.error failure) => rw [script_of_failure hpoll, script_of_failure hs]
    | some (.ok event) => rw [script_of_event hpoll, script_of_event hs]

namespace Markup

/-- A token where a source meets it. -/
structure Passage where
  /-- Blanks in front of it that are left out. -/
  gap : List Char
  lexeme : Lexeme
  location : Location
  /-- The namespaces in force in front of it. -/
  scope : Scope
  event? : Option Event

namespace Passage

def text (p : Passage) : List Char := p.gap ++ p.lexeme.source

/-- The events of a token. An empty tag gives an end behind its start. -/
def events (p : Passage) : List Event :=
  match p.lexeme.token, p.event? with
  | .emptyTag _, some (.startElement e) => [.startElement e, .endElement ⟨e.name, e.location⟩]
  | _, event? => event?.toList

end Passage

namespace TextSource

/-! ### The start of an element -/

/-- What is no declaration of a namespace is reported. -/
def reported (written : List RawAttribute) : List RawAttribute :=
  written.filter fun a => (boundLabel? a.key).isNone

/-- An attribute as written, read in the scope inside its tag, with its name and its value. -/
structure Stands (inner : Scope) (a : RawAttribute) (entry : Name × String) : Prop where
  name : (RawName.ofText a.key).attributeName inner = .ok entry.1
  value : Reference.expand a.value = .ok entry.2.toList

/-- What the start of an element says of its tag; `inner` is the scope inside the tag. -/
structure Starts (scope : Scope) (content : TagContent) (l : Location) (e : StartElement)
    (inner : Scope) : Prop where
  scope : scope.enter content.readableAttributes = .ok inner
  name : (RawName.ofText content.name).elementName inner = .ok e.name
  complete : content.attributes.2 = none
  attributes : ∃ entries, List.Forall₂ (Stands inner) (reported content.attributes.1) entries ∧
    e.attributes = .ofList entries
  location : e.location = some l

theorem mapError_ok {ε ε' α : Type} {f : ε → ε'} {x : Except ε α} {a : α} (h : x = .ok a) :
    x.mapError f = .ok a := by
  rw [h]
  rfl

/-- Adds an attribute as written to those found before it. -/
def collect (inner : Scope) (l : Location) (found : Attributes) (a : RawAttribute) :
    Except SourceError Attributes := do
  if (boundLabel? a.key).isSome then return found
  let name ← ((RawName.ofText a.key).attributeName inner).mapError (.unknownLabel · l)
  let value ← (Reference.expand a.value).mapError fun fault => .malformed (.reference fault) l
  return found.insert name (String.ofList value)

theorem collect_eq_ok_iff {inner : Scope} {l : Location} {found next : Attributes}
    {a : RawAttribute} (h : (boundLabel? a.key).isNone) :
    collect inner l found a = .ok next ↔
      ∃ entry, Stands inner a entry ∧ next = found.insert entry.1 entry.2 := by
  have hsome : (boundLabel? a.key).isSome = false := by
    rw [Option.isNone_iff_eq_none.1 h]
    rfl
  constructor
  · intro hnext
    simp only [collect, hsome, Bool.false_eq_true, if_false] at hnext
    obtain ⟨name, hname, hnext⟩ := bind_eq_ok hnext
    obtain ⟨value, hvalue, hnext⟩ := bind_eq_ok hnext
    cases hnext
    refine ⟨(name, String.ofList value), ⟨mapError_eq_ok hname, ?_⟩, rfl⟩
    rw [String.toList_ofList]
    exact mapError_eq_ok hvalue
  · rintro ⟨entry, hentry, rfl⟩
    simp only [collect, hsome, Bool.false_eq_true, if_false]
    rw [mapError_ok hentry.name, mapError_ok hentry.value]
    show Except.ok (found.insert entry.1 (String.ofList entry.2.toList)) = _
    rw [String.ofList_toList]

/-- The attributes that are found are those that are no declarations, one after the other. -/
theorem foldlM_collect_eq_ok_iff {inner : Scope} {l : Location} {found last : Attributes}
    {written : List RawAttribute} :
    written.foldlM (collect inner l) found = .ok last ↔
      ∃ entries, List.Forall₂ (Stands inner) (reported written) entries ∧
        last = entries.foldl (fun a entry => a.insert entry.1 entry.2) found := by
  induction written generalizing found with
  | nil =>
    constructor
    · intro h
      cases h
      exact ⟨[], .nil, rfl⟩
    · rintro ⟨entries, hentries, rfl⟩
      cases hentries
      rfl
  | cons a written ih =>
    rw [List.foldlM_cons]
    cases hlabel : boundLabel? a.key with
    | some label =>
      have hstep : collect inner l found a = .ok found := by
        simp only [collect, hlabel, Option.isSome_some, if_true]
        rfl
      have hreported : reported (a :: written) = reported written := by simp [reported, hlabel]
      rw [hstep, hreported]
      exact ih
    | none =>
      have hnone : (boundLabel? a.key).isNone := by rw [hlabel]; rfl
      have hreported : reported (a :: written) = a :: reported written := by
        simp [reported, hlabel]
      rw [hreported]
      constructor
      · intro h
        obtain ⟨next, hstep, hrest⟩ := bind_eq_ok h
        obtain ⟨entry, hentry, rfl⟩ := (collect_eq_ok_iff hnone).1 hstep
        obtain ⟨entries, hentries, hlast⟩ := ih.1 hrest
        exact ⟨entry :: entries, .cons hentry hentries, hlast⟩
      · rintro ⟨entries, hentries, hlast⟩
        cases hentries with
        | @cons _ entry _ entries hentry hentries =>
          rw [(collect_eq_ok_iff hnone).2 ⟨entry, hentry, rfl⟩]
          exact ih.2 ⟨entries, hentries, hlast⟩

theorem startElement_eq_ok_iff {scope inner : Scope} {content : TagContent} {l : Location}
    {e : StartElement} :
    startElement scope content l = .ok (e, inner) ↔ Starts scope content l e inner := by
  constructor
  · intro h
    unfold startElement at h
    obtain ⟨inside, hscope, h⟩ := bind_eq_ok h
    obtain ⟨name, hname, h⟩ := bind_eq_ok h
    obtain ⟨attributes, hattributes, h⟩ := bind_eq_ok h
    split at h
    · cases h
    · rename_i hcomplete
      cases h
      exact ⟨mapError_eq_ok hscope, mapError_eq_ok hname, hcomplete,
        foldlM_collect_eq_ok_iff.1 hattributes, rfl⟩
  · intro h
    obtain ⟨entries, hentries, hattributes⟩ := h.attributes
    have hfold : content.attributes.1.foldlM (collect inner l) Attributes.empty =
        .ok e.attributes := foldlM_collect_eq_ok_iff.2 ⟨entries, hentries, hattributes⟩
    unfold startElement
    rw [mapError_ok h.scope]
    show ((RawName.ofText content.name).elementName inner |>.mapError _) >>= _ = _
    rw [mapError_ok h.name]
    show (content.attributes.1.foldlM (collect inner l) Attributes.empty) >>= _ = _
    rw [hfold]
    have hcomplete : (attributesFrom (some []) content.rest).2 = none := h.complete
    simp only [bind, Except.bind]
    rw [hcomplete, ← h.location]

/-! ### One token -/

/-- What a token gives, and what it makes of a source that has read it. -/
inductive Taken (s : TextSource) (l : Location) : Token → Option Event → TextSource → Prop
  | blank {raw : List Char}
    (htext : Reference.expand (if s.trimText then Text.dropTrailing isBlank raw else raw) = .ok []) :
    Taken s l (.characters raw) none s
  | characters {raw text : List Char}
    (htext : Reference.expand (if s.trimText then Text.dropTrailing isBlank raw else raw) = .ok text)
    (hsome : text ≠ []) :
    Taken s l (.characters raw) (some (.characters ⟨String.ofList text, some l⟩)) s
  | cdata {raw : List Char} :
    Taken s l (.cdata raw) (some (.characters ⟨String.ofList raw, some l⟩)) s
  | doctype {raw : List Char} :
    Taken s l (.doctype raw) (some (.declaration (.doctype ⟨String.ofList raw, some l⟩))) s
  | comment {raw : List Char} : Taken s l (.comment raw) none s
  | instruction {raw : List Char} : Taken s l (.instruction raw) none s
  | startTag {content : TagContent} {e : StartElement} {inner : Scope}
    (helement : startElement s.scope content l = .ok (e, inner)) :
    Taken s l (.startTag content) (some (.startElement e))
      { s with openTags := (content.name, s.scope) :: s.openTags, scope := inner }
  | emptyTag {content : TagContent} {e : StartElement} {inner : Scope}
    (helement : startElement s.scope content l = .ok (e, inner)) :
    Taken s l (.emptyTag content) (some (.startElement e))
      { s with pendingEnd := some ⟨e.name, some l⟩ }
  | endTag {found : List Char} {outer : Scope} {tags : List (List Char × Scope)} {name : Name}
    (htags : s.openTags = (found, outer) :: tags)
    (hname : (RawName.ofText found).elementName s.scope = .ok name) :
    Taken s l (.endTag found) (some (.endElement ⟨name, some l⟩))
      { s with openTags := tags, scope := outer }

theorem take_eq_ok_iff {s next : TextSource} {l : Location} {token : Token}
    {event? : Option Event} :
    s.take l token = .ok (event?, next) ↔ Taken s l token event? next := by
  constructor
  · intro h
    cases token with
    | characters raw =>
      obtain ⟨text, htext, h⟩ := bind_eq_ok h
      split at h
      · rename_i hempty
        cases h
        rw [List.isEmpty_iff.1 hempty] at htext
        exact .blank (mapError_eq_ok htext)
      · rename_i hempty
        cases h
        exact .characters (mapError_eq_ok htext) fun hnil => hempty (by simp [hnil])
    | cdata raw =>
      cases h
      exact .cdata
    | doctype raw =>
      cases h
      exact .doctype
    | comment raw =>
      cases h
      exact .comment
    | instruction raw =>
      cases h
      exact .instruction
    | startTag content =>
      obtain ⟨⟨element, inner⟩, helement, h⟩ := bind_eq_ok h
      cases h
      exact .startTag helement
    | emptyTag content =>
      obtain ⟨⟨element, inner⟩, helement, h⟩ := bind_eq_ok h
      cases h
      exact .emptyTag helement
    | endTag found =>
      simp only [take] at h
      split at h
      · cases h
      · rename_i expected outer tags htags
        split at h
        · rename_i hsame
          subst hsame
          obtain ⟨name, hname, h⟩ := bind_eq_ok h
          cases h
          exact .endTag htags (mapError_eq_ok hname)
        · cases h
  · intro h
    cases h with
    | blank htext =>
      simp only [take]
      rw [mapError_ok htext]
      rfl
    | @characters raw text htext hsome =>
      simp only [take]
      rw [mapError_ok htext]
      cases text with
      | nil => exact absurd rfl hsome
      | cons c text => rfl
    | cdata => rfl
    | doctype => rfl
    | comment => rfl
    | instruction => rfl
    | startTag helement =>
      simp only [take]
      rw [helement]
      rfl
    | emptyTag helement =>
      simp only [take]
      rw [helement]
      rfl
    | endTag htags hname =>
      simp only [take, htags, if_true]
      rw [mapError_ok hname]
      rfl

/-- Every event of a token has the place of the token. -/
theorem Taken.location {s next : TextSource} {l : Location} {token : Token} {event : Event}
    (h : Taken s l token (some event) next) : event.location = some l := by
  cases h with
  | characters => rfl
  | cdata => rfl
  | doctype => rfl
  | startTag helement => exact (startElement_eq_ok_iff.1 helement).location
  | emptyTag helement => exact (startElement_eq_ok_iff.1 helement).location
  | endTag => rfl

/-- What a token does not touch. -/
theorem Taken.frame {s next : TextSource} {l : Location} {token : Token} {event? : Option Event}
    (h : Taken s l token event? next) :
    next.rest = s.rest ∧ next.position = s.position ∧ next.trimText = s.trimText ∧
      next.tracker = s.tracker ∧ next.finished = s.finished := by
  cases h with
  | blank => simp
  | characters => simp
  | cdata => simp
  | doctype => simp
  | comment => simp
  | instruction => simp
  | startTag => simp
  | emptyTag => simp
  | endTag => simp

theorem Taken.eq_of_none {s next : TextSource} {l : Location} {token : Token}
    (h : Taken s l token none next) : next = s := by
  cases h <;> rfl

/-- Only an empty tag leaves an end to give. -/
theorem Taken.pendingEnd {s next : TextSource} {l : Location} {token : Token} {event : Event}
    (h : Taken s l token (some event) next) (hs : s.pendingEnd = none) :
    (Passage.mk [] ⟨token, [], []⟩ l [] (some event)).events =
      event :: next.pendingEnd.toList.map .endElement := by
  cases h with
  | characters => simp [Passage.events, hs]
  | cdata => simp [Passage.events, hs]
  | doctype => simp [Passage.events, hs]
  | startTag => simp [Passage.events, hs]
  | emptyTag helement =>
    have hlocation := (startElement_eq_ok_iff.1 helement).location
    simp [Passage.events, hlocation]
  | endTag => simp [Passage.events, hs]

/-! ### All tokens -/

/-- The source that has read a token of a text. -/
def behind (s : TextSource) (lexeme : Lexeme) : TextSource :=
  { s with
    rest := lexeme.rest
    position := s.position + Text.byteLength lexeme.source }

/-- The token in front of a source with the blanks before it, and the source behind both. -/
def pass? (s : TextSource) : Option (Passage × TextSource) :=
  match s.locate.trimFront.rest with
  | [] => none
  | c :: text =>
    match Token.read c text with
    | .error _ => none
    | .ok lexeme =>
      let location := s.locate.tracker.location
      let gap := if s.trimText then s.rest.takeWhile isBlank else []
      match (s.locate.trimFront.behind lexeme).take location lexeme.token with
      | .error _ => none
      | .ok (event?, next) =>
        some (⟨gap, lexeme, location, s.scope, event?⟩, { next with pendingEnd := none })

/-- What it is for a source to pass a token. -/
structure Passes (s : TextSource) (p : Passage) (next : TextSource) : Prop where
  gap : p.gap = if s.trimText then s.rest.takeWhile isBlank else []
  read : ∃ c text, s.locate.trimFront.rest = c :: text ∧ Token.read c text = .ok p.lexeme
  location : p.location = s.locate.tracker.location
  scope : p.scope = s.scope
  taken : ∃ last, Taken (s.locate.trimFront.behind p.lexeme) p.location p.lexeme.token p.event? last ∧
    next = { last with pendingEnd := none }

theorem pass?_eq_some_iff {s next : TextSource} {p : Passage} :
    s.pass? = some (p, next) ↔ s.Passes p next := by
  constructor
  · intro h
    unfold pass? at h
    split at h
    · cases h
    · rename_i c text hrest
      split at h
      · cases h
      · rename_i lexeme hread
        dsimp only at h
        split at h
        · cases h
        · rename_i event? last htake
          cases h
          exact ⟨rfl, ⟨c, text, hrest, hread⟩, rfl, rfl, last, take_eq_ok_iff.1 htake, rfl⟩
  · intro h
    obtain ⟨gap, lexeme, location, scope, event?⟩ := p
    obtain ⟨rfl, ⟨c, text, hrest, hread⟩, rfl, rfl, last, htaken, rfl⟩ := h
    dsimp only at hread htaken
    unfold pass?
    rw [hrest]
    dsimp only
    rw [hread]
    dsimp only
    rw [take_eq_ok_iff.2 htaken]

/-- The tokens that a source reads before its end or its first failure. -/
def passages (s : TextSource) : List Passage :=
  match _h : s.pass? with
  | none => []
  | some (p, next) => p :: next.passages
termination_by s.rest.length
decreasing_by
  obtain ⟨-, ⟨c, text, hrest, hread⟩, -, -, last, htaken, rfl⟩ := pass?_eq_some_iff.1 _h
  have hshorter := Token.rest_length_lt hread
  have hready : s.locate.trimFront.rest.length ≤ s.rest.length := s.locate.length_trimFront_le
  have hsame : last.rest = p.lexeme.rest := htaken.frame.1
  rw [hrest, List.length_cons] at hready
  simp only [hsame]
  exact Nat.lt_of_lt_of_le hshorter hready

theorem passages_of_none {s : TextSource} (h : s.pass? = none) : s.passages = [] := by
  rw [passages]
  split
  · rfl
  · simp_all

theorem passages_of_passes {s next : TextSource} {p : Passage} (h : s.Passes p next) :
    s.passages = p :: next.passages := by
  have hpass := pass?_eq_some_iff.2 h
  rw [passages]
  split
  · simp_all
  · rename_i found rest hfound
    rw [hpass] at hfound
    cases hfound
    rfl

theorem exists_passes_of_mem {s : TextSource} {p : Passage} (h : p ∈ s.passages) :
    ∃ before next, Passes before p next := by
  fun_induction passages s with
  | case1 s hnone => cases h
  | case2 s first next hfirst ih =>
    rcases List.mem_cons.1 h with rfl | hrest
    · exact ⟨s, next, pass?_eq_some_iff.1 hfirst⟩
    · exact ih hrest

/-! ### The events of all tokens -/

theorem readEvent_of_passes {s next : TextSource} {p : Passage} (h : s.Passes p next) :
    ∃ last, Taken (s.locate.trimFront.behind p.lexeme) p.location p.lexeme.token p.event? last ∧
      next = { last with pendingEnd := none } ∧
      s.readEvent = match p.event? with
        | some event => (.ok (some event), last)
        | none => last.readEvent := by
  obtain ⟨-, ⟨c, text, hrest, hread⟩, hlocation, -, last, htaken, hnext⟩ := h
  refine ⟨last, htaken, hnext, ?_⟩
  rw [hlocation] at htaken
  rw [readEvent_eq, hrest]
  dsimp only
  rw [hread]
  dsimp only
  rw [show ({ s.locate.trimFront with
      rest := p.lexeme.rest
      position := s.locate.trimFront.position + Text.byteLength p.lexeme.source } : TextSource) =
    s.locate.trimFront.behind p.lexeme from rfl, take_eq_ok_iff.2 htaken]
  cases p.event? with
  | none => rfl
  | some event => rfl

theorem next_of_open {s : TextSource} (hopen : s.finished = false) (hpending : s.pendingEnd = none) :
    s.next = match s.readEvent with
      | (.ok (some event), s') => (some (.ok event), s')
      | (.ok none, s') => (none, { s' with finished := true })
      | (.error e, s') => (some (.error e), { s' with finished := true }) := by
  rw [TextSource.next, hopen, hpending]
  rfl

theorem poll_of_next {s next : TextSource} {event : Event}
    (h : s.next = (some (.ok event), next)) : events.poll s = (some (.ok event), next) := by
  rw [poll_eq, h]
  rfl

/-- A source that has not ended gives the events of the token in front of it, and then goes on. -/
theorem script_of_passes {s next : TextSource} {p : Passage} (hopen : s.finished = false)
    (hpending : s.pendingEnd = none) (h : s.Passes p next) :
    events.script s = (events.script next).behind p.events := by
  obtain ⟨last, htaken, rfl, hread⟩ := readEvent_of_passes h
  have hready : (s.locate.trimFront.behind p.lexeme).pendingEnd = none := s.ready_eq.1.trans hpending
  have hbehind : (s.locate.trimFront.behind p.lexeme).finished = false := hopen
  have hlast : last.finished = false := htaken.frame.2.2.2.2.trans hbehind
  have hnext := next_of_open hopen hpending
  rw [hread] at hnext
  cases hevent : p.event? with
  | none =>
    rw [hevent] at hnext htaken
    have hsame : last.pendingEnd = none := by
      rw [htaken.eq_of_none]
      exact hready
    have hrest : { last with pendingEnd := none } = last := by rw [← hsame]
    have hnothing : p.events = [] := by
      simp only [Passage.events, hevent]
      split <;> simp_all
    rw [hnothing, Script.behind_nil, hrest]
    apply EventSource.script_congr
    rw [poll_eq, poll_eq, hnext, next_of_open hlast hsame]
  | some event =>
    rw [hevent] at hnext htaken
    have hevents : p.events = event :: last.pendingEnd.toList.map .endElement := by
      rw [← htaken.pendingEnd hready]
      simp only [Passage.events, hevent]
    rw [EventSource.script_of_event (poll_of_next hnext), hevents]
    cases hend : last.pendingEnd with
    | none =>
      have hrest : { last with pendingEnd := none } = last := by rw [← hend]
      rw [hrest]
      rfl
    | some e =>
      have hlastNext : last.next = (some (.ok (.endElement e)), { last with pendingEnd := none }) := by
        rw [TextSource.next, hlast, hend]
        rfl
      rw [EventSource.script_of_event (poll_of_next hlastNext)]
      rfl

/-- A source that meets no token gives no event: it is at its end, or it fails. -/
theorem next_of_pass?_eq_none {s : TextSource} (hopen : s.finished = false)
    (hpending : s.pendingEnd = none) (h : s.pass? = none) (event : Event) :
    s.next.1 ≠ some (.ok event) := by
  rw [next_of_open hopen hpending, readEvent_eq]
  unfold pass? at h
  cases hrest : s.locate.trimFront.rest with
  | nil => exact nofun
  | cons c text =>
    rw [hrest] at h
    dsimp only at h ⊢
    cases hread : Token.read c text with
    | error fault => exact nofun
    | ok lexeme =>
      rw [hread] at h
      dsimp only at h ⊢
      cases htake : (s.locate.trimFront.behind lexeme).take s.locate.tracker.location
          lexeme.token with
      | error e =>
        rw [show ({ s.locate.trimFront with
            rest := lexeme.rest
            position := s.locate.trimFront.position + Text.byteLength lexeme.source } :
              TextSource) = s.locate.trimFront.behind lexeme from rfl, htake]
        exact nofun
      | ok found =>
        rw [htake] at h
        cases h

theorem events_of_pass?_eq_none {s : TextSource} (hopen : s.finished = false)
    (hpending : s.pendingEnd = none) (h : s.pass? = none) : (events.script s).events = [] := by
  have hnext := next_of_pass?_eq_none hopen hpending h
  cases hpoll : events.poll s with
  | mk item next =>
    match item with
    | none => rw [EventSource.script_of_none hpoll]
    | some (.error failure) => rw [EventSource.script_of_failure hpoll]
    | some (.ok event) =>
      have hevent := next_of_poll hpoll
      exact absurd (congrArg Prod.fst hevent) (hnext event)

theorem Passes.open {s next : TextSource} {p : Passage} (h : s.Passes p next)
    (hopen : s.finished = false) : next.finished = false ∧ next.pendingEnd = none := by
  obtain ⟨-, -, -, -, last, htaken, rfl⟩ := h
  refine ⟨?_, rfl⟩
  have hbehind : (s.locate.trimFront.behind p.lexeme).finished = false := hopen
  exact htaken.frame.2.2.2.2.trans hbehind

/-- The events of a source are those of its tokens in order. -/
theorem events_eq_passages {s : TextSource} (hopen : s.finished = false)
    (hpending : s.pendingEnd = none) :
    (events.script s).events = s.passages.flatMap Passage.events := by
  fun_induction passages s with
  | case1 s h => exact events_of_pass?_eq_none hopen hpending h
  | case2 s p next h ih =>
    have hpasses := pass?_eq_some_iff.1 h
    obtain ⟨hopenNext, hpendingNext⟩ := hpasses.open hopen
    rw [script_of_passes hopen hpending hpasses, List.flatMap_cons, ← ih hopenNext hpendingNext]
    rfl

/-! ### Tokens tile the text -/

theorem rest_ready (s : TextSource) :
    s.locate.trimFront.rest = if s.trimText then s.rest.dropWhile isBlank else s.rest :=
  s.toTokenizer.rest_trimFront

/-- A token with the blanks before it is the front of the text that remained. -/
theorem Passes.rest {s next : TextSource} {p : Passage} (h : s.Passes p next) :
    s.rest = p.text ++ next.rest := by
  obtain ⟨hgap, ⟨c, text, hrest, hread⟩, -, -, last, htaken, rfl⟩ := h
  have hfront : s.rest = p.gap ++ s.locate.trimFront.rest := by
    rw [hgap]
    rw [rest_ready]
    split
    · exact (List.takeWhile_append_dropWhile).symm
    · rfl
  have hsame : last.rest = p.lexeme.rest := htaken.frame.1
  rw [hfront, hrest, ← tokenizerLaws.tiles hread, Passage.text, List.append_assoc]
  simp only [hsame]

theorem exists_rest_passages (s : TextSource) :
    ∃ rest, s.rest = s.passages.flatMap Passage.text ++ rest := by
  fun_induction passages s with
  | case1 s h => exact ⟨s.rest, rfl⟩
  | case2 s p next h ih =>
    obtain ⟨rest, hrest⟩ := ih
    refine ⟨rest, ?_⟩
    rw [(pass?_eq_some_iff.1 h).rest, hrest, List.flatMap_cons, List.append_assoc]

/-! ### What a source faces -/

/-- What the coming tokens are read from: the text, and the tags and the scope it stands in. -/
structure Faces (s : TextSource) (rest : List Char) (openTags : List (List Char × Scope))
    (scope : Scope) : Prop where
  rest : s.rest = rest
  openTags : s.openTags = openTags
  scope : s.scope = scope
  unfinished : s.finished = false
  pending : s.pendingEnd = none

theorem trimText_ready (s : TextSource) : s.locate.trimFront.trimText = s.trimText :=
  s.toTokenizer.trimText_trimFront

theorem Passes.trimText {s next : TextSource} {p : Passage} (h : s.Passes p next) :
    next.trimText = s.trimText := by
  obtain ⟨-, -, -, -, last, htaken, rfl⟩ := h
  exact htaken.frame.2.2.1.trans s.trimText_ready

/-- A source that can take what it faces passes it. -/
theorem Faces.passes {s last : TextSource} {rest text : List Char}
    {openTags : List (List Char × Scope)} {scope : Scope} {c : Char} {lexeme : Lexeme}
    {event? : Option Event} (h : Faces s rest openTags scope)
    (hfront : (if s.trimText then rest.dropWhile isBlank else rest) = c :: text)
    (hread : Token.read c text = .ok lexeme)
    (htaken : Taken (s.locate.trimFront.behind lexeme) s.locate.tracker.location lexeme.token
      event? last) :
    ∃ next, s.Passes ⟨if s.trimText then rest.takeWhile isBlank else [], lexeme,
        s.locate.tracker.location, scope, event?⟩ next ∧
      Faces next lexeme.rest last.openTags last.scope := by
  have hready : s.locate.trimFront.rest = c :: text := by rw [rest_ready, h.rest, hfront]
  have hpasses : s.Passes ⟨if s.trimText then rest.takeWhile isBlank else [], lexeme,
      s.locate.tracker.location, scope, event?⟩ { last with pendingEnd := none } := by
    refine ⟨?_, ⟨c, text, hready, hread⟩, rfl, h.scope.symm, last, htaken, rfl⟩
    rw [h.rest]
  exact ⟨_, hpasses, htaken.frame.1, rfl, rfl, (hpasses.open h.unfinished).1, rfl⟩

variable {s : TextSource} {rest text : List Char} {openTags : List (List Char × Scope)}
  {scope : Scope} {c : Char}

theorem Faces.passes_startTag {content : TagContent} {source after : List Char} {e : StartElement}
    {inner : Scope} (h : Faces s rest openTags scope)
    (hfront : (if s.trimText then rest.dropWhile isBlank else rest) = c :: text)
    (hread : Token.read c text = .ok ⟨.startTag content, source, after⟩)
    (hstarts : Starts scope content s.locate.tracker.location e inner) :
    ∃ next, s.Passes ⟨if s.trimText then rest.takeWhile isBlank else [],
        ⟨.startTag content, source, after⟩, s.locate.tracker.location, scope,
        some (.startElement e)⟩ next ∧
      Faces next after ((content.name, scope) :: openTags) inner := by
  obtain ⟨-, hscope, htags⟩ := s.ready_eq
  have hready : (s.locate.trimFront.behind ⟨.startTag content, source, after⟩).scope = scope :=
    hscope.trans h.scope
  have helement := startElement_eq_ok_iff.2 hstarts
  rw [← hready] at helement
  obtain ⟨next, hpasses, hnext⟩ := h.passes hfront hread (.startTag helement)
  refine ⟨next, hpasses, ?_⟩
  have hopenTags : (s.locate.trimFront.behind ⟨.startTag content, source, after⟩).openTags =
      openTags := htags.trans h.openTags
  rw [hready, hopenTags] at hnext
  exact hnext

theorem Faces.passes_emptyTag {content : TagContent} {source after : List Char} {e : StartElement}
    {inner : Scope} (h : Faces s rest openTags scope)
    (hfront : (if s.trimText then rest.dropWhile isBlank else rest) = c :: text)
    (hread : Token.read c text = .ok ⟨.emptyTag content, source, after⟩)
    (hstarts : Starts scope content s.locate.tracker.location e inner) :
    ∃ next, s.Passes ⟨if s.trimText then rest.takeWhile isBlank else [],
        ⟨.emptyTag content, source, after⟩, s.locate.tracker.location, scope,
        some (.startElement e)⟩ next ∧
      Faces next after openTags scope := by
  obtain ⟨-, hscope, htags⟩ := s.ready_eq
  have hready : (s.locate.trimFront.behind ⟨.emptyTag content, source, after⟩).scope = scope :=
    hscope.trans h.scope
  have helement := startElement_eq_ok_iff.2 hstarts
  rw [← hready] at helement
  obtain ⟨next, hpasses, hnext⟩ := h.passes hfront hread (.emptyTag helement)
  refine ⟨next, hpasses, ?_⟩
  have hopenTags : (s.locate.trimFront.behind ⟨.emptyTag content, source, after⟩).openTags =
      openTags := htags.trans h.openTags
  rw [← hready, ← hopenTags]
  exact hnext

theorem Faces.passes_endTag {found source after : List Char} {outer : Scope} {name : Name}
    (h : Faces s rest ((found, outer) :: openTags) scope)
    (hfront : (if s.trimText then rest.dropWhile isBlank else rest) = c :: text)
    (hread : Token.read c text = .ok ⟨.endTag found, source, after⟩)
    (hname : (RawName.ofText found).elementName scope = .ok name) :
    ∃ next, s.Passes ⟨if s.trimText then rest.takeWhile isBlank else [],
        ⟨.endTag found, source, after⟩, s.locate.tracker.location, scope,
        some (.endElement ⟨name, some s.locate.tracker.location⟩)⟩ next ∧
      Faces next after openTags outer := by
  obtain ⟨-, hscope, htags⟩ := s.ready_eq
  have hready : (s.locate.trimFront.behind ⟨.endTag found, source, after⟩).scope = scope :=
    hscope.trans h.scope
  rw [← hready] at hname
  exact h.passes hfront hread (.endTag (htags.trans h.openTags) hname)

theorem Faces.passes_characters {raw after found : List Char} (h : Faces s rest openTags scope)
    (hfront : (if s.trimText then rest.dropWhile isBlank else rest) = c :: text)
    (hread : Token.read c text = .ok ⟨.characters raw, raw, after⟩)
    (htext : Reference.expand (if s.trimText then Text.dropTrailing isBlank raw else raw) = .ok found)
    (hsome : found ≠ []) :
    ∃ next, s.Passes ⟨if s.trimText then rest.takeWhile isBlank else [],
        ⟨.characters raw, raw, after⟩, s.locate.tracker.location, scope,
        some (.characters ⟨String.ofList found, some s.locate.tracker.location⟩)⟩ next ∧
      Faces next after openTags scope := by
  obtain ⟨-, hscope, htags⟩ := s.ready_eq
  have hready : (s.locate.trimFront.behind ⟨.characters raw, raw, after⟩).trimText = s.trimText :=
    s.trimText_ready
  rw [← hready] at htext
  obtain ⟨next, hpasses, hnext⟩ := h.passes hfront hread (.characters htext hsome)
  refine ⟨next, hpasses, ?_⟩
  rw [← h.openTags, ← h.scope, ← htags, ← hscope]
  exact hnext

theorem Faces.passes_comment {inside source after : List Char} (h : Faces s rest openTags scope)
    (hfront : (if s.trimText then rest.dropWhile isBlank else rest) = c :: text)
    (hread : Token.read c text = .ok ⟨.comment inside, source, after⟩) :
    ∃ next, s.Passes ⟨if s.trimText then rest.takeWhile isBlank else [],
        ⟨.comment inside, source, after⟩, s.locate.tracker.location, scope, none⟩ next ∧
      Faces next after openTags scope := by
  obtain ⟨-, hscope, htags⟩ := s.ready_eq
  obtain ⟨next, hpasses, hnext⟩ := h.passes hfront hread .comment
  refine ⟨next, hpasses, ?_⟩
  rw [← h.openTags, ← h.scope, ← htags, ← hscope]
  exact hnext

theorem Faces.ready_nil (h : Faces s [] openTags scope) : s.locate.trimFront.rest = [] := by
  rw [rest_ready, h.rest]
  split <;> rfl

theorem Faces.pass?_nil (h : Faces s [] openTags scope) : s.pass? = none := by
  unfold pass?
  rw [h.ready_nil]

/-- Behind its text a source ends without a failure, whatever is still open. -/
theorem Faces.script_nil (h : Faces s [] openTags scope) : events.script s = ⟨[], none⟩ := by
  have hread : s.readEvent = (.ok none, s.locate.trimFront) := by
    rw [readEvent_eq, h.ready_nil]
  have hnext := next_of_open h.unfinished h.pending
  rw [hread] at hnext
  have hpoll : events.poll s = (none, { s.locate.trimFront with finished := true }) := by
    rw [poll_eq, hnext]
    rfl
  exact EventSource.script_of_none hpoll

/-! ### Where a text begins -/

theorem faces_ofText {text : String} (h : text.toList.head? ≠ some byteOrderMark)
    (trimText : Bool) : Faces (ofText text trimText) text.toList [] .reserved :=
  ⟨Tokenizer.rest_ofText h trimText, rfl, rfl, rfl, rfl⟩

/-- The first token of a text that is not trimmed begins where the text does. -/
theorem locate_ofText (text : String) : (ofText text false).locate = ofText text false := by
  simp [locate, ofText, LineTracker.advance, LineTracker.ofBytes]

/-- A text that is one empty tag. -/
theorem passages_emptyTag {text : String} {rest : List Char} {content : TagContent}
    {e : StartElement} {inner : Scope} (htext : text.toList = '<' :: rest)
    (hread : Token.read '<' rest = .ok ⟨.emptyTag content, text.toList, []⟩)
    (hstarts : Starts .reserved content ⟨1, 1, 0⟩ e inner) :
    (ofText text false).passages =
      [⟨[], ⟨.emptyTag content, text.toList, []⟩, ⟨1, 1, 0⟩, .reserved,
        some (.startElement e)⟩] := by
  have hmark : text.toList.head? ≠ some byteOrderMark := by
    rw [htext, List.head?_cons, Option.some_inj.ne]
    decide
  have hlocation : (ofText text false).locate.tracker.location = ⟨1, 1, 0⟩ := by
    rw [locate_ofText]
    rfl
  rw [← hlocation] at hstarts
  obtain ⟨next, hpasses, hnext⟩ := (faces_ofText hmark false).passes_emptyTag htext hread hstarts
  rw [passages_of_passes hpasses, passages_of_none hnext.pass?_nil, hlocation]
  rfl

end TextSource
end Markup
end StreamSelect
