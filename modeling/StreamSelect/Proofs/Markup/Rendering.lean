import StreamSelect.Proofs.Markup.Attributes

/-! A source reads the events of a tree from each of its spellings, whichever way empty elements are
written and wherever comments stand between tags. -/
namespace StreamSelect

/-- An event without its place. -/
def Event.unplaced : Event → Event
  | .startElement e => .startElement { e with location := none }
  | .endElement e => .endElement { e with location := none }
  | .characters c => .characters { c with location := none }
  | .declaration (.doctype d) => .declaration (.doctype { d with location := none })
  | .declaration (.entity d) => .declaration (.entity { d with location := none })
  | .declaration (.reference d) => .declaration (.reference { d with location := none })
  | .declaration (.notationDecl d) => .declaration (.notationDecl { d with location := none })

namespace Markup

/-! ### The start of an element -/

theorem qualified_nil (name : String) :
    (RawName.mk none name.toList).qualified [] = .plain name := by
  simp [RawName.qualified, Name.inNamespace, Name.withQualifier, Name.nonempty, Name.plain]

theorem elementName_of_isName {name : String} (h : Node.IsName name) :
    (RawName.ofText name.toList).elementName .reserved = .ok (.plain name) := by
  rw [tokenizerLaws.name h, ← qualified_nil]
  rfl

/-- The start event of an element at a place. -/
def startAt (name : String) (attributes : List (String × String)) (l : Location) : StartElement :=
  ⟨.plain name, ⟨attributes.map fun a => (.plain a.1, a.2)⟩, some l⟩

namespace TextSource

theorem different_of_nodup {attributes : List (String × String)}
    (h : (attributes.map Prod.fst).Nodup) :
    Attributes.Different (attributes.map fun a => (Name.plain a.1, a.2)) := by
  rw [Attributes.Different, List.pairwise_map]
  rw [List.Nodup, List.pairwise_map] at h
  apply h.imp
  intro a b hne
  rw [Bool.eq_false_iff]
  intro hsame
  rw [Name.beq_iff_key] at hsame
  exact hne (congrArg Prod.snd hsame)

theorem stands_written {attributes : List (String × String)}
    (h : ∀ a ∈ attributes, Node.IsName a.1) :
    List.Forall₂ (Stands .reserved) (attributes.map written)
      (attributes.map fun a => (Name.plain a.1, a.2)) := by
  induction attributes with
  | nil => exact .nil
  | cons a attributes ih =>
    obtain ⟨ha, hrest⟩ := List.forall_mem_cons.1 h
    refine .cons ⟨?_, tokenizerLaws.expands _⟩ (ih hrest)
    have hplain := qualified_nil a.1
    rw [written, tokenizerLaws.name ha]
    exact congrArg Except.ok hplain

theorem starts_of_spells {name : String} {attributes : List (String × String)} {text : List Char}
    (hname : Node.IsName name) (hattributes : Node.AreAttributes attributes)
    (h : SpellsAttributes attributes text) (l : Location) :
    Starts .reserved ⟨name.toList ++ text⟩ l (startAt name attributes l) .reserved := by
  have hread := tokenizerLaws.tagAttributes hname hattributes h
  have hcomplete : (TagContent.mk (name.toList ++ text)).attributes.2 = none := by rw [hread]
  have hplain : ∀ a ∈ attributes.map written, boundLabel? a.key = none := by
    intro a ha
    obtain ⟨b, hb, rfl⟩ := List.mem_map.1 ha
    exact tokenizerLaws.noDeclaration (hattributes.names b hb) (hattributes.noDeclaration b hb)
  have hreported : reported (attributes.map written) = attributes.map written := by
    rw [reported, List.filter_eq_self]
    intro a ha
    rw [hplain a ha]
    rfl
  constructor
  · rw [tokenizerLaws.complete hcomplete, hread]
    exact tokenizerLaws.scope hplain
  · rw [tokenizerLaws.tagName hname h]
    exact elementName_of_isName hname
  · exact hcomplete
  · rw [hread, hreported]
    refine ⟨_, stands_written hattributes.names, ?_⟩
    have hentries := Attributes.entries_ofList (different_of_nodup hattributes.different)
    exact (congrArg Attributes.mk hentries).symm
  · rfl

/-! ### Reading a spelling -/

/-- A source goes on to another one and gives these events on the way, up to their places. -/
def Gives (s : TextSource) (given : List Event) (next : TextSource) : Prop :=
  ∃ found, events.script s = (events.script next).behind found ∧ found.map Event.unplaced = given

theorem Gives.refl (s : TextSource) : s.Gives [] s := ⟨[], rfl, rfl⟩

theorem Gives.trans {s t u : TextSource} {first later : List Event} (h : s.Gives first t)
    (k : t.Gives later u) : s.Gives (first ++ later) u := by
  obtain ⟨a, ha, rfl⟩ := h
  obtain ⟨b, hb, rfl⟩ := k
  refine ⟨a ++ b, ?_, List.map_append⟩
  rw [ha, hb, Script.behind_behind]

theorem Faces.gives {s next : TextSource} {rest : List Char} {openTags : List (List Char × Scope)}
    {scope : Scope} {p : Passage} (h : Faces s rest openTags scope) (hp : s.Passes p next) :
    s.Gives (p.events.map Event.unplaced) next :=
  ⟨p.events, script_of_passes h.unfinished h.pending hp, rfl⟩

/-- Siblings are read from a text in front of anything that begins with a bracket. -/
def Reads (nodes : List Node) (text : List Char) : Prop :=
  ∀ (s : TextSource) (tail : List Char) (openTags : List (List Char × Scope)),
    s.trimText = false → Faces s (text ++ tail) openTags .reserved → (∀ c ∈ tail.head?, c = '<') →
      ∃ next, s.Gives (Node.eventsOf nodes) next ∧ next.trimText = false ∧
        Faces next tail openTags .reserved

theorem reads_nil : Reads [] [] := fun s _ _ htrim h _ => ⟨s, .refl s, htrim, h⟩

theorem reads_comment {nodes : List Node} {inside rest : List Char}
    (hinside : ∀ c ∈ inside, c.isAlpha = true ∨ c = ' ') (hrest : Reads nodes rest) :
    Reads nodes ('<' :: '!' :: '-' :: '-' :: (inside ++ '-' :: '-' :: '>' :: rest)) := by
  intro s tail openTags htrim h htail
  obtain ⟨next, hpasses, hnext⟩ := h.passes_comment (by rw [htrim]; rfl)
    (by simpa using tokenizerLaws.comment hinside (rest ++ tail))
  obtain ⟨last, hgives, hlast⟩ := hrest next tail openTags (hpasses.trimText.trans htrim) hnext htail
  exact ⟨last, (h.gives hpasses).trans hgives, hlast⟩

/-- A text ends where the next tag or comment begins. -/
theorem head?_of_spells {nodes : List Node} {text tail : List Char} (h : Spells nodes text)
    (hnodes : ∀ node ∈ nodes.head?, node.isText = false) (htail : ∀ c ∈ tail.head?, c = '<') :
    ∀ c ∈ (text ++ tail).head?, c = '<' := by
  cases h with
  | nil => exact htail
  | comment => simp
  | text => simp [Node.isText] at hnodes
  | emptyTag => simp
  | element => simp

theorem reads_text {value : String} {nodes : List Node} {rest : List Char}
    (hvalue : value.toList ≠ []) (hnext : ∀ node ∈ nodes.head?, node.isText = false)
    (hspells : Spells nodes rest) (hrest : Reads nodes rest) :
    Reads (.text value :: nodes) (escape value.toList ++ rest) := by
  intro s tail openTags htrim h htail
  have hhead := head?_of_spells hspells hnext htail
  obtain ⟨c, raw, hraw⟩ := List.exists_cons_of_ne_nil (escape_ne_nil hvalue)
  have hnone : '<' ∉ c :: raw := by
    rw [← hraw]
    exact not_mem_escape (by simp)
  simp only [List.mem_cons, not_or] at hnone
  have hread := tokenizerLaws.characters hnone.1 hnone.2 hhead
  rw [List.append_assoc, hraw] at h
  obtain ⟨next, hpasses, hnext⟩ := h.passes_characters (by rw [htrim]; rfl) hread
    (by rw [htrim, ← hraw]; exact tokenizerLaws.expands _) hvalue
  obtain ⟨last, hgives, hlast⟩ := hrest next tail openTags (hpasses.trimText.trans htrim) hnext htail
  have hfirst := h.gives hpasses
  rw [String.ofList_toList] at hfirst
  exact ⟨last, hfirst.trans hgives, hlast⟩

theorem reads_emptyTag {name : String} {attributes : List (String × String)} {nodes : List Node}
    {written rest : List Char} (hname : Node.IsName name) (hattributes : Node.AreAttributes attributes)
    (hwritten : SpellsAttributes attributes written) (hrest : Reads nodes rest) :
    Reads (.element name attributes [] :: nodes)
      ('<' :: (name.toList ++ written ++ '/' :: '>' :: rest)) := by
  intro s tail openTags htrim h htail
  have hread := tokenizerLaws.emptyTag hname hattributes.names hwritten (rest ++ tail)
  have hstarts := starts_of_spells hname hattributes hwritten s.locate.tracker.location
  obtain ⟨next, hpasses, hnext⟩ := h.passes_emptyTag (by rw [htrim]; rfl) (by simpa using hread)
    hstarts
  obtain ⟨last, hgives, hlast⟩ := hrest next tail openTags (hpasses.trimText.trans htrim) hnext htail
  exact ⟨last, (h.gives hpasses).trans hgives, hlast⟩

theorem reads_element {name : String} {attributes : List (String × String)}
    {children nodes : List Node} {written inside rest : List Char} (hname : Node.IsName name)
    (hattributes : Node.AreAttributes attributes) (hwritten : SpellsAttributes attributes written)
    (hchildren : Reads children inside) (hrest : Reads nodes rest) :
    Reads (.element name attributes children :: nodes)
      ('<' :: (name.toList ++ written ++
        '>' :: (inside ++ '<' :: '/' :: (name.toList ++ '>' :: rest)))) := by
  intro s tail openTags htrim h htail
  have hread := tokenizerLaws.startTag hname hattributes.names hwritten
    (inside ++ '<' :: '/' :: (name.toList ++ '>' :: (rest ++ tail)))
  have hstarts := starts_of_spells hname hattributes hwritten s.locate.tracker.location
  obtain ⟨inner, hpasses, hinner⟩ := h.passes_startTag (by rw [htrim]; rfl) (by simpa using hread)
    hstarts
  rw [tokenizerLaws.tagName hname hwritten] at hinner
  -- what stands inside ends where the end tag begins
  obtain ⟨ending, hgives, htrimEnding, hending⟩ := hchildren inner _ _
    (hpasses.trimText.trans htrim) hinner (by simp)
  obtain ⟨next, hpassesEnd, hnext⟩ := hending.passes_endTag (by rw [htrimEnding]; rfl)
    (tokenizerLaws.endTag hname _) (elementName_of_isName hname)
  obtain ⟨last, hgivesRest, hlast⟩ := hrest next tail openTags
    (hpassesEnd.trimText.trans htrimEnding) hnext htail
  refine ⟨last, ?_, hlast⟩
  have hall := (h.gives hpasses).trans (hgives.trans ((hending.gives hpassesEnd).trans hgivesRest))
  simpa [Node.eventsOf, Node.events, Passage.events, startAt, Event.unplaced] using hall

/-- What spells siblings is read as these siblings. -/
theorem reads_of_spells {nodes : List Node} {text : List Char} (h : Spells nodes text)
    (hnodes : Node.WellFormed nodes) : Reads nodes text := by
  induction h with
  | nil => exact reads_nil
  | comment hinside _ ih => exact reads_comment hinside (ih hnodes)
  | text hspells ih =>
    cases hnodes with
    | text hvalue hnext hrest => exact reads_text hvalue hnext hspells (ih hrest)
  | emptyTag hwritten _ ih =>
    cases hnodes with
    | element hname hattributes _ hrest => exact reads_emptyTag hname hattributes hwritten (ih hrest)
  | element hwritten _ _ ihChildren ih =>
    cases hnodes with
    | element hname hattributes hchildren hrest =>
      exact reads_element hname hattributes hwritten (ihChildren hchildren) (ih hrest)

/-- A source without trimming reads the events of a tree, and then its end, from every spelling. -/
theorem script_of_spells {name : String} {attributes : List (String × String)}
    {children : List Node} {text : String}
    (hnodes : Node.WellFormed [.element name attributes children])
    (h : Spells [.element name attributes children] text.toList) :
    (events.script (ofText text false)).failure = none ∧
      (events.script (ofText text false)).events.map Event.unplaced =
        (Node.element name attributes children).events := by
  have hmark : text.toList.head? ≠ some byteOrderMark := by
    intro hmark
    have hbracket := @head?_of_spells _ _ [] h (by simp [Node.isText]) nofun
    rw [List.append_nil] at hbracket
    exact absurd (hbracket _ hmark) (by decide)
  have hfirst := faces_ofText hmark false
  rw [← List.append_nil text.toList] at hfirst
  obtain ⟨last, ⟨found, hscript, hfound⟩, -, hlast⟩ :=
    reads_of_spells h hnodes _ [] [] rfl hfirst nofun
  rw [hscript, hlast.script_nil]
  constructor
  · rfl
  · simpa [Script.behind, Node.eventsOf] using hfound

/-- A tree whose empty elements are written in both ways, with a comment between them. -/
def mixedTree : Node :=
  .element "a" [("x", "<")] [.element "b" [] [], .text "&", .element "b" [] []]

theorem wellFormed_mixedTree : Node.WellFormed [mixedTree] := by
  have hname : ∀ name ∈ ["a", "b", "x"], Node.IsName name := by
    intro name hmem
    constructor
    · revert name
      decide
    · revert name
      simp
  have hnone : Node.AreAttributes [] := ⟨nofun, List.nodup_nil, nofun⟩
  have hone : Node.AreAttributes [("x", "<")] := by
    refine ⟨?_, by simp, by simp⟩
    simpa using hname "x" (by simp)
  have hb := hname "b" (by simp)
  exact .element (hname "a" (by simp)) hone
    (.element hb hnone .nil (.text (by decide) (by simp [Node.isText]) (.element hb hnone .nil .nil)))
    .nil

theorem spells_mixedTree :
    Spells [mixedTree] "<a x='&lt;'><b/>&amp;<!--c--><b></b></a>".toList := by
  have hwritten := @SpellsAttributes.cons "x" "<" _ _ '\'' (.inr rfl) .nil
  have hlast := @Spells.element "b" _ _ _ _ _ _ .nil .nil .nil
  have hcomment := @Spells.comment _ ['c'] _ (by simp) hlast
  have hchildren := @Spells.emptyTag "b" _ _ _ _ .nil (@Spells.text "&" _ _ hcomment)
  have htree := @Spells.element "a" _ _ _ _ _ _ hwritten hchildren .nil
  convert htree using 1
  · rfl
  · cbv

theorem script_mixedTree :
    (events.script (ofText "<a x='&lt;'><b/>&amp;<!--c--><b></b></a>" false)).failure = none ∧
      (events.script (ofText "<a x='&lt;'><b/>&amp;<!--c--><b></b></a>" false)).events.map
        Event.unplaced = mixedTree.events :=
  script_of_spells wellFormed_mixedTree spells_mixedTree

end TextSource
end Markup
end StreamSelect
