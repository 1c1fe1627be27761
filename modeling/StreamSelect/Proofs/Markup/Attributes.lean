import StreamSelect.Proofs.Attributes
import StreamSelect.Proofs.Markup.Passage

/-! The attributes of a start event against those of its tag. Each attribute that declares no
namespace is reported under its own name, in order; where several stand for one name, the map of
attributes keeps a single entry for them. -/
namespace StreamSelect

namespace Markup

/-! ### Attributes as written -/

namespace RawAttribute

def localName (a : RawAttribute) : List Char := (RawName.ofText a.key).localName

def label? (a : RawAttribute) : Option (List Char) := (RawName.ofText a.key).label

/-- The namespace that the label of an attribute stands for. -/
def uri? (inner : Scope) (a : RawAttribute) : Option (List Char) :=
  a.label?.bind fun label => inner.lookup (some label)

/-- Two attributes have one name: the same local part in the same namespace. -/
def SameName (inner : Scope) (a b : RawAttribute) : Prop :=
  a.localName = b.localName ∧ a.uri? inner = b.uri? inner

end RawAttribute

/-- An entry reports an attribute: its local name, its label, its namespace and its value with the
references replaced. -/
structure Reports (inner : Scope) (a : RawAttribute) (entry : Name × String) : Prop where
  localName : entry.1.localName = String.ofList a.localName
  qualifier : entry.1.qualifier = a.label?.map String.ofList
  uri : entry.1.uri = (a.uri? inner).map String.ofList
  value : Reference.expand a.value = .ok entry.2.toList

theorem nonempty_cons (c : Char) (text : List Char) :
    Name.nonempty (String.ofList (c :: text)) = some (String.ofList (c :: text)) := by
  simp [Name.nonempty]

theorem Scope.resolveLabel_eq_ok_iff {s : Scope} {label uri : List Char} :
    s.resolveLabel label = .ok uri ↔
      label ≠ [] ∧ uri ≠ [] ∧ s.lookup (some label) = some uri := by
  cases label with
  | nil => simp [Scope.resolveLabel]
  | cons c label =>
    cases hlookup : s.lookup (some (c :: label)) with
    | none => simp [Scope.resolveLabel, hlookup]
    | some found =>
      cases found with
      | nil =>
        simp [Scope.resolveLabel, hlookup]
      | cons d found =>
        simp [Scope.resolveLabel, hlookup]
        rintro rfl
        simp

/-- The name that an attribute is resolved to. -/
theorem TextSource.Stands.reports {inner : Scope} {a : RawAttribute} {entry : Name × String}
    (h : TextSource.Stands inner a entry) : Reports inner a entry := by
  have hname := h.name
  unfold RawName.attributeName at hname
  cases hlabel : a.label? with
  | none =>
    have hraw : (RawName.ofText a.key).label = none := hlabel
    have huri : a.uri? inner = none := by rw [RawAttribute.uri?, hlabel, Option.bind_none]
    rw [hraw, Except.ok.injEq] at hname
    refine ⟨?_, ?_, ?_, h.value⟩
    · rw [← hname]
      rfl
    · rw [← hname, hlabel, RawName.qualified, hraw]
      rfl
    · rw [← hname, huri]
      rfl
  | some label =>
    have hraw : (RawName.ofText a.key).label = some label := hlabel
    rw [hraw] at hname
    cases hresolve : inner.resolveLabel label with
    | error e =>
      simp only [hresolve] at hname
      cases hname
    | ok uri =>
      simp only [hresolve] at hname
      have hentry : (RawName.ofText a.key).qualified uri = entry.1 := Except.ok.inj hname
      obtain ⟨hnonempty, huriNonempty, hlookup⟩ := Scope.resolveLabel_eq_ok_iff.1 hresolve
      have huri : a.uri? inner = some uri := by
        rw [RawAttribute.uri?, hlabel, Option.bind_some, hlookup]
      obtain ⟨c, label, rfl⟩ := List.exists_cons_of_ne_nil hnonempty
      obtain ⟨d, uri, rfl⟩ := List.exists_cons_of_ne_nil huriNonempty
      refine ⟨?_, ?_, ?_, h.value⟩
      · rw [← hentry]
        rfl
      · rw [← hentry, hlabel, RawName.qualified, hraw]
        exact nonempty_cons c label
      · rw [← hentry, huri]
        exact nonempty_cons d uri

theorem Reports.beq_iff {inner : Scope} {a b : RawAttribute} {first second : Name × String}
    (ha : Reports inner a first) (hb : Reports inner b second) :
    (first.1 == second.1) = true ↔ a.SameName inner b := by
  rw [Name.beq_iff_key, Name.key, Name.key, Prod.mk.injEq, ha.uri, hb.uri, ha.localName,
    hb.localName, RawAttribute.SameName, String.ofList_inj, and_comm,
    (Option.map_injective fun s t h => String.ofList_inj.1 h).eq_iff]

theorem Reports.forall_iff {inner : Scope} {a : RawAttribute} {entry : Name × String}
    {written : List RawAttribute} {entries : List (Name × String)} (ha : Reports inner a entry)
    (h : List.Forall₂ (Reports inner) written entries) :
    (∀ other ∈ entries, (entry.1 == other.1) = false) ↔ ∀ b ∈ written, ¬a.SameName inner b := by
  induction h with
  | nil => simp
  | cons hb hrest ih =>
    rw [List.forall_mem_cons, List.forall_mem_cons, ih, ← ha.beq_iff hb, Bool.not_eq_true]

theorem Reports.different_iff {inner : Scope} {written : List RawAttribute}
    {entries : List (Name × String)} (h : List.Forall₂ (Reports inner) written entries) :
    Attributes.Different entries ↔ written.Pairwise fun a b => ¬a.SameName inner b := by
  induction h with
  | nil => simp [Attributes.Different]
  | cons ha hrest ih =>
    rw [Attributes.Different, List.pairwise_cons, List.pairwise_cons, ha.forall_iff hrest,
      ← Attributes.Different, ih]

/-! ### The attributes of a start event -/

namespace TextSource

theorem Passes.starts {s next : TextSource} {p : Passage} {e : StartElement}
    (h : s.Passes p next) (he : .startElement e ∈ p.events) :
    ∃ content inner,
      (p.lexeme.token = .startTag content ∨ p.lexeme.token = .emptyTag content) ∧
        Starts p.scope content p.location e inner := by
  obtain ⟨-, -, -, hscope, last, htaken, -⟩ := h
  have hready : (s.locate.trimFront.behind p.lexeme).scope = p.scope := by
    rw [hscope]
    exact s.ready_eq.2.1
  have hevent : p.event? = some (.startElement e) := by
    unfold Passage.events at he
    split at he
    · rename_i found _ hfound
      rw [hfound]
      simp only [List.mem_cons, List.not_mem_nil, or_false, reduceCtorEq, Event.startElement.injEq]
        at he
      rw [he]
    · simpa using he
  rw [hevent] at htaken
  generalize p.lexeme.token = token at htaken
  cases htaken with
  | @startTag content _ inner helement =>
    rw [hready, startElement_eq_ok_iff] at helement
    exact ⟨content, inner, .inl rfl, helement⟩
  | @emptyTag content _ inner helement =>
    rw [hready, startElement_eq_ok_iff] at helement
    exact ⟨content, inner, .inr rfl, helement⟩

/-- The events of a text are those of its tokens. A start event has the attributes of its tag,
inserted one after the other under the names they stand for; so its entries are those attributes one
by one, with local name, label, namespace and value, exactly if no two of them have one name. -/
theorem attributes_of_passages (text : String) (trimText : Bool) :
    (events.script (ofText text trimText)).events =
      (ofText text trimText).passages.flatMap Passage.events ∧
    ∀ p ∈ (ofText text trimText).passages, ∀ e, .startElement e ∈ p.events →
      ∃ content inner,
        (p.lexeme.token = .startTag content ∨ p.lexeme.token = .emptyTag content) ∧
        content.attributes.2 = none ∧
        p.scope.enter content.readableAttributes = .ok inner ∧
        (∃ entries, List.Forall₂ (Reports inner) (reported content.attributes.1) entries ∧
          e.attributes = .ofList entries) ∧
        (List.Forall₂ (Reports inner) (reported content.attributes.1) e.attributes.entries ↔
          (reported content.attributes.1).Pairwise fun a b => ¬a.SameName inner b) := by
  refine ⟨events_eq_passages rfl rfl, fun p hp e he => ?_⟩
  obtain ⟨before, next, hpasses⟩ := exists_passes_of_mem hp
  obtain ⟨content, inner, htoken, hstarts⟩ := hpasses.starts he
  obtain ⟨entries, hstands, hattributes⟩ := hstarts.attributes
  have hreports : List.Forall₂ (Reports inner) (reported content.attributes.1) entries :=
    hstands.imp fun _ _ h => h.reports
  refine ⟨content, inner, htoken, hstarts.complete, hstarts.scope, ⟨entries, hreports, hattributes⟩,
    ?_⟩
  rw [← Reports.different_iff hreports, hattributes]
  constructor
  · intro hall
    rw [← Attributes.length_ofList_eq_iff, ← hall.length_eq, hreports.length_eq]
  · intro hdifferent
    rw [Attributes.entries_ofList hdifferent]
    exact hreports

/-! ### Labels of one namespace -/

/-- A tag with one local name in two namespaces. -/
def ownLabels : TagContent := ⟨"a xmlns:p='u' p:x='1' x='2'".toList⟩

theorem written_ownLabels : ownLabels.attributes =
    ([⟨"xmlns:p".toList, ['u']⟩, ⟨"p:x".toList, ['1']⟩, ⟨['x'], ['2']⟩], none) := by
  decide +kernel

def startOfOwnLabels : StartElement :=
  ⟨.plain "a", ⟨[(⟨some "u", "x", some "p"⟩, "1"), (.plain "x", "2")]⟩, some ⟨1, 1, 0⟩⟩

theorem starts_ownLabels : Starts .reserved ownLabels ⟨1, 1, 0⟩ startOfOwnLabels
    (⟨some ['p'], ['u']⟩ :: Scope.reserved) := by
  have hcomplete : ownLabels.attributes.2 = none := by rw [written_ownLabels]
  refine ⟨?_, rfl, hcomplete, ⟨startOfOwnLabels.attributes.entries, ?_, ?_⟩, rfl⟩
  · rw [tokenizerLaws.complete hcomplete, written_ownLabels]
    rfl
  · rw [written_ownLabels]
    refine .cons ⟨rfl, ?_⟩ (.cons ⟨rfl, ?_⟩ .nil)
    all_goals decide +kernel
  · rfl

theorem attributes_ownLabels :
    ∃ p ∈ (ofText "<a xmlns:p='u' p:x='1' x='2'/>" false).passages,
      .startElement startOfOwnLabels ∈ p.events ∧
        ∃ content inner,
          (p.lexeme.token = .startTag content ∨ p.lexeme.token = .emptyTag content) ∧
            (List.Forall₂ (Reports inner) (reported content.attributes.1)
                startOfOwnLabels.attributes.entries ↔
              (reported content.attributes.1).Pairwise fun a b => ¬a.SameName inner b) := by
  have htext : "<a xmlns:p='u' p:x='1' x='2'/>".toList = '<' :: (ownLabels.text ++ ['/', '>']) := by
    rfl
  have hpassages := passages_emptyTag htext (by rfl) starts_ownLabels
  have hmem := List.mem_singleton_self (Passage.mk [] ⟨.emptyTag ownLabels,
    "<a xmlns:p='u' p:x='1' x='2'/>".toList, []⟩ ⟨1, 1, 0⟩ .reserved
      (some (.startElement startOfOwnLabels)))
  rw [← hpassages] at hmem
  obtain ⟨content, inner, htoken, -, -, -, hiff⟩ :=
    (attributes_of_passages "<a xmlns:p='u' p:x='1' x='2'/>" false).2 _ hmem startOfOwnLabels
      (by simp [Passage.events])
  exact ⟨_, hmem, by simp [Passage.events], content, inner, htoken, hiff⟩

/-- A tag with one local name under two labels of one namespace. -/
def sharedLabels : TagContent := ⟨"a xmlns:p='u' xmlns:q='u' p:x='1' q:x='2'".toList⟩

theorem written_sharedLabels : sharedLabels.attributes =
    ([⟨"xmlns:p".toList, ['u']⟩, ⟨"xmlns:q".toList, ['u']⟩, ⟨"p:x".toList, ['1']⟩,
      ⟨"q:x".toList, ['2']⟩], none) := by
  decide +kernel

def startOfSharedLabels : StartElement :=
  ⟨.plain "a", ⟨[(⟨some "u", "x", some "p"⟩, "2")]⟩, some ⟨1, 1, 0⟩⟩

theorem starts_sharedLabels : Starts .reserved sharedLabels ⟨1, 1, 0⟩ startOfSharedLabels
    (⟨some ['q'], ['u']⟩ :: ⟨some ['p'], ['u']⟩ :: Scope.reserved) := by
  have hcomplete : sharedLabels.attributes.2 = none := by rw [written_sharedLabels]
  refine ⟨?_, rfl, hcomplete,
    ⟨[(⟨some "u", "x", some "p"⟩, "1"), (⟨some "u", "x", some "q"⟩, "2")], ?_, ?_⟩, rfl⟩
  · rw [tokenizerLaws.complete hcomplete, written_sharedLabels]
    rfl
  · rw [written_sharedLabels]
    refine .cons ⟨rfl, ?_⟩ (.cons ⟨rfl, ?_⟩ .nil)
    all_goals decide +kernel
  · rfl

/-- Two attributes are reported as one, under the label of the first and with the value of the
second. -/
theorem merged_sharedLabels :
    (events.script (ofText "<a xmlns:p='u' xmlns:q='u' p:x='1' q:x='2'/>" false)).events =
      [.startElement startOfSharedLabels, .endElement ⟨.plain "a", some ⟨1, 1, 0⟩⟩] ∧
    (reported sharedLabels.attributes.1).length = 2 ∧
      startOfSharedLabels.attributes.size = 1 := by
  have htext : "<a xmlns:p='u' xmlns:q='u' p:x='1' q:x='2'/>".toList =
      '<' :: (sharedLabels.text ++ ['/', '>']) := by
    rfl
  have hpassages := passages_emptyTag htext (by rfl) starts_sharedLabels
  refine ⟨?_, ?_, rfl⟩
  · rw [events_eq_passages rfl rfl, hpassages]
    rfl
  · rw [written_sharedLabels]
    rfl

end TextSource
end Markup
end StreamSelect
