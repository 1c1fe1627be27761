import StreamSelect.Proofs.Document.Causes

/-! Which handlers are told of which elements. The elements a handler is told of depend on the tree
alone: the handlers of the state of each element, in document order, up to the first error. -/
namespace StreamSelect

namespace Content

mutual
/-- The elements that a test accepts, told the parent of each, in document order. -/
def pick (accepts : Option StartElement → StartElement → Bool) (parent : Option StartElement) :
    Content → List StartElement
  | .aside _ => []
  | .element e inside _ =>
    (if accepts parent e then [e] else []) ++ pickAll accepts (some e) inside

def pickAll (accepts : Option StartElement → StartElement → Bool) (parent : Option StartElement) :
    List Content → List StartElement
  | [] => []
  | c :: cs => pick accepts parent c ++ pickAll accepts parent cs
end

end Content

def Document.pick (accepts : Option StartElement → StartElement → Bool) (doc : Document) :
    List StartElement :=
  Content.pickAll accepts none doc.contents

/-- The handler and the element of a call at the start of an element. -/
def Call.opening? {B D : Type} (c : Call B D) : Option (B × StartElement) :=
  match c.occasion with
  | .opened e => some (c.behaviour, e)
  | _ => none

/-- The calls at the start of elements, in order. -/
def openings {B D : Type} (calls : List (Call B D)) : List (B × StartElement) :=
  calls.filterMap Call.opening?

namespace Machine

variable {B D : Type}

mutual
/-- The handlers to be told of the elements of a tree below its ancestors. -/
def told (m : Machine B D) (above : List Ancestor) : Content → List (B × StartElement)
  | .aside _ => []
  | .element e inside _ =>
    (m.audience (m.entry above e)).map (·, e) ++ toldAll m (⟨m.entry above e, e⟩ :: above) inside

def toldAll (m : Machine B D) (above : List Ancestor) : List Content → List (B × StartElement)
  | [] => []
  | c :: cs => told m above c ++ toldAll m above cs
end

end Machine

/-- Between two stages of an evaluation handlers are told of openings, all of them unless there was
an error. -/
def Progress.Opens {B D : Type} (p later : Progress B D) (expected : List (B × StartElement)) :
    Prop :=
  ∃ done, openings later.calls = openings p.calls ++ done ∧ done <+: expected ∧
    (later.error = none → done = expected)

section

variable {B D : Type} {m : Machine B D} {p : Progress B D}

namespace Progress

theorem Opens.nothing {later : Progress B D} (h : openings later.calls = openings p.calls) :
    p.Opens later [] :=
  ⟨[], by rw [h, List.append_nil], List.prefix_rfl, fun _ => rfl⟩

theorem Opens.andThen {later : Progress B D} {expected more : List (B × StartElement)}
    {next : Progress B D → Progress B D} (h : p.Opens later expected)
    (hn : later.error = none → later.Opens (next later) more) :
    p.Opens (later.unlessFailed next) (expected ++ more) := by
  obtain ⟨done, hd, hpre, hall⟩ := h
  cases he : later.error with
  | some e =>
    rw [unlessFailed_of_error he]
    refine ⟨done, hd, hpre.trans (List.prefix_append _ _), fun hnone => ?_⟩
    rw [he] at hnone
    cases hnone
  | none =>
    rw [unlessFailed_of_ok he]
    obtain ⟨rest, hr, hrpre, hrall⟩ := hn he
    refine ⟨done ++ rest, ?_, ?_, fun hnone => ?_⟩
    · rw [hr, hd, List.append_assoc]
    · rw [hall he]
      exact (List.prefix_append_right_inj expected).2 hrpre
    · rw [hall he, hrall hnone]

theorem openings_concat (calls : List (Call B D)) (c : Call B D) :
    openings (calls ++ [c]) = openings calls ++ c.opening?.toList := by
  unfold openings
  rw [List.filterMap_append]
  cases hc : c.opening? <;> simp [hc]

/-- A round of calls at the start of an element. -/
theorem opens_tell (bs : Behaviours B D) (e : StartElement) (audience : List B)
    (hp : p.error = none) :
    p.Opens (p.tell bs (.opened e) audience) (audience.map (·, e)) := by
  induction audience generalizing p with
  | nil => exact .nothing rfl
  | cons b audience ih =>
    rw [tell]
    split
    · obtain ⟨done, hd, hpre, hall⟩ := ih (p := { p with
        data := (bs.react b (.opened e) p.data).data
        calls := p.calls ++ [⟨b, .opened e, p.data⟩] }) hp
      rw [openings_concat, List.append_assoc] at hd
      exact ⟨_, hd, List.prefix_cons_inj _ |>.2 hpre, fun hnone => by rw [hall hnone]; rfl⟩
    · exact ⟨[(b, e)], openings_concat _ _, ⟨audience.map (·, e), rfl⟩, fun hnone => by cases hnone⟩

/-- Calls on other occasions are no openings. -/
theorem openings_tell (bs : Behaviours B D) {o : Occasion}
    (ho : ∀ b d, Call.opening? (⟨b, o, d⟩ : Call B D) = none) (audience : List B)
    (p : Progress B D) : openings (p.tell bs o audience).calls = openings p.calls := by
  induction audience generalizing p with
  | nil => rfl
  | cons b audience ih =>
    have hc : openings (p.calls ++ [⟨b, o, p.data⟩]) = openings p.calls := by
      rw [openings_concat, ho, Option.toList_none, List.append_nil]
    rw [tell]
    split
    · rw [ih]
      exact hc
    · exact hc

end Progress

theorem opens_aside (above : List Ancestor) (p : Progress B D) (a : Aside) :
    p.Opens (m.evaluateAside above p a) [] := by
  apply Progress.Opens.nothing
  cases a with
  | text c =>
    cases above with
    | nil => rfl
    | cons a above => exact Progress.openings_tell _ (fun _ _ => rfl) _ _
  | declaration x => exact Progress.openings_tell _ (fun _ _ => rfl) _ _

theorem opens_opening (above : List Ancestor) (e : StartElement) (hp : p.error = none) :
    p.Opens (m.evaluateOpening above e p) ((m.audience (m.entry above e)).map (·, e)) := by
  unfold Machine.evaluateOpening
  dsimp only
  split
  · refine ⟨[], (List.append_nil _).symm, List.nil_prefix, fun hnone => by cases hnone⟩
  · exact Progress.opens_tell m.behaviours e _ (p := { p.locate e.location with
      entered := m.entry above e :: p.entered }) hp

mutual
theorem opens_content : ∀ (c : Content) (above : List Ancestor) {p : Progress B D},
    p.error = none → p.Opens (m.evaluate above c p) (m.told above c)
  | .aside a, above, p, hp => by
    rw [Machine.evaluate, Machine.told]
    exact opens_aside above p a
  | .element e inside close, above, p, hp => by
    rw [Machine.evaluate, Machine.told, ← List.append_nil (Machine.toldAll m _ inside)]
    refine (opens_opening above e hp).andThen fun ho => ?_
    refine (opens_contents inside _ ho).andThen fun hi => ?_
    exact .nothing (Progress.openings_tell _ (fun _ _ => rfl) _ _)

theorem opens_contents : ∀ (cs : List Content) (above : List Ancestor) {p : Progress B D},
    p.error = none → p.Opens (m.evaluateAll above cs p) (m.toldAll above cs)
  | [], above, p, hp => by
    rw [Machine.evaluateAll, Machine.toldAll]
    exact .nothing rfl
  | c :: cs, above, p, hp => by
    rw [Machine.evaluateAll, Machine.toldAll]
    exact (opens_content c above hp).andThen fun hc => opens_contents cs above hc
end

/-- In a run over the events of a document the calls at the start of elements are those that its
tree asks for, up to the first error. -/
theorem openings_play (m : Machine B D) (doc : Document) (d : D) :
    openings (m.recorded.play doc.events {} (d, [])).data.2 <+: m.toldAll [] doc.contents ∧
      ((m.recorded.play doc.events {} (d, [])).error = none →
        openings (m.recorded.play doc.events {} (d, [])).data.2 = m.toldAll [] doc.contents) := by
  have ht := tracks_document m doc d
  obtain ⟨done, hd, hpre, hall⟩ := opens_contents (m := m) doc.contents [] (p := { data := d }) rfl
  have hcalls : (m.recorded.play doc.events {} (d, [])).data.2 =
      (m.evaluateAll [] doc.contents { data := d }).calls := congrArg Prod.snd ht.data
  have hopen : openings (m.recorded.play doc.events {} (d, [])).data.2 = done := by
    rw [hcalls, hd]
    rfl
  rw [hopen]
  exact ⟨hpre, fun hnone => hall (ht.error.symm.trans hnone)⟩

end

end StreamSelect
