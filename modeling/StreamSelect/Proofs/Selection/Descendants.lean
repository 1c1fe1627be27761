import Mathlib.Data.List.Infix
import StreamSelect.Proofs.Building.SinglePath
import StreamSelect.Proofs.Selection.SoleHandler

/-! Descendants of a path. A descendant step leads every element below its path that passes the test
to one state: through a fallback where there is no test, else through a rule, with an edge from the
state back to itself. Whatever the elements between are, none comes in the way. -/
namespace StreamSelect

namespace Graph

variable {H : Type} {g : Graph H} {path : List Name} {p x : StateId} {test : Constraint}

/-- An automaton of one path to `p` and of one descendant step from there, which leads to `x`. -/
structure Descent (g : Graph H) (path : List Name) (p x : StateId) (test : Constraint) :
    Prop where
  arranged : ∃ o hop, g.Arranged o ∧ o x = some (p, hop) ∧ hop.deep = true
  trail : ∃ before : Graph H, before.Trail path p ∧ before.Extends g
  limit : ∀ t, (g.state t).limit = none
  /-- The rules below the path lead the elements that pass the test to `x`. -/
  source : ∀ fs e, (g.state p).followRules fs e = if test.holds fs e then some x else none
  /-- There are no other rules. -/
  other : ∀ t, t ≠ p → ∀ fs e, (g.state t).followRules fs e = none
  /-- The edges to children of the states below the path lead nowhere else. -/
  inside : ∀ t, t = p ∨ t = x ∨ t = .sink → ∀ fs e,
    (g.state t).follow fs e = none ∨ (g.state t).follow fs e = some x ∧ test.holds fs e = true

theorem Arranged.transitions_sink {o : Origins} (ha : g.Arranged o) :
    (g.state .sink).transitions = [] := by
  obtain ⟨own, hown, ho⟩ := ha.transitions .sink
  have hloops : o.loops .sink = [] := by
    rw [Origins.loops, ha.origin_sink]
  rw [hown, hloops, List.nil_append]
  refine List.eq_nil_iff_forall_not_mem.2 fun edge he => ?_
  exact absurd (ha.ordered (ho edge he)).1 (Nat.not_succ_le_zero _)

/-- An element follows the one edge there is if it passes its test. -/
theorem follow_singleton (fs : Filters) (e : StartElement) (test : Constraint) (t : StateId) :
    Transition.follow fs e [⟨test, t⟩] = if test.holds fs e then some t else none := by
  unfold Transition.follow
  rw [List.find?_singleton]
  split <;> rfl

/-- The state at the end of a path after a descendant step from there. -/
theorem followRules_withEdge (fs : Filters) (e : StartElement) (test : Constraint) (t : StateId) :
    (({} : State H).withEdge ⟨true, test⟩ t).followRules fs e =
      if test.holds fs e then some t else none := by
  unfold State.withEdge State.followRules
  cases ht : test.isTrivial with
  | true =>
    rw [Constraint.isTrivial_iff.1 ht]
    rfl
  | false => exact (Option.or_none).trans (follow_singleton fs e test t)

/-- The state that a descendant step from the end of a path makes. -/
theorem follow_successor (fs : Filters) (e : StartElement) (p : StateId) (test : Constraint)
    (t : StateId) : (({} : State H).successor p ⟨true, test⟩ t).follow fs e = none ∨
      (({} : State H).successor p ⟨true, test⟩ t).follow fs e = some t ∧
        test.holds fs e = true := by
  unfold State.successor State.follow
  cases test.isTrivial with
  | true => exact .inl rfl
  | false =>
    simp only [↓reduceIte, Bool.false_eq_true, follow_singleton]
    split
    · exact .inr ⟨rfl, ‹_›⟩
    · exact .inl rfl

/-- A step below the path makes a descent of it. -/
theorem Trail.descend (h : g.Trail path p) (test : Constraint) :
    (g.extend p ⟨true, test⟩).2.Descent path p (g.extend p ⟨true, test⟩).1 test := by
  obtain ⟨o, ha⟩ := h.arranged
  have hnone : g.hop? p ⟨true, test⟩ = none := by
    simp [hop?, h.last, Transition.targetOf?]
  have hext : g.Extends (g.extend p ⟨true, test⟩).2 := .extend _ _ _
  have hlimits : g.SameLimits (g.extend p ⟨true, test⟩).2 := .extend _ _ _
  rcases ha.extend_cases h.usable.2 ⟨true, test⟩ with ⟨hsome, -⟩ | ⟨-, ht, hg⟩
  · rw [hnone] at hsome
    cases hsome
  rw [ht]
  generalize (g.extend p ⟨true, test⟩).2 = later at hg hext hlimits ⊢
  have hsource := hg.source
  have hnew := hg.new
  rw [h.last] at hsource hnew
  have harranged := ha.grow h.usable.1 h.usable.2 hg
  have hne := ne_size_of_contains h.usable.2
  refine ⟨⟨_, ⟨true, test⟩, harranged, Function.update_self .., rfl⟩, ⟨g, h, hext⟩, fun t => ?_,
    fun fs e => ?_, fun t htp fs e => ?_, fun t htc fs e => ?_⟩
  · rw [hlimits, h.bare t]
  · rw [hsource]
    exact followRules_withEdge fs e test _
  · by_cases htx : t = ⟨g.size⟩
    · rw [htx, hnew, State.followRules, State.rules_successor, State.fallback_successor]
      rfl
    rw [hg.other t htp htx, h.bare t]
    rfl
  · rcases htc with rfl | rfl | rfl
    · left
      rw [hsource, State.follow, State.transitions_withEdge]
      rfl
    · rw [hnew]
      exact follow_successor fs e p test _
    · left
      rw [State.follow, harranged.transitions_sink]
      rfl

/-- Handlers are no edges. -/
theorem Descent.attach (h : g.Descent path p x test) (s : StateId) (handler : H) :
    (g.attach s handler).Descent path p x test := by
  obtain ⟨o, hop, ha, ho, hdeep⟩ := h.arranged
  obtain ⟨before, htrail, hext⟩ := h.trail
  refine ⟨⟨o, hop, ha.attach s handler, ho, hdeep⟩, ⟨before, htrail, hext.trans (.attach _ _ _)⟩,
    fun t => ?_, fun fs e => ?_, fun t ht fs e => ?_, fun t ht fs e => ?_⟩
  · obtain ⟨handlers, hs⟩ := g.state_attach s handler t
    rw [hs]
    exact h.limit t
  · obtain ⟨handlers, hs⟩ := g.state_attach s handler p
    rw [hs]
    exact h.source fs e
  · obtain ⟨handlers, hs⟩ := g.state_attach s handler t
    rw [hs]
    exact h.other t ht fs e
  · obtain ⟨handlers, hs⟩ := g.state_attach s handler t
    rw [hs]
    exact h.inside t ht fs e

end Graph

/-! ### Elements below a path -/

/-- The answer of a list in which one state alone may answer. -/
theorem findSome?_of_only {α : Type} {states : List StateId} {s : StateId} {f : StateId → Option α}
    (hs : s ∈ states) (hother : ∀ t, t ≠ s → f t = none) : states.findSome? f = f s := by
  induction states with
  | nil => cases hs
  | cons t states ih =>
    rw [List.findSome?_cons]
    by_cases ht : t = s
    · rw [ht]
      cases hf : f s with
      | some a => rfl
      | none =>
        refine List.findSome?_eq_none_iff.2 fun u _ => ?_
        by_cases hu : u = s
        · rw [hu, hf]
        · exact hother u hu
    · rw [hother t ht]
      exact ih ((List.mem_cons.1 hs).resolve_left (Ne.symm ht))

/-- An element lies below one with the names of a path, or below the root of the document if there
are none, when these are the elements around it, innermost first. -/
def liesBelow (path : List Name) (around : List StartElement) : Bool :=
  around.tails.any fun outer => namePath outer == path

namespace Machine

variable {B D : Type} {m : Machine B D} {path : List Name} {p x : StateId} {test : Constraint}

theorem mem_statesAbove_iff_liesBelow {g : Graph (HandlerRef B)} (ht : g.Trail path p)
    (hg : g.Extends m.model.graph) {o : Origins} (ha : m.model.graph.Arranged o)
    (hroot : m.model.root = .root) {frames : List Frame} (he : m.EnteredAll frames) :
    p ∈ m.statesAbove (frames.map Frame.ancestor) ↔
      liesBelow path (frames.map (·.element)) = true := by
  have hiff : ∀ outer, outer <:+ frames → (m.innermost (outer.map Frame.ancestor) = p ↔
      (namePath (outer.map (·.element)) == path) = true) :=
    fun outer ho => innermost_eq_iff ht.named hg ha hroot (he.suffix ho) ht.reach
  rw [mem_statesAbove, liesBelow, List.any_eq_true]
  constructor
  · rintro ⟨outer, ho, hin⟩
    exact ⟨_, (List.mem_tails _ _).2 (ho.map _), (hiff outer ho).1 hin⟩
  · rintro ⟨elements, hs, hnames⟩
    obtain ⟨outer, ho, rfl⟩ := List.suffix_map_iff.1 ((List.mem_tails _ _).1 hs)
    exact ⟨outer, ho, (hiff outer ho).2 hnames⟩

section

variable (h : m.model.graph.Descent path p x test)
include h

/-- Below the path an element enters the state of the step if it passes the test, and else the
sink. -/
theorem entry_of_inside {above : List Ancestor} (hp : p ∈ m.statesAbove above)
    (hin : m.innermost above = p ∨ m.innermost above = x ∨ m.innermost above = .sink)
    (e : StartElement) :
    m.entry above e = if test.holds m.filters e then x else .sink := by
  have hrules : ((m.statesAbove above).findSome? fun s => (m.state s).followRules m.filters e) =
      if test.holds m.filters e then some x else none := by
    have honly : (m.statesAbove above).findSome?
        (fun s => (m.model.graph.state s).followRules m.filters e) = _ :=
      findSome?_of_only hp fun s hs => h.other s hs m.filters e
    exact honly.trans (h.source m.filters e)
  rw [entry_eq, hrules]
  rcases h.inside _ hin m.filters e with hnone | ⟨hsome, hpass⟩
  · show ((m.model.graph.state (m.innermost above)).follow m.filters e).getD _ = _
    rw [hnone]
    split <;> rfl
  · show ((m.model.graph.state (m.innermost above)).follow m.filters e).getD _ = _
    rw [hsome, if_pos hpass, if_pos hpass]
    rfl

/-- Once an element is below the path, all elements in it are in these states. -/
theorem inside_of_mem {frames : List Frame} (he : m.EnteredAll frames)
    (hp : p ∈ m.statesAbove (frames.map Frame.ancestor)) :
    m.innermost (frames.map Frame.ancestor) = p ∨ m.innermost (frames.map Frame.ancestor) = x ∨
      m.innermost (frames.map Frame.ancestor) = .sink := by
  induction frames with
  | nil => exact .inl (List.mem_singleton.1 hp).symm
  | cons f outer ih =>
    have houter := he.suffix (List.suffix_cons f outer)
    rcases List.mem_cons.1 hp with hf | hp
    · exact .inl hf.symm
    · have hentry := entry_of_inside h hp (ih houter hp) f.element
      rw [← he f outer List.suffix_rfl] at hentry
      right
      show f.state = x ∨ f.state = .sink
      rw [hentry]
      split
      · exact .inl rfl
      · exact .inr rfl

variable (hroot : m.model.root = .root)
include hroot

/-- The state of the step is entered below the path only. -/
theorem entry_eq_iff {frames : List Frame} (he : m.EnteredAll frames) (e : StartElement) :
    m.entry (frames.map Frame.ancestor) e = x ↔
      (liesBelow path (frames.map (·.element)) && test.holds m.filters e) = true := by
  obtain ⟨o, hop, ha, ho, hdeep⟩ := h.arranged
  obtain ⟨before, htrail, hext⟩ := h.trail
  have hbelow := mem_statesAbove_iff_liesBelow htrail hext ha hroot he
  have hsink : x ≠ .sink := by
    rintro rfl
    rw [ha.origin_sink] at ho
    cases ho
  rw [Bool.and_eq_true, ← hbelow]
  constructor
  · intro hx
    rcases origin_entry ha hroot (groundedAll_of_enteredAll ha hroot he) e with
      hs | ⟨s, hop', ho', -, -, hd⟩
    · exact absurd (hx.symm.trans hs) hsink
    rw [hx] at ho'
    obtain ⟨rfl, rfl⟩ := Prod.mk.inj (Option.some.inj (ho'.symm.trans ho))
    have hp := hd hdeep
    refine ⟨hp, ?_⟩
    rw [entry_of_inside h hp (inside_of_mem h he hp)] at hx
    by_contra hfail
    rw [if_neg hfail] at hx
    exact hsink hx.symm
  · rintro ⟨hp, hpass⟩
    rw [entry_of_inside h hp (inside_of_mem h he hp), if_pos hpass]

end
end Machine

/-! ### Models of one descendant step -/

variable {B : Type}

/-- A handler attached to the descendants of a path of names. -/
def descendantDeclaration (path : List Name) (kind : SelectorKind) (constraints : List Constraint)
    (b : B) : Declaration B :=
  { statement := .select none (pathSteps path ++ [.select kind constraints]) [.attach b] }

/-- The scope of a model whose only declaration it is. -/
def descendantBuilder (n : Nat) (path : List Name) (kind : SelectorKind)
    (constraints : List Constraint) (b : B) : Builder B :=
  ((Builder.ofModel n).performEach [descendantDeclaration path kind constraints b]).2

section

variable (n : Nat) (path : List Name) {kind : SelectorKind} (hk : kind.isDescendant = true)
  (constraints : List Constraint) (b : B)
include hk

/-- The declaration makes one descent, and attaches its handler to the state of the step. -/
theorem descent_descendantBuilder :
    ∃ p x copy, (descendantBuilder n path kind constraints b).graph.Descent path p x
        (combinedTest kind constraints) ∧
      (descendantBuilder n path kind constraints b).workspace.attachments =
        #[⟨x, ⟨b, some copy⟩⟩] := by
  obtain ⟨cursor, walked, hwalk, hahead, hw⟩ := (Builder.Ahead.ofModel n).walk path
  rw [List.nil_append] at hahead
  let new : Selector := { parent := cursor, kind, constraints }
  let declared : Builder B := { walked with selectors := walked.selectors.push new }
  have hsteps : (Builder.ofModel n).walk none (pathSteps path ++ [.select kind constraints]) =
      (.ok (some ⟨walked.selectors.size⟩), declared) := by
    rw [Builder.walk_append hwalk, Builder.walk, hahead.declare]
    rfl
  let copied := (declared.freshCopy b).2
  obtain ⟨hordered, hfresh, hnew, -⟩ := hahead.pushed new rfl copied rfl
  have hbuilder : descendantBuilder n path kind constraints b =
      (copied.stateOf (some ⟨walked.selectors.size⟩)).2.attach
        (copied.stateOf (some ⟨walked.selectors.size⟩)).1 ⟨b, some declared.workspace.copies⟩ :=
    Builder.perform_attach hsteps b
  have hnone : copied.workspace.attachments = #[] :=
    show walked.workspace.attachments = #[] from congrArg Workspace.attachments hw
  have hattachments :=
    (Builder.attachments_stateOf copied (some ⟨walked.selectors.size⟩)).trans hnone
  have hhop : new.hop = ⟨true, combinedTest kind constraints⟩ := congrArg (Hop.mk · _) hk
  obtain ⟨before, p, htrail, hstate, hgraph⟩ :=
    Builder.Ahead.stateOf_below hordered hahead.root hahead.graph hnew rfl rfl hfresh
  have hdescent := htrail.descend (combinedTest kind constraints)
  rw [← hhop, ← hstate, ← hgraph] at hdescent
  rw [hbuilder]
  refine ⟨p, _, declared.workspace.copies, hdescent.attach _ _, ?_⟩
  show (Array.push _ _ : Array (Attachment B)) = _
  rw [hattachments]
  rfl

end

/-- Whether a descendant step takes an element inside those around it. -/
def isDescendantOf (fs : Filters) (path : List Name) (test : Constraint)
    (around : List StartElement) (e : StartElement) : Bool :=
  liesBelow path around && test.holds fs e

/-! ### Descendants are exact -/

/-- What is promised of a handler whose descendant step is the only declaration of a model. -/
structure DescendantsExact [DecidableEq B] (top : Builder B) (path : List Name) (test : Constraint)
    (b : B) (declared : B → Nat → List (Declaration B)) (settings : BuildSettings) : Prop where
  /-- Unless it may not declare, though it declares nothing, there is a model. -/
  built : 0 < settings.maxHandlerBuilds →
    ∃ model, (top.construct declared settings).model = .ok model
  /-- In every run it is called once at the start of every element below the path that passes the
  test, in document order and for no other element, up to the first error. -/
  openings : ∀ {D : Type} (m : Machine B D), (top.construct declared settings).model = .ok m.model →
    ∀ events d,
      openings (m.recorded.play events {} (d, [])).data.2 <+:
          (elementsWhere (isDescendantOf m.filters path test) [] events).map (b, ·) ∧
        ((m.recorded.play events {} (d, [])).error = none →
          openings (m.recorded.play events {} (d, [])).data.2 =
            (elementsWhere (isDescendantOf m.filters path test) [] events).map (b, ·))
  /-- No document is refused, or a part of it. -/
  complete : ∀ {D : Type} (m : Machine B D), (top.construct declared settings).model = .ok m.model →
    m.settings.maxDepth = none → (∀ b o d, (m.behaviours.react b o d).failure = none) →
      ∀ (doc : Document) d, (m.recorded.play doc.events {} (d, [])).error = none

/-- A descendant step takes every element below its path that passes its test, at any depth, and no
other, whether it tests anything or not. -/
theorem exact_descendants [DecidableEq B] (n : Nat) (path : List Name) {kind : SelectorKind}
    (hk : kind.isDescendant = true) (constraints : List Constraint) (b : B)
    {declared : B → Nat → List (Declaration B)} (hd : ∀ k, declared b k = [])
    (settings : BuildSettings) :
    DescendantsExact (descendantBuilder n path kind constraints b) path
      (combinedTest kind constraints) b declared settings := by
  obtain ⟨p, x, copy, hdescent, hattachments⟩ := descent_descendantBuilder n path hk constraints b
  have hfit : (Builder.ofModel n : Builder B).Fit 0 := Builder.fit_ofModel n (Nat.zero_le 1)
  have htopfit : (descendantBuilder n path kind constraints b).Fit 0 :=
    (hfit.becomes_performEach fun _ _ _ _ _ _ => Nat.zero_le _).fit
  have horder : (descendantBuilder n path kind constraints b).workspace.InOrder := by
    have hattaches : Builder.Attaches (fun _ => True) (Builder.ofModel n)
        ((Builder.ofModel n).perform (descendantDeclaration path kind constraints b)).2 :=
      hfit.attaches_perform fun _ _ => trivial
    exact hattaches.inOrder (Builder.registered_ofModel n).inOrder
  have hsole : (descendantBuilder n path kind constraints b).Sole x b :=
    ⟨htopfit, horder, ⟨copy, hattachments⟩, hdescent.limit⟩
  obtain ⟨hbuilt, hopenings, hcomplete⟩ : (descendantBuilder n path kind constraints b).CalledWhere
      (fun fs => isDescendantOf fs path (combinedTest kind constraints)) b declared settings := by
    refine hsole.calledWhere hd settings fun m hgraph hroot f outer he => ?_
    rw [he f outer List.suffix_rfl]
    exact Machine.entry_eq_iff (hgraph ▸ hdescent) hroot (he.suffix (List.suffix_cons f outer))
      f.element
  exact ⟨hbuilt, hopenings, hcomplete⟩

/-! Items with a key at any depth below a list. -/

def keyedItem : StartElement := ⟨.plain "item", ⟨[(.plain "key", "1")]⟩, none⟩

def keyedItemsBuilder : Builder Unit :=
  descendantBuilder 0 [.plain "list"] (.named (.plain "item")) [.present (.plain "key")] ()

def keyedItems : Machine Unit Unit where
  model := ⟨(keyedItemsBuilder.construct (fun _ _ => []) {}).workspace.graph, .root, []⟩
  behaviours := ⟨fun _ => {}, fun _ => {}⟩
  filters := ⟨fun _ _ => false, fun _ _ _ => false⟩

/-- A keyed item in an item without a key, in a keyed item. -/
def keyedItemEvents : List Event :=
  [.startElement (.ofName (.plain "list")), .startElement keyedItem,
    .startElement (.ofName (.plain "item")), .startElement keyedItem]

theorem exact_keyedItems :
    (SelectorKind.named (.plain "item")).isDescendant = true ∧
      openings (keyedItems.recorded.play keyedItemEvents {} ((), [])).data.2 =
        [((), keyedItem), ((), keyedItem)] := by
  have hk : (SelectorKind.named (.plain "item")).isDescendant = true := rfl
  have hd : ∀ _ : Nat, ([] : List (Declaration Unit)) = [] := fun _ => rfl
  have hexact : DescendantsExact keyedItemsBuilder [.plain "list"]
      (combinedTest (.named (.plain "item")) [.present (.plain "key")]) () (fun _ _ => []) {} :=
    exact_descendants 0 [.plain "list"] hk [.present (.plain "key")] () hd {}
  have hm : (keyedItemsBuilder.construct (fun _ _ => []) {}).model = .ok keyedItems.model := by cbv
  have herror : (keyedItems.recorded.play keyedItemEvents {} ((), [])).error = none := by cbv
  obtain ⟨-, hall⟩ := hexact.openings keyedItems hm keyedItemEvents ()
  exact ⟨hk, (hall herror).trans rfl⟩

end StreamSelect
