import Mathlib.Data.List.Permutation
import StreamSelect.Proofs.Building.Nested
import StreamSelect.Proofs.Document.Openings

-- `List.Permutation` has the equations of pairs that `cbv` evaluates the example below with.

/-! Children of named elements. A model of one handler on the children named `c` of the elements
named `p` calls it for just these, in document order, if the names differ. If they are the same
name, the step to the children meets the edge that leads matches back to themselves, and the handler
is called for every element of that name. -/
namespace StreamSelect

variable {B D : Type}

/-- One handler on the children named `c` of the elements named `p`. -/
def childDeclaration (p c : Name) (b : B) : Declaration B :=
  { statement := .select none [.select (.named p) [], .select (.child c) []] [.attach b] }

def childBuilder (model : Nat) (p c : Name) (b : B) : Builder B :=
  ((Builder.ofModel model).performEach [childDeclaration p c b]).2

/-- The state of the step to the children, and the automaton with it. -/
def childStep (H : Type) (p c : Name) : StateId × Graph H :=
  let named := Graph.initial.extend .root ⟨true, .name p⟩
  named.2.extend named.1 ⟨false, .name c⟩

def childGraph (p c : Name) (b : B) : Graph (HandlerRef B) :=
  (childStep (HandlerRef B) p c).2.attach (childStep (HandlerRef B) p c).1 ⟨b, some 0⟩

theorem workspace_childBuilder (model : Nat) (p c : Name) (b : B) :
    (childBuilder model p c b).workspace.graph = childGraph p c b ∧
      (childBuilder model p c b).workspace.observers = #[] ∧
      (childBuilder model p c b).workspace.attachments =
        #[⟨(childStep (HandlerRef B) p c).1, ⟨b, some 0⟩⟩] := by
  unfold childBuilder childDeclaration
  simp [Builder.performEach, Builder.perform, Builder.carryOut, Builder.walk, Builder.declare,
    Builder.start, Builder.ofModel, Builder.actAll, Builder.act, Builder.freshCopy, Builder.stateOf,
    Builder.uncompiled, Builder.lineage, Builder.lineageIn, Builder.climb, Builder.selector?,
    Selector.same, Builder.compile, Builder.edge, Builder.graph, Builder.withGraph,
    Builder.updateSelector, Builder.attach, Selector.test, combinedTest, SelectorKind.implied,
    Constraint.conjunction, Constraint.ofParts, Constraint.parts, childGraph, childStep,
    Graph.extend, Constraint.isTrivial]

theorem model_childBuilder [DecidableEq B] (model : Nat) (p c : Name) {b : B}
    {declared : B → Nat → List (Declaration B)} (hb : declared b 0 = []) {settings : BuildSettings}
    (hs : 0 < settings.maxHandlerBuilds) :
    ((childBuilder model p c b).construct declared settings).model =
      .ok ⟨childGraph p c b, .root, []⟩ := by
  obtain ⟨hgraph, hobservers, hattachments⟩ := workspace_childBuilder model p c b
  let start : Construction B := { workspace := (childBuilder model p c b).workspace }
  let a : Attachment B := ⟨(childStep (HandlerRef B) p c).1, ⟨b, some 0⟩⟩
  have hdue : start.Due settings.maxHandlerBuilds a := by
    refine ⟨?_, List.not_mem_nil, hs⟩
    show (childBuilder model p c b).workspace.attachments[0]? = some a
    rw [hattachments]
    rfl
  have hbuild : start.build declared a = { start with
      position := 1, built := [a], reports := [⟨a, []⟩], failure := none } := by
    unfold Construction.build
    have hd : declared a.handler.behaviour start.built.length = [] := hb
    rw [hd]
    rfl
  have hrun : Construction.run declared settings.maxHandlerBuilds start =
      start.build declared a := by
    rw [Construction.run_of_due hdue, hbuild]
    apply Construction.run_of_done
    show (childBuilder model p c b).workspace.attachments[1]? = none
    rw [hattachments]
    rfl
  show (Construction.run declared settings.maxHandlerBuilds start).model = _
  rw [hrun, hbuild]
  show Except.ok (⟨(childBuilder model p c b).workspace.graph, .root,
    (childBuilder model p c b).workspace.observers.toList⟩ : Model B) = _
  rw [hgraph, hobservers]

/-! ### The automaton -/

/-- The states after the step to the elements named `p`. -/
theorem extend_named (H : Type) (p : Name) :
    (Graph.initial.extend .root ⟨true, .name p⟩ : StateId × Graph H).1 = ⟨2⟩ ∧
      (Graph.initial.extend .root ⟨true, .name p⟩ : StateId × Graph H).2.size = 3 ∧
      (∃ o, (Graph.initial.extend .root ⟨true, .name p⟩ : StateId × Graph H).2.Arranged o) ∧
      ∀ s, (Graph.initial.extend .root ⟨true, .name p⟩ : StateId × Graph H).2.state s =
        if s = .root then { rules := [⟨.name p, ⟨2⟩⟩] }
        else if s = ⟨2⟩ then { transitions := [⟨.name p, ⟨2⟩⟩], reentry := [.name p] }
        else {} := by
  have hroot : (Graph.initial : Graph H).contains .root = true := rfl
  have hnone : (Graph.initial : Graph H).hop? .root ⟨true, .name p⟩ = none := by
    simp [Graph.hop?, Graph.state_initial, Transition.targetOf?, Constraint.isTrivial]
  rcases Graph.arranged_initial.extend_cases hroot ⟨true, .name p⟩ with
    ⟨hsome, -⟩ | ⟨-, hone, hgrown⟩
  · rw [hnone] at hsome
    cases hsome
  refine ⟨hone, hgrown.size_eq, ⟨_, Graph.arranged_initial.grow (Nat.le_refl 1) hroot hgrown⟩,
    fun s => ?_⟩
  by_cases hs : s = .root
  · rw [if_pos hs, hs, hgrown.source, Graph.state_initial]
    rfl
  · rw [if_neg hs]
    by_cases h2 : s = ⟨2⟩
    · have hnew := hgrown.new
      rw [show (⟨Graph.initial.size⟩ : StateId) = ⟨2⟩ from rfl, Graph.state_initial] at hnew
      rw [if_pos h2, h2, hnew]
      rfl
    · rw [if_neg h2, hgrown.other s hs h2, Graph.state_initial]

theorem state_childGraph (p c : Name) (b : B) (s : StateId) :
    (childGraph p c b).state s =
      if s = .root then { rules := [⟨.name p, ⟨2⟩⟩] }
      else if s = ⟨2⟩ then
        { transitions := ⟨.name p, ⟨2⟩⟩ :: if p == c then [] else [⟨.name c, ⟨3⟩⟩]
          reentry := [.name p]
          handlers := if p == c then [⟨b, some 0⟩] else [] }
      else if s = ⟨3⟩ then { handlers := if p == c then [] else [⟨b, some 0⟩] }
      else {} := by
  obtain ⟨hone, hsize, ⟨o, ho⟩, hstate⟩ := extend_named (HandlerRef B) p
  unfold childGraph childStep
  generalize (Graph.initial.extend .root ⟨true, .name p⟩ : StateId × Graph (HandlerRef B)) = named
    at hone hsize ho hstate
  obtain ⟨two, g⟩ := named
  obtain rfl : two = ⟨2⟩ := hone
  dsimp only at hsize ho hstate ⊢
  have htwo : g.contains ⟨2⟩ = true := decide_eq_true (by rw [hsize]; decide)
  have hnew : (⟨g.size⟩ : StateId) = ⟨3⟩ := by rw [hsize]
  have hsource : g.state ⟨2⟩ = { transitions := [⟨.name p, ⟨2⟩⟩], reentry := [.name p] } := by
    rw [hstate]
    rfl
  have hhop : g.hop? ⟨2⟩ ⟨false, .name c⟩ = if p == c then some ⟨2⟩ else none := by
    have htest : (Constraint.name p == Constraint.name c) = (p == c) := rfl
    cases h : p == c <;> simp [Graph.hop?, hsource, Transition.targetOf?, htest, h]
  have hother : ∀ s, s ≠ ⟨2⟩ →
      g.state s = if s = .root then { rules := [⟨.name p, ⟨2⟩⟩] } else {} := by
    intro s hs
    rw [hstate, if_neg hs]
  rw [Graph.attach, Graph.state_update]
  rcases ho.extend_cases htwo ⟨false, .name c⟩ with ⟨hsome, hsame⟩ | ⟨hnone, hthree, hgrown⟩
  · rw [hhop] at hsome
    cases h : p == c with
    | false => simp [h] at hsome
    | true =>
      simp only [h, ↓reduceIte, Option.some.injEq] at hsome
      rw [← hsome, hsame, htwo]
      by_cases h2 : s = ⟨2⟩
      · subst h2
        simp [hsource, StateId.root]
      · simp [h2, hother s h2]
  · rw [hhop] at hnone
    cases h : p == c with
    | true => simp [h] at hnone
    | false =>
      have hc : (g.extend ⟨2⟩ ⟨false, .name c⟩).2.contains ⟨3⟩ = true :=
        decide_eq_true (by rw [hgrown.size_eq, hsize]; decide)
      have hsource' := hgrown.source
      have hnew' := hgrown.new
      rw [hnew] at hthree hsource' hnew'
      rw [hthree, hc]
      by_cases h2 : s = ⟨2⟩
      · subst h2
        simp [hsource', hsource, State.withEdge, StateId.root]
      · by_cases h3 : s = ⟨3⟩
        · subst h3
          simp [hnew', State.successor, StateId.root]
        · simp [h2, h3, hgrown.other s h2 (hnew ▸ h3), hother s h2]

section

variable (p c : Name) (b : B) (s : StateId)

theorem transitions_childGraph : ((childGraph p c b).state s).transitions =
    if s = ⟨2⟩ then ⟨.name p, ⟨2⟩⟩ :: if p == c then [] else [⟨.name c, ⟨3⟩⟩] else [] := by
  rw [state_childGraph]
  match s with
  | ⟨0⟩ | ⟨1⟩ | ⟨2⟩ | ⟨3⟩ | ⟨_ + 4⟩ => simp [StateId.root]

theorem rules_childGraph : ((childGraph p c b).state s).rules =
    if s = .root then [⟨.name p, ⟨2⟩⟩] else [] := by
  rw [state_childGraph]
  match s with
  | ⟨0⟩ | ⟨1⟩ | ⟨2⟩ | ⟨3⟩ | ⟨_ + 4⟩ => simp [StateId.root]

theorem handlers_childGraph : ((childGraph p c b).state s).handlers =
    if s = (if p == c then ⟨2⟩ else ⟨3⟩) then [⟨b, some 0⟩] else [] := by
  rw [state_childGraph]
  match s with
  | ⟨0⟩ | ⟨1⟩ | ⟨2⟩ | ⟨3⟩ | ⟨_ + 4⟩ => cases p == c <;> simp [StateId.root]

theorem fallback_childGraph : ((childGraph p c b).state s).fallback = none := by
  rw [state_childGraph]
  match s with
  | ⟨0⟩ | ⟨1⟩ | ⟨2⟩ | ⟨3⟩ | ⟨_ + 4⟩ => simp [StateId.root]

theorem limit_childGraph : ((childGraph p c b).state s).limit = none := by
  rw [state_childGraph]
  match s with
  | ⟨0⟩ | ⟨1⟩ | ⟨2⟩ | ⟨3⟩ | ⟨_ + 4⟩ => simp [StateId.root]

end

/-! ### The states of elements -/

/-- The elements named `c` whose parent is named `p`. -/
def isChildOf (p c : Name) (parent : Option StartElement) (e : StartElement) : Bool :=
  e.name == c && parent.any fun above => above.name == p

/-- The elements the handler is told of: if the names are the same, any named so. -/
def isToldAsChild (p c : Name) (parent : Option StartElement) (e : StartElement) : Bool :=
  if p == c then e.name == c else isChildOf p c parent e

/-- The parent's state tells whether the parent is named `p`. -/
def MarksParent (p : Name) (above : List Ancestor) : Prop :=
  ∀ a, above.head? = some a → (a.state = ⟨2⟩ ↔ (a.element.name == p) = true)

section

variable {m : Machine B D} {p c : Name} {b : B} (hm : m.model = ⟨childGraph p c b, .root, []⟩)
include hm

theorem state_childModel (s : StateId) : m.state s = (childGraph p c b).state s := by
  rw [Machine.state, Model.state, hm]

/-- Only the root has a rule. -/
theorem rules_childModel (above : List Ancestor) (e : StartElement) :
    (m.statesAbove above).findSome? (fun s => (m.state s).followRules m.filters e) =
      if e.name == p then some ⟨2⟩ else none := by
  have hrules : ∀ s, (m.state s).followRules m.filters e =
      if s = .root ∧ (e.name == p) = true then some ⟨2⟩ else none := by
    intro s
    rw [State.followRules, state_childModel hm, rules_childGraph, fallback_childGraph]
    by_cases hs : s = .root <;> cases hp : e.name == p <;>
      simp [hs, hp, Transition.follow, Constraint.holds]
  have hmodel : m.model.root = .root := by rw [hm]
  unfold Machine.statesAbove
  rw [hmodel]
  induction above with
  | nil => simp [hrules]
  | cons a above ih =>
    rw [List.map_cons, List.cons_append, List.findSome?_cons, ih, hrules]
    cases e.name == p <;> by_cases ha : a.state = .root <;> simp [ha]

theorem entry_childModel (above : List Ancestor) (e : StartElement) :
    m.entry above e = if e.name == p then ⟨2⟩
      else if m.innermost above = ⟨2⟩ ∧ (e.name == c) = true then ⟨3⟩ else .sink := by
  rw [Machine.entry_eq, rules_childModel hm, State.follow, state_childModel hm,
    transitions_childGraph]
  cases hp : e.name == p with
  | true =>
    by_cases h2 : m.innermost above = ⟨2⟩ <;> simp [h2, Transition.follow, Constraint.holds, hp]
  | false =>
    cases hc : e.name == c with
    | false =>
      by_cases h2 : m.innermost above = ⟨2⟩ <;> cases p == c <;>
        simp [h2, Transition.follow, Constraint.holds, hp, hc]
    | true =>
      -- an element of one name only: the names differ
      have hpc : (p == c) = false := by
        cases hpc : p == c with
        | false => rfl
        | true =>
          rw [BEq.congr_right hpc, hc] at hp
          cases hp
      by_cases h2 : m.innermost above = ⟨2⟩ <;>
        simp [h2, Transition.follow, Constraint.holds, hp, hc, hpc]

theorem audience_childModel (s : StateId) :
    m.audience s = if s = (if p == c then ⟨2⟩ else ⟨3⟩) then [b] else [] := by
  rw [Machine.audience, state_childModel hm, handlers_childGraph]
  generalize (if p == c then (⟨2⟩ : StateId) else ⟨3⟩) = target
  by_cases hs : s = target <;> simp [hs]

theorem marksParent_entry (above : List Ancestor) (e : StartElement) :
    MarksParent p (⟨m.entry above e, e⟩ :: above) := by
  intro a ha
  cases ha
  rw [entry_childModel hm]
  cases e.name == p with
  | true => simp
  | false => by_cases h : m.innermost above = ⟨2⟩ ∧ (e.name == c) = true <;> simp [h, StateId.sink]

theorem audience_entry {above : List Ancestor} (h : MarksParent p above) (e : StartElement) :
    (m.audience (m.entry above e)).map (·, e) =
      if isToldAsChild p c (above.head?.map (·.element)) e then [(b, e)] else [] := by
  have hparent : m.innermost above = ⟨2⟩ ↔
      ((above.head?.map (·.element)).any fun parent => parent.name == p) = true := by
    unfold Machine.innermost
    cases ha : above.head? with
    | none => simp [hm, StateId.root]
    | some a => simpa using h a ha
  rw [audience_childModel hm, entry_childModel hm]
  unfold isToldAsChild isChildOf
  cases hpc : p == c with
  | true =>
    have hname : (e.name == p) = (e.name == c) := BEq.congr_right hpc
    cases hc : e.name == c <;> simp [hname, hc, StateId.sink]
  | false =>
    cases hc : e.name == c with
    | false => cases hp : e.name == p <;> simp [StateId.sink]
    | true =>
      have hp : (e.name == p) = false := by
        cases hp : e.name == p with
        | false => rfl
        | true => exact absurd (BEq.trans (BEq.symm hp) hc) (by simp [hpc])
      by_cases h2 : m.innermost above = ⟨2⟩
      · simp [hp, h2, hparent.1 h2]
      · have hn := Bool.eq_false_iff.2 (mt hparent.2 h2)
        simp [hp, h2, hn, StateId.sink]

end

section

variable {m : Machine B D} {p c : Name} {b : B}

mutual
/-- The handler is to be told of the elements picked, each once. -/
theorem told_childModel (hm : m.model = ⟨childGraph p c b, .root, []⟩) : ∀ (x : Content)
    {above : List Ancestor}, MarksParent p above →
    m.told above x = (x.pick (isToldAsChild p c) (above.head?.map (·.element))).map (b, ·)
  | .aside a, above, h => by
    rw [Machine.told, Content.pick, List.map_nil]
  | .element e inside close, above, h => by
    rw [Machine.told, Content.pick, List.map_append, audience_entry hm h,
      toldAll_childModel hm inside (marksParent_entry hm above e)]
    split <;> rfl

theorem toldAll_childModel (hm : m.model = ⟨childGraph p c b, .root, []⟩) : ∀ (xs : List Content)
    {above : List Ancestor}, MarksParent p above →
    m.toldAll above xs =
      (Content.pickAll (isToldAsChild p c) (above.head?.map (·.element)) xs).map (b, ·)
  | [], above, h => by
    rw [Machine.toldAll, Content.pickAll, List.map_nil]
  | x :: xs, above, h => by
    rw [Machine.toldAll, Content.pickAll, List.map_append, told_childModel hm x h,
      toldAll_childModel hm xs h]
end

end

/-! ### When the two sets of elements agree -/

namespace Content

section

variable {accepts more : Option StartElement → StartElement → Bool}

mutual
theorem pick_sublist (h : ∀ parent e, accepts parent e = true → more parent e = true) :
    ∀ (x : Content) (parent : Option StartElement),
    (x.pick accepts parent).Sublist (x.pick more parent)
  | .aside a, parent => List.nil_sublist _
  | .element e inside close, parent => by
    rw [pick, pick]
    refine List.Sublist.append ?_ (pickAll_sublist h inside (some e))
    cases ha : accepts parent e with
    | true =>
      have hm : more parent e = true := h parent e ha
      simp [hm]
    | false => exact List.nil_sublist _

theorem pickAll_sublist (h : ∀ parent e, accepts parent e = true → more parent e = true) :
    ∀ (xs : List Content) (parent : Option StartElement),
    (pickAll accepts parent xs).Sublist (pickAll more parent xs)
  | [], parent => List.nil_sublist _
  | x :: xs, parent => by
    rw [pickAll, pickAll]
    exact (pick_sublist h x parent).append (pickAll_sublist h xs parent)
end

end

/-- Outermost elements of a kind have no parent of that kind. -/
theorem isChildOf_self_imp (p : Name) (parent : Option StartElement) (e : StartElement)
    (h : isChildOf p p parent e = true) : (e.name == p) = true :=
  (Bool.and_eq_true _ _ ▸ h).1

section

variable {p : Name}

mutual
/-- Below a parent of another name some elements named `p` are no children of such ones. -/
theorem length_pick_lt : ∀ (x : Content) {parent : Option StartElement},
    (parent.any fun above => above.name == p) = false →
    x.pick (fun _ e => e.name == p) parent ≠ [] →
    (x.pick (isChildOf p p) parent).length < (x.pick (fun _ e => e.name == p) parent).length
  | .aside a, parent, hp, hx => by
    rw [pick] at hx
    exact absurd rfl hx
  | .element e inside close, parent, hp, hx => by
    rw [pick] at hx
    rw [pick, pick, isChildOf, hp, Bool.and_false]
    cases he : e.name == p with
    | true =>
      have hle := (pickAll_sublist (isChildOf_self_imp p) inside (some e)).length_le
      simpa using Nat.lt_succ_of_le hle
    | false =>
      simp only [he, Bool.false_eq_true, ↓reduceIte, List.nil_append] at hx ⊢
      exact length_pickAll_lt inside he hx

theorem length_pickAll_lt : ∀ (xs : List Content) {parent : Option StartElement},
    (parent.any fun above => above.name == p) = false →
    pickAll (fun _ e => e.name == p) parent xs ≠ [] →
    (pickAll (isChildOf p p) parent xs).length <
      (pickAll (fun _ e => e.name == p) parent xs).length
  | [], parent, hp, hx => by
    rw [pickAll] at hx
    exact absurd rfl hx
  | x :: xs, parent, hp, hx => by
    rw [pickAll] at hx
    rw [pickAll, pickAll, List.length_append, List.length_append]
    have hle := (pickAll_sublist (isChildOf_self_imp p) xs parent).length_le
    by_cases hfirst : x.pick (fun _ e => e.name == p) parent = []
    · rw [hfirst, List.nil_append] at hx
      have hlt := length_pickAll_lt xs hp hx
      have hle' := (pick_sublist (isChildOf_self_imp p) x parent).length_le
      omega
    · have hlt := length_pick_lt x hp hfirst
      omega
end

end

end Content

/-- The handler is told of the children alone exactly if the names differ or no element has the
name. -/
theorem pick_isToldAsChild_iff (p c : Name) (doc : Document) :
    doc.pick (isToldAsChild p c) = doc.pick (isChildOf p c) ↔
      (p == c) = false ∨ doc.pick (fun _ e => e.name == p) = [] := by
  cases hpc : p == c with
  | false =>
    have htold : isToldAsChild p c = isChildOf p c := by
      funext parent e
      rw [isToldAsChild, hpc, if_neg Bool.false_ne_true]
    simp [htold]
  | true =>
    have hname : ∀ e : StartElement, (e.name == c) = (e.name == p) :=
      fun e => (BEq.congr_right hpc).symm
    have htold : isToldAsChild p c = fun _ e => e.name == p := by
      funext parent e
      rw [isToldAsChild, hpc, if_pos rfl, hname]
    have hchild : isChildOf p c = isChildOf p p := by
      funext parent e
      rw [isChildOf, isChildOf, hname]
    rw [htold, hchild]
    unfold Document.pick
    constructor
    · intro h
      right
      by_cases hnil : Content.pickAll (fun _ e => e.name == p) none doc.contents = []
      · exact hnil
      · have htop : ((none : Option StartElement).any fun above => above.name == p) = false := rfl
        have hlt := Content.length_pickAll_lt doc.contents htop hnil
        rw [h] at hlt
        exact absurd hlt (Nat.lt_irrefl _)
    · rintro (h | h)
      · cases h
      · have hs := Content.pickAll_sublist (Content.isChildOf_self_imp p) doc.contents none
        rw [h] at hs ⊢
        exact (List.sublist_nil.1 hs).symm

/-- In every run over a document the calls at the start of elements are those of one handler on the
elements picked, up to the first error. -/
def Machine.TellsOf (m : Machine B D) (b : B) (picked : Document → List StartElement) : Prop :=
  ∀ (doc : Document) (d : D),
    openings (m.recorded.play doc.events {} (d, [])).data.2 <+: (picked doc).map (b, ·) ∧
      ((m.recorded.play doc.events {} (d, [])).error = none →
        openings (m.recorded.play doc.events {} (d, [])).data.2 = (picked doc).map (b, ·))

theorem tellsOf_childModel {m : Machine B D} {p c : Name} {b : B}
    (hm : m.model = ⟨childGraph p c b, .root, []⟩) :
    m.TellsOf b (Document.pick (isToldAsChild p c)) := by
  intro doc d
  have htop : MarksParent p [] := fun a ha => by cases ha
  have hplay := openings_play m doc d
  rw [toldAll_childModel hm doc.contents htop] at hplay
  exact hplay

/-- The model with one handler on the children named `c` of the elements named `p` can be built. The
handler is called once for each of them, in document order, and for nothing else, unless the names
are the same: then for every element of the name. So runs to the end call it for these children
alone exactly if the names differ or the document has no element named `p`, and every run gets to
the end if the depth has no bound and no handler fails. -/
theorem openings_of_named_children [DecidableEq B] (n : Nat) (p c : Name) {b : B}
    {declared : B → Nat → List (Declaration B)} (hb : declared b 0 = []) {settings : BuildSettings}
    (hs : 0 < settings.maxHandlerBuilds) :
    ∃ model, ((childBuilder n p c b).construct declared settings).model = .ok model ∧
      ∀ (m : Machine B D), m.model = model →
        m.TellsOf b (Document.pick (isToldAsChild p c)) ∧
        (∀ (doc : Document) (d : D), (m.recorded.play doc.events {} (d, [])).error = none →
          (openings (m.recorded.play doc.events {} (d, [])).data.2 =
              (doc.pick (isChildOf p c)).map (b, ·) ↔
            (p == c) = false ∨ doc.pick (fun _ e => e.name == p) = [])) ∧
        (m.settings.maxDepth = none → (∀ b o d, (m.behaviours.react b o d).failure = none) →
          ∀ (doc : Document) (d : D), (m.recorded.play doc.events {} (d, [])).error = none) := by
  refine ⟨_, model_childBuilder n p c hb hs, fun m hm => ?_⟩
  have htells := tellsOf_childModel hm
  refine ⟨htells, fun doc d hnone => ?_, fun hdepth hreact doc d => ?_⟩
  · rw [(htells doc d).2 hnone, List.map_inj_right fun _ _ h => (Prod.mk.inj h).2]
    exact pick_isToldAsChild_iff p c doc
  · have hlimit : ∀ s, (m.state s).limit = none := by
      intro s
      rw [state_childModel hm]
      exact limit_childGraph p c b s
    have hfree : m.Unhindered := ⟨hdepth, hlimit, hreact⟩
    exact hfree.error_play doc d

/-! A handler on the titles of sections, and one on the children named `a` of elements named `a`. -/

def childConstruction (p c : Name) : Construction Unit :=
  (childBuilder 0 p c ()).construct (fun _ _ => []) {}

def childMachine (p c : Name) : Machine Unit Unit where
  model := ⟨childGraph p c (), .root, []⟩
  behaviours := ⟨fun _ => {}, fun _ => {}⟩
  filters := ⟨fun _ _ => false, fun _ _ _ => false⟩

def sectionTitles : Machine Unit Unit := childMachine (.plain "section") (.plain "title")

/-- A section with a title and a paragraph with a title. -/
def titledSection : Document where
  prolog := []
  root := .ofName (.plain "section")
  inside := [.element (.ofName (.plain "title")) [] ⟨.plain "title", none⟩,
    .element (.ofName (.plain "p"))
      [.element (.ofName (.plain "title")) [] ⟨.plain "title", none⟩] ⟨.plain "p", none⟩]
  close := ⟨.plain "section", none⟩
  epilog := []

theorem openings_titledSection :
    (childConstruction (.plain "section") (.plain "title")).model = .ok sectionTitles.model ∧
      titledSection.pick (isChildOf (.plain "section") (.plain "title")) =
        [.ofName (.plain "title")] ∧
      openings (sectionTitles.recorded.play titledSection.events {} ((), [])).data.2 =
        (titledSection.pick (isChildOf (.plain "section") (.plain "title"))).map ((), ·) := by
  have hs : 0 < ({} : BuildSettings).maxHandlerBuilds := by decide
  let declared : Unit → Nat → List (Declaration Unit) := fun _ _ => []
  have hb : declared () 0 = [] := rfl
  obtain ⟨model, hm, hall⟩ := openings_of_named_children (D := Unit) 0 (.plain "section")
    (.plain "title") hb hs
  have hmodel : (childConstruction (.plain "section") (.plain "title")).model =
      .ok sectionTitles.model := model_childBuilder 0 _ _ hb hs
  have hsame : sectionTitles.model = model := Except.ok.inj (hmodel.symm.trans hm)
  obtain ⟨-, hchildren, hend⟩ := hall sectionTitles hsame
  have hreact : ∀ b o d, (sectionTitles.behaviours.react b o d).failure = none := by
    intro b o d
    cases o <;> rfl
  have hnone := hend rfl hreact titledSection ()
  exact ⟨hmodel, by cbv, (hchildren titledSection () hnone).2 (.inl (by decide))⟩

/-- The handler on the children named `a` is called for the root. -/
theorem openings_same_name :
    (childConstruction (.plain "a") (.plain "a")).model =
        .ok (childMachine (.plain "a") (.plain "a")).model ∧
      (⟨[], .ofName (.plain "a"), [], ⟨.plain "a", none⟩, []⟩ : Document).pick
        (isChildOf (.plain "a") (.plain "a")) = [] ∧
      openings ((childMachine (.plain "a") (.plain "a")).recorded.play
          (⟨[], .ofName (.plain "a"), [], ⟨.plain "a", none⟩, []⟩ : Document).events
          {} ((), [])).data.2 = [((), .ofName (.plain "a"))] := by
  refine ⟨model_childBuilder 0 _ _ rfl (by decide), by cbv, by cbv⟩

end StreamSelect
