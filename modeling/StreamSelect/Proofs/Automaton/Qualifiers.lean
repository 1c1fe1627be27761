import StreamSelect.Proofs.Attributes
import StreamSelect.Proofs.Automaton.Growth
import StreamSelect.Proofs.Automaton.Likeness

/-! Qualifiers in documents. Elements that differ in qualifiers only pass the same tests, and automata
whose tests differ in qualifiers only lead them to the same states, as long as the filters look at no
qualifier. -/
namespace StreamSelect

open List (Forall₂)

/-- Elements that differ at most in how their names are qualified. -/
structure StartElement.Alike (e e' : StartElement) : Prop where
  name : (e.name == e'.name) = true
  attributes : e.attributes.Alike e'.attributes
  location : e.location = e'.location

/-- Filters that see of names what identifies them. -/
structure Filters.Indifferent (fs : Filters) : Prop where
  values : fs.IgnoreQualifiers
  elements : ∀ f e e', StartElement.Alike e e' → fs.onElement f e = fs.onElement f e'

namespace StartElement.Alike

variable {e e' : StartElement}

theorem refl (e : StartElement) : e.Alike e :=
  ⟨BEq.refl _, List.forall₂_same.2 fun _ _ => ⟨BEq.refl _, rfl⟩, rfl⟩

theorem attribute? (h : e.Alike e') (name : Name) : e.attribute? name = e'.attribute? name :=
  h.attributes.get? name

end StartElement.Alike

section

variable {fs : Filters} {e e' : StartElement}

namespace Constraint

mutual
theorem holds_of_alike (hf : fs.Indifferent) (he : e.Alike e') :
    ∀ c : Constraint, c.holds fs e = c.holds fs e'
  | name n => BEq.congr_left he.name
  | present a | equals a _ _ | includes a _ _ | matching a _ _ | attributeFilter a _ => by
    rw [holds, holds, he.attribute? a]
  | filter f => hf.elements f e e' he
  | all cs => by
    rw [holds, holds]
    exact holdsAll_of_alike hf he cs

theorem holdsAll_of_alike (hf : fs.Indifferent) (he : e.Alike e') :
    ∀ cs : List Constraint, holdsAll fs e cs = holdsAll fs e' cs
  | [] => rfl
  | c :: cs => by rw [holdsAll, holdsAll, holds_of_alike hf he c, holdsAll_of_alike hf he cs]
end

/-- Equality of constraints is sound, however the names of the element are qualified. -/
theorem holds_alike (hf : fs.Indifferent) {c d : Constraint} (h : (c == d) = true)
    (he : e.Alike e') : c.holds fs e = d.holds fs e' :=
  (holds_congr hf.values e h).trans (holds_of_alike hf he d)

theorem equivalence_beq : Equivalence fun c d : Constraint => (c == d) = true where
  refl := BEq.refl
  symm := BEq.symm
  trans := BEq.trans

end Constraint

/-! ### Edges that are shared -/

namespace Transition

/-- Among the edges is one to the target that accepts what the test accepts. -/
def Serves (fs : Filters) (edges : List Transition) (test : Constraint) (target : StateId) : Prop :=
  ∃ edge ∈ edges, edge.target = target ∧
    ∀ e e' : StartElement, e.Alike e' → edge.test.holds fs e = test.holds fs e'

theorem serves_of_targetOf? (hf : fs.Indifferent) {edges : List Transition} {test : Constraint}
    {target : StateId} (h : targetOf? edges test = some target) : Serves fs edges test target := by
  obtain ⟨edge, hmem, htest, htarget⟩ := exists_of_targetOf? h
  exact ⟨edge, hmem, htarget, fun e e' he => Constraint.holds_alike hf htest he⟩

theorem serves_concat (hf : fs.Indifferent) (edges : List Transition) (test : Constraint)
    (target : StateId) : Serves fs (edges ++ [⟨test, target⟩]) test target :=
  ⟨⟨test, target⟩, List.mem_concat_self, rfl,
    fun _ _ he => Constraint.holds_of_alike hf he test⟩

/-- An edge that is left out because its test is there would never have been followed. -/
theorem follow_concat_of_targetOf? (hf : fs.Indifferent) {edges : List Transition}
    {test : Constraint} {target : StateId} (h : targetOf? edges test = some target)
    (e : StartElement) (other : StateId) :
    follow fs e (edges ++ [⟨test, other⟩]) = follow fs e edges := by
  obtain ⟨edge, hmem, htest, -⟩ := exists_of_targetOf? h
  unfold follow
  rw [List.find?_append]
  cases hfound : edges.find? fun edge => edge.test.holds fs e with
  | some found => rfl
  | none =>
    have hfails : test.holds fs e = false := by
      rw [← Constraint.holds_alike hf htest (.refl e)]
      simpa using List.find?_eq_none.1 hfound edge hmem
    simp [hfails]

theorem follow_congr (hf : fs.Indifferent) (he : e.Alike e') {xs ys : List Transition}
    (h : Forall₂ Alike xs ys) : follow fs e xs = follow fs e' ys := by
  induction h with
  | nil => rfl
  | @cons x y xs ys hxy _ ih =>
    unfold follow at ih ⊢
    rw [List.find?_cons, List.find?_cons, Constraint.holds_alike hf hxy.test he]
    cases y.test.holds fs e' with
    | true => exact congrArg some hxy.target
    | false => exact ih

end Transition

namespace Graph

variable {H : Type} {g k : Graph H} {s : StateId}

/-- Declared again or not, the edge that is returned accepts what the test accepts. -/
theorem serves_addTransition (hf : fs.Indifferent) (hs : g.contains s = true) (test : Constraint) :
    Transition.Serves fs ((g.addTransition s test).2.state s).transitions test
      (g.addTransition s test).1 := by
  unfold addTransition
  split
  · exact Transition.serves_of_targetOf? hf ‹_›
  · dsimp only
    rw [state_update, if_pos ⟨rfl, contains_addState hs⟩]
    exact Transition.serves_concat hf _ _ _

theorem serves_addRule (hf : fs.Indifferent) (hs : g.contains s = true) (test : Constraint) :
    Transition.Serves fs ((g.addRule s test).2.state s).rules test (g.addRule s test).1 := by
  unfold addRule
  split
  · exact Transition.serves_of_targetOf? hf ‹_›
  · dsimp only
    rw [state_update, if_pos ⟨rfl, contains_addState hs⟩]
    exact Transition.serves_concat hf _ _ _

theorem serves_link (hf : fs.Indifferent) (hs : g.contains s = true) (test : Constraint)
    (target : StateId) :
    Transition.Serves fs ((g.link s test target).2.state s).transitions test
      (g.link s test target).1 := by
  unfold link
  split
  · exact Transition.serves_of_targetOf? hf ‹_›
  · rw [state_update, if_pos ⟨rfl, hs⟩]
    exact Transition.serves_concat hf _ _ _

/-- Where a document and a model are qualified otherwise, elements enter the same states. -/
theorem Alike.resolve (h : g.Alike k) (hf : fs.Indifferent) (he : e.Alike e') (current : StateId)
    (scope : List StateId) : g.resolve fs current scope e = k.resolve fs current scope e' := by
  have hfollow : (g.state current).follow fs e = (k.state current).follow fs e' :=
    Transition.follow_congr hf he (h.state current).transitions
  have hrules : ∀ source, (g.state source).followRules fs e = (k.state source).followRules fs e' := by
    intro source
    unfold State.followRules
    rw [Transition.follow_congr hf he (h.state source).rules, (h.state source).fallback]
  unfold Graph.resolve
  simp only [hfollow, hrules]

end Graph

end

end StreamSelect
