import StreamSelect.Filter
import StreamSelect.Pattern

/-! Predicates over the name and the attributes of one element. Constraints are compared by what
they say, so that declarations written twice meet in one state of the automaton. -/
namespace StreamSelect

inductive Constraint where
  | name (n : Name)
  | present (key : Name)
  | equals (key : Name) (value : String) (negated : Bool)
  | includes (key : Name) (value : String) (negated : Bool)
  | matching (key : Name) (pattern : ValuePattern) (negated : Bool)
  | attributeFilter (key : Name) (filter : FilterId)
  | filter (filter : FilterId)
  /-- All constraints of the list hold. -/
  | all (parts : List Constraint)

namespace Constraint

instance : Inhabited Constraint := ⟨.all []⟩

/-- The constraint that a value, or its absence, passes a pattern or fails it. -/
def ofPattern (key : Name) (source : String) (negated : Bool) : Except Error Constraint :=
  (ValuePattern.compile source).map fun pattern => matching key pattern negated

/-- The parts of a conjunction, one level deep. -/
def parts : Constraint → List Constraint
  | all inner => inner
  | c => [c]

/-- A list of constraints as one: a single one is that one itself. -/
def ofParts : List Constraint → Constraint
  | [c] => c
  | cs => all cs

/-- The conjunction of constraints. Conjunctions among them give their parts. -/
def conjunction (cs : List Constraint) : Constraint := ofParts (cs.flatMap parts)

/-- True of the constraint that holds of every element as it is written. -/
def isTrivial : Constraint → Bool
  | all [] => true
  | _ => false

/-- A text occurs in another. -/
def occurs (part : List Char) : List Char → Bool
  | [] => part.isEmpty
  | c :: text => part.isPrefixOf (c :: text) || occurs part text

/-- A test of a value that must be there; turned around, an absent value passes. -/
def valueTest (value : Option String) (negated : Bool) (test : String → Bool) : Bool :=
  value.any test != negated

mutual
def holds (fs : Filters) (e : StartElement) : Constraint → Bool
  | name n => e.name == n
  | present a => (e.attribute? a).isSome
  | equals a v negated => valueTest (e.attribute? a) negated (· == v)
  | includes a v negated =>
    valueTest (e.attribute? a) negated fun value => occurs v.toList value.toList
  | matching a p negated => valueTest (e.attribute? a) negated p.accepts
  | attributeFilter a f => (e.attribute? a).any (fs.onValue f a)
  | filter f => fs.onElement f e
  | all cs => holdsAll fs e cs

def holdsAll (fs : Filters) (e : StartElement) : List Constraint → Bool
  | [] => true
  | c :: cs => holds fs e c && holdsAll fs e cs
end

mutual
/-- The filters asked to test an element, in order; the parts of a conjunction after one that fails
are not asked. -/
def consulted (fs : Filters) (e : StartElement) : Constraint → List Consultation
  | attributeFilter a f =>
    ((e.attribute? a).map fun value => ⟨f, fs.onValue f a value⟩).toList
  | filter f => [⟨f, fs.onElement f e⟩]
  | all cs => consultedAll fs e cs
  | _ => []

def consultedAll (fs : Filters) (e : StartElement) : List Constraint → List Consultation
  | [] => []
  | c :: cs => consulted fs e c ++ if holds fs e c then consultedAll fs e cs else []
end

mutual
def same : Constraint → Constraint → Bool
  | name a, name b => a == b
  | present a, present b => a == b
  | equals a v n, equals b w m => a == b && v == w && n == m
  | includes a v n, includes b w m => a == b && v == w && n == m
  | matching a p n, matching b q m => a == b && p == q && n == m
  | attributeFilter a f, attributeFilter b g => a == b && f == g
  | filter f, filter g => f == g
  | all as, all bs => sameAll as bs
  | _, _ => false

def sameAll : List Constraint → List Constraint → Bool
  | [], [] => true
  | a :: as, b :: bs => same a b && sameAll as bs
  | _, _ => false
end

instance : BEq Constraint := ⟨same⟩

def sign (negated : Bool) : String := if negated then "!" else ""

mutual
def describe : Constraint → String
  | name n => "name=" ++ n.display
  | present a => "@" ++ a.display
  | equals a v negated => "@" ++ a.display ++ sign negated ++ "=" ++ Text.quoted v
  | includes a v negated => "@" ++ a.display ++ sign negated ++ "~" ++ Text.quoted v
  | matching a p negated => "@" ++ a.display ++ sign negated ++ "=" ++ p.describe
  | attributeFilter a _ => "@" ++ a.display ++ "=<filter>"
  | filter _ => "<filter>"
  | all cs => "[" ++ ", ".intercalate (describeAll cs) ++ "]"

def describeAll : List Constraint → List String
  | [] => []
  | c :: cs => describe c :: describeAll cs
end

theorem holdsAll_eq (fs : Filters) (e : StartElement) (cs : List Constraint) :
    holdsAll fs e cs = cs.all (holds fs e) := by
  induction cs with
  | nil => rfl
  | cons c cs ih => simp [holdsAll, ih]

theorem holds_all (fs : Filters) (e : StartElement) (cs : List Constraint) :
    holds fs e (all cs) = cs.all (holds fs e) := by
  rw [holds, holdsAll_eq]

theorem holds_ofParts (fs : Filters) (e : StartElement) (cs : List Constraint) :
    holds fs e (ofParts cs) = cs.all (holds fs e) := by
  unfold ofParts
  split
  · simp
  · exact holds_all fs e cs

theorem all_parts (fs : Filters) (e : StartElement) (c : Constraint) :
    c.parts.all (holds fs e) = holds fs e c := by
  unfold parts
  split
  · exact (holds_all fs e _).symm
  · simp

theorem holds_conjunction (fs : Filters) (e : StartElement) (cs : List Constraint) :
    holds fs e (conjunction cs) = cs.all (holds fs e) := by
  rw [conjunction, holds_ofParts]
  induction cs with
  | nil => rfl
  | cons c cs ih => simp [all_parts, ih]

end Constraint
end StreamSelect
