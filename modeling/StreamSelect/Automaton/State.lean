import StreamSelect.Automaton.StateId
import StreamSelect.Constraint

/-! States of the automaton. A state has three kinds of edges: transitions are tried on the children
of an element in the state; rules are tried on every element below it; the fallback takes what no
rule accepts. Edges are tried in the order they were declared. -/
namespace StreamSelect

/-- An edge, followed by the elements that pass its test. -/
structure Transition where
  test : Constraint
  target : StateId
  deriving Inhabited

namespace Transition

/-- The target of the first edge an element may follow. -/
def follow (fs : Filters) (e : StartElement) (edges : List Transition) : Option StateId :=
  (edges.find? fun edge => edge.test.holds fs e).map (·.target)

/-- The target of the edge with an equal test. -/
def targetOf? (edges : List Transition) (test : Constraint) : Option StateId :=
  (edges.find? fun edge => edge.test == test).map (·.target)

/-- The filters asked until an edge is found. -/
def consulted (fs : Filters) (e : StartElement) : List Transition → List Consultation
  | [] => []
  | edge :: edges =>
    edge.test.consulted fs e ++ if edge.test.holds fs e then [] else consulted fs e edges

def describe (t : Transition) : String :=
  "Transition \x7b test: " ++ t.test.describe ++ ", target: " ++ t.target.describe ++ " \x7d"

def describeAll (edges : List Transition) : String :=
  "[" ++ ", ".intercalate (edges.map describe) ++ "]"

end Transition

/-- One state, with handlers of type `H` in the order they were attached. -/
structure State (H : Type) where
  transitions : List Transition := []
  rules : List Transition := []
  fallback : Option StateId := none
  handlers : List H := []
  /-- How many elements may enter the state in one run. -/
  limit : Option Nat := none
  /-- Tests of the rules that lead here and must lead back here from below. -/
  reentry : List Constraint := []
  deriving Inhabited

namespace State

variable {H : Type}

/-- True of a state whose rules the elements below inherit. -/
def declaresRules (s : State H) : Bool := !s.rules.isEmpty || s.fallback.isSome

def follow (s : State H) (fs : Filters) (e : StartElement) : Option StateId :=
  Transition.follow fs e s.transitions

/-- Rules first, then the fallback. -/
def followRules (s : State H) (fs : Filters) (e : StartElement) : Option StateId :=
  (Transition.follow fs e s.rules).or s.fallback

def describeLimit : Option Nat → String
  | some n => "Some(" ++ toString n ++ ")"
  | none => "None"

def describe (s : State H) : String :=
  "State \x7b transitions: " ++ Transition.describeAll s.transitions ++
    ", descendant_rules: " ++ Transition.describeAll s.rules ++
    ", default_target: " ++ StateId.describe? s.fallback ++
    ", handlers: " ++ toString s.handlers.length ++
    ", limit: " ++ describeLimit s.limit ++ " \x7d"

theorem followRules_eq_none_of_not_declaresRules {s : State H} (h : s.declaresRules = false)
    (fs : Filters) (e : StartElement) : s.followRules fs e = none := by
  simp only [declaresRules, Bool.or_eq_false_iff, Bool.not_eq_false', List.isEmpty_iff,
    Option.isSome_eq_false_iff, Option.isNone_iff_eq_none] at h
  simp [followRules, Transition.follow, h.1, h.2]

end State
end StreamSelect
