import StreamSelect.Automaton.StateId
import StreamSelect.Constraint

/-! Selectors: where an element stands relative to the one before it, and what it must satisfy. -/
namespace StreamSelect

structure SelectorId where
  index : Nat
  deriving Repr, DecidableEq, Hashable, Inhabited

def SelectorId.describe (s : SelectorId) : String := "SelectorId(" ++ toString s.index ++ ")"

inductive SelectorKind where
  | child (name : Name)
  | anyChild
  /-- An element at any depth. -/
  | descendant
  | named (name : Name)
  | filtered (filter : FilterId)
  deriving Inhabited, BEq

namespace SelectorKind

def isDescendant : SelectorKind → Bool
  | descendant | named _ => true
  | _ => false

/-- What the kind itself asks of an element. -/
def implied : SelectorKind → List Constraint
  | child n | named n => [.name n]
  | filtered f => [.filter f]
  | anyChild | descendant => []

def describe : SelectorKind → String
  | child n => "NamedChild(" ++ n.display ++ ")"
  | anyChild => "AnyChild"
  | descendant => "Descendant"
  | named n => "NamedDescendant(" ++ n.display ++ ")"
  | filtered _ => "Filter(<filter>)"

end SelectorKind

/-- The combined test of a step. -/
def combinedTest (kind : SelectorKind) (constraints : List Constraint) : Constraint :=
  .conjunction (kind.implied ++ constraints)

/-- One declared step. A step without a parent is relative to the root of its scope. -/
structure Selector where
  parent : Option SelectorId
  kind : SelectorKind
  constraints : List Constraint
  limit : Option Nat := none
  /-- The state the step was compiled to. -/
  state : Option StateId := none
  deriving Inhabited

namespace Selector

/-- Declared alike under the same parent. -/
def same (s : Selector) (parent : Option SelectorId) (kind : SelectorKind)
    (constraints : List Constraint) : Bool :=
  s.parent == parent && s.kind == kind && s.constraints == constraints

def test (s : Selector) : Constraint := combinedTest s.kind s.constraints

end Selector
end StreamSelect
