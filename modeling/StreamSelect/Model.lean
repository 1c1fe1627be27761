import StreamSelect.Automaton.Graph
import StreamSelect.Handler

/-! Finished models: an automaton and its handlers of document declarations. -/
namespace StreamSelect

structure Model (B : Type) where
  graph : Graph (HandlerRef B)
  root : StateId
  observers : List B
  deriving Inhabited

namespace Model

variable {B : Type}

def size (m : Model B) : Nat := m.graph.size

def state (m : Model B) (s : StateId) : State (HandlerRef B) := m.graph.state s

def describe (m : Model B) : String :=
  "Model \x7b root: " ++ m.root.describe ++ ", states: " ++ toString m.size ++
    ", declaration_handlers: " ++ toString m.observers.length ++ " \x7d"

end Model
end StreamSelect
