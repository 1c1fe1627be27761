/-! Identities of automaton states. The first state is the sink of unmatched elements, the second
the root of the document. -/
namespace StreamSelect

structure StateId where
  index : Nat
  deriving Repr, DecidableEq, Hashable, Inhabited

namespace StateId

def sink : StateId := ⟨0⟩
def root : StateId := ⟨1⟩

def describe (s : StateId) : String :=
  if s = sink then "StateId(EMPTY)" else "StateId(" ++ toString s.index ++ ")"

def describe? : Option StateId → String
  | some s => "Some(" ++ s.describe ++ ")"
  | none => "None"

end StateId
end StreamSelect
