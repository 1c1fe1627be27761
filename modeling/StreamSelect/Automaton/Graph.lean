import StreamSelect.Automaton.State

/-! The states of one model, addressed by number. States are only ever added, and edges only ever
appended, so what an element could reach once it can always reach. -/
namespace StreamSelect

structure Graph (H : Type) where
  states : Array (State H)
  deriving Inhabited

namespace Graph

variable {H : Type}

/-- The sink and the root. -/
def initial : Graph H := ⟨#[{}, {}]⟩

def size (g : Graph H) : Nat := g.states.size

def contains (g : Graph H) (s : StateId) : Bool := s.index < g.size

/-- A number that no state has stands for a state without edges and handlers. -/
def state (g : Graph H) (s : StateId) : State H := g.states[s.index]?.getD {}

def update (g : Graph H) (s : StateId) (f : State H → State H) : Graph H :=
  ⟨g.states.modify s.index f⟩

/-- Adds a state without edges. -/
def addState (g : Graph H) : StateId × Graph H := (⟨g.size⟩, ⟨g.states.push {}⟩)

@[simp] theorem size_update (g : Graph H) (s : StateId) (f : State H → State H) :
    (g.update s f).size = g.size := by
  simp [update, size]

@[simp] theorem size_addState (g : Graph H) : g.addState.2.size = g.size + 1 := by
  simp [addState, size]

theorem state_update_self {g : Graph H} {s : StateId} (h : g.contains s = true)
    (f : State H → State H) : (g.update s f).state s = f (g.state s) := by
  have hs : s.index < g.states.size := of_decide_eq_true h
  simp [state, update, Array.getElem?_modify, Array.getElem?_eq_getElem hs]

theorem state_update_of_ne {g : Graph H} {s t : StateId} (h : t ≠ s)
    (f : State H → State H) : (g.update s f).state t = g.state t := by
  have hi : s.index ≠ t.index := fun hi => h (by cases s; cases t; simp_all)
  simp [state, update, Array.getElem?_modify, hi]

theorem state_addState (g : Graph H) (s : StateId) : g.addState.2.state s = g.state s := by
  simp only [state, addState, Array.getElem?_push]
  split
  · rename_i h
    simp [h]
  · rfl

/-! ### Declaring edges -/

/-- The target of the transition with this test; a new state where there is none. -/
def addTransition (g : Graph H) (source : StateId) (test : Constraint) : StateId × Graph H :=
  match Transition.targetOf? (g.state source).transitions test with
  | some target => (target, g)
  | none =>
    let (target, grown) := g.addState
    (target, grown.update source fun s => { s with transitions := s.transitions ++ [⟨test, target⟩] })

/-- Leads a transition with this test to a known state. One that is there already stays. -/
def link (g : Graph H) (source : StateId) (test : Constraint) (target : StateId) :
    StateId × Graph H :=
  match Transition.targetOf? (g.state source).transitions test with
  | some existing => (existing, g)
  | none =>
    (target, g.update source fun s => { s with transitions := s.transitions ++ [⟨test, target⟩] })

/-- The target of the rule with this test; a new state where there is none. -/
def addRule (g : Graph H) (source : StateId) (test : Constraint) : StateId × Graph H :=
  match Transition.targetOf? (g.state source).rules test with
  | some target => (target, g)
  | none =>
    let (target, grown) := g.addState
    (target, grown.update source fun s => { s with rules := s.rules ++ [⟨test, target⟩] })

/-- A rule whose target is entered again by a match inside a match: among the children of the
target, and below its fallback. -/
def addMatch (g : Graph H) (source : StateId) (test : Constraint) : StateId × Graph H :=
  let (target, ruled) := g.addRule source test
  if (ruled.state target).reentry.contains test then (target, ruled)
  else
    let looped := (ruled.link target test target).2
    let returning := match (looped.state target).fallback with
      | some fallback => (looped.link fallback test target).2
      | none => looped
    (target, returning.update target fun s => { s with reentry := s.reentry ++ [test] })

/-- The fallback of a state, created on first use. Tests that must lead back to the state lead back
from there. -/
def fallbackOf (g : Graph H) (source : StateId) : StateId × Graph H :=
  match (g.state source).fallback with
  | some target => (target, g)
  | none =>
    let (target, grown) := g.addState
    let declared := grown.update source fun s => { s with fallback := some target }
    (target, (declared.state source).reentry.foldl
      (fun h test => (h.link target test source).2) declared)

def attach (g : Graph H) (s : StateId) (handler : H) : Graph H :=
  g.update s fun state => { state with handlers := state.handlers ++ [handler] }

def setLimit (g : Graph H) (s : StateId) (limit : Nat) : Graph H :=
  g.update s fun state => { state with limit := some limit }

/-! ### Following edges -/

/-- The state an element enters: by a transition of the current state, else by the rules in scope,
nearest source first, else the sink. -/
def resolve (g : Graph H) (fs : Filters) (current : StateId) (scope : List StateId)
    (e : StartElement) : StateId :=
  match (g.state current).follow fs e with
  | some next => next
  | none => (scope.findSome? fun source => (g.state source).followRules fs e).getD .sink

/-- The filters asked while the rules in scope are tried. -/
def consultedInScope (g : Graph H) (fs : Filters) (e : StartElement) :
    List StateId → List Consultation
  | [] => []
  | source :: scope =>
    Transition.consulted fs e (g.state source).rules ++
      if ((g.state source).followRules fs e).isSome then [] else consultedInScope g fs e scope

/-- The filters asked to resolve an element, in order. -/
def consulted (g : Graph H) (fs : Filters) (current : StateId) (scope : List StateId)
    (e : StartElement) : List Consultation :=
  Transition.consulted fs e (g.state current).transitions ++
    if ((g.state current).follow fs e).isSome then [] else consultedInScope g fs e scope

def describe (g : Graph H) : String :=
  let entry := fun (p : State H × Nat) => (StateId.mk p.2).describe ++ ": " ++ p.1.describe
  "\x7b" ++ ", ".intercalate (g.states.toList.zipIdx.map entry) ++ "\x7d"

end Graph
end StreamSelect
