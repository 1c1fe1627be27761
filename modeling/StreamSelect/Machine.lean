import StreamSelect.EventSource
import StreamSelect.Model
import StreamSelect.Run
import StreamSelect.Settings

/-! Machines take a run from event to event. An element enters the state its parent's state and the
rules in scope give it; then the handlers of that state are told. After an error a run takes no
further event. -/
namespace StreamSelect

/-- A model set up to run: what its handlers do, what its filters accept, and its limits. -/
structure Machine (B D : Type) where
  model : Model B
  behaviours : Behaviours B D
  filters : Filters
  settings : RunSettings := {}

namespace Machine

variable {B D : Type}

def state (m : Machine B D) (s : StateId) : State (HandlerRef B) := m.model.state s

/-- The state of the innermost open element, or the root. -/
def current (m : Machine B D) (r : Run) : StateId := (r.frames.head?.map (·.state)).getD m.model.root

/-- The states whose rules hold outside all elements. -/
def rootScope (m : Machine B D) : List StateId :=
  if (m.state m.model.root).declaresRules then [m.model.root] else []

/-- The states whose rules hold at the current place, nearest first. -/
def scope (m : Machine B D) (r : Run) : List StateId :=
  (r.frames.head?.map (·.scope)).getD m.rootScope

/-- The rules in scope inside an element that enters a state. A state entered again below itself
is not repeated. -/
def scopeInside (m : Machine B D) (r : Run) (s : StateId) : List StateId :=
  if (m.state s).declaresRules && (m.scope r).head? != some s then s :: m.scope r else m.scope r

/-- The state that an element enters. -/
def target (m : Machine B D) (r : Run) (e : StartElement) : StateId :=
  m.model.graph.resolve m.filters (m.current r) (m.scope r) e

/-- Why no element may open now. -/
def refusal? (m : Machine B D) (r : Run) (e : StartElement) : Option Cause :=
  if r.done then some (.protocol (.afterDocument e.name))
  else match m.settings.maxDepth with
    | some limit => if limit ≤ r.depth then some (.depth limit) else none
    | none => none

/-- The frame of an element that opens. -/
def frame (m : Machine B D) (r : Run) (e : StartElement) : Frame :=
  ⟨m.target r e, m.scopeInside r (m.target r e), e⟩

/-- Counts an entry into a state. -/
def count (m : Machine B D) (r : Run) (s : StateId) (e : StartElement) : Except Cause Run :=
  match (m.state s).limit with
  | none => .ok r
  | some limit =>
    match r.remainingIn s limit with
    | 0 => .error (.cardinality e.name limit)
    | n + 1 => .ok (r.setRemaining s n)

/-- Opens an element, before any handler is told. -/
def enter (m : Machine B D) (r : Run) (e : StartElement) : Except Cause Run :=
  match m.refusal? r e with
  | some cause => .error cause
  | none =>
    match m.count r (m.target r e) e with
    | .error cause => .error cause
    | .ok counted => .ok { counted with frames := m.frame r e :: r.frames }

/-- The handlers attached to a state, in order. -/
def handlers (m : Machine B D) (s : StateId) : List (ElementHandler B D) :=
  (m.state s).handlers.map fun h => m.behaviours.element h.behaviour

def observers (m : Machine B D) : List (Observer D) := m.model.observers.map m.behaviours.observer

/-- The filters asked before an element opens. -/
def consulted (m : Machine B D) (r : Run) (e : StartElement) : List Note :=
  if (m.refusal? r e).isSome then []
  else (m.model.graph.consulted m.filters (m.current r) (m.scope r) e).map .consulted

def start (m : Machine B D) (r : Run) (e : StartElement) (d : D) : Reply D :=
  match m.enter r e with
  | .error cause => r.fail d cause (m.consulted r e)
  | .ok entered =>
    entered.settle entered
      (Reaction.sequence ((m.handlers (m.target r e)).map fun h => h.onStart e) d)
      (m.consulted r e ++ [.entered e.name (m.current r) (m.target r e) entered.depth])

/-- Closes the innermost element. Its name is not compared. The document is done once the handlers
of its outermost element are. -/
def finish (m : Machine B D) (r : Run) (e : EndElement) (d : D) : Reply D :=
  match r.frames with
  | [] => r.fail d (.protocol (.nothingOpen e.name)) []
  | frame :: frames =>
    let left := { r with frames }
    Run.settle { left with done := r.done || frames.isEmpty } left
      (Reaction.sequence ((m.handlers frame.state).map fun h => h.onEnd e) d)
      [.left e.name frame.state left.depth]

/-- Text is told to the handlers of the element directly around it. -/
def text (m : Machine B D) (r : Run) (c : Characters) (d : D) : Reply D :=
  match r.frames with
  | [] => ⟨r, d, none, []⟩
  | frame :: _ =>
    r.settle r
      (Reaction.sequence ((m.handlers frame.state).map fun h => h.onText frame.element c) d) []

def declare (m : Machine B D) (r : Run) (x : DocumentDeclaration) (d : D) : Reply D :=
  r.settle r (Reaction.sequence (m.observers.map fun o => o.onDeclaration x) d) []

/-- Takes one event. -/
def step (m : Machine B D) (r : Run) (event : Event) (d : D) : Reply D :=
  let located := r.locate event.location
  if r.poisoned then located.fail d (.protocol .afterError) []
  else match event with
    | .startElement e => m.start located e d
    | .endElement e => m.finish located e d
    | .characters c => m.text located c d
    | .declaration x => m.declare located x d

/-- Takes what a source still holds, up to the first error. -/
def drain {σ : Type} (m : Machine B D) (src : EventSource σ) (s : σ) (r : Run) (d : D) : Reply D :=
  match _h : src.poll s with
  | (none, _) => ⟨r, d, none, [.finished r.done r.depth]⟩
  | (some (.error failure), _) =>
    ⟨{ r with poisoned := true }, d, some { cause := .source failure }, []⟩
  | (some (.ok event), rest) =>
    let reply := m.step r event d
    if reply.error.isSome then reply
    else
      let final := drain m src rest reply.run reply.data
      { final with notes := reply.notes ++ final.notes }
termination_by src.size s
decreasing_by exact src.size_lt _ _ _ ‹_›

/-- Takes all events of a source. -/
def consume {σ : Type} (m : Machine B D) (src : EventSource σ) (s : σ) (r : Run) (d : D) : Reply D :=
  let reply := m.drain src s r d
  { reply with notes := .started m.model.root :: reply.notes }

def describeLocation : Option Location → String
  | some l => "Some(" ++ l.detailed ++ ")"
  | none => "None"

def describe (m : Machine B D) (r : Run) : String :=
  "Executor \x7b depth: " ++ toString r.depth ++ ", current_state: " ++ (m.current r).describe ++
    ", done: " ++ toString r.done ++ ", poisoned: " ++ toString r.poisoned ++
    ", location: " ++ describeLocation r.location ++ ", .. \x7d"

end Machine
end StreamSelect
