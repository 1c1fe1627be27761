import StreamSelect.Automaton.Graph
import StreamSelect.Handler

/-! Builders carry out declarations. All scopes of one model work on one workspace: the states, the
handlers attached to them, and the points kept for explicit transitions. A scope has selectors of
its own, relative to its root. -/
namespace StreamSelect

structure Attachment (B : Type) where
  state : StateId
  handler : HandlerRef B
  deriving Repr, DecidableEq, Inhabited

structure Workspace (B : Type) where
  /-- Tells this model from others. -/
  model : Nat
  graph : Graph (HandlerRef B) := .initial
  /-- All attachments in the order they were made. -/
  attachments : Array (Attachment B) := #[]
  /-- Handlers of document declarations in the order they were attached. -/
  observers : Array B := #[]
  landmarks : List (String × AttachPoint) := []
  /-- How many copies of handlers were made. -/
  copies : Nat := 0
  records : Array Record := #[]
  deriving Inhabited

/-- The declarations of one scope, relative to its root. -/
structure Builder (B : Type) where
  workspace : Workspace B
  root : StateId
  selectors : Array Selector := #[]
  bookmarks : List (String × Option SelectorId) := []
  /-- How many attachments were made before this scope was opened. -/
  earlier : Nat := 0
  deriving Inhabited

namespace Builder

variable {B : Type}

/-- The scope of a whole model. -/
def ofModel (model : Nat) : Builder B := { workspace := { model }, root := .root }

/-- A scope inside a model, rooted at one of its states. -/
def nested (w : Workspace B) (root : StateId) : Builder B :=
  { workspace := w, root, earlier := w.attachments.size }

def graph (b : Builder B) : Graph (HandlerRef B) := b.workspace.graph

def withGraph (b : Builder B) (g : Graph (HandlerRef B)) : Builder B :=
  { b with workspace := { b.workspace with graph := g } }

def record (b : Builder B) (r : Record) : Builder B :=
  { b with workspace := { b.workspace with records := b.workspace.records.push r } }

def selector? (b : Builder B) (id : SelectorId) : Option Selector := b.selectors[id.index]?

def updateSelector (b : Builder B) (id : SelectorId) (f : Selector → Selector) : Builder B :=
  { b with selectors := b.selectors.modify id.index f }

/-- The selector declared so under the parent, the existing one if there is one. -/
def declare (b : Builder B) (parent : Option SelectorId) (kind : SelectorKind)
    (constraints : List Constraint) : SelectorId × Builder B :=
  match b.selectors.findIdx? (·.same parent kind constraints) with
  | some i => (⟨i⟩, b)
  | none => (⟨b.selectors.size⟩, { b with selectors := b.selectors.push { parent, kind, constraints } })

/-! ### Limits -/

def overwritten (s : StateId) (previous limit : Nat) : Record where
  level := .warn
  message := "cardinality limit overwritten"
  fields := [("state", s.describe), ("previous", toString previous), ("limit", toString limit)]

/-- Limits a state. A different limit that is replaced leaves a warning. -/
def limitState (b : Builder B) (s : StateId) (limit : Nat) : Builder B :=
  let limited := b.withGraph (b.graph.setLimit s limit)
  match (b.graph.state s).limit with
  | some previous => if previous = limit then limited else limited.record (overwritten s previous limit)
  | none => limited

/-- Limits what a cursor points at. The root of a document is entered by no element and takes no
limit; a selector that is not compiled yet keeps the limit for its state. -/
def limit (b : Builder B) (cursor : Option SelectorId) (n : Nat) : Except Error (Builder B) :=
  if n = 0 then .error (.configuration .zeroLimit)
  else match cursor with
    | none =>
      if b.root = .root then .error (.configuration .rootLimit) else .ok (b.limitState b.root n)
    | some id =>
      let pending := b.updateSelector id fun s => { s with limit := some n }
      match (b.selector? id).bind (·.state) with
      | some state => .ok (pending.limitState state n)
      | none => .ok pending

/-! ### Views -/

def describeCursor : Option SelectorId → String
  | some id => "Selector \x7b id: Some(" ++ id.describe ++ ") \x7d"
  | none => "Selector \x7b id: None \x7d"

def describe (b : Builder B) : String :=
  "ModelBuilder \x7b root: " ++ b.root.describe ++ ", selectors: " ++ toString b.selectors.size ++
    ", states: " ++ toString b.graph.size ++
    ", attachments: " ++ toString (b.workspace.attachments.size - b.earlier) ++ ", .. \x7d"

end Builder
end StreamSelect
