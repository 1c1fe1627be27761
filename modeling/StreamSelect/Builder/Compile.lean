import StreamSelect.Builder.Basic

/-! Compilation of selectors to states, and what is declared on states: handlers, kept points and
explicit transitions. -/
namespace StreamSelect.Builder

variable {B : Type}

/-- The selectors from a cursor up to the root. What lies above a selector was declared before it, so
one way through the declared selectors, the latest first, finds them all. -/
def lineageIn : List Selector → Option SelectorId → List (SelectorId × Selector)
  | _, none => []
  | [], some _ => []
  | s :: earlier, some id =>
    if id.index = earlier.length then (id, s) :: lineageIn earlier s.parent
    else lineageIn earlier (some id)

def lineage (b : Builder B) (cursor : Option SelectorId) : List (SelectorId × Selector) :=
  lineageIn b.selectors.toList.reverse cursor

/-- The nearest compiled state on the way up from the selectors `above`, or else the root, and the
selectors passed on that way, in front of those below. -/
def climb (root : StateId) : List (SelectorId × Selector) → List SelectorId →
    StateId × List SelectorId
  | [], below => (root, below)
  | (id, s) :: above, below =>
    match s.state with
    | some state => (state, below)
    | none => climb root above (id :: below)

/-- The nearest state above a cursor that is compiled, and the selectors from there down. -/
def uncompiled (b : Builder B) (cursor : Option SelectorId) (below : List SelectorId) :
    StateId × List SelectorId :=
  climb b.root (b.lineage cursor) below

/-- The edge that a step makes of its state: a transition to a child, a rule to a descendant that
must satisfy something, the fallback to one that need not. -/
def edge (g : Graph (HandlerRef B)) (base : StateId) (kind : SelectorKind) (test : Constraint) :
    StateId × Graph (HandlerRef B) :=
  match kind with
  | .child _ | .anyChild | .filtered _ => g.addTransition base test
  | .descendant => if test.isTrivial then g.fallbackOf base else g.addMatch base test
  | .named _ => g.addMatch base test

/-- Compiles one selector below a state. A limit declared before takes effect. -/
def compile (b : Builder B) (base : StateId) (id : SelectorId) : StateId × Builder B :=
  match b.selector? id with
  | none => (base, b)
  | some s =>
    let (state, grown) := edge b.graph base s.kind s.test
    let compiled := (b.withGraph grown).updateSelector id fun s => { s with state := some state }
    match s.limit with
    | some n => (state, compiled.limitState state n)
    | none => (state, compiled)

/-- The state of a cursor. Its ancestors are compiled first. -/
def stateOf (b : Builder B) (cursor : Option SelectorId) : StateId × Builder B :=
  let (base, path) := b.uncompiled cursor []
  path.foldl (fun reached id => reached.2.compile reached.1 id) (base, b)

/-! ### Handlers and explicit transitions -/

def attach (b : Builder B) (s : StateId) (handler : HandlerRef B) : Builder B :=
  { b with workspace := { b.workspace with
      graph := b.graph.attach s handler
      attachments := b.workspace.attachments.push ⟨s, handler⟩ } }

/-- A copy of a handler that is equal to no other. -/
def freshCopy (b : Builder B) (behaviour : B) : HandlerRef B × Builder B :=
  (⟨behaviour, some b.workspace.copies⟩,
    { b with workspace := { b.workspace with copies := b.workspace.copies + 1 } })

def observe (b : Builder B) (behaviour : B) : Builder B :=
  { b with workspace := { b.workspace with observers := b.workspace.observers.push behaviour } }

def attachPoint (b : Builder B) (s : StateId) : AttachPoint := ⟨b.workspace.model, s⟩

def mark (b : Builder B) (key : String) (point : AttachPoint) : Builder B :=
  { b with workspace := { b.workspace with landmarks := (key, point) :: b.workspace.landmarks } }

def landmark? (b : Builder B) (key : String) : Option AttachPoint := b.workspace.landmarks.lookup key

def keptTarget (source existing requested : StateId) : Record where
  level := .warn
  message := "transition already declared; keeping the existing target"
  fields := [("from", source.describe), ("existing", existing.describe),
    ("requested", requested.describe)]

/-- Leads a transition to an attach point of this model. An equal test that leads elsewhere keeps
its target and leaves a warning. -/
def link (b : Builder B) (source : StateId) (test : Constraint) (target : AttachPoint) :
    Except Error (Builder B) :=
  if target.model = b.workspace.model ∧ b.graph.contains target.state = true then
    let (reached, linked) := b.graph.link source test target.state
    if reached = target.state then .ok (b.withGraph linked)
    else .ok ((b.withGraph linked).record (keptTarget source reached target.state))
  else .error (.configuration (.foreignPoint target.state))

end StreamSelect.Builder
