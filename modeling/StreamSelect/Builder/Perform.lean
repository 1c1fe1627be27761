import StreamSelect.Builder.Compile

/-! Carrying out declarations. An error ends the declaration it arises in; what was done before it
stays. -/
namespace StreamSelect.Builder

variable {B : Type}

/-- Where a path begins: at the bookmark it names, or at the root of the scope. -/
def start (b : Builder B) : Option String → Option SelectorId
  | none => none
  | some key =>
    match b.bookmarks.lookup key with
    | some cursor => cursor
    | none => none

/-- Declares the steps of a path below a cursor. -/
def walk (b : Builder B) (cursor : Option SelectorId) :
    List Step → Except Error (Option SelectorId) × Builder B
  | [] => (.ok cursor, b)
  | .select kind constraints :: steps =>
    let (id, declared) := b.declare cursor kind constraints
    declared.walk (some id) steps
  | .only n :: steps =>
    match b.limit cursor n with
    | .ok limited => limited.walk cursor steps
    | .error e => (.error e, b)

def act (b : Builder B) (cursor : Option SelectorId) : Action B → Except Error Answer × Builder B
  | .compile =>
    let (state, b) := b.stateOf cursor
    (.ok (.state state), b)
  | .inspect .id => (.ok ((cursor.map fun id => .text id.describe).getD .nothing), b)
  | .inspect .cursor => (.ok (.text (describeCursor cursor)), b)
  | .only n =>
    match b.limit cursor n with
    | .ok limited => (.ok .done, limited)
    | .error e => (.error e, b)
  | .attach behaviour =>
    let (handler, b) := b.freshCopy behaviour
    let (state, b) := b.stateOf cursor
    (.ok .done, b.attach state handler)
  | .share behaviour =>
    let (state, b) := b.stateOf cursor
    (.ok .done, b.attach state ⟨behaviour, none⟩)
  | .mark key =>
    let (state, b) := b.stateOf cursor
    (.ok (.state state), b.mark key (b.attachPoint state))
  | .link test key =>
    match b.landmark? key with
    | none => (.error (.configuration (.unknownPoint key)), b)
    | some target =>
      let (state, b) := b.stateOf cursor
      match b.link state test target with
      | .ok linked => (.ok .done, linked)
      | .error e => (.error e, b)
  | .bookmark key => (.ok .done, { b with bookmarks := (key, cursor) :: b.bookmarks })
  | .reject e => (.error e, b)

/-- Actions in order, up to the first error. -/
def actAll (b : Builder B) (cursor : Option SelectorId) :
    List (Action B) → (List Answer × Option Error) × Builder B
  | [] => (([], none), b)
  | action :: actions =>
    match b.act cursor action with
    | (.error e, b) => (([], some e), b)
    | (.ok answer, b) =>
      let ((answers, error), b) := b.actAll cursor actions
      ((answer :: answers, error), b)

def view (b : Builder B) : BuilderView → Answer
  | .root => .state b.root
  | .summary => .text b.describe
  | .constraint c => .text c.describe

def carryOut (b : Builder B) : Statement B → (List Answer × Option Error) × Builder B
  | .select origin path actions =>
    match b.walk (b.start origin) path with
    | (.error e, b) => (([], some e), b)
    | (.ok cursor, b) => b.actAll cursor actions
  | .observe behaviour => (([], none), b.observe behaviour)
  | .landmark key point => (([.state point.state], none), b.mark key point)
  | .inspect v => (([b.view v], none), b)

/-- Carries out one declaration. An error ends it; what it did before stays. -/
def perform (b : Builder B) (d : Declaration B) : Outcome × Builder B :=
  let before := b.workspace.records.size
  let ((answers, error), b) := b.carryOut d.statement
  (⟨answers, error, (b.workspace.records.extract before).toList⟩, b)

/-- Carries out declarations, each whatever became of the one before. -/
def performEach (b : Builder B) : List (Declaration B) → List Outcome × Builder B
  | [] => ([], b)
  | d :: ds =>
    let (outcome, b) := b.perform d
    let (outcomes, b) := b.performEach ds
    (outcome :: outcomes, b)

/-- Carries out declarations up to the first that fails and is not optional. -/
def performAll (b : Builder B) : List (Declaration B) → (List Outcome × Option Error) × Builder B
  | [] => (([], none), b)
  | d :: ds =>
    match b.perform d with
    | (outcome, b) =>
      if outcome.error.isSome && !d.optional then (([outcome], outcome.error), b)
      else
        let ((outcomes, error), b) := b.performAll ds
        ((outcome :: outcomes, error), b)

end StreamSelect.Builder
