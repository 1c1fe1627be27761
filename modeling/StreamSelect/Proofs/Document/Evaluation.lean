import StreamSelect.Proofs.Run.Ancestry
import StreamSelect.Proofs.Run.Calls

/-! Documents as trees, and their evaluation by recursion on the tree. The evaluation keeps no stack
and no scopes: it chooses the state of an element from the full list of its ancestors' states, by the
transitions of the innermost first, then by the rules and the fallback of each one outwards, and
counts the elements that entered a limited state. Playing the events of a document gives its data,
its calls and its error. -/
namespace StreamSelect

/-- What may stand beside elements. -/
inductive Aside where
  | text (c : Characters)
  | declaration (x : DocumentDeclaration)

/-- What may stand in an element. The name of a closing event is free. -/
inductive Content where
  | aside (a : Aside)
  | element (e : StartElement) (inside : List Content) (close : EndElement)

structure Document where
  prolog : List Aside
  root : StartElement
  inside : List Content
  close : EndElement
  epilog : List Aside

def Aside.event : Aside → Event
  | .text c => .characters c
  | .declaration x => .declaration x

namespace Content

mutual
def events : Content → List Event
  | .aside a => [a.event]
  | .element e inside close => .startElement e :: (eventsAll inside ++ [.endElement close])

def eventsAll : List Content → List Event
  | [] => []
  | c :: cs => events c ++ eventsAll cs
end

def isElement : Content → Bool
  | .aside _ => false
  | .element _ _ _ => true

theorem eventsAll_append (cs ds : List Content) :
    eventsAll (cs ++ ds) = eventsAll cs ++ eventsAll ds := by
  induction cs with
  | nil => rfl
  | cons c cs ih => simp only [List.cons_append, eventsAll, ih, List.append_assoc]

end Content

namespace Document

def contents (doc : Document) : List Content :=
  doc.prolog.map .aside ++ .element doc.root doc.inside doc.close :: doc.epilog.map .aside

def events (doc : Document) : List Event := Content.eventsAll doc.contents

end Document

/-- How far an evaluation has come. -/
structure Progress (B D : Type) where
  data : D
  calls : List (Call B D) := []
  /-- The states entered so far, once for each element. -/
  entered : List StateId := []
  /-- The last location seen. -/
  location : Option Location := none
  error : Option Error := none

namespace Progress

variable {B D : Type}

def log (p : Progress B D) : CallLog B D := (p.data, p.calls)

def locate (p : Progress B D) (location : Option Location) : Progress B D :=
  { p with location := location.or p.location }

def fail (p : Progress B D) (cause : Cause) : Progress B D :=
  { p with error := some ⟨cause, p.location⟩ }

/-- Goes on unless an error was met. -/
def unlessFailed (p : Progress B D) (next : Progress B D → Progress B D) : Progress B D :=
  if p.error.isSome then p else next p

/-- Calls handlers one after another, up to the first that fails. -/
def tell (bs : Behaviours B D) (o : Occasion) : List B → Progress B D → Progress B D
  | [], p => p
  | b :: audience, p =>
    let reaction := bs.react b o p.data
    let told := { p with data := reaction.data, calls := p.calls ++ [⟨b, o, p.data⟩] }
    match reaction.failure with
    | none => tell bs o audience told
    | some message => told.fail (.handler message)

end Progress

namespace Machine

variable {B D : Type}

/-- Why an element may not enter a state: it was entered as often as its limit allows. -/
def spent? (m : Machine B D) (p : Progress B D) (s : StateId) (e : StartElement) : Option Cause :=
  match (m.state s).limit with
  | some limit => if limit ≤ p.entered.count s then some (.cardinality e.name limit) else none
  | none => none

/-- Why an element may not open below its ancestors: it lies too deep, or its state is spent. -/
def obstacle? (m : Machine B D) (above : List Ancestor) (p : Progress B D) (e : StartElement) :
    Option Cause :=
  match m.settings.maxDepth with
  | some limit =>
    if limit ≤ above.length then some (.depth limit) else m.spent? p (m.entry above e) e
  | none => m.spent? p (m.entry above e) e

/-- Opens an element below its ancestors and tells the handlers of its state. -/
def evaluateOpening (m : Machine B D) (above : List Ancestor) (e : StartElement)
    (p : Progress B D) : Progress B D :=
  let p := p.locate e.location
  match m.obstacle? above p e with
  | some cause => p.fail cause
  | none =>
    let s := m.entry above e
    { p with entered := s :: p.entered }.tell m.behaviours (.opened e) (m.audience s)

/-- Text goes to the handlers of the element around it, and nowhere outside all elements. -/
def evaluateAside (m : Machine B D) (above : List Ancestor) (p : Progress B D) :
    Aside → Progress B D
  | .text c =>
    match above with
    | [] => p.locate c.location
    | a :: _ =>
      (p.locate c.location).tell m.behaviours (.text a.element c) (m.audience a.state)
  | .declaration x =>
    (p.locate x.location).tell m.behaviours (.declared x) m.model.observers

mutual
def evaluate (m : Machine B D) (above : List Ancestor) : Content → Progress B D → Progress B D
  | .aside a, p => m.evaluateAside above p a
  | .element e inside close, p =>
    let s := m.entry above e
    (m.evaluateOpening above e p).unlessFailed fun p =>
      (evaluateAll m (⟨s, e⟩ :: above) inside p).unlessFailed fun p =>
        (p.locate close.location).tell m.behaviours (.closed close) (m.audience s)

def evaluateAll (m : Machine B D) (above : List Ancestor) :
    List Content → Progress B D → Progress B D
  | [], p => p
  | c :: cs, p => (evaluate m above c p).unlessFailed (evaluateAll m above cs)
end

/-- Evaluates a whole document from the start. -/
def evaluateDocument (m : Machine B D) (doc : Document) (d : D) : Progress B D :=
  m.evaluateAll [] doc.contents { data := d }

end Machine
end StreamSelect
