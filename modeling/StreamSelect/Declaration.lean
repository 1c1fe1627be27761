import StreamSelect.Error
import StreamSelect.Record
import StreamSelect.Selector

/-! Declarations as data. A declaration is carried out by a builder; what it answers, and the error
that ends it, are its outcome. Behaviours of handlers are named by values of a type `B`. -/
namespace StreamSelect

/-- A state that an explicit transition may lead to, and the model it belongs to. -/
structure AttachPoint where
  model : Nat
  state : StateId
  deriving Repr, DecidableEq, Inhabited

/-- One step of a path. -/
inductive Step where
  | select (kind : SelectorKind) (constraints : List Constraint)
  | only (limit : Nat)
  deriving Inhabited

inductive SelectorView where
  | id
  | cursor
  deriving Repr, DecidableEq, Inhabited

inductive Action (B : Type) where
  /-- Compiles the selector and answers its state. -/
  | compile
  | inspect (view : SelectorView)
  | only (limit : Nat)
  /-- Attaches a copy of the handler made for this attachment. -/
  | attach (behaviour : B)
  /-- Attaches the copy that all who share the handler attach. -/
  | share (behaviour : B)
  /-- Keeps the attach point of the selector for all scopes. -/
  | mark (key : String)
  /-- Leads children that pass the test to a kept attach point. -/
  | link (test : Constraint) (key : String)
  /-- Keeps the selector for later declarations of this scope. -/
  | bookmark (key : String)
  /-- Stands for a step or an action whose constraint is in error. -/
  | reject (error : Error)
  deriving Inhabited

inductive BuilderView where
  | root
  | summary
  | constraint (c : Constraint)
  deriving Inhabited

inductive Statement (B : Type) where
  /-- Follows a path from a bookmark, or from the root, and acts on the selector at its end. -/
  | select (origin : Option String) (path : List Step) (actions : List (Action B))
  /-- Attaches a handler of document declarations. -/
  | observe (behaviour : B)
  /-- Keeps a point made elsewhere. -/
  | landmark (key : String) (point : AttachPoint)
  | inspect (view : BuilderView)
  deriving Inhabited

structure Declaration (B : Type) where
  statement : Statement B
  /-- An error does not stop the declarations that follow in the same handler. -/
  optional : Bool := false
  deriving Inhabited

inductive Answer where
  | done
  | state (s : StateId)
  | text (t : String)
  | nothing
  deriving Repr, DecidableEq, Inhabited

/-- The answers of the actions carried out, the error that ended them, and the records left. -/
structure Outcome where
  answers : List Answer := []
  error : Option Error := none
  records : List Record := []
  deriving Repr, DecidableEq, Inhabited

end StreamSelect
