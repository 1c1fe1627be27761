import StreamSelect.Name
import StreamSelect.Location
import StreamSelect.Automaton.StateId
import StreamSelect.Text.Quoted

/-! What can go wrong while a model is built or run. An error is a cause, with the place in the
stream where it arose if that is known. -/
namespace StreamSelect

/-- A declaration that cannot be accepted. -/
inductive Misconfiguration where
  | zeroLimit
  | rootLimit
  | foreignPoint (state : StateId)
  | buildBudget (limit : Nat)
  | invalidPattern (source : String)
  | unknownPoint (key : String)
  | other (message : String)
  deriving Repr, DecidableEq, Inhabited

def Misconfiguration.message : Misconfiguration → String
  | .zeroLimit => "only() requires a limit of at least 1"
  | .rootLimit => "only() cannot limit the document root; select an element first"
  | .foreignPoint state => "attach point " ++ state.describe ++ " belongs to a different model"
  | .buildBudget limit => "handler build limit of " ++ toString limit ++ " exceeded"
  | .invalidPattern source => "invalid pattern " ++ Text.quoted source
  | .unknownPoint key => "no attach point is marked " ++ key
  | .other message => message

/-- An event that a run cannot take in its present state. -/
inductive Misuse where
  | afterError
  | afterDocument (element : Name)
  | nothingOpen (element : Name)
  | noMoreEvents
  | other (message : String)
  deriving Repr, DecidableEq, Inhabited

def Misuse.message : Misuse → String
  | .afterError => "executor used after an error"
  | .afterDocument element => "element " ++ element.display ++ " after the document element closed"
  | .nothingOpen element => "end of " ++ element.display ++ " with no open element"
  | .noMoreEvents => "no more events to process"
  | .other message => message

inductive Cause where
  | configuration (problem : Misconfiguration)
  | cardinality (element : Name) (limit : Nat)
  | handler (message : String)
  | source (message : String)
  | protocol (misuse : Misuse)
  | depth (limit : Nat)
  deriving Repr, DecidableEq, Inhabited

namespace Cause

def message : Cause → String
  | .configuration problem => "invalid configuration: " ++ problem.message
  | .cardinality element limit =>
    "element " ++ element.display ++ " exceeded its limit of " ++ toString limit ++ " occurrence(s)"
  | .handler message => message
  | .source message => "event source error: " ++ message
  | .protocol misuse => "protocol error: " ++ misuse.message
  | .depth limit => "nesting depth limit (" ++ toString limit ++ ") exceeded"

/-- The failure of another party that lies behind the cause. -/
def inner? : Cause → Option String
  | .handler message => some message
  | .source message => some message
  | _ => none

def isConfiguration : Cause → Bool
  | .configuration _ => true
  | _ => false

def isCardinality : Cause → Bool
  | .cardinality _ _ => true
  | _ => false

end Cause

structure Error where
  cause : Cause
  location : Option Location := none
  deriving Repr, DecidableEq, Inhabited

namespace Error

/-- Adds a location; one that is already known stays. -/
def locatedAt (e : Error) (location : Option Location) : Error :=
  { e with location := e.location.or location }

def message (e : Error) : String :=
  match e.location with
  | some l => e.cause.message ++ " at " ++ l.display
  | none => e.cause.message

def configuration (problem : Misconfiguration) : Error := { cause := .configuration problem }
def protocol (misuse : Misuse) : Error := { cause := .protocol misuse }

end Error
end StreamSelect
