import StreamSelect.Builder.Perform
import StreamSelect.Model
import StreamSelect.Settings

/-! Construction of a model. Every handler attached to a state declares its selectors below that
state, in the order of attachment; those may attach further handlers. A handler declares once for
each state it is attached to, however often it is attached there. -/
namespace StreamSelect

/-- What one handler declared: where, and with what outcomes. -/
structure Report (B : Type) where
  attachment : Attachment B
  outcomes : List Outcome

/-- A construction under way. The attachments of the workspace are the work to do. -/
structure Construction (B : Type) where
  workspace : Workspace B
  /-- How many attachments have been looked at. -/
  position : Nat := 0
  /-- The attachments whose handlers have declared, the latest first. -/
  built : List (Attachment B) := []
  reports : List (Report B) := []
  failure : Option Error := none

namespace Construction

variable {B : Type}

/-- Lets the handler of an attachment declare below its state. -/
def build (declared : B → Nat → List (Declaration B)) (c : Construction B) (a : Attachment B) :
    Construction B :=
  let scope := Builder.nested c.workspace a.state
  let ((outcomes, failure), scope) := scope.performAll (declared a.handler.behaviour c.built.length)
  { workspace := scope.workspace
    position := c.position + 1
    built := a :: c.built
    reports := ⟨a, outcomes⟩ :: c.reports
    failure }

theorem built_build (declared : B → Nat → List (Declaration B)) (c : Construction B)
    (a : Attachment B) : (c.build declared a).built = a :: c.built := rfl

/-- Works through the attachments until none is left, a handler fails, or the budget is spent. -/
def run [DecidableEq B] (declared : B → Nat → List (Declaration B)) (budget : Nat)
    (c : Construction B) : Construction B :=
  match _h : c.workspace.attachments[c.position]? with
  | none => c
  | some a =>
    if a ∈ c.built then run declared budget { c with position := c.position + 1 }
    else if _h : c.built.length < budget then
      let next := c.build declared a
      if next.failure.isSome then next else run declared budget next
    else { c with failure := some (.configuration (.buildBudget budget)) }
termination_by (budget - c.built.length, c.workspace.attachments.size - c.position)
decreasing_by
  · have hs : c.position < c.workspace.attachments.size :=
      (Array.getElem?_eq_some_iff.1 ‹_›).1
    apply Prod.Lex.right
    omega
  · apply Prod.Lex.left
    simp only [built_build, List.length_cons]
    omega

/-- The model of a construction that has come to its end. -/
def model (c : Construction B) : Except Error (Model B) :=
  match c.failure with
  | some e => .error e
  | none => .ok ⟨c.workspace.graph, .root, c.workspace.observers.toList⟩

def summary (c : Construction B) : Record where
  level := .debug
  message := "model built"
  fields := [("states", toString c.workspace.graph.size),
    ("handler_builds", toString c.built.length),
    ("declaration_handlers", toString c.workspace.observers.size)]

/-- The records of a construction beside those of its declarations. -/
def records (c : Construction B) : List Record := if c.failure.isSome then [] else [c.summary]

end Construction

/-- Finishes a model: the handlers attached so far declare, and the handlers these attach. -/
def Builder.construct {B : Type} [DecidableEq B] (b : Builder B)
    (declared : B → Nat → List (Declaration B)) (settings : BuildSettings) : Construction B :=
  Construction.run declared settings.maxHandlerBuilds { workspace := b.workspace }

end StreamSelect
