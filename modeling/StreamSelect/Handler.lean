import StreamSelect.Declaration
import StreamSelect.Event

/-! Handlers. Their callbacks work on the data of a run, of a type `D`, and may fail; a handler of
elements may also declare selectors below the state it is attached to. -/
namespace StreamSelect

/-- What a callback leaves of the data, and why it failed if it did. -/
structure Reaction (D : Type) where
  data : D
  failure : Option String := none
  deriving Repr, DecidableEq, Inhabited

/-- Callbacks one after another, up to the first that fails. -/
def Reaction.sequence {D : Type} : List (D → Reaction D) → D → Reaction D
  | [], d => { data := d }
  | call :: calls, d =>
    match call d with
    | ⟨d, none⟩ => sequence calls d
    | ⟨d, some failure⟩ => ⟨d, some failure⟩

/-- An attached handler. Copies made for one attachment are told apart; a shared handler is one. -/
structure HandlerRef (B : Type) where
  behaviour : B
  copy : Option Nat
  deriving Repr, DecidableEq, Inhabited

structure ElementHandler (B D : Type) where
  onStart : StartElement → D → Reaction D := fun _ d => { data := d }
  onEnd : EndElement → D → Reaction D := fun _ d => { data := d }
  /-- Text directly inside an element. -/
  onText : StartElement → Characters → D → Reaction D := fun _ _ d => { data := d }
  /-- What the handler declares, told how many handlers have declared before it. -/
  declared : Nat → List (Declaration B) := fun _ => []

/-- A handler of document declarations. -/
structure Observer (D : Type) where
  onDeclaration : DocumentDeclaration → D → Reaction D := fun _ d => { data := d }

/-- What the handlers named by values of `B` do. -/
structure Behaviours (B D : Type) where
  element : B → ElementHandler B D
  observer : B → Observer D

theorem Reaction.sequence_append {D : Type} (xs ys : List (D → Reaction D)) (d : D) :
    sequence (xs ++ ys) d =
      match sequence xs d with
      | ⟨d, none⟩ => sequence ys d
      | ⟨d, some failure⟩ => ⟨d, some failure⟩ := by
  induction xs generalizing d with
  | nil => rfl
  | cons call xs ih =>
    simp only [List.cons_append, sequence]
    obtain ⟨d', failure⟩ := call d
    cases failure with
    | none => exact ih d'
    | some m => rfl

end StreamSelect
