import StreamSelect.Markup.Tokenizer.Token
import StreamSelect.Markup.Tokenizer.Reference
import StreamSelect.Markup.Tokenizer.Namespace

/-! The tokenizer that a source of events works with. It cuts the text into tokens, leaves out blanks
in front of them if text is trimmed, and keeps the open tags and the namespaces in scope. -/
namespace StreamSelect.Markup

inductive SyntaxFault where
  | lexical (fault : LexicalFault)
  | mismatchedEnd (expected found : List Char)
  | unmatchedEnd (found : List Char)
  | attribute (fault : AttributeFault)
  | reference (fault : ReferenceFault)
  | binding (fault : BindingFault)
  deriving Repr, DecidableEq, Inhabited

def SyntaxFault.message : SyntaxFault → String
  | .lexical fault => fault.message
  | .mismatchedEnd expected found =>
    "ill-formed document: expected `</" ++ String.ofList expected ++ ">`, but `</" ++
      String.ofList found ++ ">` was found"
  | .unmatchedEnd found =>
    "ill-formed document: close tag `</" ++ String.ofList found ++
      ">` does not match any open tag"
  | .attribute fault => "error while parsing attribute: " ++ fault.message
  | .reference fault => fault.message
  | .binding fault => fault.message

structure Tokenizer where
  /-- The text not read yet, and the number of bytes read. -/
  rest : List Char
  position : Nat
  trimText : Bool
  /-- Names of the open tags as written, with the scope around each, innermost first. -/
  openTags : List (List Char × Scope)
  scope : Scope
  deriving Inhabited

def byteOrderMark : Char := '\ufeff'

namespace Tokenizer

/-- A byte order mark in front is left out and not counted. -/
def ofText (text : String) (trimText : Bool) : Tokenizer where
  rest := if text.toList.head? = some byteOrderMark then text.toList.tail else text.toList
  position := 0
  trimText
  openTags := []
  scope := .reserved

theorem rest_ofText {text : String} (h : text.toList.head? ≠ some byteOrderMark) (trimText : Bool) :
    (ofText text trimText).rest = text.toList := if_neg h

theorem rest_ofText_of_mark {text : String} {tail : List Char}
    (h : text.toList = byteOrderMark :: tail) (trimText : Bool) :
    (ofText text trimText).rest = tail := by
  simp [ofText, h]

@[simp] theorem position_ofText (text : String) (trimText : Bool) :
    (ofText text trimText).position = 0 := rfl

@[simp] theorem trimText_ofText (text : String) (trimText : Bool) :
    (ofText text trimText).trimText = trimText := rfl

/-- Leaves out blanks in front of the next token if text is trimmed. -/
def trimFront (t : Tokenizer) : Tokenizer :=
  if t.trimText then
    { t with
      rest := t.rest.dropWhile isBlank
      position := t.position + (t.rest.takeWhile isBlank).length }
  else t

theorem rest_trimFront (t : Tokenizer) :
    t.trimFront.rest = if t.trimText then t.rest.dropWhile isBlank else t.rest := by
  unfold trimFront
  split <;> rfl

theorem position_trimFront (t : Tokenizer) :
    t.trimFront.position =
      t.position + (if t.trimText then t.rest.takeWhile isBlank else []).length := by
  unfold trimFront
  split <;> rfl

@[simp] theorem trimText_trimFront (t : Tokenizer) : t.trimFront.trimText = t.trimText := by
  unfold trimFront
  split <;> rfl

theorem length_trimFront_le (t : Tokenizer) : t.trimFront.rest.length ≤ t.rest.length := by
  rw [rest_trimFront]
  split
  · exact (List.dropWhile_sublist isBlank).length_le
  · exact Nat.le_refl _

end Tokenizer
end StreamSelect.Markup
