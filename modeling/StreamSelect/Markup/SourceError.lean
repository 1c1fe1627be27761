import StreamSelect.Location
import StreamSelect.Text.Quoted
import StreamSelect.Markup.Tokenizer

/-! Why markup text cannot be read on, and where. -/
namespace StreamSelect.Markup

inductive SourceError where
  | malformed (fault : SyntaxFault) (location : Location)
  | unknownLabel (label : List Char) (location : Location)
  deriving Repr, DecidableEq, Inhabited

namespace SourceError

def location : SourceError → Location
  | malformed _ l => l
  | unknownLabel _ l => l

def message : SourceError → String
  | malformed fault l => "malformed markup at " ++ l.display ++ ": " ++ fault.message
  | unknownLabel label l =>
    "undeclared namespace prefix " ++ Text.quoted (String.ofList label) ++ " at " ++ l.display

end SourceError
end StreamSelect.Markup
