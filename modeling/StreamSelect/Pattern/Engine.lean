import StreamSelect.Pattern.Reader
import StreamSelect.Pattern.Meaning
import StreamSelect.Pattern.Search
import StreamSelect.Pattern.Size

/-! The engine of regular expressions that patterns work with. It reads a text, finds out whether the
automata of the expression have room (`Regex.isOversized`), and whether a value has an occurrence of
it (`Regex.occursIn`). -/
namespace StreamSelect.Pattern

/-- The regular expression that a text stands for. -/
def Regex.parse? (text : String) : Option Regex := do
  let tree ← Tree.read? text
  let (r, _) ← tree.meaning {}
  some r

end StreamSelect.Pattern
