/-! Positions in markup text: line and column count from one, the byte offset from zero. -/
namespace StreamSelect

structure Location where
  line : Nat
  column : Nat
  offset : Nat
  deriving Repr, DecidableEq, Inhabited

namespace Location

def display (l : Location) : String := toString l.line ++ ":" ++ toString l.column

/-- The field-by-field form. -/
def detailed (l : Location) : String :=
  "Location \x7b line: " ++ toString l.line ++ ", column: " ++ toString l.column ++
    ", offset: " ++ toString l.offset ++ " \x7d"

/-- The locations of a list, each once. -/
def distinct (locations : List Location) : List Location := locations.eraseDups

end Location
end StreamSelect
