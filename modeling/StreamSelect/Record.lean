/-! Records that building and running leave behind for an observer. -/
namespace StreamSelect

inductive Level where
  | trace
  | debug
  | warn
  deriving Repr, DecidableEq, Inhabited

def Level.label : Level → String
  | .trace => "TRACE"
  | .debug => "DEBUG"
  | .warn => "WARN"

structure Record where
  level : Level
  message : String
  fields : List (String × String)
  deriving Repr, DecidableEq, Inhabited

end StreamSelect
