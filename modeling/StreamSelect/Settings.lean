/-! Limits of a build and of a run, and how text is read. -/
namespace StreamSelect

structure BuildSettings where
  /-- How many handlers may declare selectors of their own before the build is given up. -/
  maxHandlerBuilds : Nat := 10000
  deriving Repr, DecidableEq, Inhabited

structure RunSettings where
  /-- How many elements may be open at once. -/
  maxDepth : Option Nat := none
  deriving Repr, DecidableEq, Inhabited

structure ParserSettings where
  run : RunSettings := {}
  /-- Cut blanks around text and drop text of blanks only. -/
  trimText : Bool := false
  deriving Repr, DecidableEq, Inhabited

def BuildSettings.describe (s : BuildSettings) : String :=
  "ModelConfig \x7b max_handler_builds: " ++ toString s.maxHandlerBuilds ++ " \x7d"

def RunSettings.describe (s : RunSettings) : String :=
  let depth := match s.maxDepth with
    | some n => "Some(" ++ toString n ++ ")"
    | none => "None"
  "RunConfig \x7b max_depth: " ++ depth ++ " \x7d"

def ParserSettings.describe (s : ParserSettings) : String :=
  "ParserConfig \x7b run: " ++ s.run.describe ++ ", trim_text: " ++ toString s.trimText ++ " \x7d"

def ParserSettings.withMaxDepth (s : ParserSettings) (depth : Nat) : ParserSettings :=
  { s with run := { s.run with maxDepth := some depth } }

end StreamSelect
