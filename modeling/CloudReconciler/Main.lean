import CloudReconciler.Command

/-! # Main — the program -/

open CloudReconciler

/-- The variables that stand in for parameters, as far as they are set. -/
def readEnvironment : IO (List (String × String)) :=
  (Command.parameters.filterMap Parameter.variable_).filterMapM fun name => do
    return (← IO.getEnv name).map (name, ·)

/-- Does what the command line asks for. -/
def main (words : List String) : IO UInt32 := do
  let report := Command.run words (← readEnvironment)
  IO.print report.output
  IO.eprint report.errors
  return report.status.toUInt32
