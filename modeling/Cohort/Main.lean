import Cohort.CommandLine.Command

/-! The command-line program. -/
open Cohort.CommandLine

/-- Standard input is read only when a command needs it and it is no terminal. -/
def main (arguments : List String) : IO UInt32 := do
  let stdin ← IO.getStdin
  let wanted := (Command.ofArguments? arguments).any Command.readsInput
  let input ← if wanted && !(← stdin.isTty) then some <$> stdin.readToEnd else pure none
  let report := run arguments input
  IO.print report.output
  IO.eprint report.errors
  pure report.exitCode.toUInt32
