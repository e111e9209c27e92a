import MarginLending.Simulation

/-!
The command line: runs the simulation and prints what it reports.
-/

open MarginLending

/-- Prints the report; a scenario that failed goes to the error stream and into the exit code. -/
def main : IO UInt32 := do
  let report := Simulation.report ⟨0⟩
  for line in report.lines do
    IO.println line
  if let some complaint := report.complaint then
    IO.eprintln complaint
  return report.exitCode.toUInt32
