import Testbench.Runner

/-!
# The program

Prints what the runner leaves behind.
-/

/-- Runs the console runner. -/
def main (arguments : List String) : IO UInt32 := do
  let report := Testbench.runner arguments
  for line in report.output do IO.println line
  for line in report.errors do IO.eprintln line
  return UInt32.ofNat report.exitCode
