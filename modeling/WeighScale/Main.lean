import WeighScale.Demo

set_option autoImplicit false

/-! # The command line

Prints the lines of the demonstration.
-/

/-- Runs the demonstration. It takes no arguments. -/
def main : IO Unit := do
  for line in WeighScale.Demo.lines do
    IO.println line
