import Calculator.CommandLine

/-! # The program -/

/-- Does what the command line asks for. -/
def main (arguments : List String) : IO UInt32 := do
  let outcome := Calculator.CommandLine.run arguments
  IO.print outcome.output
  IO.eprint outcome.diagnostics
  return outcome.exitCode.toUInt32
