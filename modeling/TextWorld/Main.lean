import TextWorld.CommandLine

/-!
# The program

Hands the arguments, the variables and the input of the process to the command
line, and writes what comes of it.
-/

open TextWorld

/-- Reads the whole input, and answers with output and exit code. -/
def main (arguments : List String) : IO UInt32 := do
  let color ← IO.getEnv Config.colorVariable
  let depth ← IO.getEnv Config.evalDepthVariable
  let terminal ← IO.getEnv CommandLine.terminalVariable
  let lookup (name : String) : Option String :=
    if name = Config.colorVariable then
      color
    else if name = Config.evalDepthVariable then
      depth
    else if name = CommandLine.terminalVariable then
      terminal
    else
      none
  let input ← (← IO.getStdin).readToEnd
  let outcome := CommandLine.outcome arguments lookup input
  IO.print outcome.stdout
  IO.eprint outcome.stderr
  return UInt32.ofNat outcome.code
