/-
The command: it reads objects from the standard input, one a line, and prints the sweep that they
are rendered to.
-/
import RelayFleet.CommandLine

open RelayFleet

/-- Reads lines until the input ends. -/
partial def readLines (input : IO.FS.Stream) (lines : Array String) : IO (List String) := do
  let line ← input.getLine
  if line.isEmpty then return lines.toList
  readLines input (lines.push line)

/-- Prints the sweep of the objects on the standard input, or says what is wrong. -/
def main (args : List String) : IO UInt32 := do
  match CommandLine.sweep args (← readLines (← IO.getStdin) #[]) with
  | .ok sweep =>
    IO.println sweep.toJson.render
    return 0
  | .error flaw =>
    IO.eprintln flaw.text
    return 1
