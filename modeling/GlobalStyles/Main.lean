import GlobalStyles.Command.Run

/-!
# The program

Reads the files that a command line names, runs the command, and prints its outcome.
-/

open GlobalStyles

/-- The text of a file, if it can be read. -/
def readText? (file : String) : IO (Option String) :=
  try return some (← IO.FS.readFile file)
  catch _ => return none

/-- The files of a command, with their texts. -/
def readFiles (arguments : List String) : IO (Entries (Option String)) :=
  match Command.ofArguments? arguments with
  | some (.compile invocation) =>
    invocation.files.mapM fun file ↦ return (file, ← readText? file)
  | _ => return []

/-- Run the command line: diagnostics and the problem go to the error output. -/
def main (arguments : List String) : IO UInt32 := do
  let files ← readFiles arguments
  let outcome := Command.run arguments fun file ↦ (Entries.get? files file).join
  for warning in outcome.warnings do
    IO.eprintln ("\x1b[1m\x1b[33mwarning:\x1b[39m\x1b[0m " ++ warning)
  for error in outcome.error do
    IO.eprintln ("Error: " ++ error)
  IO.print outcome.stdout
  return outcome.exitCode.toUInt32
