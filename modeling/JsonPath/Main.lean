import JsonPath.Command.Program

/-!
# The program

Reads the command line, takes standard input if the command needs it and it is not a terminal, and
prints what the run leaves behind.
-/

open JsonPath.Command

/-- The lines that are still to come, joined. -/
partial def readLines (stream : IO.FS.Stream) (before : String) : IO String := do
  let line ← stream.getLine
  if line.isEmpty then return before else readLines stream (before ++ line)

/-- The text of standard input; a terminal gives none. -/
def readStandardInput : IO (Option String) := do
  let stream ← IO.getStdin
  if ← stream.isTty then return none else return some (← readLines stream "")

def main (args : List String) : IO UInt32 := do
  let reading := readLine args
  let standardInput ← match reading with
    | .invocation i => if i.readsStandardInput then readStandardInput else pure none
    | _ => pure none
  let outcome := reading.run standardInput
  IO.print outcome.output
  IO.eprint outcome.errors
  return outcome.exitCode.toUInt32
