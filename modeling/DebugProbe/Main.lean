import DebugProbe.CommandLine.Run

/-!
# The program

Reads the environment and the files that the arguments name, runs, and prints the outcome.
Specification: `SPEC_FULL.md` §6.
-/

namespace DebugProbe

namespace CommandLine

/-- Splits the block of environment variables, which end in zero bytes. -/
def splitVariables (block : Bytes) : List Bytes :=
  (block.foldr
    (fun byte parts ↦
      match parts with
      | [] => if byte = 0 then [] else [[byte]]
      | part :: rest => if byte = 0 then [] :: part :: rest else (byte :: part) :: rest)
    [[]])

/-- The name and the value of a variable. -/
def readVariable (entry : Bytes) : Option (String × String) := do
  let text ← String.fromUTF8? entry.toByteArray
  let name := text.toList.takeWhile (· != '=')
  let value := (text.toList.dropWhile (· != '=')).drop 1
  return (String.ofList name, String.ofList value)

/-- The environment variables of the process. -/
def environment : IO (List (String × String)) := do
  try
    let block ← IO.FS.readBinFile "/proc/self/environ"
    return (splitVariables block.toList).filterMap readVariable
  catch _ => return []

/-- A file as far as it can be read. -/
def readFile (name : String) : IO (List (String × Bytes)) := do
  try
    let content ← IO.FS.readBinFile name
    return [(name, content.toList)]
  catch _ => return []

/-- Prints an outcome and gives the exit code. -/
def report (outcome : Outcome) : IO UInt32 := do
  IO.print outcome.output
  match outcome with
  | .printed _ => pure ()
  | .failed message => IO.eprintln ("Error: " ++ message)
  | .rejected => IO.eprintln "error: invalid arguments; try --help"
  return UInt32.ofNat outcome.exitCode

end CommandLine

end DebugProbe

open DebugProbe in
/-- Runs the program. -/
def main (arguments : List String) : IO UInt32 := do
  let environment ← CommandLine.environment
  let files ← (CommandLine.fileNames environment arguments).mapM CommandLine.readFile
  CommandLine.report (CommandLine.run ⟨files.flatten⟩ environment arguments)
