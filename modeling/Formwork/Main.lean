import Formwork.CommandLine.Command

/-! # The program

Runs the command that the arguments ask for, and prints what it prints.
-/

open Formwork

/-- Reads a file, if it can be read. -/
def readFile? (path : String) : IO (Option Bytes) := do
  try
    return some (← IO.FS.readBinFile path).toList
  catch _ => return none

def main (arguments : List String) : IO UInt32 := do
  let outcome ← CommandLine.Command.execute readFile? arguments
  (← IO.getStdout).putStr outcome.output
  (← IO.getStderr).putStr outcome.complaint
  return outcome.status.toUInt32
