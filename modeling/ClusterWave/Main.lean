import ClusterWave.Report

/-!
# The command line

The arguments are a scenario document and, after `--timeline`, a file for the timeline. The exit
code tells whether all went well.
-/

namespace ClusterWave

/-- How many events a run may have. -/
def eventLimit : Nat := 1000000000000000

/-- The content of a file, if it is a text that can be read. -/
def readText? (path : String) : IO (Option String) := do
  try
    return some (← IO.FS.readFile path)
  catch _ => return none

/-- Do what is left to do after a report. -/
def Ending.finish : Ending → IO UInt32
  | .failed => return 1
  | .finished => return 0
  | .write path document afterwards => do
    try
      IO.FS.writeFile path document
    catch _ => return 1
    IO.print afterwards
    return 0

/-- Carry a command out. -/
def Command.execute (c : Command) : IO UInt32 := do
  let text ← match c.scenario with
    | none => pure none
    | some path => readText? path
  let (report, ending) := c.perform eventLimit fun _ => text
  IO.print report
  ending.finish

end ClusterWave

def main (args : List String) : IO UInt32 :=
  match ClusterWave.Command.parse? args with
  | none => return 1
  | some command => command.execute
