import PipeShell.CommandLine
import PipeShell.Toolbox

/-!
# The program

Runs the command line on a fresh disk in memory, with the tools of the toolbox on it.  What the
terminal can show is taken from the environment of the process; everything else about the shell's
surroundings is fixed here.
-/

namespace PipeShell

/-- The variables that say what a terminal can show. -/
def terminalVariables : List String :=
  ["CLICOLOR", "CLICOLOR_FORCE", "COLORTERM", "NO_COLOR", "TERM", "TERM_PROGRAM"]

/-- The environment of a shell with these variables for the terminal. -/
def startEnvironment (terminal : List (String × String)) : Environment :=
  ⟨.ofList (("HOME", "/home") :: ("PATH", "/usr/bin") :: terminal)⟩

/-- The disk that a shell starts with. -/
def startDisk : Disk :=
  Toolbox.equip ((Disk.empty ["home"]).put ["home"] .directory)

/-- A number with at least two digits. -/
def twoDigits (n : Nat) : String :=
  if n < 10 then "0" ++ toString n else toString n

/-- A number of seconds as hours, minutes and seconds. -/
def clockText (seconds : Nat) : String :=
  twoDigits (seconds / 3600 % 24) ++ ":" ++ twoDigits (seconds / 60 % 60) ++ ":"
    ++ twoDigits (seconds % 60)

/-- Runs the shell on the streams of the process. -/
def runOnStreams (args : List String) : IO UInt32 := do
  let terminal ← terminalVariables.filterMapM fun name => do
    return (← IO.getEnv name).map fun value => (name, value)
  let input ← (← IO.getStdin).readBinToEnd
  let seconds := (← IO.monoMsNow) / 1000
  let call : CommandLine.Call :=
    ⟨args, startEnvironment terminal, input, clockText seconds⟩
  let ended := CommandLine.run Toolbox.programs call startDisk
  IO.print ended.console.output
  IO.eprint ended.console.errors
  return UInt32.ofNat ended.status

end PipeShell

/-- Runs the shell. -/
def main (args : List String) : IO UInt32 := PipeShell.runOnStreams args
