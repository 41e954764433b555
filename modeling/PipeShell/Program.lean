import PipeShell.Disk
import PipeShell.Duration
import PipeShell.Environment

/-!
# External programs

What the shell knows about a program that is not built in: how it is called, and how the call ends.
What programs *do* is not fixed here.  `Programs` is any function from a call and the disk to an
ending and the disk afterwards, and everything the shell does is stated for all such functions.
`PipeShell.Toolbox` has one of them, to try the shell with.
-/

namespace PipeShell

/-- A call of an external program. -/
structure ProgramCall where
  /-- The path of the program file. -/
  program : String
  /-- The name that the user typed, by which the program also knows itself. -/
  name : String
  args : List String
  /-- The bytes that the program can read. -/
  input : ByteArray
  /-- The directory the program starts in. -/
  dir : String
  env : Environment
  /-- A file that is found in the search path and is no program is read as a script. -/
  readsScripts : Bool
  /-- The time after which the program is stopped. -/
  limit : Option Duration

/-- How a program left. -/
inductive Exit where
  | code (n : Nat)
  | signal (n : Nat)
deriving Repr, DecidableEq

/-- The status that a shell reports for it. -/
def Exit.status : Exit → Nat
  | code n => n
  | signal n => 128 + n

/-- How a call ends. -/
inductive Ending where
  /-- The program ran to its end and wrote these bytes. -/
  | finished (exit : Exit) (output errors : ByteArray)
  /-- The program was stopped when its time was over. -/
  | overdue
  /-- The program could not be started. -/
  | notStarted (fault : Fault)
  /-- The program was started, but waiting for it or exchanging bytes with it failed. -/
  | broken (fault : Fault)
  /-- What exchanges bytes with the program gave up. -/
  | abandoned

/-- The behaviour of all programs there are. -/
abbrev Programs := ProgramCall → Disk → Ending × Disk

/-- What a shell finds around it and cannot change. -/
structure Host where
  env : Environment
  programs : Programs
  /-- The time that a program may take. -/
  limit : Option Duration

/-- What a stage of a pipeline hands on. -/
structure StageOutput where
  output : ByteArray
  errors : ByteArray
  status : Nat

/-- Why a program gave no output. -/
inductive ProgramError where
  | notFound (name : String)
  | cannotRun (name : String) (fault : Fault)
  | io (fault : Fault)
  | timedOut (name : String) (after : Duration)
  | other (text : String)
deriving Repr, DecidableEq

namespace ProgramError

/-- The status that a shell reports for the error. -/
def status : ProgramError → Nat
  | notFound _ => 127
  | cannotRun _ _ => 126
  | timedOut _ _ => 124
  | io _ => 1
  | other _ => 1

/-- The text shown to the user. -/
def message : ProgramError → String
  | notFound name => name ++ ": command not found"
  | cannotRun name fault => name ++ ": cannot execute: " ++ fault.message
  | io fault => "IO error: " ++ fault.message
  | timedOut name after => name ++ ": timed out after " ++ after.render
  | other text => text

/-- The fault behind the error. -/
def fault? : ProgramError → Option Fault
  | cannotRun _ fault => some fault
  | io fault => some fault
  | _ => none

end ProgramError

end PipeShell
