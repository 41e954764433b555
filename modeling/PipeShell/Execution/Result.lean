import PipeShell.Fault
import PipeShell.SyntaxError

/-!
# Results of a line

What running a line comes to: the text it printed, what its programs wrote to their error streams, a
status, and the error that stopped it, if one did.  An error names the stage and the command that it
happened in, except for a line that is no pipeline at all.
-/

namespace PipeShell

/-- Why a line did not run to its end. -/
inductive ExecError where
  | parse (error : SyntaxError)
  /-- A file that a built-in needs, or without a target the command itself, does not exist. -/
  | notFound (stage : Nat) (command : String) (target : Option String)
  | execution (stage : Nat) (command : String) (text : String)
  /-- The output could not be written to the file at `path`. -/
  | io (stage : Nat) (command : String) (path : String) (fault : Fault)
deriving Repr, DecidableEq

namespace ExecError

/-- The stage that stopped the pipeline. -/
def stage? : ExecError → Option Nat
  | parse _ => none
  | notFound stage _ _ => some stage
  | execution stage _ _ => some stage
  | io stage _ _ _ => some stage

/-- The command of that stage. -/
def command? : ExecError → Option String
  | parse _ => none
  | notFound _ command _ => some command
  | execution _ command _ => some command
  | io _ command _ _ => some command

/-- The text shown to the user. -/
def message : ExecError → String
  | parse error => "parse error: " ++ error.message
  | notFound _ command (some target) =>
    command ++ ": " ++ target ++ ": No such file or directory"
  | notFound _ command none => command ++ ": command not found"
  | execution _ _ text => text
  | io _ _ path fault => path ++ ": " ++ fault.message

/-- The text of the error behind this one. -/
def source? : ExecError → Option String
  | parse error => some error.message
  | io _ _ _ fault => some fault.message
  | _ => none

end ExecError

/-- What running a line comes to. -/
structure ExecResult where
  /-- The text of the last stage, unless it went to a file. -/
  output : String
  /-- What all completed stages wrote to their error streams. -/
  errors : String
  status : Nat
  error : Option ExecError
deriving Repr, DecidableEq

namespace ExecResult

/-- The result of a line with nothing in it. -/
def nothing : ExecResult := ⟨"", "", 0, none⟩

/-- The result of a line that is no pipeline. -/
def rejected (e : SyntaxError) : ExecResult := ⟨"", "", 2, some (.parse e)⟩

/-- Everything went well. -/
def success (r : ExecResult) : Bool :=
  r.status == 0 && r.error.isNone

end ExecResult

end PipeShell
