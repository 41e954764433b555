import PipeShell.Event
import PipeShell.Program

/-!
# Running a program

A program starts in the shell's directory with the inherited variables and the shell's changes to
them, and its output is collected.  A program file that has gone missing by the time it is started
counts as not found.
-/

namespace PipeShell.Program

/-- What running a program leaves.  The events are those after its start. -/
structure Launched where
  result : Except ProgramError StageOutput
  disk : Disk
  events : List Event

/-- The call of a program from a shell. -/
def callFrom (host : Host) (s : ShellState) (program name : String) (args : List String)
    (input : ByteArray) : ProgramCall where
  program := program
  name := name
  args := args
  input := input
  dir := s.dir
  env := s.overlay.childEnvironment host.env
  readsScripts := !program.toList.contains '/' && (s.overlay.changes.get? "PATH").isSome
  limit := host.limit

/-- The result of a call that ended like this, and what there is to report. -/
def conclude (call : ProgramCall) : Ending → Except ProgramError StageOutput × List Event
  | .finished exit output errors =>
    (.ok ⟨output, errors, exit.status⟩, [.programExited call.name exit.status])
  | .overdue =>
    let limit := call.limit.getD ⟨0⟩
    (.error (.timedOut call.name limit), [.programOverdue call.name limit])
  | .notStarted .notFound => (.error (.notFound call.name), [])
  | .notStarted fault => (.error (.cannotRun call.name fault), [])
  | .broken fault => (.error (.io fault), [])
  | .abandoned => (.error (.other "stream pump panicked"), [])

/-- Runs a program. -/
def launch (host : Host) (s : ShellState) (disk : Disk) (program name : String)
    (args : List String) (input : ByteArray) : Launched :=
  let call := callFrom host s program name args input
  let ended := host.programs call disk
  let concluded := conclude call ended.1
  ⟨concluded.1, ended.2, concluded.2⟩

end PipeShell.Program
