import PipeShell.Builtin
import PipeShell.Execution.Result
import PipeShell.LogFile
import PipeShell.Pipeline
import PipeShell.Program.Launch

/-!
# Running one stage

A stage is a built-in command or a program.  It reads the bytes of the stage before it and hands on
its own; a built-in reads them as text.  When a built-in asks for a change of state, the change is
made before the next stage runs.

Reporting touches nothing but the log (`report_state`, `report_history`), and the disk only where a
log file stands on it (`report_disk`).
-/

namespace PipeShell

/-- A running shell: its state, its history, the disk as it is now, and what it has reported. -/
structure Shell where
  state : ShellState
  history : History
  disk : Disk
  /-- The file that takes every record as soon as it is made. -/
  logFile : Option LogFile
  log : List Event

namespace Shell

/-- The shell with more to report. -/
def report (sh : Shell) (events : List Event) : Shell :=
  { sh with
    disk := sh.logFile.elim sh.disk (LogFile.add · events sh.disk)
    log := sh.log ++ events }

/-- Reporting leaves the state as it is. -/
@[simp] theorem report_state (sh : Shell) (events : List Event) :
    (sh.report events).state = sh.state := rfl

/-- Reporting leaves the history as it is. -/
@[simp] theorem report_history (sh : Shell) (events : List Event) :
    (sh.report events).history = sh.history := rfl

/-- Reporting goes on with the same log file. -/
@[simp] theorem report_logFile (sh : Shell) (events : List Event) :
    (sh.report events).logFile = sh.logFile := rfl

/-- Without a log file, reporting leaves the disk as it is. -/
theorem report_disk {sh : Shell} (h : sh.logFile = none) (events : List Event) :
    (sh.report events).disk = sh.disk := by
  simp [report, h]

/-- What a built-in command sees of the shell. -/
def view (sh : Shell) (host : Host) (input : ByteArray) : View :=
  ⟨host.env, sh.state, sh.history, sh.disk, Text.decodeLossy input⟩

/-- The shell after a built-in command, before the change it asked for. -/
def after (sh : Shell) (o : Outcome) : Shell :=
  { sh with history := o.history, disk := o.disk }.report o.events

end Shell

/-- How a stage stopped the pipeline. -/
structure StageFailure where
  status : Nat
  error : ExecError
deriving Repr, DecidableEq

namespace StageFailure

/-- A built-in command failed. -/
def ofCommand (index : Nat) (name : String) : CommandError → StageFailure
  | .notFound target => ⟨1, .notFound index name (some target)⟩
  | e => ⟨1, .execution index name (name ++ ": " ++ e.message)⟩

/-- There is no such command. -/
def noCommand (index : Nat) (name : String) : StageFailure :=
  ⟨127, .notFound index name none⟩

/-- A program failed to give output. -/
def ofProgram (index : Nat) (name : String) : ProgramError → StageFailure
  | .notFound _ => noCommand index name
  | e => ⟨e.status, .execution index name e.message⟩

end StageFailure

namespace Shell

/-- Runs a built-in command as the stage at `index`. -/
def runBuiltin (host : Host) (index : Nat) (stage : Stage) (b : Builtin) (input : ByteArray)
    (sh : Shell) : Except StageFailure StageOutput × Shell :=
  let name := stage.command
  let outcome := b.run (sh.view host input) stage.args
  let sh' := sh.after outcome
  match outcome.result with
  | .error e => (.error (.ofCommand index name e), sh')
  | .ok none => (.ok ⟨outcome.output, .empty, 0⟩, sh')
  | .ok (some change) =>
    let sh'' := sh'.report [.changeRequested name change]
    match sh''.state.apply sh''.disk change with
    | (state, none) => (.ok ⟨outcome.output, .empty, 0⟩, { sh'' with state })
    | (state, some e) => (.error (.ofCommand index name (.ofStateError e)), { sh'' with state })

/-- Runs a program as the stage at `index`. -/
def runProgram (host : Host) (index : Nat) (stage : Stage) (input : ByteArray) (sh : Shell) :
    Except StageFailure StageOutput × Shell :=
  let name := stage.command
  match Program.find host.env sh.disk sh.state name with
  | none => (.error (.noCommand index name), sh)
  | some program =>
    let sh' := sh.report [.programBegan name program stage.args.length]
    let launched := Program.launch host sh'.state sh'.disk program name stage.args input
    (launched.result.mapError (.ofProgram index name),
     { sh' with disk := launched.disk }.report launched.events)

/-- Runs the stage at `index`. -/
def runStage (host : Host) (index : Nat) (stage : Stage) (input : ByteArray) (sh : Shell) :
    Except StageFailure StageOutput × Shell :=
  match Builtin.ofName? stage.command with
  | some b => runBuiltin host index stage b input sh
  | none => runProgram host index stage input sh

end Shell

end PipeShell
