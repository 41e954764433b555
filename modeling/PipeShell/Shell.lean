import PipeShell.Alias
import PipeShell.Execution
import PipeShell.ShellError

/-!
# The shell

`Shell.runLine` is what the shell does with a line: it records it, reads it as a pipeline, with
variables and aliases replaced, and runs it.  A line of blanks is nothing at all.  The line is in
the history before its own stages run.
-/

namespace PipeShell.Shell

/-- A shell around a state and a history. -/
def ofParts (state : ShellState) (history : History) (disk : Disk) : Shell :=
  ⟨state, history, disk, none, []⟩

/-- A line added to the history. -/
def record (sh : Shell) (line : String) : Shell :=
  let step := sh.history.record sh.disk line
  { sh with history := step.history, disk := step.disk }.report step.events

/-- The pipeline that a line writes, and the aliases it uses. -/
def prepare (host : Host) (sh : Shell) (line : String) :
    Except SyntaxError Pipeline × List Event :=
  let vars := sh.state.var? host.env
  match Token.scanWith vars line with
  | .error e => (.error e, [])
  | .ok ts =>
    let expanded := Alias.expand sh.state.alias? vars ts
    (expanded.1.bind Pipeline.ofTokens, expanded.2)

/-- Records a line and runs it. -/
def runLine (host : Host) (line : String) (sh : Shell) : ExecResult × Shell :=
  if Text.isAllBlank line then (.nothing, sh)
  else
    let sh' := sh.record line
    let prepared := prepare host sh' line
    let sh'' := sh'.report prepared.2
    match prepared.1 with
    | .ok p => execute host p sh''
    | .error e => (.rejected e, sh''.report [.lineRejected line e])

/-- The status to leave with, once the shell was asked to leave. -/
def exitRequest (sh : Shell) : Option Int := sh.state.exitRequest

/-- What is left when a shell could not start: why, the disk, and what was reported until then. -/
structure FailedStart where
  error : ShellError
  disk : Disk
  events : List Event

/-- A shell in the directory that the disk starts relative paths from, with its start-up file
applied and its history loaded. -/
def start (env : Environment) (places : Startup.Places) (logFile : Option LogFile) (disk : Disk) :
    Except FailedStart Shell :=
  match ShellState.startIn disk (Path.ofNames disk.base) with
  | .error fault => .error ⟨.io fault, disk, []⟩
  | .ok state =>
    let loaded := Startup.load env disk places.startupFile state
    let sh := { ofParts loaded.state .inMemory disk with logFile }.report loaded.events
    match loaded.result with
    | .error e => .error ⟨.config e, sh.disk, sh.log⟩
    | .ok _ =>
      let opened := History.ofFile sh.disk places.historyFile
      .ok ({ sh with history := opened.1 }.report opened.2)

end PipeShell.Shell
