import PipeShell.Execution.Stage

/-!
# Running a pipeline

The stages run one after the other, each to its end, and the bytes that one writes are what the next
one reads.  `Shell.runStages` goes through them with a `Flow`: the bytes in between, the texts of
the error streams so far, and the status of the last stage that did not succeed.  A stage that fails
ends the pipeline at once, and then nothing is printed and no file is written.

A redirection is carried out last of all, with the directory that the stages have left, so a stage
can still read what the file held before.
-/

namespace PipeShell

/-- What flows from stage to stage. -/
structure Flow where
  bytes : ByteArray
  errors : String
  status : Nat

namespace Flow

/-- Nothing has run yet. -/
def start : Flow := ⟨.empty, "", 0⟩

/-- The flow after a stage. -/
def next (f : Flow) (o : StageOutput) : Flow :=
  ⟨o.output, f.errors ++ Text.decodeLossy o.errors, if o.status = 0 then f.status else o.status⟩

end Flow

namespace Shell

/-- What is reported about the end of a stage. -/
def stageEvents (index : Nat) : Except StageFailure StageOutput → List Event
  | .ok o => if o.status = 0 then [] else [.stageExited index o.status]
  | .error failure => [.stageFailed index failure.error.message]

/-- Runs stages, the first of them at `index`, until one fails. -/
def runStages (host : Host) (index : Nat) : List Stage → Flow → Shell →
    Except (Flow × StageFailure) Flow × Shell
  | [], f, sh => (.ok f, sh)
  | stage :: rest, f, sh =>
    let ran := runStage host index stage f.bytes (sh.report [.stageBegan index stage.argv])
    let sh' := ran.2.report (stageEvents index ran.1)
    match ran.1 with
    | .error failure => (.error (f, failure), sh')
    | .ok o => runStages host (index + 1) rest (f.next o) sh'

/-- The disk with bytes written to a file. -/
def redirect (mode : RedirectMode) (disk : Disk) (path : String) (bytes : ByteArray) :
    Except Fault Disk :=
  match mode with
  | .overwrite => disk.overwrite path bytes
  | .append => disk.append path bytes

/-- Writes the output of a pipeline to the target of its redirection. -/
def writeOutput (host : Host) (r : Redirection) (bytes : ByteArray) (sh : Shell) :
    Except (String × Fault) Unit × Shell :=
  match sh.state.resolve host.env r.path with
  | .error e => (.error (r.path, .stated e.message), sh)
  | .ok path =>
    let sh' := sh.report [.redirected bytes.size path]
    match redirect r.mode sh'.disk path bytes with
    | .ok disk => (.ok (), { sh' with disk })
    | .error fault => (.error (path, fault), sh')

/-- The result of stages that all ran, when their output goes to the user. -/
def shown (f : Flow) : ExecResult :=
  ⟨Text.decodeLossy f.bytes, f.errors, f.status, none⟩

/-- Ends a pipeline whose stages all ran. -/
def finish (host : Host) (p : Pipeline) (f : Flow) (sh : Shell) : ExecResult × Shell :=
  match p.redirection with
  | none => (shown f, sh)
  | some r =>
    match writeOutput host r f.bytes sh with
    | (.ok (), sh') => ({ shown f with output := "" }, sh')
    | (.error (path, fault), sh') =>
      ({ shown f with
          status := 1
          error := some (.io p.lastIndex p.last.command path fault) }, sh')

/-- Runs a pipeline. -/
def execute (host : Host) (p : Pipeline) (sh : Shell) : ExecResult × Shell :=
  match runStages host 0 p.stages .start sh with
  | (.error (f, failure), sh') => (⟨"", f.errors, failure.status, some failure.error⟩, sh')
  | (.ok f, sh') => finish host p f sh'

end Shell

end PipeShell
