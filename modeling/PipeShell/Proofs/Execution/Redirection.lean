import PipeShell.Proofs.Disk.Edit
import PipeShell.Proofs.Execution.Run

/-!
# A redirection moves the output and does nothing else

`redirection_moves_output` sets a pipeline beside itself with a redirection.  Both run the same
stages from the same shell, so the errors, the state and the history are the same, and when a stage
fails so is everything else.  When none fails, `Shell.Moved` says what becomes of the bytes of the
last stage: they are in the target, or a device has swallowed them, or they could not be written and
their text is shown.

The target is found from the directory that the stages left, on the disk that they left.
-/

namespace PipeShell

/-- What becomes of the contents of a file to which `bytes` are written. -/
def RedirectMode.change (mode : RedirectMode) (bytes old : ByteArray) : ByteArray :=
  match mode with
  | overwrite => bytes
  | append => old ++ bytes

/-- The pipeline with its output sent to a file. -/
def Pipeline.redirectedTo (p : Pipeline) (r : Redirection) : Pipeline :=
  { p with redirection := some r }

namespace Shell

variable {host : Host} {p : Pipeline} {r : Redirection} {sh left : Shell} {bytes : ByteArray}

/-- Both modes of redirection change the file at the path, each in its own way. -/
lemma redirect_eq_edit (mode : RedirectMode) (disk : Disk) (path : String) (bytes : ByteArray) :
    redirect mode disk path bytes = disk.edit path (mode.change bytes) := by
  cases mode <;> rfl

section WriteOutput

variable {path : String}

/-- A target that is no path is not written to. -/
lemma writeOutput_of_unresolved {e : StateError}
    (hpath : sh.state.resolve host.env r.path = .error e) :
    writeOutput host r bytes sh = (.error (r.path, .stated e.message), sh) := by
  rw [writeOutput]
  simp only [hpath]

/-- A target that cannot be written to is reported all the same. -/
lemma writeOutput_of_refused {fault : Fault} (hpath : sh.state.resolve host.env r.path = .ok path)
    (hwrite : redirect r.mode (sh.report [.redirected bytes.size path]).disk path bytes =
      .error fault) :
    writeOutput host r bytes sh =
      (.error (path, fault), sh.report [.redirected bytes.size path]) := by
  rw [writeOutput]
  simp only [hpath, hwrite]

/-- Behind the report the bytes are written. -/
lemma writeOutput_of_written {disk : Disk} (hpath : sh.state.resolve host.env r.path = .ok path)
    (hwrite : redirect r.mode (sh.report [.redirected bytes.size path]).disk path bytes =
      .ok disk) :
    writeOutput host r bytes sh =
      (.ok (), { sh.report [.redirected bytes.size path] with disk }) := by
  rw [writeOutput]
  simp only [hpath, hwrite]

end WriteOutput

/-- What the redirection `r` of the pipeline `p` made of the outcome `alone` that it has without
one, when its last stage handed on `bytes`. -/
inductive Moved (host : Host) (p : Pipeline) (r : Redirection) (bytes : ByteArray)
    (alone moved : ExecResult × Shell) : Prop
  /-- The target is no path. -/
  | unresolved {e : StateError} (hpath : alone.2.state.resolve host.env r.path = .error e)
      (hmoved : moved = ({ alone.1 with
        status := 1
        error := some (.io p.lastIndex p.last.command r.path (.stated e.message)) }, alone.2))
  /-- The target could not be written. -/
  | refused {path : String} {fault : Fault} {opened : Shell}
      (hpath : alone.2.state.resolve host.env r.path = .ok path)
      (hopened : opened = alone.2.report [.redirected bytes.size path])
      (hrefused : redirect r.mode opened.disk path bytes = .error fault)
      (hmoved : moved = ({ alone.1 with
        status := 1
        error := some (.io p.lastIndex p.last.command path fault) }, opened))
  /-- The target holds the bytes, behind what it held before if they were added. -/
  | written {path : String} {opened : Shell} {disk : Disk} {l : Location} {e : Entry}
      (hpath : alone.2.state.resolve host.env r.path = .ok path)
      (hopened : opened = alone.2.report [.redirected bytes.size path])
      (hread : disk.readBytes path = .ok (r.mode.change bytes (opened.disk.contents path)))
      (htarget : disk.lookUp path = .ok (l, e))
      (hothers : ∀ l' ≠ l, disk.entryAt? l' = opened.disk.entryAt? l')
      (hmoved : moved = ({ alone.1 with output := "" }, { opened with disk }))
  /-- The target is a device. -/
  | swallowed {path : String} {opened : Shell} {l : Location} {kind : Device}
      (hpath : alone.2.state.resolve host.env r.path = .ok path)
      (hopened : opened = alone.2.report [.redirected bytes.size path])
      (hdevice : opened.disk.lookUp path = .ok (l, .device kind))
      (hmoved : moved = ({ alone.1 with output := "" }, opened))

/-- A redirection does not touch the state or the history. -/
lemma Moved.keeps {alone moved : ExecResult × Shell} (h : Moved host p r bytes alone moved) :
    moved.1.errors = alone.1.errors ∧ moved.2.state = alone.2.state ∧
      moved.2.history = alone.2.history := by
  cases h with
  | unresolved _ hmoved =>
      subst hmoved
      exact ⟨rfl, rfl, rfl⟩
  | refused _ hopened _ hmoved | written _ hopened _ _ _ hmoved | swallowed _ hopened _ hmoved =>
      subst hopened hmoved
      exact ⟨rfl, rfl, rfl⟩

/-- The output of stages that all completed goes to the target as `Moved` says. -/
lemma moved_of_completed {outs : List StageOutput}
    (h : Runs host 0 p.stages .empty sh outs none left) :
    Moved host p r (flowing .empty outs) (completedResult outs, left)
      (execute host (p.redirectedTo r) sh) := by
  have h' : Runs host 0 (p.redirectedTo r).stages .empty sh outs none left := h
  cases hpath : left.state.resolve host.env r.path with
  | error e =>
      exact .unresolved hpath (execute_of_unwritten h' rfl (writeOutput_of_unresolved hpath))
  | ok path =>
      cases hwrite : redirect r.mode
          (left.report [.redirected (flowing .empty outs).size path]).disk path
          (flowing .empty outs) with
      | error fault =>
          exact .refused hpath rfl hwrite
            (execute_of_unwritten h' rfl (writeOutput_of_refused hpath hwrite))
      | ok disk =>
          have hmoved := execute_of_written h' rfl (writeOutput_of_written hpath hwrite)
          rw [redirect_eq_edit] at hwrite
          obtain ⟨l, hread, ⟨e, htarget⟩, hothers⟩ | ⟨⟨l, kind, hdevice⟩, hsame⟩ :=
            (Disk.edited_of_edit hwrite).contents_or_device
          · exact .written hpath rfl hread htarget hothers hmoved
          · subst hsame
            exact .swallowed hpath rfl hdevice hmoved

/-- A pipeline with a redirection has the errors, the state and the history that it has without.
When a stage fails, nothing at all is different.  When none fails, the bytes of the last stage go to
the target, which is found from the directory and on the disk that the stages left. -/
theorem redirection_moves_output (host : Host) (p : Pipeline) (hp : p.redirection = none)
    (r : Redirection) (sh : Shell) :
    let alone := execute host p sh
    let moved := execute host (p.redirectedTo r) sh
    moved.1.errors = alone.1.errors ∧ moved.2.state = alone.2.state ∧
    moved.2.history = alone.2.history ∧
    (alone.1.error ≠ none → moved = alone) ∧
    (alone.1.error = none → ∃ outs, Runs host 0 p.stages .empty sh outs none alone.2 ∧
      alone.1 = completedResult outs ∧
      Moved host p r (flowing .empty outs) alone moved) := by
  intro alone moved
  obtain ⟨outs, stop, left, hrun⟩ := exists_runs host 0 p.stages .empty sh
  cases stop with
  | some failure =>
      -- a stage has failed, so the redirection is not come to
      have halone : alone = (⟨"", errorTexts outs, failure.status, some failure.error⟩, left) :=
        execute_of_stopped hrun
      have hsame : moved = alone :=
        (execute_of_stopped (p := p.redirectedTo r) hrun).trans halone.symm
      rw [hsame]
      refine ⟨rfl, rfl, rfl, fun _ => rfl, fun hnone => ?_⟩
      rw [halone] at hnone
      cases hnone
  | none =>
      have halone : alone = (completedResult outs, left) := execute_of_shown hrun hp
      have hmoved : Moved host p r (flowing .empty outs) alone moved := by
        rw [halone]
        exact moved_of_completed hrun
      obtain ⟨herrors, hstate, hhistory⟩ := hmoved.keeps
      refine ⟨herrors, hstate, hhistory, fun hne => ?_, fun _ => ⟨outs, ?_, ?_, hmoved⟩⟩
      · rw [halone] at hne
        exact absurd rfl hne
      · rw [halone]
        exact hrun
      · rw [halone]

/-- `cat f`, where `f` holds two bytes that are no text. -/
def catFile : Pipeline := ⟨[plainStage "cat" ["f"]], none, List.cons_ne_nil _ _⟩

/-- A shell on a disk with the file `f`. -/
def shellWithFile : Shell :=
  newShell ((Disk.empty []).put ["f"] (.file ⟨#[255, 10]⟩ false))

/-- `cat f >> f` reads what the file held before, and adds just these bytes to it. -/
theorem redirection_moves_output_at_own_file :
    (∃ outs, Runs bareHost 0 catFile.stages .empty shellWithFile outs none
        (execute bareHost catFile shellWithFile).2 ∧
      Moved bareHost catFile ⟨"f", .append⟩ (flowing .empty outs)
        (execute bareHost catFile shellWithFile)
        (execute bareHost (catFile.redirectedTo ⟨"f", .append⟩) shellWithFile)) ∧
    (execute bareHost (catFile.redirectedTo ⟨"f", .append⟩) shellWithFile).2.disk.readBytes "/f" =
      .ok ⟨#[255, 10, 255, 10]⟩ := by
  obtain ⟨-, -, -, -, hcompleted⟩ :=
    redirection_moves_output bareHost catFile rfl ⟨"f", .append⟩ shellWithFile
  have hok : (execute bareHost catFile shellWithFile).1.error = none := by rfl
  obtain ⟨outs, hrun, -, hmoved⟩ := hcompleted hok
  exact ⟨⟨outs, hrun, hmoved⟩, by rfl⟩

/-- `echo hi`. -/
def echoHi : Pipeline := ⟨[plainStage "echo" ["hi"]], none, List.cons_ne_nil _ _⟩

/-- A shell on a disk with the device `/dev/null`. -/
def shellWithNull : Shell :=
  newShell (((Disk.empty []).put ["dev"] .directory).put ["dev", "null"] (.device .sink))

/-- `echo hi > /dev/null` succeeds and shows nothing, but its target does not hold the bytes. -/
theorem device_holds_no_output :
    ∃ outs left, Runs bareHost 0 echoHi.stages .empty shellWithNull outs none left ∧
      (execute bareHost (echoHi.redirectedTo ⟨"/dev/null", .overwrite⟩) shellWithNull).1.error =
        none ∧
      (execute bareHost (echoHi.redirectedTo ⟨"/dev/null", .overwrite⟩)
          shellWithNull).2.disk.readBytes "/dev/null" ≠ .ok (flowing .empty outs) := by
  have hread : (execute bareHost (echoHi.redirectedTo ⟨"/dev/null", .overwrite⟩)
      shellWithNull).2.disk.readBytes "/dev/null" = .ok .empty := by rfl
  refine ⟨[⟨Text.encode "hi\n", .empty, 0⟩], _, .completed rfl (.done _ _ _), by rfl, ?_⟩
  rw [hread]
  intro hholds
  exact absurd (congrArg ByteArray.size (Except.ok.inj hholds)) (by decide)

end Shell

end PipeShell
