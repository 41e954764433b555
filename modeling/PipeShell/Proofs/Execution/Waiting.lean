import PipeShell.Proofs.Execution.Completion
import PipeShell.Proofs.Execution.Line

/-!
# Records that wait

Records are added to those that wait in the shell, and nothing that the shell does ever looks at
them.  So a line does the same whatever records wait, and leaves these in front of its own
(`runLine_logged`).  A line never opens or closes a log file either (`logFile_runLine`).
-/

namespace PipeShell.Shell

variable {host : Host} {index : Nat} {stage : Stage} {input : ByteArray} {line : String}
  {sh left : Shell}

/-- The shell with other records waiting in front of its own. -/
def logged (sh : Shell) (earlier : List Event) : Shell := { sh with log := earlier ++ sh.log }

/-- The shell without any records waiting. -/
def settled (sh : Shell) : Shell := { sh with log := [] }

/-- Earlier records change nothing about the state. -/
@[simp] lemma logged_state (sh : Shell) (earlier : List Event) :
    (sh.logged earlier).state = sh.state := rfl

/-- Earlier records change nothing about the disk. -/
@[simp] lemma logged_disk (sh : Shell) (earlier : List Event) :
    (sh.logged earlier).disk = sh.disk := rfl

/-! ## Records make no difference -/

variable (earlier : List Event)

/-- Further records are added behind the earlier ones. -/
lemma report_logged (sh : Shell) (events : List Event) :
    (sh.logged earlier).report events = (sh.report events).logged earlier := by
  simp [report, logged]

/-- A line is recorded alike with earlier records. -/
lemma record_logged (sh : Shell) (line : String) :
    (sh.logged earlier).record line = (sh.record line).logged earlier := by
  simp [record, report, logged]

/-- A built-in command does not see the earlier records. -/
lemma runBuiltin_logged (b : Builtin) (sh : Shell) :
    runBuiltin host index stage b input (sh.logged earlier) =
      ((runBuiltin host index stage b input sh).1,
        (runBuiltin host index stage b input sh).2.logged earlier) := by
  have hafter : ∀ o, (sh.logged earlier).after o = (sh.after o).logged earlier := fun o =>
    report_logged earlier { sh with history := o.history, disk := o.disk } o.events
  have hview : (sh.logged earlier).view host input = sh.view host input := rfl
  simp only [runBuiltin, hafter, hview, report_logged, logged_state, logged_disk]
  rcases (b.run (sh.view host input) stage.args).result with e | (_ | asked)
  · rfl
  · rfl
  · dsimp only
    generalize (sh.after (b.run (sh.view host input) stage.args)).report
      [.changeRequested stage.command asked] = ran
    rcases ran.state.apply ran.disk asked with ⟨state, _ | e⟩ <;> rfl

/-- A program does not see them either. -/
lemma runProgram_logged (sh : Shell) :
    runProgram host index stage input (sh.logged earlier) =
      ((runProgram host index stage input sh).1,
        (runProgram host index stage input sh).2.logged earlier) := by
  simp only [runProgram, report_logged, logged_state, logged_disk]
  cases Program.find host.env sh.disk sh.state stage.command with
  | none => rfl
  | some program =>
      dsimp only
      generalize sh.report [.programBegan stage.command program stage.args.length] = ran
      generalize Program.launch host ran.state ran.disk program stage.command stage.args input =
        launched
      exact congrArg (Prod.mk _)
        (report_logged earlier { ran with disk := launched.disk } launched.events)

/-- So no stage sees them. -/
lemma runStage_logged (sh : Shell) :
    runStage host index stage input (sh.logged earlier) =
      ((runStage host index stage input sh).1,
        (runStage host index stage input sh).2.logged earlier) := by
  unfold runStage
  cases Builtin.ofName? stage.command with
  | none => exact runProgram_logged earlier sh
  | some b => exact runBuiltin_logged earlier b sh

/-- No stage sees them between its own records either. -/
lemma runReported_logged {result : Except StageFailure StageOutput}
    (h : runReported host index stage input sh = (result, left)) :
    runReported host index stage input (sh.logged earlier) = (result, left.logged earlier) := by
  obtain ⟨rfl, rfl⟩ := Prod.mk.inj h
  simp only [runReported, report_logged, runStage_logged]

/-- Stages run alike whatever records wait. -/
lemma Runs.logged {stages : List Stage} {outs : List StageOutput} {stop : Option StageFailure}
    (h : Runs host index stages input sh outs stop left) :
    Runs host index stages input (sh.logged earlier) outs stop (left.logged earlier) := by
  induction h with
  | done => exact .done _ _ _
  | completed hstage _ ih => exact .completed (runReported_logged earlier hstage) ih
  | stopped hstage => exact .stopped (runReported_logged earlier hstage)

/-- Output is written alike with earlier records. -/
lemma writeOutput_logged (r : Redirection) (bytes : ByteArray) (sh : Shell) :
    writeOutput host r bytes (sh.logged earlier) =
      ((writeOutput host r bytes sh).1, (writeOutput host r bytes sh).2.logged earlier) := by
  simp only [writeOutput, report_logged, logged_state, logged_disk]
  cases sh.state.resolve host.env r.path with
  | error e => rfl
  | ok path =>
      dsimp only
      generalize sh.report [.redirected bytes.size path] = sh'
      cases redirect r.mode sh'.disk path bytes <;> rfl

/-- So a whole pipeline comes to the same. -/
lemma execute_logged (p : Pipeline) (sh : Shell) :
    execute host p (sh.logged earlier) =
      ((execute host p sh).1, (execute host p sh).2.logged earlier) := by
  obtain ⟨outs, stop, left, hrun⟩ := exists_runs host 0 p.stages .empty sh
  have hrun' := hrun.logged earlier
  cases stop with
  | some failure => rw [execute_of_stopped hrun, execute_of_stopped hrun']
  | none =>
      rw [execute_of_completed hrun, execute_of_completed hrun', finish, finish]
      cases p.redirection with
      | none => rfl
      | some r =>
          simp only [writeOutput_logged]
          rcases writeOutput host r (Flow.start.after outs).bytes left with
            ⟨⟨path, fault⟩ | ⟨⟩, written⟩ <;> rfl

/-- A line does the same whatever records wait, and leaves them in front of its own. -/
theorem runLine_logged (host : Host) (line : String) (sh : Shell) :
    runLine host line (sh.logged earlier) =
      ((runLine host line sh).1, (runLine host line sh).2.logged earlier) := by
  cases hblank : Text.isAllBlank line with
  | true => rw [runLine_of_blank hblank, runLine_of_blank hblank]
  | false =>
      have hready : ready host line (sh.logged earlier) = (ready host line sh).logged earlier := by
        rw [ready, record_logged, report_logged]
        rfl
      cases hline : (prepare host sh line).1 with
      | error e =>
          have hline' : (prepare host (sh.logged earlier) line).1 = .error e := hline
          rw [runLine_of_rejected hblank hline, runLine_of_rejected hblank hline', hready,
            report_logged]
      | ok p =>
          have hline' : (prepare host (sh.logged earlier) line).1 = .ok p := hline
          rw [runLine_of_prepared hblank hline, runLine_of_prepared hblank hline', hready,
            execute_logged]

/-! ## Log files -/

/-- No stage opens a log file or closes one. -/
lemma logFile_runStage (sh : Shell) :
    (runStage host index stage input sh).2.logFile = sh.logFile := by
  rcases hrun : runStage host index stage input sh with ⟨failure | o, left⟩
  · cases fails_of_runStage hrun with
    | unknown | program | command => rfl
    | change _ _ hran _ =>
        rw [← hran]
        rfl
  · cases completes_of_runStage hrun with
    | program | command => rfl
    | change _ _ hran _ =>
        rw [← hran]
        rfl

/-- Neither do the stages of a run. -/
lemma Runs.logFile_eq {stages : List Stage} {outs : List StageOutput} {stop : Option StageFailure}
    (hrun : Runs host index stages input sh outs stop left) : left.logFile = sh.logFile :=
  hrun.keeps (fun mid => mid.logFile = sh.logFile) (fun _ _ h => h)
    (fun _ _ mid _ _ h => (logFile_runStage mid).trans h) rfl

/-- Writing the output opens no log file and closes none. -/
lemma logFile_writeOutput (r : Redirection) (bytes : ByteArray) (sh : Shell) :
    (writeOutput host r bytes sh).2.logFile = sh.logFile := by
  unfold writeOutput
  split
  · rfl
  · dsimp only
    split <;> rfl

/-- Neither does a whole pipeline. -/
lemma logFile_execute (p : Pipeline) (sh : Shell) :
    (execute host p sh).2.logFile = sh.logFile := by
  obtain ⟨outs, stop, left, hrun⟩ := exists_runs host 0 p.stages .empty sh
  have hleft : left.logFile = sh.logFile := hrun.logFile_eq
  cases stop with
  | some failure => rw [execute_of_stopped hrun, hleft]
  | none =>
      rw [execute_of_completed hrun, finish]
      cases p.redirection with
      | none => exact hleft
      | some r =>
          have hwritten : (writeOutput host r (Flow.start.after outs).bytes left).2.logFile = _ :=
            logFile_writeOutput r (Flow.start.after outs).bytes left
          dsimp only
          rcases hw : writeOutput host r (Flow.start.after outs).bytes left with
            ⟨⟨path, fault⟩ | ⟨⟩, written⟩ <;> rw [hw] at hwritten <;> exact hwritten.trans hleft

/-- A line opens no log file and closes none. -/
theorem logFile_runLine (host : Host) (line : String) (sh : Shell) :
    (runLine host line sh).2.logFile = sh.logFile := by
  cases hblank : Text.isAllBlank line with
  | true => rw [runLine_of_blank hblank]
  | false =>
      cases hline : (prepare host sh line).1 with
      | error e =>
          rw [runLine_of_rejected hblank hline]
          rfl
      | ok p =>
          rw [runLine_of_prepared hblank hline, logFile_execute]
          rfl

end PipeShell.Shell
