import PipeShell.Proofs.Execution.Ending

/-!
# What a result says about its run

A result is *accounted for* by a run (`Accounted`) when its texts of errors and its status are those
of the stages that completed, and its error, if it has one, is that of the stage that stopped the
run or that of the redirection behind the last stage.  What the stages came to is told by
`Shell.ComesTo`, and for a program that is what the ending of its call gives.

Every pipeline gives such a result (`accounted_of_runs`), and a line gives the result of a pipeline,
unless it is blank or no pipeline at all (`runLine_cases`).  `results_accounted` puts the two
together.
-/

namespace PipeShell

/-- The result `r` of the pipeline `p`, run by `sh`, is the one that belongs to a run in which the
stages with the outputs `outs` completed and `stop` ended it. -/
structure Accounted (host : Host) (sh : Shell) (p : Pipeline) (outs : List StageOutput)
    (stop : Option StageFailure) (r : ExecResult) : Prop where
  /-- The output of every stage that completed is what the stage came to when it began: that of its
  built-in command, or what the ending of the program that it called gives. -/
  of_completed : ∀ (i : Nat) (stage : Stage) (o : StageOutput), p.stages[i]? = some stage →
    outs[i]? = some o → ∃ input began left,
      Shell.Begins host 0 p.stages .empty sh i stage input began ∧
      Shell.ComesTo host i stage input began (.ok o) left
  /-- So is the failure that ended the run. -/
  of_stopped : ∀ failure, stop = some failure → ∃ stage input began left,
    p.stages[outs.length]? = some stage ∧
    Shell.Begins host 0 p.stages .empty sh outs.length stage input began ∧
    Shell.ComesTo host outs.length stage input began (.error failure) left
  /-- The texts of the errors are those of all stages that completed, in order. -/
  errors_eq : r.errors = errorTexts outs
  /-- Built-in commands count as zero and write no errors. -/
  of_builtin : ∀ (i : Nat) (stage : Stage) (o : StageOutput), p.stages[i]? = some stage →
    outs[i]? = some o → Builtin.isBuiltin stage.command = true → o.status = 0 ∧ o.errors = .empty
  /-- Without an error all stages have completed, and the status is that of the last one that
  failed. -/
  of_none : r.error = none → stop = none ∧ outs.length = p.length ∧ r.status = lastFailure outs
  /-- An error has one of its own statuses, and none of them is zero. -/
  status_of_some : ∀ e, r.error = some e → r.status ∈ e.statuses ∧ r.status ≠ 0
  /-- An error names the stage that stopped the pipeline and its command: the one that did not
  complete, or the last one when the output could not be written.  Only then is there output. -/
  stage_of_some : ∀ e, r.error = some e → ∃ k stage, e.stage? = some k ∧ k < p.length ∧
    p.stages[k]? = some stage ∧ e.command? = some stage.command ∧
    ((e.IsIo ∧ stop = none ∧ outs.length = p.length ∧ k = p.lastIndex) ∨
      ∃ failure, e = failure.error ∧ ¬ e.IsIo ∧ stop = some failure ∧ k = outs.length ∧
        r.output = "")
  /-- Success means no error and no failed stage. -/
  of_success : r.success = true → r.error = none ∧ ∀ o ∈ outs, o.status = 0

namespace Pipeline

/-- A pipeline has stages. -/
lemma length_pos (p : Pipeline) : 0 < p.length :=
  List.length_pos_iff.mpr p.stages_ne_nil

/-- The index of the last stage is smaller than the length. -/
lemma lastIndex_lt (p : Pipeline) : p.lastIndex < p.length :=
  Nat.sub_lt p.length_pos Nat.one_pos

/-- The last stage stands at the last index. -/
lemma getElem?_lastIndex (p : Pipeline) : p.stages[p.lastIndex]? = some p.last := by
  rw [last, ← List.getLast?_eq_some_getLast, List.getLast?_eq_getElem?]
  rfl

end Pipeline

namespace ExecResult

/-- Success means a status of zero and no error. -/
lemma success_iff (r : ExecResult) : r.success = true ↔ r.status = 0 ∧ r.error = none := by
  simp [success]

end ExecResult

namespace Shell

variable {host : Host} {p : Pipeline} {sh left : Shell} {outs : List StageOutput}

/-! ## Pipelines -/

/-- The stages of a pipeline that completed came to their outputs. -/
lemma Runs.comesTo_of_completed {stop : Option StageFailure}
    (h : Runs host 0 p.stages .empty sh outs stop left) {i : Nat} {stage : Stage} {o : StageOutput}
    (hstage : p.stages[i]? = some stage) (hout : outs[i]? = some o) :
    ∃ input began ran, Begins host 0 p.stages .empty sh i stage input began ∧
      ComesTo host i stage input began (.ok o) ran := by
  simpa using h.exists_comesTo_of_completed hstage hout

/-- The stage that stopped a pipeline came to its failure. -/
lemma Runs.comesTo_of_stopped {stop : Option StageFailure} {failure : StageFailure}
    (h : Runs host 0 p.stages .empty sh outs stop left) (hstop : stop = some failure) :
    ∃ stage input began ran, p.stages[outs.length]? = some stage ∧
      Begins host 0 p.stages .empty sh outs.length stage input began ∧
      ComesTo host outs.length stage input began (.error failure) ran := by
  simpa using h.exists_comesTo_of_stopped hstop

/-- The result of a pipeline that was stopped is accounted for. -/
lemma accounted_of_stopped {failure : StageFailure}
    (h : Runs host 0 p.stages .empty sh outs (some failure) left) :
    Accounted host sh p outs (some failure)
      ⟨"", errorTexts outs, failure.status, some failure.error⟩ := by
  obtain ⟨stage, hstage, hnames⟩ := h.names rfl
  rw [Nat.zero_add] at hnames
  refine ⟨fun _ _ _ => h.comesTo_of_completed, fun _ => h.comesTo_of_stopped, rfl,
    fun _ _ _ => h.status_of_builtin, nofun, ?_, ?_, ?_⟩
  · rintro e ⟨⟩
    exact ⟨hnames.status_mem, ExecError.ne_zero_of_mem_statuses hnames.status_mem⟩
  · rintro e ⟨⟩
    exact ⟨outs.length, stage, hnames.stage_eq, h.length_lt nofun, hstage, hnames.command_eq,
      .inr ⟨failure, rfl, hnames.not_isIo, rfl, rfl, rfl⟩⟩
  · intro hsuccess
    exact nomatch ((ExecResult.success_iff _).mp hsuccess).2

/-- The result of a pipeline whose stages all completed is accounted for, whatever became of its
output. -/
lemma accounted_of_completed (h : Runs host 0 p.stages .empty sh outs none left)
    (output : String) : Accounted host sh p outs none { completedResult outs with output } := by
  refine ⟨fun _ _ _ => h.comesTo_of_completed, nofun, rfl, fun _ _ _ => h.status_of_builtin,
    fun _ => ⟨rfl, h.length_eq rfl, rfl⟩, nofun, nofun, ?_⟩
  intro hsuccess
  exact ⟨rfl, lastFailure_eq_zero_iff.mp ((ExecResult.success_iff _).mp hsuccess).1⟩

/-- The result of a pipeline whose output could not be written is accounted for. -/
lemma accounted_of_unwritten (h : Runs host 0 p.stages .empty sh outs none left) (path : String)
    (fault : Fault) : Accounted host sh p outs none
      { completedResult outs with
          status := 1
          error := some (.io p.lastIndex p.last.command path fault) } := by
  refine ⟨fun _ _ _ => h.comesTo_of_completed, nofun, rfl, fun _ _ _ => h.status_of_builtin, nofun,
    ?_, ?_, ?_⟩
  · rintro e ⟨⟩
    exact ⟨List.mem_singleton_self 1, Nat.one_ne_zero⟩
  · rintro e ⟨⟩
    exact ⟨p.lastIndex, p.last, rfl, p.lastIndex_lt, p.getElem?_lastIndex, rfl,
      .inl ⟨trivial, rfl, h.length_eq rfl, rfl⟩⟩
  · intro hsuccess
    exact nomatch ((ExecResult.success_iff _).mp hsuccess).2

/-- The result of a pipeline is accounted for by the run of its stages. -/
theorem accounted_of_runs {stop : Option StageFailure}
    (h : Runs host 0 p.stages .empty sh outs stop left) :
    Accounted host sh p outs stop (execute host p sh).1 := by
  cases stop with
  | some failure =>
      rw [execute_of_stopped h]
      exact accounted_of_stopped h
  | none =>
      cases hr : p.redirection with
      | none =>
          rw [execute_of_shown h hr]
          exact accounted_of_completed h _
      | some r =>
          rcases hw : writeOutput host r (flowing .empty outs) left with
            ⟨⟨path, fault⟩ | ⟨⟩, written⟩
          · rw [execute_of_unwritten h hr hw]
            exact accounted_of_unwritten h path fault
          · rw [execute_of_written h hr hw]
            exact accounted_of_completed h ""

/-! ## Lines -/

/-- A line is blank, or no pipeline, or it gives the result of a pipeline. -/
lemma runLine_cases (host : Host) (line : String) (sh : Shell) :
    (Text.isAllBlank line = true ∧ (runLine host line sh).1 = .nothing) ∨
    (Text.isAllBlank line = false ∧ ∃ e, (prepare host (sh.record line) line).1 = .error e ∧
      (runLine host line sh).1 = .rejected e) ∨
    (Text.isAllBlank line = false ∧ ∃ p, (prepare host (sh.record line) line).1 = .ok p ∧
      (runLine host line sh).1 =
        (execute host p ((sh.record line).report (prepare host (sh.record line) line).2)).1) := by
  cases hblank : Text.isAllBlank line with
  | true => exact .inl ⟨rfl, by rw [runLine_of_blank hblank]⟩
  | false =>
      right
      rw [prepare_record]
      cases hp : (prepare host sh line).1 with
      | error e => exact .inl ⟨rfl, e, rfl, by rw [runLine_of_rejected hblank hp]⟩
      | ok p => exact .inr ⟨rfl, p, rfl, by rw [runLine_of_prepared hblank hp, ready]⟩

/-- Every result is accounted for.  A pipeline gives one that belongs to the run of its stages, and
each of these comes to what its built-in command or its program makes of it.  So does a line that is
a pipeline, in the shell that has recorded it; a blank line gives a success without any text, and a
line that is no pipeline the status two, its error and no text. -/
theorem results_accounted (host : Host) :
    (∀ p sh, ∃ outs stop left, Runs host 0 p.stages .empty sh outs stop left ∧
      Accounted host sh p outs stop (execute host p sh).1) ∧
    ∀ line sh,
      (Text.isAllBlank line = true ∧ (runLine host line sh).1 = ⟨"", "", 0, none⟩) ∨
      (Text.isAllBlank line = false ∧ ∃ e, (prepare host (sh.record line) line).1 = .error e ∧
        (runLine host line sh).1 = ⟨"", "", 2, some (.parse e)⟩) ∨
      (Text.isAllBlank line = false ∧ ∃ p, (prepare host (sh.record line) line).1 = .ok p ∧
        ∃ outs stop left,
          Runs host 0 p.stages .empty
            ((sh.record line).report (prepare host (sh.record line) line).2) outs stop left ∧
          Accounted host ((sh.record line).report (prepare host (sh.record line) line).2) p outs
            stop (runLine host line sh).1) := by
  have hexecute : ∀ p sh, ∃ outs stop left, Runs host 0 p.stages .empty sh outs stop left ∧
      Accounted host sh p outs stop (execute host p sh).1 := by
    intro p sh
    obtain ⟨outs, stop, left, hrun⟩ := exists_runs host 0 p.stages .empty sh
    exact ⟨outs, stop, left, hrun, accounted_of_runs hrun⟩
  refine ⟨hexecute, fun line sh => ?_⟩
  obtain hblank | hrejected | ⟨hblank, p, hp, hresult⟩ := runLine_cases host line sh
  · exact .inl hblank
  · exact .inr (.inl hrejected)
  · rw [hresult]
    exact .inr (.inr ⟨hblank, p, hp, hexecute p _⟩)

end Shell

end PipeShell
