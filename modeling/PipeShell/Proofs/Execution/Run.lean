import PipeShell.Execution
import Mathlib.Tactic.Common

/-!
# Runs of stages

`Shell.Runs` tells without accounts what happens to the stages of a pipeline: one after the other
they hand on their outputs, until none is left or one fails.  It keeps the outputs of the stages
that completed, the failure that stopped the run, if any, and the shell that is left.

Every list of stages has a run (`exists_runs`), and `Shell.runStages` computes it, with its status
and its texts as functions of the outputs (`runStages_eq_of_runs`).  Hence so does
`Shell.execute`: `execute_of_stopped` for a run that was stopped, and for one that was not
`execute_of_shown`, `execute_of_written` and `execute_of_unwritten`.

Runs are joined by `Runs.append`, and `Runs.exists_stopping` takes a stopped one apart again, at the
stage that failed.
-/

namespace PipeShell

/-! ## What stages handed on -/

/-- The bytes that flow on after some stages, `input` where there was none. -/
def flowing (input : ByteArray) (outs : List StageOutput) : ByteArray :=
  (outs.getLast?.map StageOutput.output).getD input

/-- The texts of the error streams of some stages, in order. -/
def errorTexts (outs : List StageOutput) : String :=
  String.join (outs.map fun o => Text.decodeLossy o.errors)

/-- The status of the last stage that did not succeed; zero where all did. -/
def lastFailure (outs : List StageOutput) : Nat :=
  ((outs.map StageOutput.status).filter (· ≠ 0)).getLast?.getD 0

/-- What flows on after several stages does not depend on what went into the first. -/
lemma flowing_cons (input : ByteArray) (o : StageOutput) (outs : List StageOutput) :
    flowing input (o :: outs) = flowing o.output outs := by
  cases outs with
  | nil => rfl
  | cons o' outs => simp [flowing, List.getLast?_cons]

/-- The status is zero exactly if no stage failed. -/
lemma lastFailure_eq_zero_iff {outs : List StageOutput} :
    lastFailure outs = 0 ↔ ∀ o ∈ outs, o.status = 0 := by
  constructor
  · intro h o ho
    by_contra hne
    have hmem : o.status ∈ (outs.map StageOutput.status).filter (· ≠ 0) := by
      simpa using ⟨⟨o, ho, rfl⟩, hne⟩
    obtain ⟨s, hs⟩ := Option.isSome_iff_exists.mp
      (List.getLast?_isSome.mpr (List.ne_nil_of_mem hmem))
    have hs' := List.mem_of_getLast? hs
    rw [lastFailure, hs, Option.getD_some] at h
    simp [h] at hs'
  · intro h
    have hnil : (outs.map StageOutput.status).filter (· ≠ 0) = [] := by
      simpa [List.filter_eq_nil_iff] using h
    rw [lastFailure, hnil]
    rfl

namespace Flow

/-- The flow after some stages. -/
def after (f : Flow) (outs : List StageOutput) : Flow := outs.foldl next f

/-- The flow after several stages is that of the rest, begun with the flow after the first. -/
lemma after_cons (f : Flow) (o : StageOutput) (outs : List StageOutput) :
    f.after (o :: outs) = (f.next o).after outs := rfl

/-- Its bytes are those that flow on. -/
@[simp] lemma bytes_after (f : Flow) (outs : List StageOutput) :
    (f.after outs).bytes = flowing f.bytes outs := by
  induction outs generalizing f with
  | nil => rfl
  | cons o outs ih => rw [after_cons, ih, flowing_cons]; rfl

/-- Its texts of errors are those of all the stages, behind the ones from before. -/
@[simp] lemma errors_after (f : Flow) (outs : List StageOutput) :
    (f.after outs).errors = f.errors ++ errorTexts outs := by
  induction outs generalizing f with
  | nil => simp [after, errorTexts]
  | cons o outs ih =>
      rw [after_cons, ih]
      simp [next, errorTexts, String.append_assoc]

/-- Its status is that of the last stage that failed, or the one from before. -/
lemma status_after (f : Flow) (outs : List StageOutput) :
    (f.after outs).status =
      ((outs.map StageOutput.status).filter (· ≠ 0)).getLast?.getD f.status := by
  induction outs generalizing f with
  | nil => rfl
  | cons o outs ih =>
      rw [after_cons, ih, List.map_cons]
      by_cases ho : o.status = 0
      · simp [next, ho]
      · rw [List.filter_cons_of_pos (by simpa using ho), List.getLast?_cons]
        simp [next, ho]

end Flow

namespace Shell

/-! ## The relation

A stage is run between two records, so the shell that the next stage starts from has both.  The log
file may stand on the disk, and then these records are a part of what a stage can read. -/

variable {host : Host}

/-- Runs the stage at `index` between the records of its beginning and its end. -/
def runReported (host : Host) (index : Nat) (stage : Stage) (input : ByteArray) (sh : Shell) :
    Except StageFailure StageOutput × Shell :=
  let ran := runStage host index stage input (sh.report [.stageBegan index stage.argv])
  (ran.1, ran.2.report (stageEvents index ran.1))

/-- The run of stages, the first of them at `index` and reading `input`: the outputs of those that
completed, what stopped the run before its end, and the shell that is left. -/
inductive Runs (host : Host) : (index : Nat) → List Stage → (input : ByteArray) → Shell →
    List StageOutput → Option StageFailure → Shell → Prop
  | done (index : Nat) (input : ByteArray) (sh : Shell) :
      Runs host index [] input sh [] none sh
  | completed {index : Nat} {stage : Stage} {rest : List Stage} {input : ByteArray}
      {sh mid left : Shell} {o : StageOutput} {outs : List StageOutput}
      {stop : Option StageFailure}
      (hstage : runReported host index stage input sh = (.ok o, mid))
      (hrest : Runs host (index + 1) rest o.output mid outs stop left) :
      Runs host index (stage :: rest) input sh (o :: outs) stop left
  | stopped {index : Nat} {stage : Stage} {rest : List Stage} {input : ByteArray}
      {sh left : Shell} {failure : StageFailure}
      (hstage : runReported host index stage input sh = (.error failure, left)) :
      Runs host index (stage :: rest) input sh [] (some failure) left

/-- Stages always run to some end. -/
theorem exists_runs (host : Host) (index : Nat) (stages : List Stage) (input : ByteArray)
    (sh : Shell) : ∃ outs stop left, Runs host index stages input sh outs stop left := by
  induction stages generalizing index input sh with
  | nil => exact ⟨[], none, sh, .done index input sh⟩
  | cons stage rest ih =>
      rcases hstage : runReported host index stage input sh with ⟨failure | o, mid⟩
      · exact ⟨[], some failure, mid, .stopped hstage⟩
      · obtain ⟨outs, stop, left, hrest⟩ := ih (index + 1) o.output mid
        exact ⟨o :: outs, stop, left, .completed hstage hrest⟩

variable {index : Nat} {stages : List Stage} {input : ByteArray} {sh left : Shell}
  {outs : List StageOutput}

/-- All stages of a run that was not stopped have completed. -/
lemma Runs.length_eq {stop : Option StageFailure}
    (h : Runs host index stages input sh outs stop left) (hstop : stop = none) :
    outs.length = stages.length := by
  induction h with
  | done => rfl
  | completed _ _ ih => rw [List.length_cons, List.length_cons, ih hstop]
  | stopped => cases hstop

/-- A run is stopped at one of its stages. -/
lemma Runs.length_lt {stop : Option StageFailure}
    (h : Runs host index stages input sh outs stop left) (hstop : stop ≠ none) :
    outs.length < stages.length := by
  induction h with
  | done => exact absurd rfl hstop
  | completed _ _ ih => exact Nat.succ_lt_succ (ih hstop)
  | stopped => exact Nat.succ_pos _

/-- A run whose stages all completed goes on with the stages behind them. -/
theorem Runs.append {before rest : List Stage} {mid : Shell} {outs' : List StageOutput}
    {stop stop' : Option StageFailure} (h : Runs host index before input sh outs stop mid)
    (hstop : stop = none)
    (hrest : Runs host (index + outs.length) rest (flowing input outs) mid outs' stop' left) :
    Runs host index (before ++ rest) input sh (outs ++ outs') stop' left := by
  induction h with
  | done => exact hrest
  | completed hstage _ ih =>
      refine .completed hstage (ih hstop ?_)
      rw [List.length_cons, Nat.add_comm _ 1, ← Nat.add_assoc, flowing_cons] at hrest
      exact hrest
  | stopped => cases hstop

/-- A run that was stopped has come through all stages before the one that failed. -/
theorem Runs.exists_stopping {stop : Option StageFailure} {failure : StageFailure}
    (h : Runs host index stages input sh outs stop left) (hstop : stop = some failure) :
    ∃ before stage rest mid, stages = before ++ stage :: rest ∧
      Runs host index before input sh outs none mid ∧
      runReported host (index + outs.length) stage (flowing input outs) mid =
        (.error failure, left) := by
  induction h with
  | done => cases hstop
  | completed hstage _ ih =>
      obtain ⟨before, stage, rest, mid, rfl, hbefore, hfail⟩ := ih hstop
      refine ⟨_ :: before, stage, rest, mid, rfl, .completed hstage hbefore, ?_⟩
      rw [List.length_cons, Nat.add_comm _ 1, ← Nat.add_assoc, flowing_cons]
      exact hfail
  | stopped hstage =>
      cases hstop
      exact ⟨[], _, _, _, rfl, .done _ _ _, hstage⟩

/-! ## The runs that `runStages` computes -/

/-- What is known when the stages have run: the flow, and what stopped them. -/
def outcome (f : Flow) : Option StageFailure → Except (Flow × StageFailure) Flow
  | none => .ok f
  | some failure => .error (f, failure)

/-- A stage that completes is followed by the others. -/
lemma runStages_cons_of_ok {stage : Stage} {rest : List Stage} {f : Flow} {mid : Shell}
    {o : StageOutput} (h : runReported host index stage f.bytes sh = (.ok o, mid)) :
    runStages host index (stage :: rest) f sh = runStages host (index + 1) rest (f.next o) mid := by
  obtain ⟨hok, rfl⟩ := Prod.mk.inj h
  simp only [runStages, hok]

/-- A stage that fails is the last. -/
lemma runStages_cons_of_error {stage : Stage} {rest : List Stage} {f : Flow}
    {failure : StageFailure}
    (h : runReported host index stage f.bytes sh = (.error failure, left)) :
    runStages host index (stage :: rest) f sh = (.error (f, failure), left) := by
  obtain ⟨herror, rfl⟩ := Prod.mk.inj h
  simp only [runStages, herror]

/-- `runStages` computes the run of the stages and keeps its accounts. -/
theorem runStages_eq_of_runs {stop : Option StageFailure} {f : Flow}
    (h : Runs host index stages input sh outs stop left) (hf : f.bytes = input) :
    runStages host index stages f sh = (outcome (f.after outs) stop, left) := by
  induction h generalizing f with
  | done => rfl
  | completed hstage _ ih =>
      subst hf
      rw [runStages_cons_of_ok hstage, ih rfl, Flow.after_cons]
  | stopped hstage =>
      subst hf
      exact runStages_cons_of_error hstage

/-- The result and the shell of a pipeline that was stopped. -/
theorem execute_of_stopped {p : Pipeline} {failure : StageFailure}
    (h : Runs host 0 p.stages .empty sh outs (some failure) left) :
    execute host p sh = (⟨"", errorTexts outs, failure.status, some failure.error⟩, left) := by
  rw [execute, runStages_eq_of_runs h rfl]
  simp [outcome, Flow.start]

/-! ## Runs that were not stopped -/

/-- What a pipeline whose stages all completed comes to when its output goes to the user. -/
def completedResult (outs : List StageOutput) : ExecResult :=
  ⟨Text.decodeLossy (flowing .empty outs), errorTexts outs, lastFailure outs, none⟩

/-- What is shown at the end is the result of the completed stages. -/
lemma shown_after_start (outs : List StageOutput) :
    shown (Flow.start.after outs) = completedResult outs := by
  rw [shown, Flow.bytes_after, Flow.errors_after, Flow.status_after]
  simp [completedResult, Flow.start, lastFailure]

variable {p : Pipeline}

/-- When all stages have completed, what is left to do is the redirection. -/
lemma execute_of_completed (h : Runs host 0 p.stages .empty sh outs none left) :
    execute host p sh = finish host p (Flow.start.after outs) left := by
  rw [execute, runStages_eq_of_runs h rfl]
  rfl

/-- All stages have completed and there is no redirection: the output goes to the user. -/
theorem execute_of_shown (h : Runs host 0 p.stages .empty sh outs none left)
    (hnone : p.redirection = none) : execute host p sh = (completedResult outs, left) := by
  rw [execute_of_completed h, finish, hnone, ← shown_after_start]

variable {r : Redirection} {written : Shell}

/-- All stages have completed and their output was written to the target. -/
theorem execute_of_written (h : Runs host 0 p.stages .empty sh outs none left)
    (hr : p.redirection = some r)
    (hw : writeOutput host r (flowing .empty outs) left = (.ok (), written)) :
    execute host p sh = ({ completedResult outs with output := "" }, written) := by
  have hw' : writeOutput host r (Flow.start.after outs).bytes left = (.ok (), written) := by
    rw [Flow.bytes_after]
    exact hw
  rw [execute_of_completed h, finish, hr, ← shown_after_start]
  simp only [hw']

/-- All stages have completed but their output could not be written to the target. -/
theorem execute_of_unwritten {path : String} {fault : Fault}
    (h : Runs host 0 p.stages .empty sh outs none left) (hr : p.redirection = some r)
    (hw : writeOutput host r (flowing .empty outs) left = (.error (path, fault), written)) :
    execute host p sh =
      ({ completedResult outs with
          status := 1
          error := some (.io p.lastIndex p.last.command path fault) }, written) := by
  have hw' : writeOutput host r (Flow.start.after outs).bytes left =
      (.error (path, fault), written) := by
    rw [Flow.bytes_after]
    exact hw
  rw [execute_of_completed h, finish, hr, ← shown_after_start]
  simp only [hw']

/-! ## A small shell -/

/-- A host without variables, on which no program can be started. -/
def bareHost : Host := ⟨⟨∅⟩, fun _ disk => (.notStarted .notFound, disk), none⟩

/-- A new shell at the root of a disk. -/
def newShell (disk : Disk) : Shell := ⟨⟨"/", .empty, ∅, none⟩, .inMemory, disk, none, []⟩

/-- The stage of a command whose words are written without quotes. -/
def plainStage (command : String) (args : List String) : Stage :=
  ⟨.word command false, args.map (.word · false)⟩

end Shell

end PipeShell
