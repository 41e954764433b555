import PipeShell.Proofs.Execution.Run
import PipeShell.Proofs.History.Operations
import PipeShell.Shell

/-!
# What becomes of a line

A line is blank, or it is no pipeline, or it is run as one.  Each of the three has its equation for
`Shell.runLine`: `runLine_of_blank`, `runLine_of_rejected` and `runLine_of_prepared`.  The stages of
a line are run in the shell `Shell.ready`, in which the line is recorded already, and
`Shell.Executes` says which of them begin, and where.

Recording a line adds it to the log and touches no part of the state (`record_history`).  Behind the
last stage nothing is done to state and history either (`keeps_of_execute`).
-/

namespace PipeShell

namespace Shell

variable {host : Host} {line : String} {sh left : Shell}

/-! ## Recording -/

/-- Recording a line adds it to the log of the history. -/
@[simp] lemma record_history (sh : Shell) (line : String) :
    (sh.record line).history = sh.history.push line :=
  sh.history.history_record sh.disk line

/-- What a line means does not depend on its being recorded. -/
lemma prepare_record (host : Host) (sh : Shell) (line : String) :
    prepare host (sh.record line) line = prepare host sh line := rfl

/-! ## Lines -/

/-- The shell that runs the stages of a line: the line is recorded and its aliases are replaced. -/
def ready (host : Host) (line : String) (sh : Shell) : Shell :=
  (sh.record line).report (prepare host sh line).2

/-- The stages of a line find the line in the log. -/
@[simp] lemma ready_history (host : Host) (line : String) (sh : Shell) :
    (ready host line sh).history = sh.history.push line := record_history sh line

/-- Nothing is done about a blank line. -/
lemma runLine_of_blank (hblank : Text.isAllBlank line = true) :
    runLine host line sh = (.nothing, sh) := by
  rw [runLine, if_pos hblank]

/-- A line that is no pipeline is recorded and reported. -/
lemma runLine_of_rejected (hblank : Text.isAllBlank line = false) {e : SyntaxError}
    (hline : (prepare host sh line).1 = .error e) :
    runLine host line sh = (.rejected e, (ready host line sh).report [.lineRejected line e]) := by
  rw [runLine, if_neg (by simp [hblank])]
  simp only [prepare_record, hline]
  rfl

/-- A line that is a pipeline is recorded and run. -/
lemma runLine_of_prepared (hblank : Text.isAllBlank line = false) {p : Pipeline}
    (hline : (prepare host sh line).1 = .ok p) :
    runLine host line sh = execute host p (ready host line sh) := by
  rw [runLine, if_neg (by simp [hblank])]
  simp only [prepare_record, hline]
  rfl

/-! ## The stages that begin -/

variable {index k : Nat} {stages : List Stage} {stage : Stage} {input input' : ByteArray}
  {began : Shell}

/-- When stages are run, the first of them at `index` and reading `input`, the stage at `k` begins,
with these bytes to read and in the shell `began`. -/
inductive Begins (host : Host) : (index : Nat) → List Stage → (input : ByteArray) → Shell →
    (k : Nat) → Stage → ByteArray → Shell → Prop
  | first {index : Nat} {stage : Stage} {rest : List Stage} {input : ByteArray} {sh : Shell} :
      Begins host index (stage :: rest) input sh index stage input
        (sh.report [.stageBegan index stage.argv])
  | later {index k : Nat} {stage stage' : Stage} {rest : List Stage} {input input' : ByteArray}
      {sh mid began : Shell} {o : StageOutput}
      (hstage : runReported host index stage input sh = (.ok o, mid))
      (hlater : Begins host (index + 1) rest o.output mid k stage' input' began) :
      Begins host index (stage :: rest) input sh k stage' input' began

/-- No stage begins before the first. -/
lemma Begins.le (h : Begins host index stages input sh k stage input' began) : index ≤ k := by
  induction h with
  | first => exact Nat.le_refl _
  | later _ _ ih => exact Nat.le_of_succ_le ih

/-- When the line is run, the stage at `k` begins. -/
def Executes (host : Host) (line : String) (sh : Shell) (k : Nat) (stage : Stage)
    (input : ByteArray) (began : Shell) : Prop :=
  Text.isAllBlank line = false ∧ ∃ p, (prepare host sh line).1 = .ok p ∧
    Begins host 0 p.stages .empty (ready host line sh) k stage input began

/-! ## Behind the last stage -/

/-- Writing the output of a pipeline touches neither the state nor the history. -/
lemma keeps_of_writeOutput (host : Host) (r : Redirection) (bytes : ByteArray) (sh : Shell) :
    (writeOutput host r bytes sh).2.state = sh.state ∧
      (writeOutput host r bytes sh).2.history = sh.history := by
  unfold writeOutput
  split
  · exact ⟨rfl, rfl⟩
  · dsimp only
    split <;> exact ⟨rfl, rfl⟩

/-- A pipeline leaves the state and the history that its stages have left. -/
lemma keeps_of_execute {p : Pipeline} {outs : List StageOutput} {stop : Option StageFailure}
    (h : Runs host 0 p.stages .empty sh outs stop left) :
    (execute host p sh).2.state = left.state ∧ (execute host p sh).2.history = left.history := by
  cases stop with
  | some failure =>
      rw [execute_of_stopped h]
      exact ⟨rfl, rfl⟩
  | none =>
      cases hr : p.redirection with
      | none =>
          rw [execute_of_shown h hr]
          exact ⟨rfl, rfl⟩
      | some r =>
          have hkeeps := keeps_of_writeOutput host r (flowing .empty outs) left
          rcases hw : writeOutput host r (flowing .empty outs) left with
            ⟨⟨path, fault⟩ | ⟨⟩, written⟩ <;> rw [hw] at hkeeps
          · rw [execute_of_unwritten h hr hw]
            exact hkeeps
          · rw [execute_of_written h hr hw]
            exact hkeeps

end Shell

end PipeShell
