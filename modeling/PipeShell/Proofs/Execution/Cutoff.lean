import PipeShell.Proofs.Execution.Failure

/-!
# A failing stage ends the pipeline

`execute_cut_off` is about two pipelines that begin with the same stages, the last of which is the
first to fail.  Whatever stages follow it and whatever redirections the pipelines have, they come to
the same result and leave the same shell: its state, its history, its disk and its log.  That shell
is what the failing stage made of the one that the stages before it left (`Shell.Fails`).
-/

namespace PipeShell.Shell

variable {host : Host} {before : List Stage} {stage : Stage} {sh mid left : Shell}
  {outs : List StageOutput} {failure : StageFailure}

/-- The run of a pipeline in which the stage behind `before` fails. -/
lemma runs_of_fail {after : List Stage} (hbefore : Runs host 0 before .empty sh outs none mid)
    (hfail : runReported host before.length stage (flowing .empty outs) mid =
      (.error failure, left)) :
    Runs host 0 (before ++ stage :: after) .empty sh outs (some failure) left := by
  have hstopped : Runs host (0 + outs.length) (stage :: after) (flowing .empty outs) mid []
      (some failure) left := by
    rw [Nat.zero_add, hbefore.length_eq rfl]
    exact .stopped hfail
  simpa using hbefore.append rfl hstopped

/-- Pipelines that agree up to the first stage that fails come to the same result and leave the same
shell, the one that the failing stage left. -/
theorem execute_cut_off {p q : Pipeline} {afterP afterQ : List Stage}
    (hp : p.stages = before ++ stage :: afterP) (hq : q.stages = before ++ stage :: afterQ)
    (hbefore : Runs host 0 before .empty sh outs none mid)
    (hfail : runReported host before.length stage (flowing .empty outs) mid =
      (.error failure, left)) :
    execute host p sh = (⟨"", errorTexts outs, failure.status, some failure.error⟩, left) ∧
    execute host q sh = (⟨"", errorTexts outs, failure.status, some failure.error⟩, left) ∧
    ∃ ran, Fails host before.length stage (flowing .empty outs)
        (mid.report [.stageBegan before.length stage.argv]) failure ran ∧
      left = ran.report [.stageFailed before.length failure.error.message] := by
  have hrunP : Runs host 0 p.stages .empty sh outs (some failure) left := by
    rw [hp]
    exact runs_of_fail hbefore hfail
  have hrunQ : Runs host 0 q.stages .empty sh outs (some failure) left := by
    rw [hq]
    exact runs_of_fail hbefore hfail
  exact ⟨execute_of_stopped hrunP, execute_of_stopped hrunQ, fails_of_runReported hfail⟩

/-! ## A missing command behind a change of variables -/

/-- `export A=1 | nope | echo hi > f` and `export A=1 | nope` come to the same: the variable is
set, and that is all. -/
theorem execute_cut_off_at_missing_command :
    ∃ left,
      execute bareHost
          ⟨[plainStage "export" ["A=1"], plainStage "nope" [], plainStage "echo" ["hi"]],
            some ⟨"f", .overwrite⟩, List.cons_ne_nil _ _⟩ (newShell (.empty [])) =
        (⟨"", "", 127, some (.notFound 1 "nope" none)⟩, left) ∧
      execute bareHost
          ⟨[plainStage "export" ["A=1"], plainStage "nope" []], none, List.cons_ne_nil _ _⟩
          (newShell (.empty [])) =
        (⟨"", "", 127, some (.notFound 1 "nope" none)⟩, left) ∧
      left.state.var? bareHost.env "A" = some "1" ∧ left.disk = .empty [] := by
  have hbefore : Runs bareHost 0 [plainStage "export" ["A=1"]] .empty (newShell (.empty []))
      [⟨.empty, .empty, 0⟩] none
      (runReported bareHost 0 (plainStage "export" ["A=1"]) .empty (newShell (.empty []))).2 :=
    .completed rfl (.done _ _ _)
  have herrors : errorTexts [⟨.empty, .empty, 0⟩] = "" := by simp [errorTexts]
  have h := execute_cut_off
    (p := ⟨[plainStage "export" ["A=1"], plainStage "nope" [], plainStage "echo" ["hi"]],
      some ⟨"f", .overwrite⟩, List.cons_ne_nil _ _⟩)
    (q := ⟨[plainStage "export" ["A=1"], plainStage "nope" []], none, List.cons_ne_nil _ _⟩)
    rfl rfl hbefore (show _ = (Except.error (.noCommand 1 "nope"), _) from rfl)
  rw [herrors] at h
  exact ⟨_, h.1, h.2.1, rfl, rfl⟩

end PipeShell.Shell
