import PipeShell.Proofs.Builtin.Change
import PipeShell.Proofs.Execution.Failure
import PipeShell.Proofs.State.Change

/-!
# How a stage completes, and what it does to the state

`Shell.Completes` lists the ways in which a stage can complete, as `Shell.Fails` does for failures:
a program gave output, a built-in command asked for nothing, or it asked for a change that was
accepted.

However a stage comes out, the state that it leaves is the state of before, or it comes from that by
a change that the built-in command of the stage asked for (`altered_of_runStage`).
-/

namespace PipeShell.Shell

variable {host : Host} {index : Nat} {stage : Stage} {input : ByteArray} {sh left : Shell}
  {o : StageOutput} {result : Except StageFailure StageOutput}

/-- The ways in which the stage at `index` can complete, and the shell that it then leaves. -/
inductive Completes (host : Host) (index : Nat) (stage : Stage) (input : ByteArray) (sh : Shell) :
    Shell → Prop
  /-- A program was found and gave output. -/
  | program {program : String} {launched : Program.Launched}
      (hname : Builtin.ofName? stage.command = none)
      (hfind : Program.find host.env sh.disk sh.state stage.command = some program)
      (hlaunched : Program.launch host sh.state
        (sh.report [.programBegan stage.command program stage.args.length]).disk program
        stage.command stage.args input = launched) :
      Completes host index stage input sh
        ({ sh.report [.programBegan stage.command program stage.args.length] with
            disk := launched.disk }.report launched.events)
  /-- The built-in command asked for nothing. -/
  | command {b : Builtin} (hname : Builtin.ofName? stage.command = some b)
      (hrun : (b.run (sh.view host input) stage.args).result = .ok none) :
      Completes host index stage input sh (sh.after (b.run (sh.view host input) stage.args))
  /-- The built-in command asked for a change of state that was accepted. -/
  | change {b : Builtin} {asked : Change} {ran : Shell} {state : ShellState}
      (hname : Builtin.ofName? stage.command = some b)
      (hrun : (b.run (sh.view host input) stage.args).result = .ok (some asked))
      (hran : (sh.after (b.run (sh.view host input) stage.args)).report
        [.changeRequested stage.command asked] = ran)
      (haccepted : sh.state.apply ran.disk asked = (state, none)) :
      Completes host index stage input sh { ran with state }

/-- A stage that completes does so in one of the ways of `Completes`. -/
theorem completes_of_runStage (h : runStage host index stage input sh = (.ok o, left)) :
    Completes host index stage input sh left := by
  unfold runStage at h
  cases hname : Builtin.ofName? stage.command with
  | none =>
      simp only [hname, runProgram] at h
      cases hfind : Program.find host.env sh.disk sh.state stage.command with
      | none => simp [hfind] at h
      | some program =>
          simp only [hfind, report_state, Prod.mk.injEq] at h
          obtain ⟨-, rfl⟩ := h
          exact .program hname hfind rfl
  | some b =>
      simp only [hname, runBuiltin] at h
      rcases hrun : (b.run (sh.view host input) stage.args).result with e | (_ | asked)
      · simp [hrun] at h
      · simp only [hrun, Prod.mk.injEq] at h
        obtain ⟨-, rfl⟩ := h
        exact .command hname hrun
      · simp only [hrun] at h
        split at h
        · next state haccepted =>
          simp only [Prod.mk.injEq] at h
          obtain ⟨-, rfl⟩ := h
          exact .change hname hrun rfl haccepted
        · simp at h

/-! ## The state -/

/-- What a stage can do to the state: nothing, or what comes of a change that its command asked for.
The change is refused if and only if that is why the stage fails. -/
inductive Altered (host : Host) (stage : Stage) (input : ByteArray) (sh : Shell) :
    Except StageFailure StageOutput → Shell → Prop
  | not {result : Except StageFailure StageOutput} {left : Shell} (hstate : left.state = sh.state) :
      Altered host stage input sh result left
  | changed {b : Builtin} {asked : Change} {refusal : Option StateError} {left : Shell}
      {result : Except StageFailure StageOutput}
      (hname : Builtin.ofName? stage.command = some b)
      (hasks : b.Asks (sh.view host input) stage.args asked)
      (happlied : sh.state.Applied left.disk asked left.state refusal)
      (hresult : result.isOk = refusal.isNone) : Altered host stage input sh result left

/-- A stage does nothing else to the state. -/
theorem altered_of_runStage (h : runStage host index stage input sh = (result, left)) :
    Altered host stage input sh result left := by
  cases result with
  | error failure =>
      cases fails_of_runStage h with
      | unknown | program | command => exact .not rfl
      | change hname hrun _ hrefused =>
          exact .changed hname (Builtin.asks_of_run hrun)
            (ShellState.applied_of_apply hrefused) rfl
  | ok o =>
      cases completes_of_runStage h with
      | program | command => exact .not rfl
      | change hname hrun _ haccepted =>
          exact .changed hname (Builtin.asks_of_run hrun)
            (ShellState.applied_of_apply haccepted) rfl

/-! ## Runs -/

section Keeps

variable {stages : List Stage} {outs : List StageOutput} {stop : Option StageFailure}
  (Inv : Shell → Prop)

/-- What reporting and the stage keep, the stage keeps between its records. -/
lemma keeps_of_runReported (hreport : ∀ sh events, Inv sh → Inv (sh.report events))
    (hstage : ∀ sh, Inv sh → Inv (runStage host index stage input sh).2)
    (h : runReported host index stage input sh = (result, left)) (hsh : Inv sh) : Inv left := by
  obtain ⟨-, rfl⟩ := Prod.mk.inj h
  exact hreport _ _ (hstage _ (hreport _ _ hsh))

/-- What reporting keeps and each of the stages, the run of them keeps. -/
theorem Runs.keeps (hreport : ∀ sh events, Inv sh → Inv (sh.report events))
    (hstage : ∀ index input sh, ∀ stage ∈ stages, Inv sh →
      Inv (runStage host index stage input sh).2)
    (h : Runs host index stages input sh outs stop left) (hsh : Inv sh) : Inv left := by
  induction h with
  | done => exact hsh
  | completed hrun _ ih =>
      have hmid := keeps_of_runReported Inv hreport
        (fun sh => hstage _ _ sh _ List.mem_cons_self) hrun hsh
      refine ih (fun index input sh stage hmem => ?_) hmid
      exact hstage index input sh stage (List.mem_cons_of_mem _ hmem)
  | stopped hrun =>
      exact keeps_of_runReported Inv hreport (fun sh => hstage _ _ sh _ List.mem_cons_self) hrun hsh

end Keeps

end PipeShell.Shell
