import PipeShell.Proofs.Execution.Run

/-!
# How a stage ends

`Shell.Fails` lists the ways in which a stage can fail, each with the failure it comes to and the
shell it leaves: there is no such command, the program gave no output, the built-in command failed,
or the change it asked for was refused.  There is no other way (`fails_of_runStage`).  Whichever it
was, the failure names its stage and command and has a status that belongs to its error
(`Fails.names`).

A built-in command that does not fail has the status zero and writes no errors
(`status_of_builtin`).  What stopped a run is a failure like that as well (`Runs.names`).
-/

namespace PipeShell

/-- The statuses that go with an error. -/
def ExecError.statuses : ExecError → List Nat
  | parse _ => [2]
  | notFound _ _ none => [127]
  | notFound _ _ (some _) => [1]
  | execution _ _ _ => [1, 124, 126]
  | io _ _ _ _ => [1]

/-- None of the statuses of an error is zero. -/
lemma ExecError.ne_zero_of_mem_statuses {e : ExecError} {s : Nat} (h : s ∈ e.statuses) :
    s ≠ 0 := by
  unfold statuses at h
  split at h <;> simp at h <;> omega

/-- The error is that the output could not be written. -/
def ExecError.IsIo : ExecError → Prop
  | io _ _ _ _ => True
  | _ => False

namespace StageFailure

/-- The failure names the stage at `index` and its command, and its status belongs to its error. -/
structure Names (failure : StageFailure) (index : Nat) (name : String) : Prop where
  stage_eq : failure.error.stage? = some index
  command_eq : failure.error.command? = some name
  status_mem : failure.status ∈ failure.error.statuses
  not_isIo : ¬ failure.error.IsIo

/-- The failure about a missing command names its stage. -/
lemma names_noCommand (index : Nat) (name : String) : (noCommand index name).Names index name :=
  ⟨rfl, rfl, List.mem_singleton_self 127, id⟩

/-- So does the failure of a built-in command. -/
lemma names_ofCommand (index : Nat) (name : String) (e : CommandError) :
    (ofCommand index name e).Names index name := by
  cases e with
  | notFound target => exact ⟨rfl, rfl, List.mem_singleton_self 1, id⟩
  | invalidArguments | failed | io | history => exact ⟨rfl, rfl, List.mem_cons_self, id⟩

/-- So does the failure of a program, whatever the program failed at. -/
lemma names_ofProgram (index : Nat) (name : String) (e : ProgramError) :
    (ofProgram index name e).Names index name := by
  cases e with
  | notFound => exact names_noCommand index name
  | cannotRun | io | timedOut | other =>
      refine ⟨rfl, rfl, ?_, id⟩
      simp [ofProgram, ProgramError.status, ExecError.statuses]

end StageFailure

namespace Shell

variable {host : Host} {index : Nat} {stage : Stage} {input : ByteArray} {sh left : Shell}
  {failure : StageFailure}

/-- The ways in which the stage at `index` can fail, and the shell that it then leaves. -/
inductive Fails (host : Host) (index : Nat) (stage : Stage) (input : ByteArray) (sh : Shell) :
    StageFailure → Shell → Prop
  /-- The name is no built-in command, and no program is found under it. -/
  | unknown (hname : Builtin.ofName? stage.command = none)
      (hfind : Program.find host.env sh.disk sh.state stage.command = none) :
      Fails host index stage input sh (.noCommand index stage.command) sh
  /-- A program was found but gave no output. -/
  | program {program : String} {e : ProgramError} {launched : Program.Launched}
      (hname : Builtin.ofName? stage.command = none)
      (hfind : Program.find host.env sh.disk sh.state stage.command = some program)
      (hlaunched : Program.launch host sh.state
        (sh.report [.programBegan stage.command program stage.args.length]).disk program
        stage.command stage.args input = launched)
      (hrun : launched.result = .error e) :
      Fails host index stage input sh (.ofProgram index stage.command e)
        ({ sh.report [.programBegan stage.command program stage.args.length] with
            disk := launched.disk }.report launched.events)
  /-- The built-in command failed. -/
  | command {b : Builtin} {e : CommandError} (hname : Builtin.ofName? stage.command = some b)
      (hrun : (b.run (sh.view host input) stage.args).result = .error e) :
      Fails host index stage input sh (.ofCommand index stage.command e)
        (sh.after (b.run (sh.view host input) stage.args))
  /-- The built-in command asked for a change of state that was refused. -/
  | change {b : Builtin} {asked : Change} {e : StateError} {ran : Shell} {state : ShellState}
      (hname : Builtin.ofName? stage.command = some b)
      (hrun : (b.run (sh.view host input) stage.args).result = .ok (some asked))
      (hran : (sh.after (b.run (sh.view host input) stage.args)).report
        [.changeRequested stage.command asked] = ran)
      (hrefused : sh.state.apply ran.disk asked = (state, some e)) :
      Fails host index stage input sh (.ofCommand index stage.command (.ofStateError e))
        { ran with state }

/-- A stage that fails does so in one of the ways of `Fails`. -/
theorem fails_of_runStage (h : runStage host index stage input sh = (.error failure, left)) :
    Fails host index stage input sh failure left := by
  unfold runStage at h
  cases hname : Builtin.ofName? stage.command with
  | none =>
      simp only [hname, runProgram] at h
      cases hfind : Program.find host.env sh.disk sh.state stage.command with
      | none =>
          simp only [hfind, Prod.mk.injEq, Except.error.injEq] at h
          obtain ⟨rfl, rfl⟩ := h
          exact .unknown hname hfind
      | some program =>
          simp only [hfind, report_state, Prod.mk.injEq] at h
          obtain ⟨hresult, rfl⟩ := h
          generalize hlaunched : Program.launch host sh.state
            (sh.report [.programBegan stage.command program stage.args.length]).disk program
            stage.command stage.args input = launched at hresult ⊢
          cases hrun : launched.result with
          | ok o => simp [hrun, Except.mapError] at hresult
          | error e =>
              simp only [hrun, Except.mapError, Except.error.injEq] at hresult
              exact hresult ▸ .program hname hfind hlaunched hrun
  | some b =>
      simp only [hname, runBuiltin] at h
      rcases hrun : (b.run (sh.view host input) stage.args).result with e | (_ | asked)
      · simp only [hrun, Prod.mk.injEq, Except.error.injEq] at h
        obtain ⟨rfl, rfl⟩ := h
        exact .command hname hrun
      · simp [hrun] at h
      · simp only [hrun] at h
        split at h
        · simp at h
        · next state e hrefused =>
          simp only [Prod.mk.injEq, Except.error.injEq] at h
          obtain ⟨rfl, rfl⟩ := h
          exact .change hname hrun rfl hrefused

/-- A failure of a stage names the stage. -/
theorem Fails.names (h : Fails host index stage input sh failure left) :
    failure.Names index stage.command := by
  cases h with
  | unknown => exact StageFailure.names_noCommand _ _
  | program => exact StageFailure.names_ofProgram _ _ _
  | command => exact StageFailure.names_ofCommand _ _ _
  | change => exact StageFailure.names_ofCommand _ _ _

/-- A built-in command that completes has the status zero and writes no errors. -/
lemma status_of_builtin {o : StageOutput} (hname : Builtin.isBuiltin stage.command = true)
    (h : (runStage host index stage input sh).1 = .ok o) : o.status = 0 ∧ o.errors = .empty := by
  obtain ⟨b, hb⟩ := Option.isSome_iff_exists.mp hname
  simp only [runStage, hb, runBuiltin] at h
  split at h
  · cases h
  · cases h
    exact ⟨rfl, rfl⟩
  · split at h
    · cases h
      exact ⟨rfl, rfl⟩
    · cases h

/-! ## The stages of a run -/

variable {stages : List Stage} {outs : List StageOutput}

/-- What a stage does between its records it does without them. -/
lemma runStage_of_runReported {result : Except StageFailure StageOutput}
    (h : runReported host index stage input sh = (result, left)) :
    ∃ ran, runStage host index stage input (sh.report [.stageBegan index stage.argv]) =
        (result, ran) ∧ left = ran.report (stageEvents index result) := by
  obtain ⟨rfl, rfl⟩ := Prod.mk.inj h
  exact ⟨_, rfl, rfl⟩

/-- A built-in command that completes between its records has the status zero and writes no
errors. -/
lemma status_of_reported_builtin {o : StageOutput}
    (hname : Builtin.isBuiltin stage.command = true)
    (h : runReported host index stage input sh = (.ok o, left)) :
    o.status = 0 ∧ o.errors = .empty := by
  obtain ⟨ran, hran, -⟩ := runStage_of_runReported h
  exact status_of_builtin hname (congrArg Prod.fst hran)

/-- A stage that failed between its records did so in one of the ways of `Fails`. -/
lemma fails_of_runReported (h : runReported host index stage input sh = (.error failure, left)) :
    ∃ ran, Fails host index stage input (sh.report [.stageBegan index stage.argv]) failure ran ∧
      left = ran.report [.stageFailed index failure.error.message] := by
  obtain ⟨ran, hran, hleft⟩ := runStage_of_runReported h
  exact ⟨ran, fails_of_runStage hran, hleft⟩

/-- What stopped a run is the failure of the stage behind those that completed. -/
theorem Runs.names {stop : Option StageFailure}
    (h : Runs host index stages input sh outs stop left) (hstop : stop = some failure) :
    ∃ stage, stages[outs.length]? = some stage ∧
      failure.Names (index + outs.length) stage.command := by
  obtain ⟨before, stage, rest, mid, rfl, hbefore, hfail⟩ := h.exists_stopping hstop
  obtain ⟨ran, hfails, -⟩ := fails_of_runReported hfail
  refine ⟨stage, ?_, hfails.names⟩
  simp [hbefore.length_eq rfl]

end Shell

end PipeShell
