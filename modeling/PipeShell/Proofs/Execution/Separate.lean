import PipeShell.Proofs.Builtin.Input
import PipeShell.Proofs.Execution.Accounting
import PipeShell.Proofs.Execution.Single

/-!
# Built-in commands in a pipeline and on their own

A pipeline of built-in commands does what its stages do as pipelines of one stage, one after the
other (`executeEach`): a pipe carries nothing but text, and no built-in command acts on the text
that is piped into it (`Builtin.run_withInput`).

The two are followed side by side.  A stage that runs in shells with the same state, history and
disk ends in the same way in both, whatever its index and its input are (`runReported_sameWorld`).
By induction on the run of the pipeline so do all its stages, up to the first that fails
(`executeEach_of_completed`, `executeEach_of_stopped`).

Log records name the index of their stage, so the shells here write to no log file.
-/

namespace PipeShell

namespace ExecError

/-- The same error at another stage. -/
def atStage (k : Nat) : ExecError → ExecError
  | parse e => parse e
  | notFound _ command target => notFound k command target
  | execution _ command text => execution k command text
  | io _ command path fault => io k command path fault

end ExecError

namespace StageFailure

/-- The same failure at another stage. -/
def atStage (k : Nat) (failure : StageFailure) : StageFailure :=
  ⟨failure.status, failure.error.atStage k⟩

/-- The failure of a built-in command at another stage is the same, but for the index. -/
lemma ofCommand_atStage (i k : Nat) (name : String) (e : CommandError) :
    (ofCommand i name e).atStage k = ofCommand k name e := by
  cases e <;> rfl

/-- Two stages, the first of them at `k`, have come to the same end: both have completed, or they
have failed in the same way. -/
inductive SameEnd (k : Nat) :
    Except StageFailure StageOutput → Except StageFailure StageOutput → Prop
  | completed (o o' : StageOutput) : SameEnd k (.ok o) (.ok o')
  | failed (failure : StageFailure) : SameEnd k (.error (failure.atStage k)) (.error failure)

/-- A built-in command that fails the same way at two stages ends both alike. -/
lemma sameEnd_ofCommand (k j : Nat) (name : String) (e : CommandError) :
    SameEnd k (.error (ofCommand k name e)) (.error (ofCommand j name e)) := by
  rw [← ofCommand_atStage j k]
  exact .failed _

end StageFailure

namespace Shell

/-! ## Shells that differ in their records -/

/-- The shells have the same state, history and disk, and write to no log file. -/
structure SameWorld (sh sh' : Shell) : Prop where
  state_eq : sh.state = sh'.state
  history_eq : sh.history = sh'.history
  disk_eq : sh.disk = sh'.disk
  logFile_eq_none : sh.logFile = none
  logFile_eq_none' : sh'.logFile = none

variable {host : Host} {sh sh' left : Shell}

namespace SameWorld

/-- A shell without a log file is in its own world. -/
lemma refl (h : sh.logFile = none) : SameWorld sh sh := ⟨rfl, rfl, rfl, h, h⟩

/-- Two shells in the same world are so either way around. -/
lemma symm (h : SameWorld sh sh') : SameWorld sh' sh where
  state_eq := h.state_eq.symm
  history_eq := h.history_eq.symm
  disk_eq := h.disk_eq.symm
  logFile_eq_none := h.logFile_eq_none'
  logFile_eq_none' := h.logFile_eq_none

/-- Reporting touches neither the state nor the history nor, without a log file, the disk. -/
lemma report_left (h : SameWorld sh sh') (events : List Event) :
    SameWorld (sh.report events) sh' where
  state_eq := h.state_eq
  history_eq := h.history_eq
  disk_eq := (report_disk h.logFile_eq_none events).trans h.disk_eq
  logFile_eq_none := h.logFile_eq_none
  logFile_eq_none' := h.logFile_eq_none'

/-- Without a log file, whatever is reported stays out of the world. -/
lemma report (h : SameWorld sh sh') (events events' : List Event) :
    SameWorld (sh.report events) (sh'.report events') :=
  ((h.report_left events).symm.report_left events').symm

/-- Two shells stay in the same world when both get the same state. -/
lemma withState (h : SameWorld sh sh') (state : ShellState) :
    SameWorld { sh with state } { sh' with state } where
  state_eq := rfl
  history_eq := h.history_eq
  disk_eq := h.disk_eq
  logFile_eq_none := h.logFile_eq_none
  logFile_eq_none' := h.logFile_eq_none'

/-- The output of a command is not a part of the shell that it leaves. -/
lemma after (h : SameWorld sh sh') (o : Outcome) (output : ByteArray) :
    SameWorld (sh.after o) (sh'.after { o with output }) := by
  refine SameWorld.report ?_ _ _
  exact ⟨h.state_eq, rfl, rfl, h.logFile_eq_none, h.logFile_eq_none'⟩

/-- A command sees the same in both shells, apart from the piped text. -/
lemma view_eq (h : SameWorld sh sh') (host : Host) (input input' : ByteArray) :
    sh'.view host input' = (sh.view host input).withInput (Text.decodeLossy input') := by
  simp only [view, View.withInput, h.state_eq, h.history_eq, h.disk_eq]

end SameWorld

/-! ## One stage -/

variable {stage : Stage}

/-- A built-in command ends in the same way and leaves the same, whatever its index and its input
are. -/
lemma runBuiltin_sameWorld (h : SameWorld sh sh') (host : Host) (k j : Nat) (stage : Stage)
    (b : Builtin) (input input' : ByteArray) :
    StageFailure.SameEnd k (runBuiltin host k stage b input sh).1
        (runBuiltin host j stage b input' sh').1 ∧
      SameWorld (runBuiltin host k stage b input sh).2
        (runBuiltin host j stage b input' sh').2 := by
  obtain ⟨output, hrun⟩ := b.run_withInput (sh.view host input) (Text.decodeLossy input')
    stage.args
  rw [← h.view_eq host input input'] at hrun
  simp only [runBuiltin, hrun]
  rcases b.run (sh.view host input) stage.args with ⟨result, printed, history, disk, events⟩
  have hafter := h.after ⟨result, printed, history, disk, events⟩ output
  rcases result with e | (_ | asked)
  · exact ⟨StageFailure.sameEnd_ofCommand k j _ e, hafter⟩
  · exact ⟨.completed _ _, hafter⟩
  · have hasked := hafter.report [.changeRequested stage.command asked]
      [.changeRequested stage.command asked]
    have happly := congrArg₂ (ShellState.apply · · asked) hasked.state_eq hasked.disk_eq
    dsimp only at happly ⊢
    rw [happly]
    split
    · exact ⟨.completed _ _, hasked.withState _⟩
    · exact ⟨StageFailure.sameEnd_ofCommand k j _ _, hasked.withState _⟩

/-- So does a stage that is a built-in command, between its records. -/
theorem runReported_sameWorld (h : SameWorld sh sh') (host : Host) (k j : Nat)
    (hbuiltin : Builtin.isBuiltin stage.command = true) (input input' : ByteArray) :
    StageFailure.SameEnd k (runReported host k stage input sh).1
        (runReported host j stage input' sh').1 ∧
      SameWorld (runReported host k stage input sh).2 (runReported host j stage input' sh').2 := by
  obtain ⟨b, hb⟩ := Option.isSome_iff_exists.mp hbuiltin
  obtain ⟨hend, hworld⟩ := runBuiltin_sameWorld
    (h.report [.stageBegan k stage.argv] [.stageBegan j stage.argv]) host k j stage b input input'
  simp only [runReported, runStage, hb]
  exact ⟨hend, hworld.report _ _⟩

/-! ## Stages on their own -/

/-- The pipelines that consist of one of the stages each, executed one after the other up to the
first that fails: their results, and the shell that is left. -/
def executeEach (host : Host) : List Stage → Shell → List ExecResult × Shell
  | [], sh => ([], sh)
  | stage :: rest, sh =>
    let ran := execute host (.single stage) sh
    if ran.1.success then
      let more := executeEach host rest ran.2
      (ran.1 :: more.1, more.2)
    else ([ran.1], ran.2)

variable {stages rest : List Stage} {input input' : ByteArray} {mid began : Shell}
  {failure : StageFailure} {o : StageOutput} {outs : List StageOutput} {index k : Nat}
  {stage' : Stage}

/-- A built-in command on its own that completes is a success. -/
lemma success_of_completed (hbuiltin : Builtin.isBuiltin stage.command = true)
    (h : runReported host index stage input sh = (.ok o, left)) :
    (completedResult [o]).success = true := by
  have hstatus := (status_of_reported_builtin hbuiltin h).1
  refine (ExecResult.success_iff _).mpr ⟨?_, rfl⟩
  simp [completedResult, lastFailure, hstatus]

/-- A stage that completes in the pipeline succeeds on its own, and the others go on with what it
left. -/
lemma executeEach_cons_of_completed (h : SameWorld sh sh')
    (hbuiltin : Builtin.isBuiltin stage.command = true)
    (hstage : runReported host index stage input sh = (.ok o, mid)) :
    ∃ r mid', r.success = true ∧ SameWorld mid mid' ∧ ∀ rest,
      executeEach host (stage :: rest) sh' =
        (r :: (executeEach host rest mid').1, (executeEach host rest mid').2) := by
  obtain ⟨hend, hworld⟩ := runReported_sameWorld h host index 0 hbuiltin input .empty
  rw [hstage] at hend hworld
  rcases hapart : runReported host 0 stage .empty sh' with ⟨failure' | o', mid'⟩
  · rw [hapart] at hend
    cases hend
  · rw [hapart] at hworld
    have hsuccess := success_of_completed hbuiltin hapart
    refine ⟨completedResult [o'], mid', hsuccess, hworld, fun rest => ?_⟩
    rw [executeEach, execute_single_of_completed hapart, if_pos hsuccess]

/-- A stage that fails in the pipeline fails on its own in the same way, and nothing is executed
behind it. -/
lemma executeEach_cons_of_failed (h : SameWorld sh sh')
    (hbuiltin : Builtin.isBuiltin stage.command = true)
    (hstage : runReported host index stage input sh = (.error failure, left)) :
    ∃ failure' left', failure = StageFailure.atStage index failure' ∧ SameWorld left left' ∧
      executeEach host (stage :: rest) sh' =
        ([⟨"", "", failure'.status, some failure'.error⟩], left') := by
  obtain ⟨hend, hworld⟩ := runReported_sameWorld h host index 0 hbuiltin input .empty
  rw [hstage] at hend hworld
  rcases hapart : runReported host 0 stage .empty sh' with ⟨failure' | o', left'⟩
  · rw [hapart] at hend hworld
    cases hend
    refine ⟨failure', left', rfl, hworld, ?_⟩
    rw [executeEach, execute_single_of_failed hapart]
    simp [ExecResult.success]
  · rw [hapart] at hend
    cases hend

/-! ## All stages of a pipeline -/

/-- Built-in commands that complete do not count as failed. -/
lemma Runs.lastFailure_eq_zero {stop : Option StageFailure}
    (hrun : Runs host index stages input sh outs stop left)
    (hbuiltin : ∀ stage ∈ stages, Builtin.isBuiltin stage.command = true) :
    lastFailure outs = 0 := by
  rw [lastFailure_eq_zero_iff]
  induction hrun with
  | done | stopped => nofun
  | completed hstage _ ih =>
      obtain ⟨hfirst, hothers⟩ := List.forall_mem_cons.mp hbuiltin
      exact List.forall_mem_cons.mpr ⟨(status_of_reported_builtin hfirst hstage).1, ih hothers⟩

/-- Where all stages complete in the pipeline, all succeed on their own and leave the same. -/
theorem executeEach_of_completed {stop : Option StageFailure}
    (hrun : Runs host index stages input sh outs stop left) (hstop : stop = none)
    (hbuiltin : ∀ stage ∈ stages, Builtin.isBuiltin stage.command = true)
    (h : SameWorld sh sh') :
    (∀ r ∈ (executeEach host stages sh').1, r.success = true) ∧
    (executeEach host stages sh').1.length = stages.length ∧
    SameWorld left (executeEach host stages sh').2 := by
  induction hrun generalizing sh' with
  | done => exact ⟨nofun, rfl, h⟩
  | completed hstage _ ih =>
      obtain ⟨hfirst, hothers⟩ := List.forall_mem_cons.mp hbuiltin
      obtain ⟨r, mid', hsuccess, hworld, heach⟩ := executeEach_cons_of_completed h hfirst hstage
      obtain ⟨hrest, hlength, hleft⟩ := ih hstop hothers hworld
      rw [heach]
      exact ⟨List.forall_mem_cons.mpr ⟨hsuccess, hrest⟩, congrArg (· + 1) hlength, hleft⟩
  | stopped => cases hstop

/-- Where a stage fails in the pipeline, it fails on its own in the same way behind the others, and
these succeed; what is left is the same. -/
theorem executeEach_of_stopped {stop : Option StageFailure}
    (hrun : Runs host index stages input sh outs stop left) (hstop : stop = some failure)
    (hbuiltin : ∀ stage ∈ stages, Builtin.isBuiltin stage.command = true)
    (h : SameWorld sh sh') :
    ∃ front failure', (executeEach host stages sh').1 =
        front ++ [⟨"", "", failure'.status, some failure'.error⟩] ∧
      (∀ r ∈ front, r.success = true) ∧
      failure = StageFailure.atStage (index + front.length) failure' ∧
      SameWorld left (executeEach host stages sh').2 := by
  induction hrun generalizing sh' with
  | done => cases hstop
  | completed hstage _ ih =>
      obtain ⟨hfirst, hothers⟩ := List.forall_mem_cons.mp hbuiltin
      obtain ⟨r, mid', hsuccess, hworld, heach⟩ := executeEach_cons_of_completed h hfirst hstage
      obtain ⟨front, failure', hresults, hfront, hfailure, hleft⟩ := ih hstop hothers hworld
      rw [heach]
      refine ⟨r :: front, failure', congrArg (r :: ·) hresults,
        List.forall_mem_cons.mpr ⟨hsuccess, hfront⟩, ?_, hleft⟩
      -- one more stage counts as being in front: the one that was completed
      rw [hfailure, List.length_cons, Nat.add_right_comm, Nat.add_assoc]
  | stopped hstage =>
      cases hstop
      obtain ⟨failure', left', hfailure, hworld, heach⟩ :=
        executeEach_cons_of_failed h (hbuiltin _ List.mem_cons_self) hstage
      rw [heach]
      exact ⟨[], failure', rfl, nofun, hfailure, hworld⟩

/-- A stage of the pipeline begins with what the stages before it leave when they are executed on
their own, and these succeed. -/
theorem Begins.sameWorld (hbegins : Begins host index stages input sh k stage' input' began)
    (hbuiltin : ∀ stage ∈ stages, Builtin.isBuiltin stage.command = true)
    (h : SameWorld sh sh') :
    ∃ before, index + before.length = k ∧ before <+: stages ∧
      (executeEach host before sh').1.length = before.length ∧
      (∀ r ∈ (executeEach host before sh').1, r.success = true) ∧
      SameWorld began (executeEach host before sh').2 := by
  induction hbegins generalizing sh' with
  | first => exact ⟨[], rfl, List.nil_prefix, rfl, nofun, h.report_left _⟩
  | later hstage _ ih =>
      obtain ⟨hfirst, hothers⟩ := List.forall_mem_cons.mp hbuiltin
      obtain ⟨r, mid', hsuccess, hworld, heach⟩ := executeEach_cons_of_completed h hfirst hstage
      obtain ⟨before, hindex, hprefix, hlength, hbefore, hbegan⟩ := ih hothers hworld
      refine ⟨_ :: before, ?_, List.cons_prefix_cons.mpr ⟨rfl, hprefix⟩, ?_⟩
      · rw [← hindex, List.length_cons, Nat.add_right_comm, Nat.add_assoc]
      · rw [heach]
        exact ⟨congrArg (· + 1) hlength, List.forall_mem_cons.mpr ⟨hsuccess, hbefore⟩, hbegan⟩

/-- The last of the results on their own is the result of the pipeline, but for the texts and the
index of the stage. -/
theorem execute_sameWorld (host : Host) {p : Pipeline} (hnone : p.redirection = none)
    (hbuiltin : ∀ stage ∈ p.stages, Builtin.isBuiltin stage.command = true)
    (h : SameWorld sh sh') :
    SameWorld (execute host p sh).2 (executeEach host p.stages sh').2 ∧
    ∃ front last, (executeEach host p.stages sh').1 = front ++ [last] ∧
      (∀ r ∈ front, r.success = true) ∧ (execute host p sh).1.status = last.status ∧
      (execute host p sh).1.error = last.error.map (ExecError.atStage front.length) ∧
      (last.success = true → (executeEach host p.stages sh').1.length = p.length) := by
  obtain ⟨outs, stop, left, hrun⟩ := exists_runs host 0 p.stages .empty sh
  cases stop with
  | none =>
      obtain ⟨hsuccess, hlength, hleft⟩ := executeEach_of_completed hrun rfl hbuiltin h
      have hne : (executeEach host p.stages sh').1 ≠ [] := by
        rw [← List.length_pos_iff, hlength]
        exact p.length_pos
      obtain ⟨front, last, hresults⟩ := (List.eq_nil_or_concat _).resolve_left hne
      rw [List.concat_eq_append] at hresults
      rw [hresults] at hsuccess
      obtain ⟨hfront, hlast⟩ := List.forall_mem_append.mp hsuccess
      obtain ⟨hstatus, herror⟩ := (ExecResult.success_iff _).mp (hlast last List.mem_cons_self)
      rw [execute_of_shown hrun hnone]
      refine ⟨hleft, front, last, hresults, hfront, ?_, ?_, fun _ => hlength⟩
      · rw [hstatus]
        exact hrun.lastFailure_eq_zero hbuiltin
      · rw [herror]
        rfl
  | some failure =>
      obtain ⟨front, failure', hresults, hfront, hfailure, hleft⟩ :=
        executeEach_of_stopped hrun rfl hbuiltin h
      rw [execute_of_stopped hrun, hfailure, Nat.zero_add]
      refine ⟨hleft, front, _, hresults, hfront, rfl, rfl, fun hlast => ?_⟩
      exact nomatch ((ExecResult.success_iff _).mp hlast).2

/-- A pipeline of built-in commands leaves the state, the history and the disk that its stages leave
when they are executed on their own, one after the other up to the first that fails.  It fails if
and only if one of them does, with the same status and, but for the index of the stage, the same
error.  Each stage begins with all that the stages before it have done. -/
theorem piping_keeps_effects (host : Host) (p : Pipeline) (hnone : p.redirection = none)
    (hbuiltin : ∀ stage ∈ p.stages, Builtin.isBuiltin stage.command = true) (state : ShellState)
    (history : History) (disk : Disk) :
    let sh := ofParts state history disk
    let piped := execute host p sh
    let apart := executeEach host p.stages sh
    (piped.2.state = apart.2.state ∧ piped.2.history = apart.2.history ∧
      piped.2.disk = apart.2.disk) ∧
    (piped.1.success = false ↔ ∃ r ∈ apart.1, r.success = false) ∧
    (∃ front last, apart.1 = front ++ [last] ∧ (∀ r ∈ front, r.success = true) ∧
      piped.1.status = last.status ∧
      piped.1.error = last.error.map (ExecError.atStage front.length) ∧
      (last.success = true → apart.1.length = p.length)) ∧
    ∀ k stage input began, Begins host 0 p.stages .empty sh k stage input began →
      let before := executeEach host (p.stages.take k) sh
      before.1.length = k ∧ (∀ r ∈ before.1, r.success = true) ∧ began.state = before.2.state ∧
      began.history = before.2.history ∧ began.disk = before.2.disk := by
  intro sh piped apart
  have hsame : SameWorld sh sh := ⟨rfl, rfl, rfl, rfl, rfl⟩
  obtain ⟨hleft, front, last, hresults, hfront, hstatus, herror, hlength⟩ :=
    execute_sameWorld host hnone hbuiltin hsame
  refine ⟨⟨hleft.state_eq, hleft.history_eq, hleft.disk_eq⟩, ?_,
    ⟨front, last, hresults, hfront, hstatus, herror, hlength⟩, ?_⟩
  · have hsuccess : piped.1.success = last.success := by
      simp [ExecResult.success, piped, hstatus, herror]
    rw [hsuccess, hresults]
    constructor
    · intro hlast
      exact ⟨last, List.mem_append_right front List.mem_cons_self, hlast⟩
    · rintro ⟨r, hr, hfails⟩
      obtain hr | hr := List.mem_append.mp hr
      · rw [hfront r hr] at hfails
        cases hfails
      · rwa [← List.mem_singleton.mp hr]
  · intro k stage input began hbegins before
    obtain ⟨stages, hindex, hprefix, hlength, hbefore, hbegan⟩ := hbegins.sameWorld hbuiltin hsame
    rw [Nat.zero_add] at hindex
    -- a part at the front is known by its length
    obtain rfl : stages = p.stages.take k := by
      rw [← hindex]
      exact List.prefix_iff_eq_take.mp hprefix
    exact ⟨hlength.trans hindex, hbefore, hbegan.state_eq, hbegan.history_eq, hbegan.disk_eq⟩

/-- `echo hi | cat | export A=1 | cd nope | mkdir d`. -/
def greetThenFail : Pipeline :=
  ⟨[plainStage "echo" ["hi"], plainStage "cat" [], plainStage "export" ["A=1"],
    plainStage "cd" ["nope"], plainStage "mkdir" ["d"]], none, List.cons_ne_nil _ _⟩

/-- The fourth stage fails as `cd nope` does on its own: the variable is set, and no directory is
made. -/
theorem piping_keeps_effects_up_to_failure :
    (execute bareHost greetThenFail (newShell (.empty []))).2.state =
      (executeEach bareHost greetThenFail.stages (newShell (.empty []))).2.state ∧
    (execute bareHost greetThenFail (newShell (.empty []))).2.state.var? bareHost.env "A" =
      some "1" ∧
    (execute bareHost greetThenFail (newShell (.empty []))).2.disk = .empty [] ∧
    (execute bareHost greetThenFail (newShell (.empty []))).1.error =
      some (.notFound 3 "cd" (some "nope")) ∧
    (executeEach bareHost greetThenFail.stages (newShell (.empty []))).1.map ExecResult.error =
      [none, none, none, some (.notFound 0 "cd" (some "nope"))] := by
  have hbuiltin : ∀ stage ∈ greetThenFail.stages, Builtin.isBuiltin stage.command = true := by
    decide
  obtain ⟨⟨hstate, -, -⟩, -⟩ := piping_keeps_effects bareHost greetThenFail rfl hbuiltin
    ⟨"/", .empty, ∅, none⟩ .inMemory (.empty [])
  exact ⟨hstate, rfl, rfl, rfl, by decide +kernel⟩

end Shell

end PipeShell
