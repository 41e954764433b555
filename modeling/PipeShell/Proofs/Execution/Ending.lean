import PipeShell.Proofs.Execution.Failure
import PipeShell.Proofs.Execution.Line

/-!
# What a stage comes to

`Shell.ComesTo` says of every stage what it hands on, or why it stops the pipeline, and which shell
it leaves, with the statuses as numbers.  A built-in command counts as zero, or as one when it
fails.  A program is called if one is found (`Shell.Calls`), and what the stage comes to is read off
the ending of the call (`Program.Gives`): the status that the program left with, 128 and more if it
was killed by a signal, and 124, 126, 127 or 1 if it did not get so far.

`Shell.runStage` comes to nothing else (`comesTo_runStage`), and neither does any stage of a run
(`Runs.exists_comesTo_of_completed`, `Runs.exists_comesTo_of_stopped`).  The record about its start
tells which program was called, so the one that is called is the one that is found
(`calls_runStage_iff`).
-/

namespace PipeShell

namespace Program

/-- What the ending of a program comes to for the stage at `index` that has called it by this name
and with this limit. -/
inductive Gives (index : Nat) (name : String) (limit : Option Duration) :
    Ending → Except StageFailure StageOutput → Prop
  | exited (n : Nat) (output errors : ByteArray) :
      Gives index name limit (.finished (.code n) output errors) (.ok ⟨output, errors, n⟩)
  | killed (n : Nat) (output errors : ByteArray) :
      Gives index name limit (.finished (.signal n) output errors) (.ok ⟨output, errors, 128 + n⟩)
  /-- The time was over.  Without a limit it never is. -/
  | overdue :
      Gives index name limit .overdue (.error ⟨124, .execution index name
        (name ++ ": timed out after " ++ (limit.getD ⟨0⟩).render)⟩)
  /-- The file has gone missing since it was found. -/
  | missing :
      Gives index name limit (.notStarted .notFound) (.error ⟨127, .notFound index name none⟩)
  | notStarted {fault : Fault} (hfault : fault ≠ .notFound) :
      Gives index name limit (.notStarted fault) (.error ⟨126, .execution index name
        (name ++ ": cannot execute: " ++ fault.message)⟩)
  | broken (fault : Fault) :
      Gives index name limit (.broken fault) (.error ⟨1, .execution index name
        ("IO error: " ++ fault.message)⟩)
  | abandoned :
      Gives index name limit .abandoned (.error ⟨1, .execution index name
        "stream pump panicked"⟩)

/-- This is how the ending of a call is concluded. -/
lemma gives_conclude (index : Nat) (call : ProgramCall) (ended : Ending) :
    Gives index call.name call.limit ended
      ((conclude call ended).1.mapError (.ofProgram index call.name)) := by
  cases ended with
  | finished exit output errors =>
      cases exit with
      | code n => exact .exited n output errors
      | signal n => exact .killed n output errors
  | overdue => exact .overdue
  | notStarted fault =>
      by_cases hfault : fault = .notFound
      · subst hfault
        exact .missing
      · have hconclude : conclude call (.notStarted fault) =
            (.error (.cannotRun call.name fault), []) := by
          unfold conclude
          split <;> simp_all
        rw [hconclude]
        exact .notStarted hfault
  | broken fault => exact .broken fault
  | abandoned => exact .abandoned

/-- So a launched program gives what its ending comes to. -/
lemma gives_launch (host : Host) (index : Nat) (s : ShellState) (disk : Disk)
    (path name : String) (args : List String) (input : ByteArray) :
    Gives index name host.limit (host.programs (callFrom host s path name args input) disk).1
      ((launch host s disk path name args input).result.mapError (.ofProgram index name)) :=
  gives_conclude index (callFrom host s path name args input) _

/-- The call of the program at `path` that a stage makes when it begins in the shell `sh`. -/
structure IsCall (host : Host) (sh : Shell) (stage : Stage) (input : ByteArray) (path : String)
    (call : ProgramCall) : Prop where
  program_eq : call.program = path
  name_eq : call.name = stage.command
  args_eq : call.args = stage.args
  input_eq : call.input = input
  dir_eq : call.dir = sh.state.dir
  env_eq : call.env = sh.state.overlay.childEnvironment host.env
  /-- A file that a changed search path leads to may be a script. -/
  readsScripts_iff : call.readsScripts = true ↔
    '/' ∉ path.toList ∧ (sh.state.overlay.changes.get? "PATH").isSome = true
  limit_eq : call.limit = host.limit

/-- The shell calls programs like this. -/
lemma isCall_callFrom (host : Host) (sh : Shell) (stage : Stage) (input : ByteArray)
    (path : String) :
    IsCall host sh stage input path
      (callFrom host sh.state path stage.command stage.args input) where
  program_eq := rfl
  name_eq := rfl
  args_eq := rfl
  input_eq := rfl
  dir_eq := rfl
  env_eq := rfl
  readsScripts_iff := by simp [callFrom]
  limit_eq := rfl

end Program

namespace StageFailure

/-- How the stage at `index` fails when its built-in command does. -/
inductive Tells (index : Nat) (name : String) : CommandError → StageFailure → Prop
  | missing (target : String) :
      Tells index name (.notFound target) ⟨1, .notFound index name (some target)⟩
  | other {e : CommandError} (he : ∀ target, e ≠ .notFound target) :
      Tells index name e ⟨1, .execution index name (name ++ ": " ++ e.message)⟩

/-- This is how the failure of a built-in command is told. -/
lemma tells_ofCommand (index : Nat) (name : String) (e : CommandError) :
    Tells index name e (ofCommand index name e) := by
  cases e with
  | notFound target => exact .missing target
  | invalidArguments | failed | io | history => exact .other nofun

end StageFailure

namespace Shell

variable {host : Host} {index : Nat} {stage : Stage} {input : ByteArray} {sh left left' : Shell}
  {path path' : String} {result result' : Except StageFailure StageOutput}

/-! ## Calling a program -/

/-- The stage at `index` reports that it starts the program at `path`, calls it, and comes to what
the ending of the call gives. -/
def Calls (host : Host) (index : Nat) (stage : Stage) (input : ByteArray) (sh : Shell)
    (path : String) (result : Except StageFailure StageOutput) (left : Shell) : Prop :=
  ∃ call began ended disk events, Program.IsCall host sh stage input path call ∧
    began = sh.report [.programBegan stage.command path stage.args.length] ∧
    host.programs call began.disk = (ended, disk) ∧
    Program.Gives index stage.command host.limit ended result ∧
    left = { began with disk }.report events

/-- The first record of a call is the one about its start. -/
lemma Calls.exists_log_eq (h : Calls host index stage input sh path result left) :
    ∃ events, left.log =
      sh.log ++ .programBegan stage.command path stage.args.length :: events := by
  obtain ⟨-, -, -, -, events, -, rfl, -, -, rfl⟩ := h
  exact ⟨events, List.append_assoc ..⟩

/-- Only one program is called. -/
lemma Calls.path_eq (h : Calls host index stage input sh path result left)
    (h' : Calls host index stage input sh path' result' left) : path = path' := by
  obtain ⟨events, hlog⟩ := h.exists_log_eq
  obtain ⟨events', hlog'⟩ := h'.exists_log_eq
  have hrecords := List.append_cancel_left (hlog.symm.trans hlog')
  simp only [List.cons.injEq, Event.programBegan.injEq] at hrecords
  exact hrecords.1.2.1

/-- A call leaves a record. -/
lemma Calls.left_ne (h : Calls host index stage input sh path result left) : left ≠ sh := by
  rintro rfl
  obtain ⟨events, hlog⟩ := h.exists_log_eq
  exact List.cons_ne_nil _ _ (List.self_eq_append_right.mp hlog)

/-- A stage whose program is found calls it. -/
lemma calls_of_find (hname : Builtin.ofName? stage.command = none)
    (hfind : Program.find host.env sh.disk sh.state stage.command = some path) :
    Calls host index stage input sh path (runStage host index stage input sh).1
      (runStage host index stage input sh).2 := by
  simp only [runStage, hname, runProgram, hfind]
  have hcall := Program.isCall_callFrom host sh stage input path
  have hgives := Program.gives_launch host index sh.state
    (sh.report [.programBegan stage.command path stage.args.length]).disk path stage.command
    stage.args input
  exact ⟨_, _, _, _, _, hcall, rfl, rfl, hgives, rfl⟩

/-- A stage whose program is not found stops with the status 127, and nothing is called. -/
lemma runStage_of_unknown (hname : Builtin.ofName? stage.command = none)
    (hfind : Program.find host.env sh.disk sh.state stage.command = none) :
    runStage host index stage input sh =
      (.error ⟨127, .notFound index stage.command none⟩, sh) := by
  simp only [runStage, hname, runProgram, hfind]
  rfl

/-- The program that is called is the one that is found. -/
theorem calls_runStage_iff (hname : Builtin.ofName? stage.command = none) :
    Calls host index stage input sh path (runStage host index stage input sh).1
        (runStage host index stage input sh).2 ↔
      Program.find host.env sh.disk sh.state stage.command = some path := by
  constructor
  · intro hcalls
    cases hfind : Program.find host.env sh.disk sh.state stage.command with
    | none =>
        rw [runStage_of_unknown hname hfind] at hcalls
        exact absurd rfl hcalls.left_ne
    | some found => rw [(calls_of_find hname hfind).path_eq hcalls]
  · exact calls_of_find hname

/-- The stage stops without a call exactly if no program is found. -/
theorem runStage_eq_unknown_iff (hname : Builtin.ofName? stage.command = none) :
    runStage host index stage input sh =
        (.error ⟨127, .notFound index stage.command none⟩, sh) ↔
      Program.find host.env sh.disk sh.state stage.command = none := by
  constructor
  · intro hran
    cases hfind : Program.find host.env sh.disk sh.state stage.command with
    | none => rfl
    | some found =>
        have hcalls : Calls host index stage input sh found _ _ := calls_of_find hname hfind
        rw [hran] at hcalls
        exact absurd rfl hcalls.left_ne
  · exact runStage_of_unknown hname

/-! ## All stages -/

/-- What the stage at `index` comes to, and the shell that it leaves. -/
inductive ComesTo (host : Host) (index : Nat) (stage : Stage) (input : ByteArray) (sh : Shell) :
    Except StageFailure StageOutput → Shell → Prop
  /-- The name is no built-in command, and no program is found under it. -/
  | unknown (hname : Builtin.ofName? stage.command = none)
      (hfind : Program.find host.env sh.disk sh.state stage.command = none) :
      ComesTo host index stage input sh (.error ⟨127, .notFound index stage.command none⟩) sh
  /-- The program that is found is called. -/
  | program {path : String} {result : Except StageFailure StageOutput} {left : Shell}
      (hname : Builtin.ofName? stage.command = none)
      (hfind : Program.find host.env sh.disk sh.state stage.command = some path)
      (hcalls : Calls host index stage input sh path result left) :
      ComesTo host index stage input sh result left
  /-- The built-in command asked for nothing. -/
  | command {b : Builtin} (hname : Builtin.ofName? stage.command = some b)
      (hrun : (b.run (sh.view host input) stage.args).result = .ok none) :
      ComesTo host index stage input sh
        (.ok ⟨(b.run (sh.view host input) stage.args).output, .empty, 0⟩)
        (sh.after (b.run (sh.view host input) stage.args))
  /-- The built-in command failed. -/
  | commandFailed {b : Builtin} {e : CommandError} {failure : StageFailure}
      (hname : Builtin.ofName? stage.command = some b)
      (hrun : (b.run (sh.view host input) stage.args).result = .error e)
      (htells : StageFailure.Tells index stage.command e failure) :
      ComesTo host index stage input sh (.error failure)
        (sh.after (b.run (sh.view host input) stage.args))
  /-- The built-in command asked for a change of state that was accepted. -/
  | change {b : Builtin} {asked : Change} {ran : Shell} {state : ShellState}
      (hname : Builtin.ofName? stage.command = some b)
      (hrun : (b.run (sh.view host input) stage.args).result = .ok (some asked))
      (hran : (sh.after (b.run (sh.view host input) stage.args)).report
        [.changeRequested stage.command asked] = ran)
      (haccepted : sh.state.apply ran.disk asked = (state, none)) :
      ComesTo host index stage input sh
        (.ok ⟨(b.run (sh.view host input) stage.args).output, .empty, 0⟩) { ran with state }
  /-- The change was refused. -/
  | changeRefused {b : Builtin} {asked : Change} {ran : Shell} {state : ShellState}
      {e : StateError} {failure : StageFailure}
      (hname : Builtin.ofName? stage.command = some b)
      (hrun : (b.run (sh.view host input) stage.args).result = .ok (some asked))
      (hran : (sh.after (b.run (sh.view host input) stage.args)).report
        [.changeRequested stage.command asked] = ran)
      (hrefused : sh.state.apply ran.disk asked = (state, some e))
      (htells : StageFailure.Tells index stage.command (.ofStateError e) failure) :
      ComesTo host index stage input sh (.error failure) { ran with state }

/-- Every stage comes to one of these. -/
theorem comesTo_runStage (host : Host) (index : Nat) (stage : Stage) (input : ByteArray)
    (sh : Shell) :
    ComesTo host index stage input sh (runStage host index stage input sh).1
      (runStage host index stage input sh).2 := by
  cases hname : Builtin.ofName? stage.command with
  | none =>
      cases hfind : Program.find host.env sh.disk sh.state stage.command with
      | none =>
          rw [runStage_of_unknown hname hfind]
          exact .unknown hname hfind
      | some path => exact .program hname hfind (calls_of_find hname hfind)
  | some b =>
      simp only [runStage, hname, runBuiltin]
      rcases hrun : (b.run (sh.view host input) stage.args).result with e | (_ | asked)
      · exact .commandFailed hname hrun (StageFailure.tells_ofCommand _ _ e)
      · exact .command hname hrun
      · dsimp only
        split
        · next state haccepted => exact .change hname hrun rfl haccepted
        · next state e hrefused =>
          exact .changeRefused hname hrun rfl hrefused (StageFailure.tells_ofCommand _ _ _)

/-- A built-in command that completes has the status zero and writes no errors. -/
lemma ComesTo.status_of_builtin {o : StageOutput}
    (h : ComesTo host index stage input sh (.ok o) left)
    (hname : Builtin.isBuiltin stage.command = true) : o.status = 0 ∧ o.errors = .empty := by
  cases h with
  | program hnone => simp [Builtin.isBuiltin, hnone] at hname
  | command | change => exact ⟨rfl, rfl⟩

/-! ## The stages of a run -/

variable {stages : List Stage} {outs : List StageOutput} {stop : Option StageFailure}

/-- A stage that is run between its records comes to the same as without them. -/
lemma exists_comesTo_of_runReported (h : runReported host index stage input sh = (result, left)) :
    ∃ ran, ComesTo host index stage input (sh.report [.stageBegan index stage.argv]) result ran ∧
      left = ran.report (stageEvents index result) := by
  obtain ⟨ran, hran, hleft⟩ := runStage_of_runReported h
  have hcomes := comesTo_runStage host index stage input
    (sh.report [.stageBegan index stage.argv])
  rw [hran] at hcomes
  exact ⟨ran, hcomes, hleft⟩

/-- Every stage of a run that completed had begun, and its output is what it came to. -/
theorem Runs.exists_comesTo_of_completed (h : Runs host index stages input sh outs stop left)
    {i : Nat} {o : StageOutput} (hstage : stages[i]? = some stage) (hout : outs[i]? = some o) :
    ∃ input' began ran, Begins host index stages input sh (index + i) stage input' began ∧
      ComesTo host (index + i) stage input' began (.ok o) ran := by
  -- the step of a run is about its first stage, so the later ones are left to the rest
  induction h generalizing i with
  | done => cases hstage
  | completed hran _ ih =>
      cases i with
      | zero =>
          cases hstage
          cases hout
          obtain ⟨ran, hcomes, -⟩ := exists_comesTo_of_runReported hran
          exact ⟨_, _, ran, .first, hcomes⟩
      | succ i =>
          obtain ⟨input', began, ran, hbegins, hcomes⟩ := ih hstage hout
          rw [Nat.add_right_comm, Nat.add_assoc] at hbegins hcomes
          exact ⟨input', began, ran, .later hran hbegins, hcomes⟩
  | stopped => cases hout

/-- The built-in commands of a run count as zero. -/
theorem Runs.status_of_builtin (h : Runs host index stages input sh outs stop left) {i : Nat}
    {o : StageOutput} (hstage : stages[i]? = some stage) (hout : outs[i]? = some o)
    (hname : Builtin.isBuiltin stage.command = true) : o.status = 0 ∧ o.errors = .empty := by
  obtain ⟨_, _, _, -, hcomes⟩ := h.exists_comesTo_of_completed hstage hout
  exact hcomes.status_of_builtin hname

/-- The stage behind those that completed had begun as well, if it stopped the run, and came to the
failure. -/
theorem Runs.exists_comesTo_of_stopped {failure : StageFailure}
    (h : Runs host index stages input sh outs stop left) (hstop : stop = some failure) :
    ∃ stage input' began ran, stages[outs.length]? = some stage ∧
      Begins host index stages input sh (index + outs.length) stage input' began ∧
      ComesTo host (index + outs.length) stage input' began (.error failure) ran := by
  induction h with
  | done => cases hstop
  | completed hran _ ih =>
      obtain ⟨stage, input', began, ran, hstage, hbegins, hcomes⟩ := ih hstop
      rw [Nat.add_right_comm, Nat.add_assoc] at hbegins hcomes
      exact ⟨stage, input', began, ran, hstage, .later hran hbegins, hcomes⟩
  | stopped hran =>
      cases hstop
      obtain ⟨ran, hcomes, -⟩ := exists_comesTo_of_runReported hran
      exact ⟨_, _, _, ran, rfl, .first, hcomes⟩

end Shell

end PipeShell
