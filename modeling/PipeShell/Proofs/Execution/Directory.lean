import PipeShell.Proofs.Builtin.Disk
import PipeShell.Proofs.Execution.Completion
import PipeShell.Proofs.Execution.Line
import PipeShell.Proofs.Execution.Redirection
import PipeShell.Proofs.Execution.Single

/-!
# The directory of a shell

A shell is always in a directory that exists, and knows it by its canonical path.  The invariant is
`Shell.Housed`: a change of directory is checked against the disk at that moment, and afterwards
built-in commands, redirections and the shell's own files only make the disk grow
(`grows_runStage`, `grows_of_runs`), so no later command can take the directory away.

The directory changes only where a `cd` completes or a change of directory is accepted, and then to
the directory that was named (`runStage_cd`).  A pipeline leaves the directory that its last
completed `cd` has gone to (`Runs.dir_eq_or_exists_cd`).
-/

namespace PipeShell

variable {disk : Disk} {path dir : String}

/-! ## Changes of the state -/

namespace ShellState

variable {s s' : ShellState} {c : Change} {refusal : Option StateError}

/-- Seen from an absolute directory every path is absolute. -/
lemma isAbsolute_of_resolve {env : Environment} {p : String} (hdir : Path.isAbsolute s.dir = true)
    (h : s.resolve env p = .ok path) : Path.isAbsolute path = true := by
  obtain ⟨q, -, rfl⟩ := map_eq_ok_iff.mp h
  exact Path.isAbsolute_join_of_isAbsolute hdir q

/-- A shell starts in a directory where it can stay. -/
lemma isHome_of_startIn (hdisk : disk.Sound) (h : startIn disk path = .ok s) :
    disk.IsHome s.dir := by
  unfold startIn at h
  split at h
  · next dir hcanonical =>
    split_ifs at h with hdir
    cases h
    exact hdisk.isHome_of_canonical hcanonical hdir
  · cases h

/-- A change of state leads from such a directory to such a directory. -/
lemma Applied.isHome (h : Applied s disk c s' refusal) (hlinks : disk.LinksReadable)
    (hhome : disk.IsHome s.dir) : disk.IsHome s'.dir := by
  by_cases hmoved : (∃ path, c = .changeDir path) ∧ refusal = none
  · obtain ⟨⟨path, rfl⟩, rfl⟩ := hmoved
    cases h with
    | moved hdir =>
        have habsolute := Path.isAbsolute_join_of_isAbsolute hhome.isAbsolute path
        exact Disk.isHome_of_realDirectory? hlinks habsolute hdir
  · rwa [h.dir_eq hmoved]

/-- A change of directory is accepted and leads to the canonical path of what was named, or that is
no directory, and the change is refused and leaves the state as it was. -/
lemma apply_changeDir_cases (h : s.apply disk (.changeDir path) = (s', refusal)) :
    (refusal = none ∧ disk.canonical (Path.join s.dir path) = .ok s'.dir ∧
      disk.isDirectory s'.dir = true) ∨
    ((∃ e, refusal = some e) ∧ s' = s ∧
      ∀ dir, disk.canonical (Path.join s.dir path) = .ok dir → disk.isDirectory dir = false) := by
  cases applied_of_apply h with
  | moved hdir => exact .inl ⟨rfl, Disk.canonical_of_realDirectory? hdir⟩
  | notMoved hnone =>
      exact .inr ⟨⟨_, rfl⟩, rfl, fun dir => Disk.isDirectory_eq_false_of_realDirectory? hnone⟩

/-- A change to a directory where the state can stay is accepted. -/
lemma apply_changeDir_of_isHome (h : disk.IsHome dir) (s : ShellState) :
    s.apply disk (.changeDir dir) = ({ s with dir }, none) := by
  refine apply_changeDir_of_ok (changeDir_of_some ?_)
  rw [Path.join_of_isAbsolute h.isAbsolute]
  exact h.realDirectory?_eq

end ShellState

/-! ## The command that asks for it -/

namespace Builtin

variable {v : View} {args : List String} {e : CommandError}

/-- A built-in command resolves paths as the state does. -/
lemma resolve_eq_ok_iff : v.resolve path = .ok dir ↔ v.state.resolve v.env path = .ok dir := by
  unfold View.resolve
  cases v.state.resolve v.env path <;> simp [Except.mapError]

/-- `cd` asks for a change, or it fails: it has more than one argument, or none that names a
directory. -/
lemma cdCommand_cases (v : View) (args : List String) :
    (∃ path dir, args.length ≤ 1 ∧ v.state.resolve v.env (args.headD "~") = .ok path ∧
      v.disk.realDirectory? path = some dir ∧
      (cdCommand v args).result = .ok (some (.changeDir dir))) ∨
    ((1 < args.length ∨ ∀ path, v.state.resolve v.env (args.headD "~") = .ok path →
        v.disk.realDirectory? path = none) ∧
      ∃ e, (cdCommand v args).result = .error e) := by
  unfold cdCommand
  split_ifs with hargs
  · exact .inr ⟨.inl hargs, _, rfl⟩
  · dsimp only
    split
    · next e hpath =>
      refine .inr ⟨.inr fun path hresolve => ?_, _, rfl⟩
      rw [resolve_eq_ok_iff.mpr hresolve] at hpath
      cases hpath
    · next path hpath =>
      have hresolve := resolve_eq_ok_iff.mp hpath
      split
      · next dir hdir =>
        exact .inl ⟨path, dir, Nat.le_of_not_lt hargs, hresolve, hdir, rfl⟩
      · next hnone =>
        refine .inr ⟨.inr fun path' hresolve' => ?_, _, rfl⟩
        cases hresolve.symm.trans hresolve'
        exact hnone

end Builtin

namespace Shell

variable {host : Host} {index : Nat} {stage : Stage} {input : ByteArray} {sh sh' left : Shell}
  {result : Except StageFailure StageOutput} {p : Pipeline}

/-! ## The disk -/

/-- Reporting only makes the disk grow: it may write to the log file. -/
lemma grows_report (sh : Shell) (events : List Event) :
    sh.disk.Grows (sh.report events).disk := by
  cases hlog : sh.logFile with
  | none => exact report_disk hlog events ▸ .refl sh.disk
  | some f =>
      have hdisk : (sh.report events).disk = f.add events sh.disk := by rw [report, hlog]; rfl
      rw [hdisk]
      exact (Disk.writtenAt_editOpen sh.disk f.file _).grows

/-- So does a built-in command, before the change that it asks for. -/
lemma grows_after (host : Host) (b : Builtin) (sh : Shell) (input : ByteArray)
    (args : List String) : sh.disk.Grows (sh.after (b.run (sh.view host input) args)).disk := by
  have hrun := Builtin.grows_run b (sh.view host input) args
  generalize b.run (sh.view host input) args = o at hrun ⊢
  exact hrun.trans (grows_report { sh with history := o.history, disk := o.disk } o.events)

/-- The stage of a built-in command only makes the disk grow. -/
lemma grows_runStage (hbuiltin : Builtin.isBuiltin stage.command = true)
    (h : runStage host index stage input sh = (result, left)) : sh.disk.Grows left.disk := by
  obtain ⟨b, hname⟩ := Option.isSome_iff_exists.mp hbuiltin
  cases result with
  | error failure =>
      cases fails_of_runStage h with
      | unknown hname' | program hname' => cases hname.symm.trans hname'
      | command => exact grows_after host _ sh input stage.args
      | change _ _ hran _ =>
          subst hran
          exact (grows_after host _ sh input stage.args).trans (grows_report _ _)
  | ok o =>
      cases completes_of_runStage h with
      | program hname' => cases hname.symm.trans hname'
      | command => exact grows_after host _ sh input stage.args
      | change _ _ hran _ =>
          subst hran
          exact (grows_after host _ sh input stage.args).trans (grows_report _ _)

/-- Writing the output of a pipeline only makes the disk grow, also when it fails. -/
lemma grows_writeOutput (host : Host) (r : Redirection) (bytes : ByteArray) (sh : Shell) :
    sh.disk.Grows (writeOutput host r bytes sh).2.disk := by
  unfold writeOutput
  split
  · exact .refl sh.disk
  · have hreport := grows_report sh [.redirected bytes.size ‹_›]
    dsimp only
    split
    · next disk hwrite =>
      rw [redirect_eq_edit] at hwrite
      exact hreport.trans (Disk.edited_of_edit hwrite).grows
    · exact hreport

/-- Behind the last stage a pipeline only makes the disk grow. -/
lemma grows_of_runs {outs : List StageOutput} {stop : Option StageFailure}
    (h : Runs host 0 p.stages .empty sh outs stop left) :
    left.disk.Grows (execute host p sh).2.disk := by
  cases stop with
  | some failure =>
      rw [execute_of_stopped h]
      exact .refl left.disk
  | none =>
      rw [execute_of_completed h, finish]
      cases p.redirection with
      | none => exact .refl left.disk
      | some r =>
          have hwrite := grows_writeOutput host r (Flow.start.after outs).bytes left
          dsimp only
          split
          · next written heq =>
            rw [heq] at hwrite
            exact hwrite
          · next path fault written heq =>
            rw [heq] at hwrite
            exact hwrite

/-! ## The directory is kept -/

/-- The shell is in a directory where it can stay. -/
structure Housed (sh : Shell) : Prop where
  links : sh.disk.LinksReadable
  home : sh.disk.IsHome sh.state.dir

/-- A disk that grows under a shell that stays where it is leaves it housed. -/
lemma Housed.of_grows (h : sh.Housed) (hdisk : sh.disk.Grows sh'.disk)
    (hdir : sh'.state.dir = sh.state.dir) : sh'.Housed :=
  ⟨h.links.grown hdisk, hdir ▸ h.home.grown hdisk⟩

/-- Reporting leaves the shell housed. -/
lemma Housed.report (h : sh.Housed) (events : List Event) : (sh.report events).Housed :=
  h.of_grows (grows_report sh events) rfl

/-- So does a change of state, whether it is accepted or refused. -/
lemma Housed.apply (h : sh.Housed) (c : Change) :
    ({ sh with state := (sh.state.apply sh.disk c).1 } : Shell).Housed :=
  ⟨h.links, (ShellState.applied_apply sh.state sh.disk c).isHome h.links h.home⟩

/-- The stage of a built-in command does so too, also when it fails. -/
lemma Housed.runStage (h : sh.Housed) (hbuiltin : Builtin.isBuiltin stage.command = true) :
    (runStage host index stage input sh).2.Housed := by
  rcases hrun : Shell.runStage host index stage input sh with ⟨result, left⟩
  have hdisk := grows_runStage hbuiltin hrun
  cases altered_of_runStage hrun with
  | not hstate => exact h.of_grows hdisk (congrArg ShellState.dir hstate)
  | changed _ _ happlied _ =>
      have hlinks := h.links.grown hdisk
      exact ⟨hlinks, happlied.isHome hlinks (h.home.grown hdisk)⟩

/-- And so do the stages of a run, one after the other. -/
lemma Housed.runs (h : sh.Housed) {stages : List Stage} {outs : List StageOutput}
    {stop : Option StageFailure}
    (hbuiltin : ∀ stage ∈ stages, Builtin.isBuiltin stage.command = true)
    (hrun : Runs host index stages input sh outs stop left) : left.Housed :=
  hrun.keeps Housed (fun _ events hmid => hmid.report events)
    (fun _ _ _ stage hmem hmid => hmid.runStage (hbuiltin stage hmem)) h

/-- A pipeline of built-in commands leaves the shell housed. -/
lemma Housed.execute (h : sh.Housed)
    (hbuiltin : ∀ stage ∈ p.stages, Builtin.isBuiltin stage.command = true) :
    (execute host p sh).2.Housed := by
  obtain ⟨outs, stop, left, hrun⟩ := exists_runs host 0 p.stages .empty sh
  have hstate := (keeps_of_execute hrun).1
  exact (h.runs hbuiltin hrun).of_grows (grows_of_runs hrun) (congrArg ShellState.dir hstate)

/-! ## The directory changes -/

/-- A stage changes the directory only as a `cd` that completes. -/
lemma dir_eq_or_cd (h : runStage host index stage input sh = (result, left)) :
    left.state.dir = sh.state.dir ∨
      Builtin.ofName? stage.command = some .cd ∧ ∃ o, result = .ok o := by
  cases altered_of_runStage h with
  | not hstate => exact .inl (congrArg ShellState.dir hstate)
  | @changed b asked refusal _ _ hname hasks happlied hresult =>
      by_cases hmoved : (∃ path, asked = .changeDir path) ∧ refusal = none
      · obtain ⟨⟨path, rfl⟩, rfl⟩ := hmoved
        cases hasks with
        | cd =>
            cases result with
            | ok o => exact .inr ⟨hname, o, rfl⟩
            | error failure => cases hresult
      · exact .inl (happlied.dir_eq hmoved)

/-- A stage whose command asks for a change that nothing can prevent makes it. -/
lemma state_of_asked {b : Builtin} {c : Change} {state : ShellState}
    (hname : Builtin.ofName? stage.command = some b)
    (hrun : (b.run (sh.view host input) stage.args).result = .ok (some c))
    (haccept : ∀ disk, sh.disk.Grows disk → sh.state.apply disk c = (state, none))
    (h : runStage host index stage input sh = (result, left)) :
    (∃ o, result = .ok o) ∧ left.state = state := by
  rw [runStage, hname] at h
  simp only [runBuiltin, hrun] at h
  have hgrows := (grows_after host b sh input stage.args).trans
    (grows_report _ [.changeRequested stage.command c])
  generalize hasked : (sh.after (b.run (sh.view host input) stage.args)).report
    [.changeRequested stage.command c] = asked at h hgrows
  have hstate : asked.state = sh.state := by rw [← hasked]; rfl
  rw [hstate, haccept asked.disk hgrows] at h
  obtain ⟨rfl, rfl⟩ := Prod.mk.inj h
  exact ⟨⟨_, rfl⟩, rfl⟩

/-- A stage whose command fails leaves the state as it was. -/
lemma state_of_failed {b : Builtin} {e : CommandError}
    (hname : Builtin.ofName? stage.command = some b)
    (hrun : (b.run (sh.view host input) stage.args).result = .error e)
    (h : runStage host index stage input sh = (result, left)) :
    (∃ failure, result = .error failure) ∧ left.state = sh.state := by
  rw [runStage, hname] at h
  simp only [runBuiltin, hrun] at h
  obtain ⟨rfl, rfl⟩ := Prod.mk.inj h
  exact ⟨⟨_, rfl⟩, rfl⟩

/-- `cd` goes to the directory that it names, or it fails and leaves the state as it was. -/
theorem runStage_cd (hsh : sh.Housed) (hname : Builtin.ofName? stage.command = some .cd)
    (h : runStage host index stage input sh = (result, left)) :
    (∃ o path dir, result = .ok o ∧ stage.args.length ≤ 1 ∧
      sh.state.resolve host.env (stage.args.headD "~") = .ok path ∧
      sh.disk.realDirectory? path = some dir ∧ left.state = { sh.state with dir }) ∨
    ∃ failure, result = .error failure ∧ left.state = sh.state ∧
      (1 < stage.args.length ∨ ∀ path,
        sh.state.resolve host.env (stage.args.headD "~") = .ok path →
          sh.disk.realDirectory? path = none) := by
  rcases Builtin.cdCommand_cases (sh.view host input) stage.args with
    ⟨path, dir, hargs, hpath, hdir, hask⟩ | ⟨hwhy, e, hfail⟩
  · left
    have habsolute := ShellState.isAbsolute_of_resolve hsh.home.isAbsolute hpath
    have hhome := Disk.isHome_of_realDirectory? hsh.links habsolute hdir
    obtain ⟨⟨o, ho⟩, hstate⟩ := state_of_asked hname hask
      (fun disk hgrows => ShellState.apply_changeDir_of_isHome (hhome.grown hgrows) sh.state) h
    exact ⟨o, path, dir, ho, hargs, hpath, hdir, hstate⟩
  · right
    obtain ⟨⟨failure, hfailure⟩, hstate⟩ := state_of_failed hname hfail h
    exact ⟨failure, hfailure, hstate, hwhy⟩

/-! ## The directory throughout a run -/

variable {k : Nat} {stages : List Stage} {input' : ByteArray} {began first : Shell}

/-- Every stage of such a pipeline begins in a shell that is housed. -/
lemma housed_of_begins (h : Begins host index stages input sh k stage input' began)
    (hbuiltin : ∀ stage ∈ stages, Builtin.isBuiltin stage.command = true) (hsh : sh.Housed) :
    began.Housed := by
  induction h with
  | first => exact hsh.report _
  | later hstage _ ih =>
      obtain ⟨-, rfl⟩ := Prod.mk.inj hstage
      have hfirst := hbuiltin _ List.mem_cons_self
      exact ih (fun stage hmem => hbuiltin stage (List.mem_cons_of_mem _ hmem))
        (((hsh.report _).runStage hfirst).report _)

/-- Stages leave the directory as it was, or as the last `cd` among them that completed has left
it. -/
theorem Runs.dir_eq_or_exists_cd {outs : List StageOutput} {stop : Option StageFailure}
    (h : Runs host index stages input sh outs stop left) :
    left.state.dir = sh.state.dir ∨ ∃ k stage input' began o ran,
      Begins host index stages input sh k stage input' began ∧
        Builtin.ofName? stage.command = some .cd ∧
        runStage host k stage input' began = (.ok o, ran) ∧ left.state.dir = ran.state.dir := by
  induction h with
  | done => exact .inl rfl
  | completed hstage _ ih =>
      rcases ih with hkept | ⟨k, stage', input', began, o, ran, hbegins, hcd, hran, hdir⟩
      · obtain ⟨ran, hran, rfl⟩ := runStage_of_runReported hstage
        rcases dir_eq_or_cd hran with hfirst | ⟨hcd, -⟩
        · exact .inl (hkept.trans hfirst)
        · exact .inr ⟨_, _, _, _, _, ran, .first, hcd, hran, hkept⟩
      · exact .inr ⟨k, stage', input', began, o, ran, .later hstage hbegins, hcd, hran, hdir⟩
  | stopped hstage =>
      obtain ⟨ran, hran, rfl⟩ := runStage_of_runReported hstage
      rcases dir_eq_or_cd hran with hkept | ⟨-, o, ho⟩
      · exact .inl hkept
      · cases ho

/-- The shells that a run of pipelines and changes comes through, between two of them and where a
stage of a pipeline begins.  All stages are built-in commands. -/
inductive Visits (host : Host) (first : Shell) : Shell → Prop
  | first : Visits host first first
  | applied {sh : Shell} (h : Visits host first sh) (c : Change) :
      Visits host first { sh with state := (sh.state.apply sh.disk c).1 }
  | began {sh began : Shell} {p : Pipeline} {k : Nat} {stage : Stage} {input : ByteArray}
      (h : Visits host first sh)
      (hbuiltin : ∀ stage ∈ p.stages, Builtin.isBuiltin stage.command = true)
      (hbegins : Begins host 0 p.stages .empty sh k stage input began) : Visits host first began
  | executed {sh : Shell} {p : Pipeline} (h : Visits host first sh)
      (hbuiltin : ∀ stage ∈ p.stages, Builtin.isBuiltin stage.command = true) :
      Visits host first (execute host p sh).2

/-- A run that starts in a directory where a shell can stay is always in such a one. -/
lemma housed_of_visits (hfirst : first.Housed) (h : Visits host first sh) : sh.Housed := by
  induction h with
  | first => exact hfirst
  | applied _ c ih => exact ih.apply c
  | began _ hbuiltin hbegins ih => exact housed_of_begins hbegins hbuiltin ih
  | executed _ hbuiltin ih => exact ih.execute hbuiltin

/-- Where a shell starts on a sound disk, its directory is absolute, its own canonical path, and
exists, throughout a run of pipelines of built-in commands and of changes.  The directory changes
only where a change of directory is accepted or a `cd` completes, and then it is the canonical path
of what was named.  Where that is no directory, and where `cd` has too many arguments, the change is
refused or `cd` fails, and the state stays as it was.  A pipeline leaves the directory as it was, or
as a `cd` in it has left it that completed. -/
theorem directory_stays_valid {path : String} (hdisk : first.disk.Sound)
    (hstart : ShellState.startIn first.disk path = .ok first.state)
    (h : Visits host first sh) :
    (Path.isAbsolute sh.state.dir = true ∧ sh.disk.canonical sh.state.dir = .ok sh.state.dir ∧
      sh.disk.isDirectory sh.state.dir = true) ∧
    (∀ c s' refusal, sh.state.apply sh.disk c = (s', refusal) →
      (s'.dir = sh.state.dir ∨ refusal = none ∧ ∃ path, c = .changeDir path) ∧
      ∀ path, c = .changeDir path →
        (refusal = none ∧ sh.disk.canonical (Path.join sh.state.dir path) = .ok s'.dir ∧
          sh.disk.isDirectory s'.dir = true) ∨
        ((∃ e, refusal = some e) ∧ s' = sh.state ∧
          ∀ dir, sh.disk.canonical (Path.join sh.state.dir path) = .ok dir →
            sh.disk.isDirectory dir = false)) ∧
    (∀ index stage input result left, runStage host index stage input sh = (result, left) →
      (left.state.dir = sh.state.dir ∨
        Builtin.ofName? stage.command = some .cd ∧ ∃ o, result = .ok o) ∧
      (Builtin.ofName? stage.command = some .cd →
        (∃ o path, result = .ok o ∧ stage.args.length ≤ 1 ∧
          sh.state.resolve host.env (stage.args.headD "~") = .ok path ∧
          sh.disk.canonical path = .ok left.state.dir ∧
          sh.disk.isDirectory left.state.dir = true) ∨
        ((∃ failure, result = .error failure) ∧ left.state = sh.state ∧
          (1 < stage.args.length ∨ ∀ path dir,
            sh.state.resolve host.env (stage.args.headD "~") = .ok path →
              sh.disk.canonical path = .ok dir → sh.disk.isDirectory dir = false)))) ∧
    ∀ p, (execute host p sh).2.state.dir = sh.state.dir ∨ ∃ k stage input began o ran,
      Begins host 0 p.stages .empty sh k stage input began ∧
        Builtin.ofName? stage.command = some .cd ∧
        runStage host k stage input began = (.ok o, ran) ∧
        (execute host p sh).2.state.dir = ran.state.dir := by
  have hfirst : first.Housed := ⟨hdisk.links, ShellState.isHome_of_startIn hdisk hstart⟩
  have hsh := housed_of_visits hfirst h
  refine ⟨⟨hsh.home.isAbsolute, hsh.home.canonical, hsh.home.isDirectory⟩, ?_, ?_, ?_⟩
  -- a single change of the state
  · intro c s' refusal happly
    constructor
    · by_cases hmoved : (∃ path, c = .changeDir path) ∧ refusal = none
      · exact .inr hmoved.symm
      · exact .inl ((ShellState.applied_of_apply happly).dir_eq hmoved)
    · rintro path rfl
      exact ShellState.apply_changeDir_cases happly
  -- a single stage
  · intro index stage input result left hrun
    refine ⟨dir_eq_or_cd hrun, fun hname => ?_⟩
    rcases runStage_cd hsh hname hrun with
      ⟨o, path, dir, ho, hargs, hpath, hdir, hstate⟩ | ⟨failure, hfailure, hstate, hwhy⟩
    · rw [hstate]
      exact .inl ⟨o, path, ho, hargs, hpath, Disk.canonical_of_realDirectory? hdir⟩
    · refine .inr ⟨⟨failure, hfailure⟩, hstate, hwhy.imp_right fun hnone path dir hpath => ?_⟩
      exact Disk.isDirectory_eq_false_of_realDirectory? (hnone path hpath)
  -- a whole pipeline: what the stages leave, `execute` leaves as it is
  · intro p
    obtain ⟨outs, stop, left, hrun⟩ := exists_runs host 0 p.stages .empty sh
    rw [(keeps_of_execute hrun).1]
    exact hrun.dir_eq_or_exists_cd

/-- A disk with a directory and a link to it. -/
def linkedDisk : Disk :=
  ((Disk.empty []).put ["a"] .directory).put ["l"] (.link "a")

/-- The disk of the example is one to which all this applies. -/
lemma sound_linkedDisk : linkedDisk.Sound where
  base e he := by
    cases he
    exact Disk.leads_root _
  links l target hlink := by
    rw [linkedDisk, Disk.entryAt?_put _ (by simp), Disk.entryAt?_put _ (by simp)] at hlink
    split_ifs at hlink
    · cases hlink
      decide
    · cases hlink
    · cases l <;> simp [Disk.entryAt?, Disk.empty, NameTree.get?] at hlink

/-- `cd l` follows a link, and a `cd` to what does not exist then changes nothing. -/
theorem directory_stays_valid_behind_link :
    let first := newShell linkedDisk
    let moved := (execute bareHost (.single (plainStage "cd" ["l"])) first).2
    let sh := (execute bareHost (.single (plainStage "cd" ["l"])) moved).2
    moved.state.dir = "/a" ∧ sh.state.dir = "/a" ∧ Visits bareHost first sh ∧
      Path.isAbsolute sh.state.dir = true ∧ sh.disk.canonical sh.state.dir = .ok sh.state.dir ∧
      sh.disk.isDirectory sh.state.dir = true := by
  intro first moved sh
  have hbuiltin : ∀ stage ∈ (Pipeline.single (plainStage "cd" ["l"])).stages,
      Builtin.isBuiltin stage.command = true := by decide
  have hvisits : Visits bareHost first sh := (Visits.first.executed hbuiltin).executed hbuiltin
  have hmoved : moved.state.dir = "/a" := by decide +kernel
  have hkept : sh.state.dir = "/a" := by decide +kernel
  have hstart : ShellState.startIn first.disk "/" = .ok first.state := by decide +kernel
  exact ⟨hmoved, hkept, hvisits, (directory_stays_valid sound_linkedDisk hstart hvisits).1⟩

end Shell

end PipeShell
