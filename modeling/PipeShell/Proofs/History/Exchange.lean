import PipeShell.Proofs.Builtin.Log
import PipeShell.Proofs.Disk.Target
import PipeShell.Proofs.History.Mirror

/-!
# Exchanging a log with one file

A history without a backing file exchanges its log with a file of the user's: it adds what is not
saved yet, writes all of it, or reads it back, in any order and with lines recorded in between.  An
exchange can also be refused, for reasons that come and go; then the file stays as it was.

The invariant is `Tracked`: the file holds the lines up to the mark, and those behind it are the
ones that were recorded since the last exchange that succeeded.  So nothing is lost or written twice
(`exchanges_lose_nothing`).
-/

namespace PipeShell.History

variable {path : String} {d₀ d : Disk} {recent : List String} {h : History}

/-- A history without a backing file is used on the disk `d₀`, and with one file only: storable
lines are recorded, and the log is exchanged with the file.  `recent` are the lines that were
recorded since the last exchange that succeeded.  The disk `seen` on which an exchange is refused
can be any: what stands in its way may be gone the next moment, and the file is then as it was. -/
inductive Exchanges (path : String) (d₀ : Disk) : List String → History → Disk → Prop
  | start : Exchanges path d₀ [] inMemory d₀
  | record {recent : List String} {h : History} {d : Disk} {line : String}
      (hrun : Exchanges path d₀ recent h d) (hline : Storable line) :
      Exchanges path d₀ (recent ++ [line]) (h.record d line).history (h.record d line).disk
  | succeeded {recent : List String} {h : History} {d : Disk} {x : Exchange} {count : Nat}
      {step : Step} (hrun : Exchanges path d₀ recent h d)
      (hexchange : x.run h d path = (.ok count, step)) :
      Exchanges path d₀ [] step.history step.disk
  | refused {recent : List String} {h : History} {d seen : Disk} {x : Exchange} {e : HistoryError}
      {step : Step} (hrun : Exchanges path d₀ recent h d)
      (hexchange : x.run h seen path = (.error e, step)) :
      Exchanges path d₀ recent step.history d

/-- The file holds the lines up to the mark, and `recent` are the lines behind it. -/
structure Tracked (path : String) (recent : List String) (h : History) (d : Disk) : Prop where
  backing_eq : h.backing = none
  storable : ∀ line ∈ h.entries, Storable line
  mirrors : Mirrors d path h.savedLines
  pending_eq : h.pending = recent

/-- A line that is recorded is one more of the recent ones. -/
lemma Tracked.record (ht : Tracked path recent h d) {line : String} (hline : Storable line) :
    Tracked path (recent ++ [line]) (h.record d line).history (h.record d line).disk := by
  rw [record_of_unbacked ht.backing_eq]
  refine ⟨ht.backing_eq, ?_, ?_, ?_⟩
  · exact List.forall_mem_append.mpr ⟨ht.storable, List.forall_mem_singleton.mpr hline⟩
  · rw [savedLines_push]
    exact ht.mirrors
  · rw [pending_push, ht.pending_eq]

/-- The lines that are saved can be stored, for all lines of the log can. -/
lemma Tracked.storable_savedLines (ht : Tracked path recent h d) :
    ∀ line ∈ h.savedLines, Storable line :=
  fun line hline => ht.storable line (List.mem_of_mem_take hline)

/-- What can be read are the lines up to the mark. -/
lemma Tracked.eq_savedLines_of_loadFile (ht : Tracked path recent h d) {entries : List String}
    (hload : loadFile d path = .ok entries) : entries = h.savedLines := by
  rw [← entries_ofFile_of_loadFile hload, ht.mirrors.entries_ofFile ht.storable_savedLines]

/-- An exchange that succeeds leaves nothing behind the mark, and the file with the lines before
it. -/
lemma Tracked.exchange (ht : Tracked path recent h d) {x : Exchange} {count : Nat} {step : Step}
    (hexchange : x.run h d path = (.ok count, step)) :
    Tracked path [] step.history step.disk := by
  cases x with
  | load =>
      cases loaded_of_load hexchange with
      | unbacked hload =>
          have hsaved := ht.eq_savedLines_of_loadFile hload
          refine ⟨rfl, ?_, ?_, pending_fresh _ _⟩
          · exact hsaved ▸ ht.storable_savedLines
          · rw [savedLines_fresh, hsaved]
            exact ht.mirrors
      -- there is no backing file, so no load writes one
      | replaced _ hsome | notReplaced _ hsome => cases ht.backing_eq.symm.trans hsome
  | save =>
      cases saved_of_save hexchange with
      | written hwrite =>
          refine ⟨ht.backing_eq, ht.storable, ?_, pending_markSaved h⟩
          rw [savedLines_markSaved]
          exact .inl (ht.mirrors.holds_of_writeFile hwrite)
  | saveNew =>
      cases savedNew_of_saveNew hexchange with
      | nothing hnone => exact ⟨ht.backing_eq, ht.storable, ht.mirrors, hnone⟩
      | appended happend =>
          refine ⟨ht.backing_eq, ht.storable, ?_, pending_markSaved h⟩
          rw [savedLines_markSaved, ← savedLines_append_pending]
          exact .inl (ht.mirrors.holds_of_appendFile happend)

/-- When there is a file, every exchange with it succeeds. -/
lemma Tracked.exists_run (ht : Tracked path recent h d) (hexists : d.pathExists path = true)
    (x : Exchange) : ∃ count step, x.run h d path = (.ok count, step) := by
  have hholds : Holds d path h.savedLines := by
    rcases ht.mirrors with hholds | ⟨-, fault, hlook⟩
    · exact hholds
    · rw [Disk.pathExists, hlook] at hexists
      cases hexists
  have hload := hholds.loadFile_of_storable ht.storable_savedLines
  obtain ⟨l, runnable, hlook⟩ := hholds
  cases x with
  | load => exact exists_load_of_loadFile hload
  | save =>
      obtain ⟨d', hedit, -⟩ := Disk.exists_edit_of_lookUp_file hlook
        fun _ => Text.encode (encode h.entries)
      exact exists_save_of_writeFile (writeFile_eq_ok_iff.mpr hedit)
  | saveNew =>
      obtain ⟨d', hedit, -⟩ := Disk.exists_edit_of_lookUp_file hlook
        (· ++ Text.encode (encode h.pending))
      exact exists_saveNew_of_appendFile (appendFile_eq_ok_iff.mpr hedit)

/-- The file keeps track of the log over any run. -/
theorem Exchanges.tracked (habsent : d₀.pathExists path = false)
    (hrun : Exchanges path d₀ recent h d) : Tracked path recent h d := by
  induction hrun with
  | start =>
      exact ⟨rfl, List.forall_mem_nil _, .inr ⟨rfl, Disk.exists_fault_of_absent habsent⟩, rfl⟩
  | record hrun hline ih => exact ih.record hline
  | succeeded hrun hexchange ih => exact ih.exchange hexchange
  | refused hrun hexchange ih =>
      rw [Exchange.step_of_error hexchange]
      exact ih

/-- Only a load changes the log, and then to what the file holds. -/
lemma Exchange.log_of_run {x : Exchange} {count : Nat} {step : Step}
    (hexchange : x.run h d path = (.ok count, step)) :
    if x = load then loadFile d path = .ok step.history.entries
    else step.history.entries = h.entries := by
  cases x with
  | load =>
      cases loaded_of_load hexchange with
      | unbacked hload | replaced hload | notReplaced hload => exact hload
  | save => exact entries_of_save hexchange
  | saveNew => exact entries_of_saveNew hexchange

/-- As many lines are added as are not saved yet. -/
lemma count_of_saveNew {count : Nat} {step : Step} (hsave : h.saveNew d path = (.ok count, step)) :
    count = h.pending.length := by
  cases savedNew_of_saveNew hsave with
  | nothing hnone => rw [hnone, List.length_nil]
  | appended => rfl

/-- A history without a backing file exchanges its log with one file, which does not exist at first,
in any order, with lines recorded in between and with exchanges that are refused.  The lines behind
the mark are those that were recorded since the last exchange that succeeded.  Once there is a file,
every exchange with it on the disk as it stands succeeds.  Whenever one succeeds the file holds the
log, or is still absent with an empty log; nothing is then behind the mark; what was saved is the
log as it was and what was loaded is what the file held; and saving the new lines tells their
number.  When one is refused, on whatever disk, it leaves the history and that disk as they were and
has nothing to report, and so does the command. -/
theorem exchanges_lose_nothing (habsent : d₀.pathExists path = false)
    (hrun : Exchanges path d₀ recent h d) :
    h.pending = recent ∧
    (d.pathExists path = true → ∀ x, ∃ count step, Exchange.run h d path x = (.ok count, step)) ∧
    (∀ x count step, Exchange.run h d path x = (.ok count, step) →
      (loadFile step.disk path = .ok step.history.entries ∨
        step.disk.pathExists path = false ∧ step.history.entries = []) ∧
      step.history.pending = [] ∧
      (if x = .load then loadFile d path = .ok step.history.entries
        else step.history.entries = h.entries) ∧
      (x = .saveNew → count = recent.length)) ∧
    (∀ x seen e step, Exchange.run h seen path x = (.error e, step) → step = ⟨h, seen, []⟩) ∧
    (∀ (v : View) (args : List String) (e : CommandError), v.history = h →
      (Builtin.historyCommand v args).result = .error e →
      (Builtin.historyCommand v args).history = h ∧
        (Builtin.historyCommand v args).disk = v.disk) := by
  have ht := hrun.tracked habsent
  refine ⟨ht.pending_eq, ht.exists_run, ?_, fun _ _ _ _ => Exchange.step_of_error, ?_⟩
  · intro x count step hexchange
    have hafter := ht.exchange hexchange
    have hlog : step.history.savedLines = step.history.entries := by
      rw [← savedLines_append_pending, hafter.pending_eq, List.append_nil]
    have hfile := hafter.mirrors.loadFile_or_absent hafter.storable_savedLines
    rw [hlog] at hfile
    refine ⟨hfile, hafter.pending_eq, Exchange.log_of_run hexchange, ?_⟩
    rintro rfl
    rw [count_of_saveNew hexchange, ht.pending_eq]
  · rintro v args e rfl herror
    rw [Builtin.historyCommand_of_error herror]
    exact ⟨rfl, rfl⟩

/-- Two lines are recorded, adding them to the file is refused because a directory is in the way,
one more line is recorded, and all three are added. -/
theorem exchanges_lose_nothing_after_refusal :
    (Disk.empty []).pathExists "/log" = false ∧
      ∃ h d step, Exchanges "/log" (.empty []) ["ls", "pwd", "echo a\necho b"] h d ∧
        h.saveNew d "/log" = (.ok 3, step) ∧ step.history.pending = [] ∧
        step.history.entries = ["ls", "pwd", "echo a\necho b"] ∧
        loadFile step.disk "/log" = .ok ["ls", "pwd", "echo a\necho b"] := by
  have habsent : (Disk.empty []).pathExists "/log" = false := rfl
  have hls : Storable "ls" := ⟨rfl, by decide⟩
  have hpwd : Storable "pwd" := ⟨rfl, by decide⟩
  have hecho : Storable "echo a\necho b" := ⟨rfl, by decide⟩
  have hfirst := @Exchanges.start "/log" (.empty []) |>.record hls |>.record hpwd
  have hrefused := @Exchanges.refused _ _ _ _ _ ((Disk.empty []).put ["log"] .directory) .saveNew
    ⟨"/log", .isADirectory⟩ _ hfirst rfl
  have hrun := hrefused.record hecho
  obtain ⟨-, -, hsucceeds, -⟩ := exchanges_lose_nothing habsent hrun
  obtain ⟨hfile, hpending, hlog, -⟩ := hsucceeds .saveNew _ _ rfl
  refine ⟨habsent, _, _, _, hrun, rfl, hpending, hlog, ?_⟩
  rcases hfile with hfile | ⟨hgone, -⟩
  · exact hfile
  · cases hgone

end PipeShell.History
