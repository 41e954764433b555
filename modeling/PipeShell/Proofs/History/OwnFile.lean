import PipeShell.Proofs.History.Mirror

/-!
# Saving a log to its own backing file

Recording adds a line to the backing file at once, but it does not move the mark of what is saved:
that is left to the exchanges with files the user names.  When such a file is the backing file
itself, every line since the last exchange is added to it a second time.  `SavesToOwn` follows the
lines in the batches in which they are saved; `saving_to_own_file` says what the file holds after
any run: each batch twice, and the lines behind the mark once.
-/

namespace PipeShell.History

variable {path : String} {d₀ d : Disk} {batches : List (List String)} {recent : List String}
  {h : History}

/-- A history is opened on a file and used while all goes well: storable lines are recorded, and
what is not saved yet is saved to that same file.  `batches` are the lines in the order in which
they were saved, together or apart, and `recent` those recorded since. -/
inductive SavesToOwn (path : String) (d₀ : Disk) :
    List (List String) → List String → History → Disk → Prop
  | opened : SavesToOwn path d₀ [] [] (ofFile d₀ path).1 d₀
  | record {batches : List (List String)} {recent : List String} {h : History} {d : Disk}
      {line : String} (hrun : SavesToOwn path d₀ batches recent h d) (hline : Storable line)
      (hsaved : (h.record d line).events = []) :
      SavesToOwn path d₀ batches (recent ++ [line]) (h.record d line).history
        (h.record d line).disk
  | saveNew {batches : List (List String)} {recent : List String} {h : History} {d : Disk}
      {count : Nat} {step : Step} (hrun : SavesToOwn path d₀ batches recent h d)
      (hsave : h.saveNew d path = (.ok count, step)) :
      SavesToOwn path d₀ (batches ++ [recent]) [] step.history step.disk

/-- Each batch twice. -/
def twice (batches : List (List String)) : List String :=
  batches.flatMap fun batch => batch ++ batch

/-- The last batch stands twice at the end. -/
lemma twice_concat (batches : List (List String)) (batch : List String) :
    twice (batches ++ [batch]) = twice batches ++ (batch ++ batch) := by
  simp [twice]

/-- Writing batches twice adds no other lines. -/
lemma mem_twice_iff {line : String} : line ∈ twice batches ↔ line ∈ batches.flatten := by
  simp [twice]

/-- It doubles their number. -/
lemma length_twice (batches : List (List String)) :
    (twice batches).length = 2 * batches.flatten.length := by
  induction batches with
  | nil => rfl
  | cons batch rest ih =>
      rw [twice, List.flatMap_cons, List.length_append, ← twice, ih, List.flatten_cons,
        List.length_append, List.length_append]
      omega

/-- The log has each line once, and the backing file has those that were saved twice. -/
structure Doubled (path : String) (batches : List (List String)) (recent : List String)
    (h : History) (d : Disk) : Prop where
  backing_eq : h.backing = some path
  saved_eq : h.savedLines = batches.flatten
  pending_eq : h.pending = recent
  storable : ∀ line ∈ h.entries, Storable line
  mirrors : Mirrors d path (twice batches ++ recent)

/-- The log has the batches and then the recent lines, each once. -/
lemma Doubled.entries_eq (hd : Doubled path batches recent h d) :
    h.entries = batches.flatten ++ recent := by
  rw [← hd.saved_eq, ← hd.pending_eq, savedLines_append_pending]

/-- A history that starts without a file has no batches. -/
lemma doubled_ofFile (habsent : d₀.pathExists path = false) :
    Doubled path [] [] (ofFile d₀ path).1 d₀ := by
  have hmirrors : Mirrors d₀ path [] := .inr ⟨rfl, Disk.exists_fault_of_absent habsent⟩
  have hlog := hmirrors.entries_ofFile (List.forall_mem_nil _)
  refine ⟨backing_ofFile d₀ path, ?_, ?_, ?_, hmirrors⟩
  · rw [savedLines, hlog, List.take_nil, List.flatten_nil]
  · rw [pending, hlog, List.drop_nil]
  · rw [hlog]
    exact List.forall_mem_nil _

/-- A line that is recorded goes to the end of the log and of the file, once. -/
lemma Doubled.record (hd : Doubled path batches recent h d) {line : String}
    (hline : Storable line) (hsaved : (h.record d line).events = []) :
    Doubled path batches (recent ++ [line]) (h.record d line).history (h.record d line).disk := by
  obtain ⟨disk, happend, hrecord⟩ := record_of_saved hd.backing_eq hsaved
  rw [hrecord]
  refine ⟨hd.backing_eq, ?_, ?_, ?_, ?_⟩
  · rw [savedLines_push, hd.saved_eq]
  · rw [pending_push, hd.pending_eq]
  · exact List.forall_mem_append.mpr ⟨hd.storable, List.forall_mem_singleton.mpr hline⟩
  · rw [← List.append_assoc]
    exact .inl (hd.mirrors.holds_of_appendFile happend)

/-- Saving to the own file adds to it once more what was recorded there since the last time. -/
lemma Doubled.saveNew (hd : Doubled path batches recent h d) {count : Nat} {step : Step}
    (hsave : h.saveNew d path = (.ok count, step)) :
    Doubled path (batches ++ [recent]) [] step.history step.disk := by
  cases savedNew_of_saveNew hsave with
  | nothing hnone =>
      obtain rfl : recent = [] := hd.pending_eq.symm.trans hnone
      refine ⟨hd.backing_eq, ?_, hnone, hd.storable, ?_⟩
      · simpa using hd.saved_eq
      · simpa [twice_concat] using hd.mirrors
  | appended happend =>
      refine ⟨hd.backing_eq, ?_, pending_markSaved h, hd.storable, ?_⟩
      · rw [savedLines_markSaved, hd.entries_eq, List.flatten_concat]
      · rw [hd.pending_eq] at happend
        rw [twice_concat, List.append_nil, ← List.append_assoc]
        exact .inl (hd.mirrors.holds_of_appendFile happend)

/-- The lines of the log stay in step with the batches over any run. -/
theorem SavesToOwn.doubled (habsent : d₀.pathExists path = false)
    (hrun : SavesToOwn path d₀ batches recent h d) : Doubled path batches recent h d := by
  induction hrun with
  | opened => exact doubled_ofFile habsent
  | record hrun hline hsaved ih => exact ih.record hline hsaved
  | saveNew hrun hsave ih => exact ih.saveNew hsave

/-- A history is opened on a file that does not exist, lines are recorded, and what is not saved yet
is saved to that file, in any order.  The log has the lines as they were recorded.  The file, when
it is opened again, has each batch that was saved twice, and so it has the log exactly when nothing
was ever saved in this way. -/
theorem saving_to_own_file (habsent : d₀.pathExists path = false)
    (hrun : SavesToOwn path d₀ batches recent h d) :
    h.entries = batches.flatten ++ recent ∧
      (ofFile d path).1.entries = twice batches ++ recent ∧
      ((ofFile d path).1.entries = h.entries ↔ batches.flatten = []) := by
  have hd := hrun.doubled habsent
  have hentries := hd.entries_eq
  have hstorable : ∀ line ∈ twice batches ++ recent, Storable line := by
    intro line hline
    apply hd.storable
    rw [hentries]
    simpa only [List.mem_append, mem_twice_iff] using hline
  have hreopened := hd.mirrors.entries_ofFile hstorable
  refine ⟨hentries, hreopened, ?_⟩
  rw [hreopened, hentries, List.append_cancel_right_eq]
  constructor
  · intro hsame
    have hlength := congrArg List.length hsame
    rw [length_twice] at hlength
    exact List.length_eq_zero_iff.mp (by omega)
  · intro hnil
    rw [hnil, ← List.length_eq_zero_iff, length_twice, hnil]
    rfl

/-- Two lines are recorded and saved, nothing is saved once more, and a third line is recorded. -/
theorem saving_to_own_file_between_lines :
    (Disk.empty []).pathExists "/log" = false ∧
      ∃ h d, SavesToOwn "/log" (.empty []) [["ls", "echo a\necho b"], []] ["pwd"] h d ∧
        h.entries = ["ls", "echo a\necho b", "pwd"] ∧
        (ofFile d "/log").1.entries =
          ["ls", "echo a\necho b", "ls", "echo a\necho b", "pwd"] := by
  have habsent : (Disk.empty []).pathExists "/log" = false := rfl
  have hls : Storable "ls" := ⟨rfl, by decide⟩
  have hecho : Storable "echo a\necho b" := ⟨rfl, by decide⟩
  have hpwd : Storable "pwd" := ⟨rfl, by decide⟩
  have hfirst := @SavesToOwn.opened "/log" (.empty []) |>.record hls rfl |>.record hecho rfl
  have hrun := hfirst.saveNew rfl |>.saveNew rfl |>.record hpwd rfl
  obtain ⟨hentries, hreopened, -⟩ := saving_to_own_file habsent hrun
  exact ⟨habsent, _, _, hrun, hentries, hreopened⟩

/-- A line that is recorded and then saved to the backing file stands there twice. -/
theorem saving_to_own_file_repeats_line :
    (Disk.empty []).pathExists "/log" = false ∧
      ∃ h d, SavesToOwn "/log" (.empty []) [["ls"]] [] h d ∧ h.entries = ["ls"] ∧
        (ofFile d "/log").1.entries = ["ls", "ls"] ∧ (ofFile d "/log").1.entries ≠ h.entries := by
  have hls : Storable "ls" := ⟨rfl, by decide⟩
  have hrun := @SavesToOwn.opened "/log" (.empty []) |>.record hls rfl |>.saveNew rfl
  refine ⟨rfl, _, _, hrun, rfl, rfl, ?_⟩
  intro hsame
  have htwice : ["ls", "ls"] = ["ls"] := hsame
  cases htwice

end PipeShell.History
