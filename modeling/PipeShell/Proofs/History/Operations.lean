import PipeShell.History
import PipeShell.Proofs.Results

/-!
# What the operations on a history can do

Each operation has one statement that says all it can have done: `record_cases`, `Loaded`, `Saved`
and `SavedNew`.  A line that is recorded joins the log whatever becomes of the backing file.  An
exchange with a file that is refused leaves the history and the disk as they were, and there is
nothing to report about it (`Exchange.step_of_error`).

The mark of what is saved cuts the log in two: the lines that are saved (`savedLines`) and those
that are not (`pending`).  A new line is one that is not saved; when the log was saved or loaded
nothing is left to save.
-/

namespace PipeShell.History

variable {h : History} {d : Disk} {path line : String} {result : Except HistoryError Nat}
  {step : Step}

/-! ## Files -/

/-- Entries are written to a file exactly if their text is. -/
lemma writeFile_eq_ok_iff {entries : List String} {d' : Disk} :
    writeFile d path entries = .ok d' ↔
      d.overwrite path (Text.encode (encode entries)) = .ok d' := by
  unfold writeFile
  split <;> simp_all

/-- Entries are appended to a file exactly if their text is. -/
lemma appendFile_eq_ok_iff {entries : List String} {d' : Disk} :
    appendFile d path entries = .ok d' ↔
      d.append path (Text.encode (encode entries)) = .ok d' := by
  unfold appendFile
  split <;> simp_all

/-! ## Recording -/

/-- A line is recorded without a backing file, it is added to that file, or it could not be. -/
theorem record_cases (h : History) (d : Disk) (line : String) :
    (h.backing = none ∧ h.record d line = ⟨h.push line, d, []⟩) ∨
    (∃ file disk, h.backing = some file ∧ appendFile d file [line] = .ok disk ∧
      h.record d line = ⟨h.push line, disk, []⟩) ∨
    ∃ file e, h.backing = some file ∧ appendFile d file [line] = .error e ∧
      h.record d line = ⟨h.push line, d, [.entryNotSaved e]⟩ := by
  unfold record
  cases hbacking : h.backing with
  | none => exact .inl ⟨rfl, rfl⟩
  | some file =>
      cases happend : appendFile d file [line] with
      | ok disk => exact .inr (.inl ⟨file, disk, rfl, happend, by simp only [happend]⟩)
      | error e => exact .inr (.inr ⟨file, e, rfl, happend, by simp only [happend]⟩)

/-- The line is added to the log, whatever becomes of the backing file. -/
lemma history_record (h : History) (d : Disk) (line : String) :
    (h.record d line).history = h.push line := by
  obtain ⟨-, hrecord⟩ | ⟨_, _, -, -, hrecord⟩ | ⟨_, _, -, -, hrecord⟩ := record_cases h d line <;>
    rw [hrecord]

/-- Without a backing file, recording a line only adds it to the log. -/
lemma record_of_unbacked (hbacking : h.backing = none) (d : Disk) (line : String) :
    h.record d line = ⟨h.push line, d, []⟩ := by
  obtain ⟨-, hrecord⟩ | ⟨_, _, hsome, -⟩ | ⟨_, _, hsome, -⟩ := record_cases h d line
  · exact hrecord
  · cases hbacking.symm.trans hsome
  · cases hbacking.symm.trans hsome

/-- When a line was recorded without trouble it is in the backing file. -/
lemma record_of_saved (hbacking : h.backing = some path)
    (hsaved : (h.record d line).events = []) :
    ∃ disk, appendFile d path [line] = .ok disk ∧ h.record d line = ⟨h.push line, disk, []⟩ := by
  obtain ⟨hnone, -⟩ | ⟨file, disk, hsome, happend, hrecord⟩ | ⟨_, _, -, -, hrecord⟩ :=
    record_cases h d line
  · cases hbacking.symm.trans hnone
  · cases hbacking.symm.trans hsome
    exact ⟨disk, happend, hrecord⟩
  · rw [hrecord] at hsaved
    cases hsaved

/-! ## Exchanges with a file -/

/-- What replacing the log by the entries of a file can have done. -/
inductive Loaded (h : History) (d : Disk) (path : String) : Except HistoryError Nat → Step → Prop
  | unbacked {entries : List String} (hload : loadFile d path = .ok entries)
      (hbacking : h.backing = none) :
      Loaded h d path (.ok entries.length) ⟨fresh entries none, d, []⟩
  | replaced {entries : List String} {file : String} {disk : Disk}
      (hload : loadFile d path = .ok entries) (hbacking : h.backing = some file)
      (hwrite : writeFile d file entries = .ok disk) :
      Loaded h d path (.ok entries.length) ⟨fresh entries (some file), disk, []⟩
  | notReplaced {entries : List String} {file : String} {e : HistoryError}
      (hload : loadFile d path = .ok entries) (hbacking : h.backing = some file)
      (hwrite : writeFile d file entries = .error e) :
      Loaded h d path (.ok entries.length) ⟨fresh entries (some file), d, [.historyNotReplaced e]⟩
  | refused {e : HistoryError} (hload : loadFile d path = .error e) :
      Loaded h d path (.error e) ⟨h, d, []⟩

/-- `Loaded` tells all that can come of loading. -/
theorem loaded_of_load (hrun : h.load d path = (result, step)) :
    h.Loaded d path result step := by
  unfold load at hrun
  cases hload : loadFile d path with
  | error e =>
      simp only [hload] at hrun
      cases hrun
      exact .refused hload
  | ok entries =>
      cases hbacking : h.backing with
      | none =>
          simp only [hload, hbacking] at hrun
          cases hrun
          exact .unbacked hload hbacking
      | some file =>
          cases hwrite : writeFile d file entries with
          | ok disk =>
              simp only [hload, hbacking, hwrite] at hrun
              cases hrun
              exact .replaced hload hbacking hwrite
          | error e =>
              simp only [hload, hbacking, hwrite] at hrun
              cases hrun
              exact .notReplaced hload hbacking hwrite

/-- The log can be replaced by the entries of any file that can be read. -/
lemma exists_load_of_loadFile {entries : List String} (hload : loadFile d path = .ok entries) :
    ∃ count step, h.load d path = (.ok count, step) := by
  unfold load
  simp only [hload]
  split
  · exact ⟨_, _, rfl⟩
  · split <;> exact ⟨_, _, rfl⟩

/-- What writing the whole log to a file can have done. -/
inductive Saved (h : History) (d : Disk) (path : String) : Except HistoryError Nat → Step → Prop
  | written {disk : Disk} (hwrite : writeFile d path h.entries = .ok disk) :
      Saved h d path (.ok h.entries.length) ⟨h.markSaved, disk, []⟩
  | refused {e : HistoryError} (hwrite : writeFile d path h.entries = .error e) :
      Saved h d path (.error e) ⟨h, d, []⟩

/-- `Saved` tells all that can come of saving. -/
theorem saved_of_save (hrun : h.save d path = (result, step)) : h.Saved d path result step := by
  unfold save at hrun
  cases hwrite : writeFile d path h.entries with
  | ok disk =>
      simp only [hwrite] at hrun
      cases hrun
      exact .written hwrite
  | error e =>
      simp only [hwrite] at hrun
      cases hrun
      exact .refused hwrite

/-- The log can be written wherever a file can. -/
lemma exists_save_of_writeFile {disk : Disk} (hwrite : writeFile d path h.entries = .ok disk) :
    ∃ count step, h.save d path = (.ok count, step) := by
  unfold save
  simp only [hwrite]
  exact ⟨_, _, rfl⟩

/-- What saving the lines that are not saved yet can have done. -/
inductive SavedNew (h : History) (d : Disk) (path : String) : Except HistoryError Nat → Step → Prop
  | nothing (hpending : h.pending = []) : SavedNew h d path (.ok 0) ⟨h, d, []⟩
  | appended {disk : Disk} (happend : appendFile d path h.pending = .ok disk) :
      SavedNew h d path (.ok h.pending.length) ⟨h.markSaved, disk, []⟩
  | refused {e : HistoryError} (happend : appendFile d path h.pending = .error e) :
      SavedNew h d path (.error e) ⟨h, d, []⟩

/-- `SavedNew` tells all that can come of saving what is new. -/
theorem savedNew_of_saveNew (hrun : h.saveNew d path = (result, step)) :
    h.SavedNew d path result step := by
  unfold saveNew at hrun
  split_ifs at hrun with hnone
  · cases hrun
    exact .nothing (List.isEmpty_iff.mp hnone)
  · cases happend : appendFile d path h.pending with
    | ok disk =>
        simp only [happend] at hrun
        cases hrun
        exact .appended happend
    | error e =>
        simp only [happend] at hrun
        cases hrun
        exact .refused happend

/-- The lines that are not saved can be added wherever a file can be added to. -/
lemma exists_saveNew_of_appendFile {disk : Disk}
    (happend : appendFile d path h.pending = .ok disk) :
    ∃ count step, h.saveNew d path = (.ok count, step) := by
  unfold saveNew
  split_ifs
  · exact ⟨_, _, rfl⟩
  · simp only [happend]
    exact ⟨_, _, rfl⟩

/-- The three ways to exchange the log with a file. -/
inductive Exchange where
  | load
  | save
  | saveNew
deriving Repr, DecidableEq

/-- The exchange of the log with the file at `path`. -/
def Exchange.run (h : History) (d : Disk) (path : String) :
    Exchange → Except HistoryError Nat × Step
  | load => h.load d path
  | save => h.save d path
  | saveNew => h.saveNew d path

/-- An exchange that is refused has done nothing. -/
theorem Exchange.step_of_error {x : Exchange} {e : HistoryError}
    (hrun : x.run h d path = (.error e, step)) : step = ⟨h, d, []⟩ := by
  cases x with
  | load => cases loaded_of_load hrun with | refused => rfl
  | save => cases saved_of_save hrun with | refused => rfl
  | saveNew => cases savedNew_of_saveNew hrun with | refused => rfl

/-! ## The mark of what is saved -/

/-- The lines that need not be saved again. -/
def savedLines (h : History) : List String :=
  h.entries.take h.saved

/-- Every entry is saved or still to be saved. -/
lemma savedLines_append_pending (h : History) : h.savedLines ++ h.pending = h.entries :=
  List.take_append_drop _ _

/-- A new line is not saved yet. -/
@[simp] lemma savedLines_push (h : History) (line : String) :
    (h.push line).savedLines = h.savedLines :=
  List.take_append_of_le_length h.saved_le

/-- It is the last of those that are still to be saved. -/
@[simp] lemma pending_push (h : History) (line : String) :
    (h.push line).pending = h.pending ++ [line] :=
  List.drop_append_of_le_length h.saved_le

/-- When all is marked as saved, the saved lines are all there are. -/
@[simp] lemma savedLines_markSaved (h : History) : h.markSaved.savedLines = h.entries :=
  List.take_length

/-- Then nothing is left to be saved. -/
@[simp] lemma pending_markSaved (h : History) : h.markSaved.pending = [] :=
  List.drop_length

/-- What a history starts with counts as saved. -/
@[simp] lemma savedLines_fresh (entries : List String) (backing : Option String) :
    (fresh entries backing).savedLines = entries :=
  List.take_length

/-- It starts with nothing to be saved. -/
@[simp] lemma pending_fresh (entries : List String) (backing : Option String) :
    (fresh entries backing).pending = [] :=
  List.drop_length

end PipeShell.History
