import PipeShell.Proofs.Disk.Edit
import PipeShell.Proofs.History.Codec
import PipeShell.Proofs.History.Operations
import Mathlib.Logic.Relation

/-!
# The backing file mirrors the log

`History.Operates` is what can happen to a history with a backing file while all goes well: a line
is recorded, a step is taken over the log, the log is replaced from a file or saved to one.  Each of
these leaves the backing file with exactly the lines of the log (`Kept.of_operates`), so the same
holds after any number of them (`Kept.of_run`), and a history that is opened on the file then has
the same log (`reopened_log_eq`).

Until the first line is written there may be no file at all; the log is then empty (`Mirrors`).
-/

namespace PipeShell.History

open Relation (ReflTransGen)

variable {d d' : Disk} {path : String} {entries : List String}

/-! ## Files that hold a log -/

/-- There is a file at the path, and it was written with these lines. -/
def Holds (d : Disk) (path : String) (entries : List String) : Prop :=
  ∃ l runnable, d.lookUp path = .ok (l, .file (Text.encode (encode entries)) runnable)

/-- A history that is opened at the path finds these lines: in a file, or, when there are none,
perhaps no file. -/
def Mirrors (d : Disk) (path : String) (entries : List String) : Prop :=
  Holds d path entries ∨ entries = [] ∧ ∃ fault, d.lookUp path = .error fault

/-- Any text is read as its entries. -/
lemma loadFile_of_lookUp_file {l : Location} {c : String} {runnable : Bool}
    (hfile : d.lookUp path = .ok (l, .file (Text.encode c) runnable)) :
    loadFile d path = .ok (decode c) := by
  simp only [loadFile, Disk.readText, Disk.readBytes, hfile, Text.decode?_encode]

/-- A file that holds entries is loaded as what their text is read as. -/
lemma Holds.loadFile_eq_decode (h : Holds d path entries) :
    loadFile d path = .ok (decode (encode entries)) := by
  obtain ⟨l, runnable, hlook⟩ := h
  exact loadFile_of_lookUp_file hlook

/-- If the entries can be stored, these are the entries themselves. -/
lemma Holds.loadFile_of_storable (h : Holds d path entries)
    (hentries : ∀ line ∈ entries, Storable line) : loadFile d path = .ok entries := by
  rw [h.loadFile_eq_decode, decode_encode hentries]

/-- So it is for any file with the text of such entries. -/
lemma loadFile_of_readText (hentries : ∀ line ∈ entries, Storable line)
    (h : d.readText path = .ok (encode entries)) : loadFile d path = .ok entries := by
  rw [loadFile, h]
  simp only [decode_encode hentries]

/-- A history is opened with what can be read. -/
lemma entries_ofFile_of_loadFile (hload : loadFile d path = .ok entries) :
    (ofFile d path).1.entries = entries := by
  rw [ofFile, hload]
  rfl

/-- The file that a history is opened on is its backing file. -/
lemma backing_ofFile (d : Disk) (path : String) : (ofFile d path).1.backing = some path := by
  unfold ofFile
  split <;> rfl

/-- A history that is opened on a file that mirrors some lines has these lines. -/
lemma Mirrors.entries_ofFile (h : Mirrors d path entries)
    (hentries : ∀ line ∈ entries, Storable line) : (ofFile d path).1.entries = entries := by
  rcases h with hholds | ⟨rfl, fault, hlook⟩
  · exact entries_ofFile_of_loadFile (hholds.loadFile_of_storable hentries)
  · have hread : d.readText path = .error fault := by
      simp only [Disk.readText, Disk.readBytes, hlook]
    rw [ofFile, loadFile, hread]
    rfl

/-- A file that mirrors some lines is read as these lines, unless it does not exist. -/
lemma Mirrors.loadFile_or_absent (h : Mirrors d path entries)
    (hentries : ∀ line ∈ entries, Storable line) :
    loadFile d path = .ok entries ∨ d.pathExists path = false ∧ entries = [] := by
  rcases h with hholds | ⟨hnil, fault, hlook⟩
  · exact .inl (hholds.loadFile_of_storable hentries)
  · exact .inr ⟨by rw [Disk.pathExists, hlook], hnil⟩

/-! ## Writing -/

/-- Writing a file replaces its bytes. -/
lemma edited_of_writeFile (h : writeFile d path entries = .ok d') :
    d.Edited path (fun _ => Text.encode (encode entries)) d' :=
  Disk.edited_of_edit (writeFile_eq_ok_iff.mp h)

/-- Appending to a file adds bytes behind those that it has. -/
lemma edited_of_appendFile (h : appendFile d path entries = .ok d') :
    d.Edited path (· ++ Text.encode (encode entries)) d' :=
  Disk.edited_of_edit (appendFile_eq_ok_iff.mp h)

/-- A file that was written with some lines holds them, unless it is a device. -/
theorem holds_or_device_of_writeFile (h : writeFile d path entries = .ok d') :
    Holds d' path entries ∨ ∃ l kind, d.lookUp path = .ok (l, .device kind) := by
  cases edited_of_writeFile h with
  | replaced _ _ _ hafter | created _ _ _ hafter => exact .inl ⟨_, _, hafter⟩
  | swallowed hbefore _ => exact .inr ⟨_, _, hbefore⟩

/-- What a write to a file that mirrors some lines leaves there. -/
lemma Mirrors.lookUp_of_edited {change : ByteArray → ByteArray} (h : Mirrors d path entries)
    (hedited : d.Edited path change d') :
    ∃ l runnable, d'.lookUp path =
      .ok (l, .file (change (Text.encode (encode entries))) runnable) := by
  rcases h with ⟨l, runnable, hlook⟩ | ⟨rfl, fault, hlook⟩
  · cases hedited with
    | replaced hbefore _ _ hafter =>
        cases hlook.symm.trans hbefore
        exact ⟨_, _, hafter⟩
    | created hbefore | swallowed hbefore => cases hlook.symm.trans hbefore
  · cases hedited with
    | created _ _ _ hafter => exact ⟨_, _, hafter⟩
    | replaced hbefore | swallowed hbefore => cases hlook.symm.trans hbefore

/-- A file that is written anew holds what was written. -/
lemma Mirrors.holds_of_writeFile {new : List String} (h : Mirrors d path entries)
    (hwrite : writeFile d path new = .ok d') : Holds d' path new :=
  h.lookUp_of_edited (edited_of_writeFile hwrite)

/-- A file that lines are added to holds them behind those it held before. -/
lemma Mirrors.holds_of_appendFile {new : List String} (h : Mirrors d path entries)
    (happend : appendFile d path new = .ok d') : Holds d' path (entries ++ new) := by
  obtain ⟨l, runnable, hlook⟩ := h.lookUp_of_edited (edited_of_appendFile happend)
  refine ⟨l, runnable, ?_⟩
  rw [hlook, encode_append]
  simp [Text.encode]

/-- Writing to another file changes nothing. -/
lemma Mirrors.of_edited_other {target : String} {change : ByteArray → ByteArray}
    (h : Mirrors d path entries) (hedited : d.Edited target change d')
    (hother : ¬ d'.SameFile path target) : Mirrors d' path entries := by
  rcases h with ⟨l, runnable, hlook⟩ | ⟨hnil, fault, hlook⟩
  · exact .inl ⟨l, runnable, hedited.lookUp_file_of_not_sameFile hother hlook⟩
  · exact .inr ⟨hnil, hedited.lookUp_error_of_not_sameFile hother hlook⟩

/-! ## Operations

Trouble with the backing file is an event and no error, so that all went well when there are no
events.  The files that a log is saved to are other files: the lines that are not saved yet are in
the backing file already, and adding them to it would store them twice. -/

/-- What can happen to a history that is backed by the file at `path`, and to the disk, while all
goes well. -/
inductive Operates (path : String) : History × Disk → History × Disk → Prop
  /-- A storable line is recorded. -/
  | record {h : History} {d : Disk} {line : String} (hline : Storable line)
      (hsaved : (h.record d line).events = []) :
      Operates path (h, d) ((h.record d line).history, (h.record d line).disk)
  /-- A step is taken over the log. -/
  | navigate {h : History} {d : Disk} (direction : Direction) :
      Operates path (h, d) ((h.navigate direction).2, d)
  /-- The log is replaced by the lines of a file. -/
  | load {h : History} {d : Disk} {source : String} {lines : List String} {count : Nat}
      {step : Step} (hlines : ∀ line ∈ lines, Storable line)
      (hsource : d.readText source = .ok (encode lines))
      (hload : h.load d source = (.ok count, step)) (hreplaced : step.events = []) :
      Operates path (h, d) (step.history, step.disk)
  /-- The log is written to another file. -/
  | save {h : History} {d : Disk} {target : String} {count : Nat} {step : Step}
      (hsave : h.save d target = (.ok count, step))
      (hother : ¬ step.disk.SameFile path target) :
      Operates path (h, d) (step.history, step.disk)
  /-- The lines that are not saved yet are added to another file. -/
  | saveNew {h : History} {d : Disk} {target : String} {count : Nat} {step : Step}
      (hsave : h.saveNew d target = (.ok count, step))
      (hother : ¬ step.disk.SameFile path target) :
      Operates path (h, d) (step.history, step.disk)

/-- The history is backed by the file at `path`, and that file mirrors its log of storable lines. -/
structure Kept (path : String) (s : History × Disk) : Prop where
  backing_eq : s.1.backing = some path
  storable : ∀ line ∈ s.1.entries, Storable line
  mirrors : Mirrors s.2 path s.1.entries

/-- A step over the log changes neither the log nor its backing file. -/
lemma navigate_keeps (h : History) (direction : Direction) :
    (h.navigate direction).2.entries = h.entries ∧
      (h.navigate direction).2.backing = h.backing := by
  cases direction <;> unfold navigate <;> dsimp only <;> split_ifs <;> exact ⟨rfl, rfl⟩

section Keeping

variable {h : History}

/-- Recording keeps the promise, if the line could be saved. -/
lemma Kept.record (hk : Kept path (h, d)) {line : String} (hline : Storable line)
    (hsaved : (h.record d line).events = []) :
    Kept path ((h.record d line).history, (h.record d line).disk) := by
  have hentries : ∀ l ∈ h.entries ++ [line], Storable l :=
    List.forall_mem_append.mpr ⟨hk.storable, List.forall_mem_singleton.mpr hline⟩
  obtain ⟨disk, happend, hrecord⟩ := record_of_saved hk.backing_eq hsaved
  rw [hrecord]
  exact ⟨hk.backing_eq, hentries, .inl (hk.mirrors.holds_of_appendFile happend)⟩

/-- Loading keeps it, if the backing file could be rewritten. -/
lemma Kept.load (hk : Kept path (h, d)) {source : String} {lines : List String} {count : Nat}
    {step : Step} (hlines : ∀ line ∈ lines, Storable line)
    (hsource : d.readText source = .ok (encode lines))
    (hload : h.load d source = (.ok count, step)) (hreplaced : step.events = []) :
    Kept path (step.history, step.disk) := by
  have hbacking : h.backing = some path := hk.backing_eq
  cases loaded_of_load hload with
  | unbacked _ hnone => cases hbacking.symm.trans hnone
  | replaced hentries hsome hwrite =>
      cases hbacking.symm.trans hsome
      cases (loadFile_of_readText hlines hsource).symm.trans hentries
      exact ⟨rfl, hlines, .inl (hk.mirrors.holds_of_writeFile hwrite)⟩
  | notReplaced => cases hreplaced

/-- Saving keeps it, if it goes to another file. -/
lemma Kept.save (hk : Kept path (h, d)) {target : String} {count : Nat} {step : Step}
    (hsave : h.save d target = (.ok count, step))
    (hother : ¬ step.disk.SameFile path target) : Kept path (step.history, step.disk) := by
  cases saved_of_save hsave with
  | written hwrite =>
      exact ⟨hk.backing_eq, hk.storable,
        hk.mirrors.of_edited_other (edited_of_writeFile hwrite) hother⟩

/-- So does saving what is new. -/
lemma Kept.saveNew (hk : Kept path (h, d)) {target : String} {count : Nat} {step : Step}
    (hsave : h.saveNew d target = (.ok count, step))
    (hother : ¬ step.disk.SameFile path target) : Kept path (step.history, step.disk) := by
  cases savedNew_of_saveNew hsave with
  | nothing => exact hk
  | appended happend =>
      exact ⟨hk.backing_eq, hk.storable,
        hk.mirrors.of_edited_other (edited_of_appendFile happend) hother⟩

end Keeping

/-- Every operation leaves the backing file with the lines of the log. -/
theorem Kept.of_operates {s s' : History × Disk} (hk : Kept path s)
    (hstep : Operates path s s') : Kept path s' := by
  cases hstep with
  | record hline hsaved => exact hk.record hline hsaved
  | @navigate h d direction =>
      obtain ⟨hentries, hbacking⟩ := navigate_keeps h direction
      refine ⟨hbacking.trans hk.backing_eq, ?_, ?_⟩ <;> dsimp only <;> rw [hentries]
      · exact hk.storable
      · exact hk.mirrors
  | load hlines hsource hload hreplaced => exact hk.load hlines hsource hload hreplaced
  | save hsave hother => exact hk.save hsave hother
  | saveNew hsave hother => exact hk.saveNew hsave hother

/-- So does every run of operations. -/
theorem Kept.of_run {s s' : History × Disk} (hk : Kept path s)
    (hrun : ReflTransGen (Operates path) s s') : Kept path s' := by
  induction hrun with
  | refl => exact hk
  | tail _ hstep ih => exact ih.of_operates hstep

/-- A history that is opened on a file that mirrors storable lines starts out as it should. -/
lemma kept_ofFile (hentries : ∀ line ∈ entries, Storable line) (h : Mirrors d path entries) :
    Kept path ((ofFile d path).1, d) := by
  have hlog := h.entries_ofFile hentries
  refine ⟨backing_ofFile d path, ?_, ?_⟩
  · rw [hlog]
    exact hentries
  · rw [hlog]
    exact h

/-- A history is opened on a file that was written with storable lines, or that does not exist.
After any run of operations that all went well, opening the file again gives the very log that the
history has then. -/
theorem reopened_log_eq {d₀ d : Disk} {h : History}
    (hopened : (∃ lines, (∀ line ∈ lines, Storable line) ∧ Holds d₀ path lines) ∨
      d₀.pathExists path = false)
    (hrun : ReflTransGen (Operates path) ((ofFile d₀ path).1, d₀) (h, d)) :
    (ofFile d path).1.entries = h.entries := by
  have hstart : Kept path ((ofFile d₀ path).1, d₀) := by
    rcases hopened with ⟨lines, hlines, hholds⟩ | habsent
    · exact kept_ofFile hlines (.inl hholds)
    · exact kept_ofFile (List.forall_mem_nil _) (.inr ⟨rfl, Disk.exists_fault_of_absent habsent⟩)
  have hkept := hstart.of_run hrun
  exact hkept.mirrors.entries_ofFile hkept.storable

/-- A line of two lines is recorded, copied to another file and taken back from there, and one more
line is recorded.  The backing file has followed. -/
theorem reopened_log_eq_after_copying :
    ∃ h d, ReflTransGen (Operates "/log") ((ofFile (.empty []) "/log").1, .empty []) (h, d) ∧
      h.entries = ["echo a\necho b", "ls"] ∧ (ofFile d "/log").1.entries = h.entries := by
  have hfirst : Storable "echo a\necho b" := ⟨rfl, by decide⟩
  have hlines : ∀ line ∈ ["echo a\necho b"], Storable line := List.forall_mem_singleton.mpr hfirst
  have hlast : Storable "ls" := ⟨rfl, by decide⟩
  have hrecord := ReflTransGen.single
    (@Operates.record "/log" (ofFile (.empty []) "/log").1 (.empty []) _ hfirst rfl)
  have hsave := hrecord.tail (@Operates.saveNew "/log" _ _ "/copy" _ _ rfl ?_)
  · have hload := hsave.tail (@Operates.load "/log" _ _ "/copy" _ _ _ hlines rfl rfl rfl)
    have hrun := hload.tail (@Operates.record "/log" _ _ _ hlast rfl)
    exact ⟨_, _, hrun, rfl, reopened_log_eq (.inr rfl) hrun⟩
  · rintro ⟨l, e, e', hlog, hcopy⟩
    cases hlog
    cases hcopy

end PipeShell.History
