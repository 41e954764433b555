import PipeShell.Proofs.Disk.Written
import PipeShell.Proofs.Execution.Line

/-!
# The files of the shell itself

A shell writes two files of its own accord: the backing file of its history, and its log file
(`Shell.OwnsFile`).  Recording a line and reporting an event write to these and to no other
(`OwnFrame`), so up to its first stage a line leaves every other location as it was, and the
programs are the ones that were there before (`ownFrame_ready`).
-/

namespace PipeShell.Shell

variable {sh sh' : Shell}

/-- The shell writes at the location of its own accord: the backing file of its history stands
there, or its log file does. -/
def OwnsFile (sh : Shell) (l : Location) : Prop :=
  (∃ path e, sh.history.backing = some path ∧ sh.disk.lookUp path = .ok (l, e)) ∨
    ∃ f, sh.logFile = some f ∧ f.file.location = l

/-- The shell `sh'` comes from `sh`, and of the disk nothing is changed but the files of the shell
itself. -/
structure OwnFrame (sh sh' : Shell) : Prop where
  /-- All other locations are as they were. -/
  entryAt?_eq : ∀ l, ¬ sh'.OwnsFile l → sh'.disk.entryAt? l = sh.disk.entryAt? l
  /-- No program appears or goes. -/
  isRunnable_eq : ∀ path, sh'.disk.isRunnable path = sh.disk.isRunnable path
  /-- The files of the shell stay where they are. -/
  ownsFile : ∀ l, sh.OwnsFile l → sh'.OwnsFile l

namespace OwnFrame

/-- What two steps leave alone, both together leave alone. -/
lemma trans {sh'' : Shell} (h : OwnFrame sh sh') (h' : OwnFrame sh' sh'') : OwnFrame sh sh'' where
  entryAt?_eq l hl :=
    (h'.entryAt?_eq l hl).trans (h.entryAt?_eq l fun hown => hl (h'.ownsFile l hown))
  isRunnable_eq path := (h'.isRunnable_eq path).trans (h.isRunnable_eq path)
  ownsFile l hown := h'.ownsFile l (h.ownsFile l hown)

/-- Nothing at all is changed on the disk. -/
lemma of_disk_eq (hdisk : sh'.disk = sh.disk) (hbacking : sh'.history.backing = sh.history.backing)
    (hlog : sh'.logFile = sh.logFile) : OwnFrame sh sh' where
  entryAt?_eq l _ := by rw [hdisk]
  isRunnable_eq path := by rw [hdisk]
  ownsFile l hown := by
    rw [OwnsFile, hdisk, hbacking, hlog]
    exact hown

/-- One of the files of the shell was written. -/
lemma of_writtenAt {l : Location} (hwritten : sh.disk.WrittenAt l sh'.disk) (hown : sh'.OwnsFile l)
    (hbacking : sh'.history.backing = sh.history.backing) (hlog : sh'.logFile = sh.logFile) :
    OwnFrame sh sh' where
  entryAt?_eq l' hl' := by
    apply hwritten.entryAt?_of_ne
    rintro rfl
    exact hl' hown
  isRunnable_eq := hwritten.isRunnable_eq
  ownsFile l' hown' := by
    rcases hown' with ⟨path, e, hpath, hlook⟩ | hfile
    · obtain ⟨e', hlook'⟩ := hwritten.lookUp hlook
      exact .inl ⟨path, e', hbacking.trans hpath, hlook'⟩
    · exact .inr (by rwa [hlog])

end OwnFrame

/-- Reporting writes to the log file. -/
theorem ownFrame_report (sh : Shell) (events : List Event) : OwnFrame sh (sh.report events) := by
  cases hlog : sh.logFile with
  | none => exact .of_disk_eq (report_disk hlog events) rfl rfl
  | some f =>
      have hdisk : (sh.report events).disk = f.add events sh.disk := by rw [report, hlog]; rfl
      have hwritten : sh.disk.WrittenAt f.file.location (sh.report events).disk :=
        hdisk ▸ Disk.writtenAt_editOpen sh.disk f.file _
      exact .of_writtenAt hwritten (.inr ⟨f, hlog, rfl⟩) rfl rfl

/-- Recording a line writes to the backing file, or the disk stays as it is. -/
lemma writtenAt_of_record (h : History) (d : Disk) (line : String) :
    (h.record d line).disk = d ∨
      ∃ path l e, h.backing = some path ∧ d.WrittenAt l (h.record d line).disk ∧
        (h.record d line).disk.lookUp path = .ok (l, e) := by
  obtain ⟨-, hrecord⟩ | ⟨path, disk, hbacking, happend, hrecord⟩ | ⟨_, _, -, -, hrecord⟩ :=
    History.record_cases h d line <;> rw [hrecord]
  · exact .inl rfl
  · obtain ⟨l, hwritten, e, hlook⟩ := Disk.writtenAt_of_edit (History.appendFile_eq_ok_iff.mp happend)
    exact .inr ⟨path, l, e, hbacking, hwritten, hlook⟩
  · exact .inl rfl

/-- Recording a line writes to the backing file and the log file. -/
theorem ownFrame_record (sh : Shell) (line : String) : OwnFrame sh (sh.record line) := by
  have hbacking : (sh.history.record sh.disk line).history.backing = sh.history.backing := by
    rw [History.history_record]
    rfl
  refine OwnFrame.trans ?_ (ownFrame_report _ _)
  rcases writtenAt_of_record sh.history sh.disk line with
    hsame | ⟨path, l, e, hpath, hwritten, hlook⟩
  · exact .of_disk_eq hsame hbacking rfl
  · exact .of_writtenAt hwritten (.inl ⟨path, e, hbacking.trans hpath, hlook⟩) hbacking rfl

/-- So does all that comes before the first stage of a line. -/
theorem ownFrame_ready (host : Host) (line : String) (sh : Shell) :
    OwnFrame sh (ready host line sh) :=
  (ownFrame_record sh line).trans (ownFrame_report _ _)

end PipeShell.Shell
