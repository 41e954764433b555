import PipeShell.Proofs.Builtin.Log
import PipeShell.Proofs.Disk.Grown
import PipeShell.Proofs.History.Mirror

/-!
# What built-in commands do to the disk

Three built-in commands write to the disk: `mkdir` makes directories, `touch` makes files, and
`history` writes the log to files.  Whether they succeed or stop halfway, they take away no
directory and no link, and make no link (`grows_run`).
-/

namespace PipeShell

namespace History

variable {h : History} {d : Disk} {path : String} {result : Except HistoryError Nat} {step : Step}

/-- Replacing the log by the lines of a file can write to the backing file. -/
lemma grows_of_load (hload : h.load d path = (result, step)) : d.Grows step.disk := by
  cases loaded_of_load hload with
  | unbacked | notReplaced | refused => exact .refl d
  | replaced _ _ hwrite => exact (edited_of_writeFile hwrite).grows

/-- Writing the log to a file writes to that file, or to none. -/
lemma grows_of_save (hsave : h.save d path = (result, step)) : d.Grows step.disk := by
  cases saved_of_save hsave with
  | written hwrite => exact (edited_of_writeFile hwrite).grows
  | refused => exact .refl d

/-- So does adding the new lines to a file. -/
lemma grows_of_saveNew (hsave : h.saveNew d path = (result, step)) : d.Grows step.disk := by
  cases savedNew_of_saveNew hsave with
  | nothing | refused => exact .refl d
  | appended happend => exact (edited_of_appendFile happend).grows

end History

namespace Builtin

variable {v : View} {args : List String}

/-! ## Commands about the history -/

/-- `history` removes nothing from the disk: it writes to files or leaves it as it is. -/
lemma grows_historyCommand (v : View) (args : List String) :
    v.disk.Grows (historyCommand v args).disk := by
  unfold historyCommand
  split
  · exact .refl v.disk
  · split_ifs
    · exact .refl v.disk
    · split <;> exact .refl v.disk
  · split_ifs
    · unfold historyFile
      split
      · exact .refl v.disk
      · split
        · rw [disk_exchanged]
          exact History.grows_of_load rfl
        · rw [disk_exchanged]
          exact History.grows_of_save rfl
        · rw [disk_exchanged]
          exact History.grows_of_saveNew rfl
        · exact .refl v.disk
    · exact .refl v.disk
  · exact .refl v.disk

/-! ## Commands that work through their arguments -/

/-- If every step only makes the disk grow, so do the steps for all arguments. -/
lemma grows_overArgs {step : Disk → String → Disk × Option CommandError}
    (hstep : ∀ (d : Disk) arg, d.Grows (step d arg).1) (d : Disk) (args : List String) :
    d.Grows (overArgs step d args).1 := by
  induction args generalizing d with
  | nil => exact .refl d
  | cons arg rest ih =>
      have hfirst := hstep d arg
      rw [overArgs]
      split
      · next d' hdone =>
        rw [hdone] at hfirst
        exact hfirst.trans (ih d')
      · next d' e hfailed =>
        rw [hfailed] at hfirst
        exact hfirst

/-- `mkdir` adds a directory or changes nothing. -/
lemma grows_makeDir (v : View) (d : Disk) (arg : String) : d.Grows (makeDir v d arg).1 := by
  unfold makeDir
  split
  · exact .refl d
  · exact d.grows_makeDirectories _

/-- `touch` adds a file or changes nothing. -/
lemma grows_touchFile (v : View) (d : Disk) (arg : String) : d.Grows (touchFile v d arg).1 := by
  unfold touchFile
  split
  · exact .refl d
  · split
    · next disk happend => exact (Disk.edited_of_edit happend).grows
    · exact .refl d

/-! ## All commands -/

/-- A built-in command only makes the disk grow, also where it fails. -/
theorem grows_run (b : Builtin) (v : View) (args : List String) :
    v.disk.Grows (b.run v args).disk := by
  cases b with
  | history => exact grows_historyCommand v args
  | mkdir =>
      change v.disk.Grows (mkdirCommand v args).disk
      unfold mkdirCommand
      dsimp only
      split_ifs
      · exact .refl v.disk
      · exact grows_overArgs (grows_makeDir v) v.disk _
  | touch =>
      change v.disk.Grows (touchCommand v args).disk
      unfold touchCommand
      split_ifs
      · exact .refl v.disk
      · exact grows_overArgs (grows_touchFile v) v.disk args
  | aliases | cat | cd | echo | exit | exports | help | ls | pwd | type | unset =>
      exact .refl v.disk

end Builtin

end PipeShell
