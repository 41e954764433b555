import PipeShell.Builtin
import Mathlib.Tactic.Common

/-!
# What built-in commands ask for

`Builtin.Asks` lists the changes of state that a built-in command can ask for, each with what the
command has checked before it asks.  Nine of the fourteen commands never ask (`asks_of_run`).

The checks are those of the command.  They are not always all that the change itself is put to: a
value for the search path is looked at only when the variable is set.
-/

namespace PipeShell.Builtin

variable {v : View} {args : List String} {b : Builtin} {c : Change}

/-- The changes that commands with these arguments can ask for. -/
inductive Asks (v : View) (args : List String) : Builtin → Change → Prop
  /-- Each definition is written by an argument. -/
  | aliases {definitions : List (String × String)}
      (hnames : ∀ p ∈ definitions, ∃ arg ∈ args, aliasDefinition? arg = some p) :
      Asks v args .aliases (.setAliases definitions)
  /-- The path leads to a directory, and its canonical form is asked for. -/
  | cd {path dir : String} (hargs : args.length ≤ 1)
      (hpath : v.resolve (args.headD "~") = .ok path)
      (hdir : v.disk.realDirectory? path = some dir) : Asks v args .cd (.changeDir dir)
  | exit {code : Int} : Asks v args .exit (.requestExit code)
  /-- Each argument is an assignment, with a name that a variable can have. -/
  | exports {vars : List (String × String)} (hvars : args.mapM assignment? = some vars) :
      Asks v args .exports (.setVars vars)
  /-- Each argument is a name that a variable can have. -/
  | unset (hnames : ∀ name ∈ args, isValidName name = true) : Asks v args .unset (.unsetVars args)

/-! ## One command after the other -/

/-- Every definition that `alias` goes by stands in one of its arguments. -/
lemma exists_of_mem_aliasArgs {s : ShellState} {p : String × String}
    (h : p ∈ (aliasArgs s args).2.1) : ∃ arg ∈ args, aliasDefinition? arg = some p := by
  fun_induction aliasArgs s args with
  | case1 => cases h
  | case2 arg rest q hdefinition r ih =>
      rcases List.mem_cons.mp h with rfl | hrest
      · exact ⟨arg, List.mem_cons_self, hdefinition⟩
      · obtain ⟨arg', hmem, hdefinition'⟩ := ih hrest
        exact ⟨arg', List.mem_cons_of_mem arg hmem, hdefinition'⟩
  | case3 arg rest hdefinition body hbody r ih =>
      obtain ⟨arg', hmem, hdefinition'⟩ := ih h
      exact ⟨arg', List.mem_cons_of_mem arg hmem, hdefinition'⟩
  | case4 => cases h

/-- `alias` asks for aliases to be set, one for each definition. -/
lemma asks_of_aliasCommand (h : (aliasCommand v.state args).result = .ok (some c)) :
    Asks v args .aliases c := by
  unfold aliasCommand at h
  split_ifs at h with hargs
  · cases h
  · split at h
    · cases h
    · cases h
    · next output definitions _ hdefinitions =>
      cases h
      refine .aliases fun p hp => ?_
      have hmem : p ∈ (aliasArgs v.state args).2.1 := by rwa [hdefinitions]
      exact exists_of_mem_aliasArgs hmem

/-- `cd` asks to go to one directory. -/
lemma asks_of_cdCommand (h : (cdCommand v args).result = .ok (some c)) : Asks v args .cd c := by
  unfold cdCommand at h
  split_ifs at h with hargs
  · cases h
  · dsimp only at h
    split at h
    · cases h
    · next path hpath =>
      split at h
      · next dir hdir =>
        cases h
        exact .cd (Nat.le_of_not_lt hargs) hpath hdir
      · cases h

/-- `exit` asks to leave. -/
lemma asks_of_exitCommand (h : (exitCommand args).result = .ok (some c)) : Asks v args .exit c := by
  unfold exitCommand at h
  split at h
  · cases h
    exact .exit
  · split at h
    · cases h
      exact .exit
    · cases h
  · cases h

/-- `export` asks for variables to be set, in the order of its arguments. -/
lemma asks_of_exportCommand (h : (exportCommand v.state args).result = .ok (some c)) :
    Asks v args .exports c := by
  unfold exportCommand at h
  split_ifs at h with hargs
  · cases h
  · split at h
    · next vars hvars =>
      cases h
      exact .exports hvars
    · cases h

/-- `unset` asks for the variables of its arguments to be removed. -/
lemma asks_of_unsetCommand (h : (unsetCommand args).result = .ok (some c)) :
    Asks v args .unset c := by
  unfold unsetCommand at h
  split_ifs at h with hargs
  · cases h
  · split at h
    · cases h
    · next hnone =>
      cases h
      refine .unset fun name hname => ?_
      simpa using List.find?_eq_none.mp hnone name hname

/-! ## Commands that never ask -/

/-- A command that only reports something of each argument asks for no change. -/
lemma result_each_ne {α : Type} (bytes : α → Except CommandError ByteArray) (as : List α) :
    (Report.each bytes as).result ≠ .ok (some c) := by
  induction as with
  | nil => simp [Report.each]
  | cons a as ih =>
      rw [Report.each]
      split
      · simp [Report.fail]
      · exact ih

/-- A command that only works on the disk asks for no change. -/
lemma result_diskOutcome_ne (changed : Disk × Option CommandError) :
    (diskOutcome v changed).result ≠ .ok (some c) := by
  rw [diskOutcome]
  split <;> simp

/-- A command that exchanges entries with a file asks for no change. -/
lemma result_exchanged_ne (report : Nat → String)
    (exchange : Except HistoryError Nat × History.Step) :
    (exchanged report exchange).result ≠ .ok (some c) := by
  rcases exchange with ⟨e | count, step⟩ <;> simp [exchanged]

/-- So `history` asks for none, whatever its arguments are. -/
lemma result_historyCommand_ne : (historyCommand v args).result ≠ .ok (some c) := by
  have hrefuse : ∀ e, (v.refuse e).result ≠ .ok (some c) := by simp [View.refuse, View.keep,
    Report.fail]
  have hshow : ∀ count, (v.keep (showHistory v.history count)).result ≠ .ok (some c) := by
    simp [View.keep, showHistory, Report.print]
  unfold historyCommand
  split
  · exact hshow _
  · split_ifs
    · exact hrefuse _
    · split
      · exact hshow _
      · exact hrefuse _
  · split_ifs
    · unfold historyFile
      split
      · exact hrefuse _
      · split
        · exact result_exchanged_ne _ _
        · exact result_exchanged_ne _ _
        · exact result_exchanged_ne _ _
        · exact hrefuse _
    · exact hrefuse _
  · exact hrefuse _

/-! ## All commands -/

/-- A command that asks for a change does so in one of the ways of `Asks`. -/
theorem asks_of_run (h : (b.run v args).result = .ok (some c)) : Asks v args b c := by
  cases b with
  | aliases => exact asks_of_aliasCommand h
  | cd => exact asks_of_cdCommand h
  | exit => exact asks_of_exitCommand h
  | exports => exact asks_of_exportCommand h
  | unset => exact asks_of_unsetCommand h
  -- the other commands ask for nothing
  | history => exact absurd h result_historyCommand_ne
  | pwd => cases h
  | echo =>
      simp only [run, echoCommand, View.keep] at h
      split at h <;> cases h
  | cat =>
      simp only [run, catCommand, View.keep] at h
      split_ifs at h with hargs
      · cases h
      · exact absurd h (result_each_ne _ _)
  | help =>
      simp only [run, helpCommand, View.keep] at h
      split_ifs at h with hargs
      · cases h
      · exact absurd h (result_each_ne _ _)
  | ls =>
      simp only [run, lsCommand, View.keep] at h
      split at h
      · cases h
      · exact absurd h (result_each_ne _ _)
  | type =>
      simp only [run, typeCommand, View.keep] at h
      split_ifs at h with hargs
      · cases h
      · exact absurd h (result_each_ne _ _)
  | mkdir =>
      simp only [run, mkdirCommand] at h
      split_ifs at h with hdirs
      · cases h
      · exact absurd h (result_diskOutcome_ne _)
  | touch =>
      simp only [run, touchCommand] at h
      split_ifs at h with hargs
      · cases h
      · exact absurd h (result_diskOutcome_ne _)

end PipeShell.Builtin
