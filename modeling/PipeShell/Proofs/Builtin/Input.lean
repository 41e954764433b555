import PipeShell.Builtin
import Mathlib.Tactic.Common

/-!
# What built-in commands do with piped text

Every built-in command is handed the text that the stage before it wrote, and all but one ignore it:
`cat` without arguments prints it.  So it can show in the output of a command, and nowhere else
(`run_withInput`): how the command ends, the change it asks for, the history, the disk and the
records are the same whatever was piped into it.
-/

namespace PipeShell

/-- The view with another piped text. -/
def View.withInput (v : View) (input : String) : View := { v with input }

namespace Builtin

variable {v : View} {args : List String}

/-- Only `cat` without arguments looks at the piped text. -/
lemma run_withInput_of_ignored (b : Builtin) (h : ¬ (b = cat ∧ args = [])) (input : String) :
    b.run (v.withInput input) args = b.run v args := by
  cases b with
  | cat =>
      obtain ⟨arg, rest, rfl⟩ := List.exists_cons_of_ne_nil fun hargs => h ⟨rfl, hargs⟩
      rfl
  | aliases | cd | echo | exit | exports | help | history | ls | mkdir | pwd | touch | type
    | unset => rfl

/-- The piped text decides about nothing but the output. -/
theorem run_withInput (b : Builtin) (v : View) (input : String) (args : List String) :
    ∃ output, b.run (v.withInput input) args = { b.run v args with output } := by
  by_cases h : b = cat ∧ args = []
  · obtain ⟨rfl, rfl⟩ := h
    exact ⟨Text.encode input, rfl⟩
  · exact ⟨(b.run v args).output, run_withInput_of_ignored b h input⟩

end Builtin

end PipeShell
