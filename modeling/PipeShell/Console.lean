import PipeShell.Execution.Result
import PipeShell.LogFile
import PipeShell.Options
import PipeShell.Style

/-!
# What the user sees

A `Console` is the text that a run of the shell has written: output on one side, errors and log
records on the other.  A result is shown as its output, the texts that programs wrote to their error
streams, and one closing line: the error that stopped the line, or else the status if it is not
zero.  Output always ends its last line, so the next line starts at the left edge.
-/

namespace PipeShell

/-- The text that was written. -/
structure Console where
  output : String
  errors : String
deriving Repr, DecidableEq

namespace Console

/-- Nothing was written. -/
def empty : Console := ⟨"", ""⟩

/-- The console with more output. -/
def print (c : Console) (text : String) : Console :=
  { c with output := c.output ++ text }

/-- The console with more errors. -/
def complain (c : Console) (text : String) : Console :=
  { c with errors := c.errors ++ text }

end Console

namespace ExecResult

/-- The output as it is shown: its last line is ended. -/
def outputText (r : ExecResult) : String :=
  if r.output.isEmpty || r.output.toList.getLast? = some '\n' then r.output
  else r.output.push '\n'

/-- The closing line of a result: its error, or a status that is not zero. -/
def closingText (p : Palette) (r : ExecResult) : String :=
  match r.error with
  | some e => p.error ("sluice: " ++ e.message) ++ "\n"
  | none => if r.status = 0 then "" else p.hint ("[exit " ++ toString r.status ++ "]") ++ "\n"

/-- The errors of a result as they are shown. -/
def errorText (p : Palette) (r : ExecResult) : String :=
  (if r.errors.isEmpty then "" else p.programErrors r.errors) ++ closingText p r

/-- The console after a result was shown. -/
def showOn (p : Palette) (r : ExecResult) (c : Console) : Console :=
  (c.print r.outputText).complain (r.errorText p)

end ExecResult

namespace Event

/-- The records that are shown at a verbosity. -/
def shownAt (v : Verbosity) (events : List Event) : List Event :=
  events.filter (v.shows ·.level)

end Event

/-- The console after records were shown, those that are important enough. -/
def Console.showLog (c : Console) (v : Verbosity) (clock : String) (events : List Event) :
    Console :=
  c.complain (Event.logText clock (Event.shownAt v events))

end PipeShell
