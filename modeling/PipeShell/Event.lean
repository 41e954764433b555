import PipeShell.Duration
import PipeShell.History.File
import PipeShell.State
import PipeShell.SyntaxError

/-!
# Log records

Everything the shell reports about its own working, as values: an operation returns the events that
happened during it, in order.  Each event has a level and a text.  What becomes of the records
(shown, written to a file, dropped) is the business of whoever runs the shell.
-/

namespace PipeShell

/-- How important a record is. -/
inductive Level where
  | debug
  | info
  | warn
deriving Repr, DecidableEq

/-- The name of the level. -/
def Level.label : Level → String
  | debug => "DEBUG"
  | info => "INFO"
  | warn => "WARN"

/-- Something that happened while the shell worked. -/
inductive Event where
  | historyLoaded (count : Nat) (path : String)
  | historyUnreadable (error : HistoryError)
  | entryNotSaved (error : HistoryError)
  | historyNotReplaced (error : HistoryError)
  | startupMissing (path : String)
  | startupLineIgnored (line : String)
  | startupApplied (count : Nat) (path : String)
  | lineRejected (line : String) (error : SyntaxError)
  | aliasUsed (name body : String)
  | stageBegan (index : Nat) (argv : List String)
  | stageExited (index status : Nat)
  | stageFailed (index : Nat) (message : String)
  | changeRequested (command : String) (change : Change)
  | redirected (size : Nat) (path : String)
  | programBegan (name program : String) (argCount : Nat)
  | programExited (name : String) (status : Nat)
  | programOverdue (name : String) (limit : Duration)
  | inputNotATerminal
  | terminalTooPlain

namespace Event

/-- The level of the event. -/
def level : Event → Level
  | historyLoaded .. | historyUnreadable .. | startupApplied .. => .info
  | entryNotSaved .. | historyNotReplaced .. | programOverdue .. => .warn
  | _ => .debug

/-- The text of the event. -/
def message : Event → String
  | historyLoaded count path =>
    "loaded " ++ toString count ++ " history entries from " ++ path
  | historyUnreadable error => "starting with empty history: " ++ error.message
  | entryNotSaved error => "could not persist history entry: " ++ error.message
  | historyNotReplaced error => "could not rewrite history file: " ++ error.message
  | startupMissing path => "no rc file at " ++ path
  | startupLineIgnored line => "ignoring rc line: " ++ line
  | startupApplied count path => "applied " ++ toString count ++ " rc lines from " ++ path
  | lineRejected line error => "parse error in " ++ Text.quote line ++ ": " ++ error.message
  | aliasUsed name body => "alias " ++ name ++ " -> " ++ body
  | stageBegan index argv => "stage " ++ toString index ++ ": " ++ Text.quoteList argv
  | stageExited index status =>
    "stage " ++ toString index ++ " exited with " ++ toString status ++ ", continuing"
  | stageFailed index message => "stage " ++ toString index ++ " failed: " ++ message
  | changeRequested command change => command ++ " requested " ++ change.describe
  | redirected size path => "redirecting " ++ toString size ++ " bytes to " ++ path
  | programBegan name program argCount =>
    "spawning " ++ name ++ " (" ++ program ++ ") with " ++ toString argCount ++ " args"
  | programExited name status => name ++ " exited with status " ++ toString status
  | programOverdue name limit => name ++ " exceeded " ++ limit.render ++ ", killing it"
  | inputNotATerminal => "stdin is not a tty"
  | terminalTooPlain => "unsupported terminal"

/-- The record as one line: its level and its text. -/
def render (e : Event) : String :=
  e.level.label ++ " " ++ e.message

end Event

end PipeShell
