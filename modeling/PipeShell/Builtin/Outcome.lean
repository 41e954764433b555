import PipeShell.Event
import PipeShell.History
import PipeShell.Text.Utf8

/-!
# What a built-in command sees and does

A built-in looks at a `View` of the shell and produces an `Outcome`.  It may ask for a change of
state, but never makes one.  Most built-ins only print and ask: those are given by a `Report`, and
`View.keep` says that history and disk stay as they were.

What was printed before an error stays printed (`Report.each`).
-/

namespace PipeShell

/-- Why a built-in failed. -/
inductive CommandError where
  /-- A file or directory that the command needs does not exist. -/
  | notFound (target : String)
  | invalidArguments (text : String)
  | failed (text : String)
  | io (fault : Fault)
  | history (error : HistoryError)
deriving Repr, DecidableEq

namespace CommandError

/-- The text shown to the user. -/
def message : CommandError → String
  | notFound target => target ++ ": No such file or directory"
  | invalidArguments text => "invalid arguments: " ++ text
  | failed text => text
  | io fault => "IO error: " ++ fault.message
  | history error => error.message

/-- An error of the state, as an error of the command that met it. -/
def ofStateError : StateError → CommandError
  | .invalidPath path => notFound path
  | .invalidValue reason => invalidArguments reason.message
  | .homeNotFound => failed (StateError.message .homeNotFound)

end CommandError

/-- What a built-in command can look at. -/
structure View where
  env : Environment
  state : ShellState
  history : History
  disk : Disk
  /-- The text that the stage before it wrote. -/
  input : String

/-- What a built-in command did. -/
structure Outcome where
  result : Except CommandError (Option Change)
  output : ByteArray
  history : History
  disk : Disk
  events : List Event

/-- What a built-in command printed, and how it ended. -/
structure Report where
  output : ByteArray
  result : Except CommandError (Option Change)

namespace Report

/-- Prints a text and asks for nothing. -/
def print (text : String) : Report := ⟨Text.encode text, .ok none⟩

/-- Prints nothing and asks for a change. -/
def ask (change : Change) : Report := ⟨.empty, .ok (some change)⟩

/-- Prints nothing and fails. -/
def fail (e : CommandError) : Report := ⟨.empty, .error e⟩

/-- Prints the bytes of each item in turn, up to the first item that fails. -/
def each {α : Type} (bytes : α → Except CommandError ByteArray) : List α → Report
  | [] => ⟨.empty, .ok none⟩
  | a :: rest =>
    match bytes a with
    | .error e => fail e
    | .ok b =>
      let r := each bytes rest
      ⟨b ++ r.output, r.result⟩

end Report

namespace View

/-- The outcome of a report: nothing but the printed text is new. -/
def keep (v : View) (r : Report) : Outcome :=
  ⟨r.result, r.output, v.history, v.disk, []⟩

/-- The outcome of a failure before anything was done. -/
def refuse (v : View) (e : CommandError) : Outcome :=
  v.keep (.fail e)

/-- A path as the command sees it. -/
def resolve (v : View) (path : String) : Except CommandError String :=
  (v.state.resolve v.env path).mapError CommandError.ofStateError

end View

end PipeShell
