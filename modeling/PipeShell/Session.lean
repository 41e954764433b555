import PipeShell.Console
import PipeShell.Shell
import PipeShell.Text.Backspace

/-!
# A session

A session feeds lines to a shell and shows the results.  Its input is a script: the bytes of the
standard input cut into lines.  Backspaces in a line are obeyed before anything else looks at it.  A
line that is not text ends the session with an error.

The line `clear` is a wish to the terminal.  It goes into the history and does nothing else; it
keeps the status as it was.  A line of blanks, in contrast, is run as nothing and sets the status to
zero.

Log records wait in the shell until the line that caused them is done, and are shown before its
result.  A log file does not wait: it has each record at once (`PipeShell.Shell.report`).
-/

namespace PipeShell

/-- A line of a script. -/
inductive ScriptLine where
  | text (line : String)
  /-- The bytes of the line are not text. -/
  | unreadable
  /-- A backspace in the line took away a part of a character. -/
  | torn
deriving Repr, DecidableEq

namespace ScriptLine

/-- The bytes cut at newlines; the last piece ends at the end of the bytes.  `line` holds the bytes
of the current piece, and is `none` when no piece has begun. -/
def pieces (line : Option ByteArray) : List UInt8 → List (ByteArray × Bool)
  | [] => (line.map (·, false)).toList
  | b :: bs =>
    let begun := line.getD .empty
    if b = 10 then (begun, true) :: pieces none bs
    else pieces (some (begun.push b)) bs

/-- The line that was typed as this text. -/
def ofTyping (typing : String) : ScriptLine :=
  match Text.backspaced typing with
  | some line => text line
  | none => torn

/-- The line of a piece.  A carriage return belongs to the line ending only when a newline follows.
-/
def ofPiece (piece : ByteArray × Bool) : ScriptLine :=
  match Text.decode? piece.1 with
  | none => unreadable
  | some line => ofTyping (if piece.2 then String.ofList (Text.dropReturn line.toList) else line)

/-- The lines of a script. -/
def ofBytes (bytes : ByteArray) : List ScriptLine :=
  (pieces none bytes.toList).map ofPiece

end ScriptLine

/-- What a session finds around it and cannot change. -/
structure Surroundings where
  host : Host
  palette : Palette
  verbosity : Verbosity
  /-- The time that stands in front of a record. -/
  clock : String

namespace Surroundings

/-- The names of terminals on which a line cannot be edited. -/
def plainTerminals : List String := ["dumb", "cons25", "emacs"]

/-- The terminal is one on which a line cannot be edited.  It gets a prompt although nobody may be
sitting there. -/
def terminalTooPlain (env : Environment) : Bool :=
  match env.value? "TERM" with
  | some term => plainTerminals.contains (term.map Char.toLower)
  | none => false

end Surroundings

/-- How a session ended. -/
inductive SessionEnd where
  | left (status : Int)
  | failed (error : ShellError)
  /-- The session could not go on, and could not say why. -/
  | brokeDown
deriving Repr, DecidableEq

/-- A shell and what it has shown. -/
structure Session where
  shell : Shell
  console : Console

namespace Session

/-- The session with all waiting records shown. -/
def flush (around : Surroundings) (s : Session) : Session where
  shell := { s.shell with log := [] }
  console := s.console.showLog around.verbosity around.clock s.shell.log

/-- The session that is about to read a line. -/
def awaitLine (around : Surroundings) (s : Session) : Session :=
  if Surroundings.terminalTooPlain around.host.env then
    { shell := s.shell.report [.terminalTooPlain]
      console := s.console.print (around.palette.prompt s.shell.state.dir) }
  else { s with shell := s.shell.report [.inputNotATerminal] }

/-- Runs a line and shows its result; the number is the status of the line. -/
def runLine (around : Surroundings) (line : String) (s : Session) : Nat × Session :=
  let ran := s.shell.runLine around.host line
  let flushed := flush around { s with shell := ran.2 }
  (ran.1.status, { flushed with console := ran.1.showOn around.palette flushed.console })

/-- The line is the wish to clear the terminal. -/
def isClear (line : String) : Bool :=
  Text.trimText line == "clear"

/-- Runs the lines of a script after a line of this status. -/
def runScript (around : Surroundings) (status : Int) :
    List ScriptLine → Session → SessionEnd × Session
  | [], s => (.left status, flush around (awaitLine around s))
  | .unreadable :: _, s => (.failed (.read (.io .notText)), flush around (awaitLine around s))
  | .torn :: _, s => (.brokeDown, flush around (awaitLine around s))
  | .text line :: rest, s =>
    let s' := awaitLine around s
    if isClear line then
      runScript around status rest { s' with shell := s'.shell.record line }
    else
      let ran := runLine around line s'
      match ran.2.shell.exitRequest with
      | some code => (.left code, ran.2)
      | none => runScript around ran.1 rest ran.2

/-- Runs a single line: the status to leave with. -/
def runCommand (around : Surroundings) (line : String) (s : Session) : Int × Session :=
  let ran := runLine around line s
  (ran.2.shell.exitRequest.getD ran.1, ran.2)

end Session

end PipeShell
