import PipeShell.Disk.Access
import PipeShell.Event

/-!
# Log files

A log holds one line for each record: the time, the level and the text.  A log file is opened once
and stays open, whatever becomes of the path that led there.
-/

namespace PipeShell

namespace Event

/-- The record as a line of a log, with the time in front. -/
def logLine (clock : String) (e : Event) : String :=
  clock ++ " [" ++ e.level.label ++ "] " ++ e.message ++ "\n"

/-- The lines of all records. -/
def logText (clock : String) (events : List Event) : String :=
  String.join (events.map (logLine clock))

end Event

/-- A file that records are added to. -/
structure LogFile where
  file : Disk.OpenFile
  /-- The time that stands in front of a record. -/
  clock : String
deriving Repr, DecidableEq

/-- The disk with records added to a log file. -/
def LogFile.add (f : LogFile) (events : List Event) (d : Disk) : Disk :=
  d.editOpen f.file (· ++ Text.encode (Event.logText f.clock events))

end PipeShell
