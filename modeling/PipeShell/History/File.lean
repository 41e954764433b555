import PipeShell.Disk.Access
import PipeShell.History.Line
import PipeShell.Text.Blank

/-!
# History files

A history file holds one entry per line (`PipeShell.History.Line`).  Lines of blanks hold no entry.
The file is text: one byte sequence that is not UTF-8 makes the whole file unreadable.
-/

namespace PipeShell

/-- A history file could not be read or written. -/
structure HistoryError where
  path : String
  fault : Fault
deriving Repr, DecidableEq

/-- The text shown to the user. -/
def HistoryError.message (e : HistoryError) : String :=
  e.path ++ ": " ++ e.fault.message

namespace History

/-- The entries of a file's text. -/
def decode (text : String) : List String :=
  ((Text.lines text).filter (!Text.isAllBlank ·)).map unescapeLine

/-- The text of a file with these entries. -/
def encode (entries : List String) : String :=
  String.join (entries.map escapeLine)

/-- The entries of a file. -/
def loadFile (disk : Disk) (path : String) : Except HistoryError (List String) :=
  match disk.readText path with
  | .ok text => .ok (decode text)
  | .error fault => .error ⟨path, fault⟩

/-- The disk with a file that holds these entries and nothing else. -/
def writeFile (disk : Disk) (path : String) (entries : List String) : Except HistoryError Disk :=
  match disk.overwrite path (Text.encode (encode entries)) with
  | .ok disk' => .ok disk'
  | .error fault => .error ⟨path, fault⟩

/-- The disk with these entries added at the end of a file. -/
def appendFile (disk : Disk) (path : String) (entries : List String) : Except HistoryError Disk :=
  match disk.append path (Text.encode (encode entries)) with
  | .ok disk' => .ok disk'
  | .error fault => .error ⟨path, fault⟩

end History

end PipeShell
