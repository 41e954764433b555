import PipeShell.Event

/-!
# The command history

A log of lines, oldest first, with a cursor for walking over it and a mark for the lines that are
already saved.  A history may have a *backing* file: every recorded line is appended to it at once,
and when the log is replaced so is the file.  Trouble with the backing file is reported as an
event and never as an error.  An exchange with a file named by the user tells how many lines it
moved, or why it moved none, and either way what it leaves.

The cursor and the mark never pass the end of the log (`cursor_le`, `saved_le`), because they are
part of the type.
-/

namespace PipeShell

/-- A log of command lines. -/
structure History where
  entries : List String
  /-- The position that a walk over the log has reached; the length of the log when it is past the
  newest line. -/
  cursor : Nat
  /-- The number of lines that need not be saved again. -/
  saved : Nat
  /-- The file that takes every recorded line. -/
  backing : Option String
  cursor_le : cursor ≤ entries.length := by simp
  saved_le : saved ≤ entries.length := by simp
deriving DecidableEq

namespace History

/-- The two ways to walk over the log. -/
inductive Direction where
  | older
  | newer
deriving Repr, DecidableEq

/-- A history together with the disk and the events that an operation left. -/
structure Step where
  history : History
  disk : Disk
  events : List Event

/-- A log that was just filled: the cursor is past its end and everything in it is saved. -/
def fresh (entries : List String) (backing : Option String) : History where
  entries := entries
  cursor := entries.length
  saved := entries.length
  backing := backing

/-- An empty history without a backing file. -/
def inMemory : History := fresh [] none

/-- The history of a backing file, which may not exist yet. -/
def ofFile (disk : Disk) (path : String) : History × List Event :=
  match loadFile disk path with
  | .ok entries => (fresh entries (some path), [.historyLoaded entries.length path])
  | .error e => (fresh [] (some path), [.historyUnreadable e])

/-- The number of lines in the log. -/
def length (h : History) : Nat := h.entries.length

/-- The lines with their positions. -/
def numbered (h : History) : List (Nat × String) :=
  h.entries.zipIdx.map fun p => (p.2, p.1)

/-- The last `count` lines with their positions. -/
def recent (h : History) (count : Nat) : List (Nat × String) :=
  h.numbered.drop (h.length - count)

/-- The log with one more line. -/
def push (h : History) (line : String) : History where
  entries := h.entries ++ [line]
  cursor := h.entries.length + 1
  saved := h.saved
  backing := h.backing
  saved_le := by have := h.saved_le; simp; omega

/-- Adds a line to the log and to the backing file. -/
def record (h : History) (disk : Disk) (line : String) : Step :=
  let h' := h.push line
  match h.backing with
  | none => ⟨h', disk, []⟩
  | some path =>
    match appendFile disk path [line] with
    | .ok disk' => ⟨h', disk', []⟩
    | .error e => ⟨h', disk, [.entryNotSaved e]⟩

/-! ## Walking -/

/-- One step over the log: the line arrived at, and the history with its cursor there.  A step past
the newest line arrives at an empty line; from there, and from the oldest line backwards, there is
no step. -/
def navigate (h : History) : Direction → Option String × History
  | .older =>
    if hc : h.cursor = 0 then (none, h)
    else
      have := h.cursor_le
      (h.entries[h.cursor - 1]?, { h with cursor := h.cursor - 1, cursor_le := by omega })
  | .newer =>
    if hc : h.cursor + 1 < h.entries.length then
      (h.entries[h.cursor + 1]?, { h with cursor := h.cursor + 1, cursor_le := by omega })
    else if hc : h.cursor + 1 = h.entries.length then
      (some "", { h with cursor := h.entries.length, cursor_le := by omega })
    else (none, h)

/-! ## Files named by the user -/

/-- The log with everything in it saved. -/
def markSaved (h : History) : History :=
  { h with saved := h.entries.length, saved_le := by omega }

/-- The lines that are not saved yet. -/
def pending (h : History) : List String :=
  h.entries.drop h.saved

/-- Replaces the log by the entries of a file, and the backing file by the same entries. -/
def load (h : History) (disk : Disk) (path : String) : Except HistoryError Nat × Step :=
  match loadFile disk path with
  | .error e => (.error e, ⟨h, disk, []⟩)
  | .ok entries =>
    let h' := fresh entries h.backing
    match h.backing with
    | none => (.ok h'.length, ⟨h', disk, []⟩)
    | some file =>
      match writeFile disk file entries with
      | .ok disk' => (.ok h'.length, ⟨h', disk', []⟩)
      | .error e => (.ok h'.length, ⟨h', disk, [.historyNotReplaced e]⟩)

/-- Writes the whole log to a file. -/
def save (h : History) (disk : Disk) (path : String) : Except HistoryError Nat × Step :=
  match writeFile disk path h.entries with
  | .error e => (.error e, ⟨h, disk, []⟩)
  | .ok disk' => (.ok h.length, ⟨h.markSaved, disk', []⟩)

/-- Adds the lines that are not saved yet to a file.  When there are none the file is left alone. -/
def saveNew (h : History) (disk : Disk) (path : String) : Except HistoryError Nat × Step :=
  if h.pending.isEmpty then (.ok 0, ⟨h, disk, []⟩)
  else
    match appendFile disk path h.pending with
    | .error e => (.error e, ⟨h, disk, []⟩)
    | .ok disk' => (.ok h.pending.length, ⟨h.markSaved, disk', []⟩)

end History

end PipeShell
