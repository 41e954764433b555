import PipeShell.Fault
import PipeShell.NameTree
import PipeShell.Path

/-!
# Directories and files

A `Disk` is a tree of directories, files, links, devices and programs together with the directory
from which relative paths start.  Each entry stands at its *location*: the names that lead to it
from the root, none of them a link.  The root itself is always a directory.

Finding a path (`Disk.find`) walks its names one by one.  `Disk.advance` goes on until the path
ends, fails, or meets a link; `Disk.follow` goes on from where a link points, through at most forty
links.  The result is a `Place`: an entry, or a name that is still free in an existing directory.
-/

namespace PipeShell

/-- The names that lead from the root to an entry. -/
abbrev Location := List String

/-- A file that holds no data of its own. -/
inductive Device where
  /-- Swallows what is written and has nothing to read. -/
  | sink
  /-- Swallows what is written and can be read without end. -/
  | zeros
  /-- Can be read without end and has no room for anything. -/
  | full
  /-- Whatever the channel of this number leads to in the program that opens it. -/
  | channel (number : Nat)
deriving Repr, DecidableEq

/-- What can stand at a location. -/
inductive Entry where
  | directory
  /-- A regular file, and whether it may be run. -/
  | file (data : ByteArray) (runnable : Bool)
  /-- A link to another path. -/
  | link (target : String)
  | device (kind : Device)
  /-- A program of the system, known by its name. -/
  | program (name : String)

namespace Entry

/-- The size that a listing shows.  A directory counts as one block. -/
def size : Entry → Nat
  | directory => 4096
  | file data _ => data.size
  | link target => target.utf8ByteSize
  | device _ => 0
  | program _ => 4096

/-- The entry is a directory. -/
def isDirectory : Entry → Bool
  | directory => true
  | _ => false

/-- The entry is a file, be it data or a program. -/
def isFile : Entry → Bool
  | file _ _ => true
  | program _ => true
  | _ => false

/-- The entry is a file that may be run. -/
def isRunnable : Entry → Bool
  | file _ runnable => runnable
  | program _ => true
  | _ => false

end Entry

/-- A tree of files, and the directory from which relative paths start. -/
structure Disk where
  tree : NameTree Entry
  base : Location
  /-- The locations that were removed, each as often as it was, the latest first. -/
  removals : List Location

/-- The end of a path: an entry, or a free name in a directory. -/
inductive Place where
  | occupied (location : Location) (entry : Entry)
  | vacant (directory : Location) (name : String)

namespace Disk

/-! ## Entries -/

/-- A disk with nothing on it. -/
def empty (base : Location) : Disk := ⟨.empty, base, []⟩

/-- The entry at a location. -/
def entryAt? (d : Disk) (l : Location) : Option Entry :=
  if l.isEmpty then some .directory else d.tree.get? l

/-- The disk with `e` at the location `l`. -/
def put (d : Disk) (l : Location) (e : Entry) : Disk :=
  { d with tree := d.tree.assign l (some e) }

/-- The disk without the entry at the location `l` and everything below it. -/
def remove (d : Disk) (l : Location) : Disk :=
  { d with tree := d.tree.prune l, removals := l :: d.removals }

/-- How often something at a location was removed, be it by itself or with a directory above. -/
def removalsAt (d : Disk) (l : Location) : Nat :=
  (d.removals.filter (·.isPrefixOf l)).length

/-- The names in a directory with their entries, in no particular order. -/
def children (d : Disk) (l : Location) : List (String × Entry) :=
  d.tree.children l

/-- Putting an entry changes what stands at its location and nothing else. -/
theorem entryAt?_put (d : Disk) {l : Location} (hl : l ≠ []) (l' : Location) (e : Entry) :
    (d.put l e).entryAt? l' = if l' = l then some e else d.entryAt? l' := by
  unfold entryAt? put
  by_cases h' : l' = []
  · subst h'; simp [Ne.symm hl]
  · simp [h', NameTree.get?_assign]

/-- Removing takes what stands at a location and below, and nothing else. -/
theorem entryAt?_remove (d : Disk) {l : Location} (hl : l ≠ []) (l' : Location) :
    (d.remove l).entryAt? l' = if l.isPrefixOf l' then none else d.entryAt? l' := by
  unfold entryAt? remove
  by_cases h' : l' = []
  · subst h'; simp [hl]
  · simp [h', NameTree.get?_prune]

/-- Writing an entry does not move the directory that relative paths start from. -/
@[simp] theorem base_put (d : Disk) (l : Location) (e : Entry) : (d.put l e).base = d.base := rfl

/-! ## Walking a path -/

/-- The names of a path, with a `.` for a slash at its end: such a path must lead to a directory. -/
def steps (path : String) : List String :=
  if Path.endsWithSlash path then Path.names path ++ ["."] else Path.names path

/-- The longest name, and the first length of a path that is too long, in bytes. -/
def longestName : Nat := 255

/-- The first length of a path, in bytes, that is too long. -/
def pathLimit : Nat := 4096

/-- How far a walk came. -/
inductive Progress where
  | done (place : Place)
  | failed (fault : Fault)
  /-- At a link in the directory `directory`, with `rest` still to walk. -/
  | atLink (directory : Location) (target : String) (rest : List String)

/-- Walks names from the entry `e` at the location `l` until the end, a fault or a link.  A link at
the very end counts as the end unless `followLast` is set. -/
def advance (d : Disk) (followLast : Bool) (l : Location) (e : Entry) : List String → Progress
  | [] => .done (.occupied l e)
  | name :: rest =>
    if !e.isDirectory then .failed .notADirectory
    else if name = "." then advance d followLast l e rest
    else if name = ".." then advance d followLast l.dropLast e rest
    else if longestName < name.utf8ByteSize then .failed .nameTooLong
    else
      match d.entryAt? (l ++ [name]) with
      | none => if rest.isEmpty then .done (.vacant l name) else .failed .notFound
      | some (.link target) =>
        if rest.isEmpty && !followLast then .done (.occupied (l ++ [name]) (.link target))
        else .atLink l target rest
      | some e' => advance d followLast (l ++ [name]) e' rest

/-- Where a path starts from. -/
def start (l : Location) (path : String) : Location :=
  if Path.isAbsolute path then [] else l

/-- Walks names and goes on through at most `links` links. -/
def follow (d : Disk) (followLast : Bool) : (links : Nat) → Location → List String →
    Except Fault Place
  | links, l, names =>
    match d.entryAt? l with
    | none => .error .notFound
    | some e =>
      match d.advance followLast l e names with
      | .done place => .ok place
      | .failed fault => .error fault
      | .atLink l' target rest =>
        match links with
        | 0 => .error .tooManyLinks
        | links + 1 => follow d followLast links (start l' target) (steps target ++ rest)

/-- The most links that one path may lead through. -/
def linkLimit : Nat := 40

/-- The faults of a path that are found before any walk, whatever its length. -/
def textFault? (path : String) : Option Fault :=
  if path.toList.contains '\x00' then some .zeroInPath
  else if path.isEmpty then some .notFound
  else none

/-- The faults of a path that are found before any walk. -/
def pathFault? (path : String) : Option Fault :=
  match textFault? path with
  | some fault => some fault
  | none => if pathLimit ≤ path.utf8ByteSize then some .nameTooLong else none

/-- The place of a list of names, seen from where `path` starts. -/
def findSteps (d : Disk) (followLast : Bool) (path : String) (names : List String) :
    Except Fault Place :=
  match pathFault? path with
  | some fault => .error fault
  | none => d.follow followLast linkLimit (start d.base path) names

/-- The place of a path, links followed. -/
def find (d : Disk) (path : String) : Except Fault Place :=
  d.findSteps true path (steps path)

/-- The place of a path; a link at its end is not followed. -/
def findLink (d : Disk) (path : String) : Except Fault Place :=
  d.findSteps false path (steps path)

/-! ## Looking -/

/-- An existing entry at the end of a path, or the fault of looking it up. -/
def occupant : Except Fault Place → Except Fault (Location × Entry)
  | .ok (.occupied l e) => .ok (l, e)
  | .ok (.vacant _ _) => .error .notFound
  | .error fault => .error fault

/-- The entry that a path leads to, links followed. -/
def lookUp (d : Disk) (path : String) : Except Fault (Location × Entry) :=
  occupant (d.find path)

/-- The entry that a path leads to; a link at its end is the entry. -/
def lookUpLink (d : Disk) (path : String) : Except Fault (Location × Entry) :=
  occupant (d.findLink path)

/-- Something stands at the end of the path. -/
def pathExists (d : Disk) (path : String) : Bool :=
  match d.lookUp path with
  | .ok _ => true
  | .error _ => false

/-- The path leads to a directory. -/
def isDirectory (d : Disk) (path : String) : Bool :=
  match d.lookUp path with
  | .ok (_, e) => e.isDirectory
  | .error _ => false

/-- The path leads to a file that may be run. -/
def isRunnable (d : Disk) (path : String) : Bool :=
  match d.lookUp path with
  | .ok (_, e) => e.isRunnable
  | .error _ => false

/-- The entry that a path leads to when it is walked name by name, so that it may be of any
length. -/
def resolve (d : Disk) (path : String) : Except Fault (Location × Entry) :=
  match textFault? path with
  | some fault => .error fault
  | none => occupant (d.follow true linkLimit (start d.base path) (steps path))

/-- The one absolute path without links, dots and repeated slashes that leads where `path` leads. -/
def canonical (d : Disk) (path : String) : Except Fault String :=
  (d.resolve path).map fun p => Path.ofNames p.1

/-- The canonical path of a path that leads to a directory. -/
def canonicalDirectory? (d : Disk) (path : String) : Option String :=
  match d.resolve path with
  | .ok (l, .directory) => some (Path.ofNames l)
  | _ => none

/-- The canonical path of a path, if that is itself a path to a directory.  A canonical path can be
too long for one, though the path was not. -/
def realDirectory? (d : Disk) (path : String) : Option String :=
  match d.canonical path with
  | .ok dir => if d.isDirectory dir then some dir else none
  | .error _ => none

end Disk

end PipeShell
