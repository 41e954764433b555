import PipeShell.Disk
import PipeShell.Text.Utf8

/-!
# Reading and writing files

Files are read whole and written whole.  Writing goes through `Disk.edit`, which finds the place of
a path and puts the new contents there: a free name becomes a new file that may not be run, an
existing file keeps its permission.  A path with a slash at its end can only be a directory, so
nothing is ever written through it, nor through a link to such a path.

A file can also be held open (`OpenFile`): it is then written at its location, whatever becomes of
the path that led there, and no more once it is removed.

`Disk.makeDirectories` makes missing parents along the way and keeps what it made when a later step
fails, so it returns the disk together with the fault.
-/

namespace PipeShell.Disk

/-! ## Reading -/

/-- The bytes that every program of the system begins with. -/
def programBytes : ByteArray :=
  ⟨#[127, 69, 76, 70, 2, 1, 1, 0, 0, 0, 0, 0, 0, 0, 0, 0]⟩

/-- The bytes of a file.  A device has nothing to read as a whole. -/
def readBytes (d : Disk) (path : String) : Except Fault ByteArray :=
  match d.lookUp path with
  | .ok (_, .file data _) => .ok data
  | .ok (_, .program _) => .ok programBytes
  | .ok (_, .directory) => .error .isADirectory
  | .ok (_, _) => .ok .empty
  | .error fault => .error fault

/-- The text of a file. -/
def readText (d : Disk) (path : String) : Except Fault String :=
  match d.readBytes path with
  | .ok data =>
    match Text.decode? data with
    | some s => .ok s
    | none => .error .notText
  | .error fault => .error fault

/-! ## Writing -/

/-- The place that a path names as a file to be written, seen from `l` and with `rest` still to walk
after it.  A name with a slash after it cannot become a file, be it in the path itself or in a link
that it ends at. -/
def findTargetFrom (d : Disk) : (links : Nat) → Location → (path : String) → (rest : List String) →
    Except Fault Place
  | links, l, path, rest =>
    if rest.isEmpty && Path.endsWithSlash path then
      (d.follow true links (start l path) ((Path.names path).dropLast ++ ["."])).bind fun _ =>
        .error .isADirectory
    else
      match d.entryAt? (start l path) with
      | none => .error .notFound
      | some e =>
        match d.advance true (start l path) e (steps path ++ rest) with
        | .done place => .ok place
        | .failed fault => .error fault
        | .atLink l' target rest' =>
          match links with
          | 0 => .error .tooManyLinks
          | links + 1 => findTargetFrom d links l' target rest'

/-- The place that a path names as a file to be written. -/
def findTarget (d : Disk) (path : String) : Except Fault Place :=
  match pathFault? path with
  | some fault => .error fault
  | none => d.findTargetFrom linkLimit d.base path []

/-- The contents at a path changed by `change`; a new file starts out empty.  A full device takes
only what adds nothing. -/
def edit (d : Disk) (path : String) (change : ByteArray → ByteArray) : Except Fault Disk :=
  match d.findTarget path with
  | .ok (.occupied l (.file data runnable)) => .ok (d.put l (.file (change data) runnable))
  | .ok (.occupied _ .directory) => .error .isADirectory
  | .ok (.occupied _ (.device .full)) =>
    if (change .empty).isEmpty then .ok d else .error .noSpace
  | .ok (.occupied _ (.device _)) => .ok d
  | .ok (.occupied _ (.program _)) => .error .notPermitted
  | .ok (.occupied _ (.link _)) => .error .notFound
  | .ok (.vacant l name) => .ok (d.put (l ++ [name]) (.file (change .empty) false))
  | .error fault => .error fault

/-- The disk with these bytes as the contents at the path. -/
def overwrite (d : Disk) (path : String) (bytes : ByteArray) : Except Fault Disk :=
  d.edit path fun _ => bytes

/-- The disk with these bytes added to the contents at the path. -/
def append (d : Disk) (path : String) (bytes : ByteArray) : Except Fault Disk :=
  d.edit path (· ++ bytes)

/-- The disk with these bytes as the contents at the path, in a file that may be run or not. -/
def install (d : Disk) (path : String) (bytes : ByteArray) (runnable : Bool) : Except Fault Disk :=
  match d.findTarget path with
  | .ok (.occupied l (.file _ _)) => .ok (d.put l (.file bytes runnable))
  | .ok (.vacant l name) => .ok (d.put (l ++ [name]) (.file bytes runnable))
  | .ok (.occupied _ _) => d.overwrite path bytes
  | .error fault => .error fault

/-- The disk with a new link to `target` at the path. -/
def makeLink (d : Disk) (path target : String) : Except Fault Disk :=
  match d.findLink path with
  | .ok (.vacant l name) => .ok (d.put (l ++ [name]) (.link target))
  | .ok (.occupied _ _) => .error .alreadyExists
  | .error fault => .error fault

/-! ## Open files -/

/-- A file that is held open. -/
structure OpenFile where
  location : Location
  /-- How often something there had been removed when it was opened. -/
  age : Nat
deriving Repr, DecidableEq

/-- The file at a location, opened. -/
def openAt (d : Disk) (l : Location) : OpenFile := ⟨l, d.removalsAt l⟩

/-- The bytes of an open file, unless it is gone. -/
def openBytes? (d : Disk) (f : OpenFile) : Option ByteArray :=
  if d.removalsAt f.location = f.age then
    match d.entryAt? f.location with
    | some (.file data _) => some data
    | _ => none
  else none

/-- The disk with the bytes of an open file changed.  A file that is gone does not come back. -/
def editOpen (d : Disk) (f : OpenFile) (change : ByteArray → ByteArray) : Disk :=
  if d.removalsAt f.location = f.age then
    match d.entryAt? f.location with
    | some (.file data runnable) => d.put f.location (.file (change data) runnable)
    | _ => d
  else d

/-! ## Directories -/

/-- The disk with one new directory. -/
def makeDirectory (d : Disk) (path : String) : Except Fault Disk :=
  let ns := Path.names path
  match ns.getLast?, d.findSteps true path (ns.dropLast ++ ["."]) with
  | _, .error fault => .error fault
  | none, .ok _ => .error .alreadyExists
  | some name, .ok (.occupied l _) =>
    if name = "." || name = ".." then .error .alreadyExists
    else if longestName < name.utf8ByteSize then .error .nameTooLong
    else if (d.entryAt? (l ++ [name])).isSome then .error .alreadyExists
    else .ok (d.put (l ++ [name]) .directory)
  | some _, .ok (.vacant _ _) => .error .notFound

/-- Makes the directories of a list of paths, each inside the next one, so that the last is made
first; a directory that exists already is fine. -/
def makeChain (d : Disk) : List String → Disk × Option Fault
  | [] => (d, none)
  | path :: parents =>
    match d.makeDirectory path with
    | .ok made => (made, none)
    | .error .notFound =>
      match makeChain d parents with
      | (d', some fault) => (d', some fault)
      | (d', none) =>
        match d'.makeDirectory path with
        | .ok made => (made, none)
        | .error fault => (d', if d'.isDirectory path then none else some fault)
    | .error fault => (d, if d.isDirectory path then none else some fault)

/-- The disk with a directory and all its parents, and what stopped the work. -/
def makeDirectories (d : Disk) (path : String) : Disk × Option Fault :=
  d.makeChain (path :: Path.ancestors path)

/-! ## Removing -/

/-- The disk without an empty directory. -/
def removeDirectory (d : Disk) (path : String) : Except Fault Disk :=
  match d.lookUpLink path with
  | .ok (l, .directory) =>
    if (d.children l).isEmpty then .ok (d.remove l) else .error .notEmpty
  | .ok (_, _) => .error .notADirectory
  | .error fault => .error fault

/-- The disk without a file or a link. -/
def removeFile (d : Disk) (path : String) : Except Fault Disk :=
  match d.lookUpLink path with
  | .ok (_, .directory) => .error .isADirectory
  | .ok (l, _) => .ok (d.remove l)
  | .error fault => .error fault

end PipeShell.Disk
