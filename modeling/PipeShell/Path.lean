import PipeShell.Text.Field

/-!
# Paths as text

A path is kept exactly as it was written, because messages show it that way.  This module holds what
can be said about a path without looking at any file: whether it is absolute, how two paths are
joined, and its *components*, which forget repeated slashes, a slash at the end, and every `.` that
is not the first component of a relative path.  Two paths with equal components name the same file.
-/

namespace PipeShell.Path

/-- The path starts at the root. -/
def isAbsolute (p : String) : Bool :=
  p.toList.head? = some '/'

/-- The path ends with a slash. -/
def endsWithSlash (p : String) : Bool :=
  p.toList.getLast? = some '/'

/-- `p` seen from the directory `base`: an absolute path stays as it is, any other is written after
`base` with one slash between them. -/
def join (base p : String) : String :=
  if isAbsolute p then p
  else if base.isEmpty || endsWithSlash base then base ++ p
  else base ++ "/" ++ p

/-- The parts between the slashes that are not empty. -/
def names (p : String) : List String :=
  ((Text.fields '/' p.toList).filter (!·.isEmpty)).map String.ofList

/-- A part of a path. -/
inductive Component where
  | root
  /-- The directory the path starts from, written as `.` at the front of a relative path. -/
  | here
  /-- The parent directory. -/
  | up
  | name (text : String)
deriving Repr, DecidableEq

/-- The components of a path. -/
def components (p : String) : List Component :=
  let parts := names p
  let start :=
    if isAbsolute p then [Component.root]
    else if parts.head? = some "." then [Component.here]
    else []
  start ++ (parts.filter (· ≠ ".")).map fun s => if s = ".." then .up else .name s

/-- The two paths have the same components. -/
def same (p q : String) : Bool :=
  components p = components q

/-- The absolute path that leads through these names. -/
def ofNames (ns : List String) : String :=
  "/" ++ "/".intercalate ns

/-- The absolute paths of the directories that an absolute path leads through, nearest first. -/
def ancestors (p : String) : List String :=
  let ns := (names p).filter (· ≠ ".")
  ((List.range ns.length).reverse).map fun n => ofNames (ns.take n)

end PipeShell.Path
