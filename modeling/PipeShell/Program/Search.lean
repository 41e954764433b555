import PipeShell.State

/-!
# Finding a program

A name with a slash in it is a path, seen from the shell's directory.  Any other name is looked for
in the directories of the search path, in order; a relative directory is seen from the shell's
directory as well.  A program is a regular file that may be run.
-/

namespace PipeShell.Program

/-- The path, if it leads to a program. -/
def runnable? (disk : Disk) (path : String) : Option String :=
  if disk.isRunnable path then some path else none

/-- The program that a name stands for, with this search path and seen from this directory. -/
def search (disk : Disk) (searchPath dir name : String) : Option String :=
  if name.isEmpty then none
  else if name.toList.contains '/' then runnable? disk (Path.join dir name)
  else (SearchPath.entries searchPath).findSome? fun entry =>
    runnable? disk (Path.join (Path.join dir entry) name)

/-- The program that a name stands for in a shell. -/
def find (env : Environment) (disk : Disk) (s : ShellState) (name : String) : Option String :=
  search disk ((s.var? env "PATH").getD "") s.dir name

end PipeShell.Program
