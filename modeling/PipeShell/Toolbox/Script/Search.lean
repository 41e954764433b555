import PipeShell.Toolbox.Script.Arithmetic
import PipeShell.Toolbox.Script.Machine
import PipeShell.Variable.SearchPath

/-!
# What names stand for

A script takes a name for a word of the grammar, an alias, a function, a command that it carries out
itself, or a program.  Programs are looked for in the directories of the search path, and the script
keeps track of those that it has found.
-/

namespace PipeShell.Script

/-- The names of the commands that scripts carry out themselves and that are not special. -/
def regularNames : List String :=
  ["[", "alias", "bg", "cd", "chdir", "command", "echo", "false", "fg", "getopts", "hash", "jobs",
   "kill", "printf", "pwd", "read", "test", "true", "type", "ulimit", "umask", "unalias", "wait"]

/-- The name of a command that scripts carry out themselves. -/
def isBuiltIn (name : String) : Bool := specialNames.contains name || regularNames.contains name

/-- The paths at which a search path has a name looked for. -/
def candidates (searchPath name : String) : List String :=
  (SearchPath.split searchPath).map fun entry =>
    if entry.isEmpty then name else entry ++ "/" ++ name

/-- The first of some paths that leads to a program, or why there is none.  A path that leads
nowhere is passed over, and what was wrong with a later one counts more. -/
def firstProgram (m : Machine) : Fault → List String → Except Fault String
  | fault, [] => .error fault
  | fault, path :: rest =>
    match m.world.disk.lookUp (m.path path) with
    | .ok (_, e) => if e.isRunnable then .ok path else firstProgram m .notPermitted rest
    | .error .notFound => firstProgram m fault rest
    | .error .notADirectory => firstProgram m fault rest
    | .error other => firstProgram m other rest

/-- The program that a name without a slash stands for. -/
def findProgram (m : Machine) (name : String) : Except Fault String :=
  match m.value? "PATH" with
  | none => .error .notFound
  | some searchPath => firstProgram m .notFound (candidates searchPath name)

/-- The fault as messages about commands show it. -/
def commandFault (fault : Fault) : String :=
  if fault = .notFound || fault = .notADirectory then "not found" else Toolbox.faultText fault

/-- What a name stands for. -/
inductive Meaning where
  | keyword
  | alias (value : String)
  | function
  | builtIn (special : Bool)
  | program (path : String) (tracked : Bool)
  | nothing
deriving Repr, DecidableEq

/-- What a name stands for in a script. -/
def meaning (m : Machine) (name : String) : Meaning :=
  if reserved.contains name then .keyword
  else
    match m.aliases.lookup name with
    | some value => .alias value
    | none =>
      if name.toList.contains '/' then
        if (m.world.disk.lookUp (m.path name)).isOk then .program name false else .nothing
      else if (m.functions.get? name).isSome then .function
      else if isBuiltIn name then .builtIn (specialNames.contains name)
      else
        match m.tracked.lookup name, findProgram m name with
        | some path, _ => .program path true
        | none, .ok path => .program path false
        | none, .error _ => .nothing

/-- Notes the program that was found for a name. -/
def Run.track (name path : String) : Run Unit :=
  modify fun m =>
    if (m.tracked.lookup name).isSome then m
    else { m with tracked := m.tracked ++ [(name, path)] }

/-- Notes the program that a name without a slash stands for, if it stands for one. -/
def Run.trackNamed (name : String) : Run Unit := do
  match meaning (← get) name with
  | .program path false => if !name.toList.contains '/' then Run.track name path
  | _ => pure ()

/-- Names as a table lists them: in the order of the buckets that they fall into. -/
def inBuckets (count : Nat) (entries : List (String × String)) : List (String × String) :=
  let bucket (name : String) : Nat :=
    let codes := name.toList.map Char.toNat
    (codes.foldl (· + ·) (16 * codes.headD 0)) % count
  entries.mergeSort fun p q => bucket p.1 ≤ bucket q.1

end PipeShell.Script
