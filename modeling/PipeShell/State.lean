import PipeShell.Disk
import PipeShell.Text.Quoted
import PipeShell.Variable.Overlay

/-!
# The state of a shell

What a shell carries from one command to the next: its directory, its variables, its aliases, and
whether it was asked to leave.  Commands never touch the state themselves.  They return a `Change`,
and `ShellState.apply` carries it out.

A change of directory is checked against the disk at that moment: the new directory is the canonical
path of an existing one.  A change of several variables stops at the first that is refused, and the
ones before it stay changed.
-/

namespace PipeShell

/-- A change of state that a command asks for. -/
inductive Change where
  | changeDir (path : String)
  | setVars (vars : List (String × String))
  | unsetVars (names : List String)
  | setAliases (aliases : List (String × String))
  | requestExit (code : Int)
deriving Repr, DecidableEq

/-- The change as a log record shows it. -/
def Change.describe : Change → String
  | changeDir path => "ChangeDir(" ++ Text.quote path ++ ")"
  | setVars vars => "SetVars(" ++ Text.quotePairs vars ++ ")"
  | unsetVars names => "UnsetVars(" ++ Text.quoteList names ++ ")"
  | setAliases aliases => "SetAliases(" ++ Text.quotePairs aliases ++ ")"
  | requestExit code => "RequestExit(" ++ toString code ++ ")"

/-- The state of a shell. -/
structure ShellState where
  /-- The directory that relative paths start from. -/
  dir : String
  overlay : Overlay
  aliases : NameMap String
  /-- The status to leave with, once the shell was asked to leave. -/
  exitRequest : Option Int
deriving DecidableEq

namespace ShellState

/-- A new state in a directory, which must exist. -/
def startIn (disk : Disk) (path : String) : Except Fault ShellState :=
  match disk.canonical path with
  | .ok dir =>
    if disk.isDirectory dir then .ok ⟨dir, .empty, ∅, none⟩
    else .error (.stated (dir ++ " is not a directory"))
  | .error fault => .error fault

/-- The value of a variable. -/
def var? (s : ShellState) (env : Environment) (name : String) : Option String :=
  s.overlay.value? env name

/-- The body of an alias. -/
def alias? (s : ShellState) (name : String) : Option String :=
  s.aliases.get? name

/-- The state with an alias, whatever its name. -/
def setAlias (s : ShellState) (name body : String) : ShellState :=
  { s with aliases := s.aliases.insert name body }

/-- A path as the shell sees it: `~` expanded, relative paths from the shell's directory. -/
def resolve (s : ShellState) (env : Environment) (path : String) : Except StateError String :=
  Path.resolve env s.dir path

/-- The state in another directory. -/
def changeDir (s : ShellState) (disk : Disk) (path : String) : Except StateError ShellState :=
  let resolved := Path.join s.dir path
  match disk.realDirectory? resolved with
  | some dir => .ok { s with dir }
  | none => .error (.invalidPath resolved)

/-- Carries out a step for each item until one is refused; the steps before it stay done. -/
def applyEach {α : Type} (step : ShellState → α → Except StateError ShellState) :
    ShellState → List α → ShellState × Option StateError
  | s, [] => (s, none)
  | s, a :: rest =>
    match step s a with
    | .ok s' => applyEach step s' rest
    | .error e => (s, some e)

/-- The state with a variable set. -/
def setVar (s : ShellState) (p : String × String) : Except StateError ShellState :=
  (s.overlay.set p.1 p.2).map fun overlay => { s with overlay }

/-- The state with a variable removed. -/
def unsetVar (s : ShellState) (name : String) : Except StateError ShellState :=
  (s.overlay.unset name).map fun overlay => { s with overlay }

/-- The state after a change, and why the change was refused, if it was. -/
def apply (s : ShellState) (disk : Disk) : Change → ShellState × Option StateError
  | .changeDir path =>
    match s.changeDir disk path with
    | .ok s' => (s', none)
    | .error e => (s, some e)
  | .setVars vars => applyEach setVar s vars
  | .unsetVars names => applyEach unsetVar s names
  | .setAliases aliases => (aliases.foldl (fun s p => s.setAlias p.1 p.2) s, none)
  | .requestExit code => ({ s with exitRequest := some code }, none)

end ShellState

end PipeShell
