import PipeShell.Event
import PipeShell.Text.Blank

/-!
# Starting up

Where a shell keeps its files, and its start-up file.  A line of that file defines a variable or an
alias; comments, lines of blanks and all other lines count for nothing.  The file has its own simple
syntax: no quoting inside a value, but one pair of quotes around it, and only `$HOME` and `$PATH`
are replaced.

Loading stops at the first line that is refused.  What the lines before it defined stays defined.
-/

namespace PipeShell.Startup

/-- The files of a shell. -/
structure Places where
  historyFile : String
  startupFile : String
deriving Repr, DecidableEq

/-- Why a shell could not be configured. -/
inductive ConfigError where
  | homeNotFound
  | io (path : String) (fault : Fault)
  /-- A line of the start-up file, counted from one, was refused. -/
  | invalidLine (line : Nat) (reason : String)
deriving Repr, DecidableEq

/-- The text shown to the user. -/
def ConfigError.message : ConfigError → String
  | homeNotFound => "Home directory not found"
  | io path fault => path ++ ": " ++ fault.message
  | invalidLine line reason => "rc file line " ++ toString line ++ ": " ++ reason

/-- The files of a shell started in this environment: both in the home directory, unless `HISTFILE`
names another history file. -/
def places (env : Environment) : Except ConfigError Places :=
  match env.home? with
  | none => .error .homeNotFound
  | some home =>
    let historyFile := match (env.value? "HISTFILE").filter (!·.isEmpty) with
      | some path => path
      | none => Path.join home ".sluice_history"
    .ok ⟨historyFile, Path.join home ".sluicerc"⟩

/-! ## Lines of the start-up file -/

/-- What stands between two quotes of this kind, if the text begins and ends with them. -/
def betweenQuotes? (quote : Char) (cs : List Char) : Option (List Char) :=
  match cs with
  | [] => none
  | c :: rest =>
    if c = quote && rest.getLast? = some quote then some rest.dropLast else none

/-- A value without blanks around it and without a pair of quotes around the rest. -/
def stripQuotes (value : List Char) : List Char :=
  let trimmed := Text.trim value
  match betweenQuotes? '"' trimmed with
  | some inner => inner
  | none => (betweenQuotes? '\'' trimmed).getD trimmed

/-- What a line of the start-up file says. -/
inductive Line where
  /-- Nothing: a comment, blanks, or a definition without an equals sign. -/
  | nothing
  | unknown (text : String)
  | variable (name value : String)
  | defineAlias (name body : String)
deriving Repr, DecidableEq

/-- The definition after a keyword: a name and a value with an equals sign between them. -/
def definition (make : String → String → Line) (rest : List Char) : Line :=
  match Text.cut '=' (Text.trim rest) with
  | none => .nothing
  | some (name, value) =>
    make (String.ofList (Text.trim name)) (String.ofList (stripQuotes value))

/-- Reads a line. -/
def Line.read (s : String) : Line :=
  let cs := Text.trim s.toList
  if cs.isEmpty || cs.head? = some '#' then .nothing
  else
    match Text.after? "export ".toList cs with
    | some rest => definition .variable rest
    | none =>
      match Text.after? "alias ".toList cs with
      | some rest => definition .defineAlias rest
      | none => .unknown (String.ofList cs)

/-- The state after a line, and whether the line counts as applied. -/
def applyLine (env : Environment) (s : ShellState) : Line → Except StateError (ShellState × Bool)
  | .nothing => .ok (s, false)
  | .unknown _ => .ok (s, false)
  | .variable name value =>
    (s.setVar (name, s.overlay.expand env value)).map fun s' => (s', true)
  | .defineAlias name body => .ok (s.setAlias name body, true)

/-- What there is to report about a line. -/
def Line.events : Line → List Event
  | unknown text => [.startupLineIgnored text]
  | _ => []

/-! ## The whole file -/

/-- What loading a start-up file leaves. -/
structure Loaded where
  state : ShellState
  /-- The number of lines that were applied. -/
  result : Except ConfigError Nat
  events : List Event

/-- Applies lines, the first of them with the number `number`, after `applied` others. -/
def applyLines (env : Environment) (number applied : Nat) (s : ShellState) :
    List String → Loaded
  | [] => ⟨s, .ok applied, []⟩
  | text :: rest =>
    let line := Line.read text
    match applyLine env s line with
    | .error e => ⟨s, .error (.invalidLine number e.message), line.events⟩
    | .ok (s', counts) =>
      let loaded := applyLines env (number + 1) (if counts then applied + 1 else applied) s' rest
      { loaded with events := line.events ++ loaded.events }

/-- Applies a start-up file.  A file that does not exist says nothing. -/
def load (env : Environment) (disk : Disk) (path : String) (s : ShellState) : Loaded :=
  if !disk.pathExists path then ⟨s, .ok 0, [.startupMissing path]⟩
  else
    match disk.readText path with
    | .error fault => ⟨s, .error (.io path fault), []⟩
    | .ok text =>
      let loaded := applyLines env 1 0 s (Text.lines text)
      match loaded.result with
      | .error _ => loaded
      | .ok count => { loaded with events := loaded.events ++ [.startupApplied count path] }

end PipeShell.Startup
