import PipeShell.NameMap
import PipeShell.Path
import PipeShell.StateError

/-!
# The inherited environment

The variables that the shell itself was started with.  They never change while it runs: what the
shell sets or removes lives in an overlay on top (`PipeShell.Overlay`).  The home directory comes
from here and not from the overlay, so changing `HOME` inside the shell does not move `~`.
-/

namespace PipeShell

/-- The variables that a program is started with. -/
structure Environment where
  vars : NameMap String
deriving DecidableEq

namespace Environment

/-- What follows `name` and an equals sign in the text of a variable, which is its own name, an
equals sign and its value.  A name with an equals sign in it thus reaches into a value. -/
def valueInside? (e : Environment) (name : String) : Option String :=
  (Text.cutText '=' name).bind fun p =>
    (e.vars.get? p.1).bind fun value =>
      (Text.after? (p.2 ++ "=").toList value.toList).map String.ofList

/-- The value of a variable. -/
def value? (e : Environment) (name : String) : Option String :=
  match e.vars.get? name with
  | some value => some value
  | none => e.valueInside? name

/-- The variable is set, if only to the empty text. -/
def isSet (e : Environment) (name : String) : Bool :=
  (e.value? name).isSome

/-- The home directory. -/
def home? (e : Environment) : Option String :=
  (e.value? "HOME").filter (!·.isEmpty)

/-- The home directory, which an operation cannot do without. -/
def home (e : Environment) : Except StateError String :=
  match e.home? with
  | some path => .ok path
  | none => .error .homeNotFound

end Environment

namespace Path

/-- A path with a leading `~` replaced by the home directory.  After `~/` every part that is not
empty is added in turn, so the result never leaves the home directory by an absolute part; `~` in
front of anything else is an ordinary character. -/
def expandHome (env : Environment) (p : String) : Except StateError String :=
  match p.toList with
  | ['~'] => env.home
  | '~' :: '/' :: rest =>
    env.home.map fun home => (names (String.ofList rest)).foldl join home
  | _ => .ok p

/-- A path with `~` expanded, seen from the directory `base` when it is relative. -/
def resolve (env : Environment) (base p : String) : Except StateError String :=
  (expandHome env p).map (join base)

end Path

end PipeShell
