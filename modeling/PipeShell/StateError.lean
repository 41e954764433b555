/-!
# Errors in a change of the shell's state

A change can name a directory that is none, a variable that cannot exist, or a value that the
variable cannot take; and a path can need a home directory when there is none.
-/

namespace PipeShell

/-- Why a value cannot be given to a variable. -/
inductive BadValue where
  | emptyName
  | invalidName
  /-- The search path was to be made empty. -/
  | emptySearchPath
  /-- A reason given in words. -/
  | stated (reason : String)
deriving Repr, DecidableEq

/-- The reason in words. -/
def BadValue.message : BadValue → String
  | emptyName => "Empty variable name"
  | invalidName => "Invalid variable name"
  | emptySearchPath => "Empty PATH value"
  | stated reason => reason

/-- Why a change of state was refused. -/
inductive StateError where
  | homeNotFound
  | invalidPath (path : String)
  | invalidValue (reason : BadValue)
deriving Repr, DecidableEq

/-- The text shown to the user. -/
def StateError.message : StateError → String
  | homeNotFound => "Home directory not found"
  | invalidPath path => "Invalid path: " ++ path
  | invalidValue reason => "Invalid value: " ++ reason.message

end PipeShell
