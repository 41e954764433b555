import PipeShell.Environment
import PipeShell.Variable.Name
import PipeShell.Variable.SearchPath

/-!
# The shell's own variables

An overlay on the inherited environment.  For each name that was ever set or removed it holds the
last such change: a value, or the fact that the variable is gone.  A name that it does not hold has
its inherited value, if any.
-/

namespace PipeShell

/-- The changes made to the inherited variables: `some` value, or `none` for a removal. -/
structure Overlay where
  changes : NameMap (Option String)
deriving DecidableEq

namespace Overlay

/-- No changes. -/
def empty : Overlay := ⟨∅⟩

/-- The value that is stored when `value` is given to the variable `name`. -/
def storedValue (name value : String) : Except StateError String :=
  if name = "PATH" then
    if value.isEmpty then .error (.invalidValue .emptySearchPath)
    else .ok (SearchPath.clean value)
  else .ok value

/-- Gives a value to a variable. -/
def set (o : Overlay) (name value : String) : Except StateError Overlay :=
  if name.isEmpty then .error (.invalidValue .emptyName)
  else if !isValidName name then .error (.invalidValue .invalidName)
  else (storedValue name value).map fun v => ⟨o.changes.insert name (some v)⟩

/-- Removes a variable, an inherited one too. -/
def unset (o : Overlay) (name : String) : Except StateError Overlay :=
  if isValidName name then .ok ⟨o.changes.insert name none⟩
  else .error (.invalidValue .invalidName)

/-- The value of a variable on top of the inherited environment. -/
def value? (o : Overlay) (env : Environment) (name : String) : Option String :=
  match o.changes.get? name with
  | some change => change
  | none => env.value? name

/-- Removes a variable and says whether it had a value. -/
def take (o : Overlay) (env : Environment) (name : String) : Except StateError (Bool × Overlay) :=
  (o.unset name).map fun o' => ((o.value? env name).isSome, o')

/-- The variables that were set, with their values. -/
def assigned (o : Overlay) : List (String × String) :=
  o.changes.toList.filterMap fun p => p.2.map (p.1, ·)

/-- The variables that were removed. -/
def removed (o : Overlay) : List String :=
  (o.changes.toList.filter (·.2.isNone)).map Prod.fst

/-- The environment of a program started by the shell: the inherited variables with the changes
made to them. -/
def childEnvironment (o : Overlay) (env : Environment) : Environment :=
  let withSet := o.assigned.foldl (fun m p => m.insert p.1 p.2) env.vars
  ⟨o.removed.foldl (fun m name => m.erase name) withSet⟩

/-! ## Expansion of `$HOME` and `$PATH` -/

/-- The text with every occurrence of `pattern` replaced.  A replacement is not searched again;
`skip` counts the characters of the current occurrence that are still to be passed over. -/
def replaceAll (pattern replacement : List Char) : (skip : Nat) → List Char → List Char
  | _, [] => []
  | skip + 1, _ :: cs => replaceAll pattern replacement skip cs
  | 0, c :: cs =>
    if pattern.isPrefixOf (c :: cs) then
      replacement ++ replaceAll pattern replacement (pattern.length - 1) cs
    else c :: replaceAll pattern replacement 0 cs

/-- Every `$name` in the text replaced by the value of the variable, by nothing when it has none. -/
def expandName (o : Overlay) (env : Environment) (text : List Char) (name : String) : List Char :=
  replaceAll ('$' :: name.toList) ((o.value? env name).getD "").toList 0 text

/-- The text of a start-up file's value: `$HOME` is replaced first and `$PATH` in the result. -/
def expand (o : Overlay) (env : Environment) (text : String) : String :=
  String.ofList (["HOME", "PATH"].foldl (expandName o env) text.toList)

end Overlay

end PipeShell
