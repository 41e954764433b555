import PipeShell.Builtin.Words
import PipeShell.Program.Search
import PipeShell.Text.Blank

/-!
# Commands about names

`alias`, `export` and `unset` list definitions or ask for new ones; `type` tells what a name stands
for.  A definition is an argument with an equals sign: the name is what stands before the first one.
-/

namespace PipeShell.Builtin

/-! ## Aliases -/

/-- A text that an alias can be named: not empty and without blanks. -/
def isAliasName (name : String) : Bool :=
  !name.isEmpty && !name.toList.any Text.isBlank

/-- The definition of an alias that an argument writes. -/
def aliasDefinition? (arg : String) : Option (String × String) :=
  (Text.cutText '=' arg).filter fun p => isAliasName p.1

/-- An alias as it is shown. -/
def showAlias (p : String × String) : String :=
  p.1 ++ "='" ++ p.2 ++ "'"

/-- The output of the arguments of `alias`, the definitions among them, and whether one of them was
neither a definition nor the name of an alias. -/
def aliasArgs (s : ShellState) : List String → ByteArray × List (String × String) × Bool
  | [] => (.empty, [], false)
  | arg :: rest =>
    match aliasDefinition? arg with
    | some p =>
      let r := aliasArgs s rest
      (r.1, p :: r.2.1, r.2.2)
    | none =>
      match s.alias? arg with
      | some body =>
        let r := aliasArgs s rest
        (Text.encode (showAlias (arg, body) ++ "\n") ++ r.1, r.2)
      | none => (.empty, [], true)

/-- `alias [NAME=VALUE...]`: lists all aliases, shows those named, defines those given. -/
def aliasCommand (s : ShellState) (args : List String) : Report :=
  if args.isEmpty then .print (printLines (s.aliases.toList.map showAlias))
  else
    match aliasArgs s args with
    | (output, _, true) => ⟨output, .error (.invalidArguments "Usage: alias name='command'")⟩
    | (output, [], false) => ⟨output, .ok none⟩
    | (output, definitions, false) => ⟨output, .ok (some (.setAliases definitions))⟩

/-! ## Variables -/

/-- The assignment that an argument writes. -/
def assignment? (arg : String) : Option (String × String) :=
  (Text.cutText '=' arg).filter fun p => isValidName p.1

/-- `export [NAME=VALUE...]`: lists the shell's own variables, or sets those given. -/
def exportCommand (s : ShellState) (args : List String) : Report :=
  if args.isEmpty then
    .print (printLines (s.overlay.assigned.map fun p => "export " ++ p.1 ++ "=" ++ p.2))
  else
    match args.mapM assignment? with
    | some vars => .ask (.setVars vars)
    | none => .fail (.invalidArguments "Export syntax: export NAME=VALUE")

/-- `unset NAME...`: removes variables, inherited ones too. -/
def unsetCommand (args : List String) : Report :=
  if args.isEmpty then .fail (.invalidArguments "Usage: unset NAME...")
  else
    match args.find? (!isValidName ·) with
    | some bad => .fail (.invalidArguments ("unset: '" ++ bad ++ "': not a valid identifier"))
    | none => .ask (.unsetVars args)

/-! ## What a name stands for -/

/-- The line of `type` about one name.  An alias hides a built-in, and a built-in a program. -/
def typeLine (builtins : List String) (v : View) (name : String) : Except CommandError String :=
  match v.state.alias? name with
  | some body => .ok (name ++ " is aliased to '" ++ body ++ "'")
  | none =>
    if builtins.contains name then .ok (name ++ " is a shell builtin")
    else
      match Program.find v.env v.disk v.state name with
      | some path => .ok (name ++ " is " ++ path)
      | none => .error (.notFound name)

/-- `type NAME...`: what each name stands for, up to the first that stands for nothing. -/
def typeCommand (builtins : List String) (v : View) (args : List String) : Report :=
  if args.isEmpty then .fail (.invalidArguments "Usage: type NAME...")
  else
    .each (fun name => (typeLine builtins v name).map fun line => Text.encode (line ++ "\n")) args

end PipeShell.Builtin
