import PipeShell.Builtin.Files
import PipeShell.Builtin.Listing
import PipeShell.Builtin.Names
import PipeShell.Builtin.Record

/-!
# The built-in commands

The fourteen commands that the shell carries out itself, and `Builtin.run`, which carries one out.

Their names stand in two places.  A stage looks for its command in the registry
(`Builtin.registry`), and `type` goes by a list of names (`Builtin.names`).  The two have the same
names (`Builtin.keys_registry`), so that a name is on the list exactly if a command is registered
under it (`Builtin.contains_names`).
-/

namespace PipeShell

/-- A command that the shell carries out itself. -/
inductive Builtin where
  | aliases
  | cat
  | cd
  | echo
  | exit
  | exports
  | help
  | history
  | ls
  | mkdir
  | pwd
  | touch
  | type
  | unset
deriving Repr, DecidableEq

namespace Builtin

/-- The names of the built-in commands, in order.  This is the list that `type` goes by. -/
def names : List String :=
  ["alias", "cat", "cd", "echo", "exit", "export", "help", "history", "ls", "mkdir", "pwd",
   "touch", "type", "unset"]

/-- The registry, in which a stage looks for its command: each command under its name. -/
def registry : NameMap Builtin :=
  .ofList
    [("alias", aliases), ("cat", cat), ("cd", cd), ("echo", echo), ("exit", exit),
     ("export", exports), ("help", help), ("history", history), ("ls", ls), ("mkdir", mkdir),
     ("pwd", pwd), ("touch", touch), ("type", type), ("unset", unset)]

/-- The built-in command that is registered under a name. -/
def ofName? (name : String) : Option Builtin := registry.get? name

/-- A built-in command is registered under the name. -/
def isBuiltin (name : String) : Bool := (ofName? name).isSome

/-- The registry has the names of the list, and no others. -/
theorem keys_registry : registry.keys = names := by decide

/-- A name is on the list exactly if a command is registered under it. -/
theorem contains_names (name : String) : names.contains name = (ofName? name).isSome := by
  rw [← keys_registry]
  exact registry.contains_keys name

/-- Carries out a command. -/
def run (b : Builtin) (v : View) (args : List String) : Outcome :=
  match b with
  | aliases => v.keep (aliasCommand v.state args)
  | cat => v.keep (catCommand v args)
  | cd => v.keep (cdCommand v args)
  | echo => v.keep (echoCommand args)
  | exit => v.keep (exitCommand args)
  | exports => v.keep (exportCommand v.state args)
  | help => v.keep (helpCommand args)
  | history => historyCommand v args
  | ls => v.keep (lsCommand v args)
  | mkdir => mkdirCommand v args
  | pwd => v.keep (pwdCommand v.state)
  | touch => touchCommand v args
  | type => v.keep (typeCommand names v args)
  | unset => v.keep (unsetCommand args)

end Builtin

end PipeShell
