import PipeShell.Startup

/-!
# Errors that end a shell

What keeps a shell from starting or from going on, as opposed to what goes wrong in a single line.
-/

namespace PipeShell

/-- Why reading a line from the user ended. -/
inductive ReadError where
  | endOfInput
  | interrupted
  | io (fault : Fault)
deriving Repr, DecidableEq

/-- The text shown to the user. -/
def ReadError.message : ReadError → String
  | endOfInput => "EOF"
  | interrupted => "Interrupted"
  | io fault => fault.message

/-- Why a shell could not start or go on. -/
inductive ShellError where
  | read (error : ReadError)
  | io (fault : Fault)
  | config (error : Startup.ConfigError)
  | flag (text : String)
  | logger (text : String)
  | interruptHandler (text : String)
deriving Repr, DecidableEq

/-- The text shown to the user. -/
def ShellError.message : ShellError → String
  | read error => "Readline error: " ++ error.message
  | io fault => "IO error: " ++ fault.message
  | config error => "Config error: " ++ error.message
  | flag text => "Flag error: " ++ text
  | logger text => "Logger error: " ++ text
  | interruptHandler text => "Ctrl-C error: " ++ text

end PipeShell
