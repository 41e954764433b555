import PipeShell.Duration
import PipeShell.Event
import PipeShell.ShellError

/-!
# Options of the command line

Seven flags, each with a short and a long spelling.  Three of them take the next argument as their
value, whatever it looks like; when such a flag is repeated the last value counts.  Arguments are
read from left to right, and the first that is no flag, or that lacks its value, ends the reading:
the flags before it stay set.

Which flag an argument spells is looked up in a table.  No two flags share a spelling, so the order
of the table makes no difference.
-/

namespace PipeShell

/-- A flag of the command line. -/
inductive Flag where
  | help
  | version
  | quiet
  | debug
  | command
  | timeout
  | log
deriving Repr, DecidableEq

namespace Flag

/-- The name of the flag. -/
def name : Flag → String
  | help => "help"
  | version => "version"
  | quiet => "quiet"
  | debug => "debug"
  | command => "command"
  | timeout => "timeout"
  | log => "log"

/-- The short spelling. -/
def short : Flag → String
  | help => "-h"
  | version => "-v"
  | quiet => "-q"
  | debug => "-d"
  | command => "-c"
  | timeout => "-t"
  | log => "-l"

/-- The long spelling. -/
def long (f : Flag) : String := "--" ++ f.name

/-- What the flag does, for the help text. -/
def description : Flag → String
  | help => "Print this help message"
  | version => "Show version information"
  | quiet => "Suppress diagnostics"
  | debug => "Enable debug logging"
  | command => "Run one line and exit with its status"
  | timeout => "Kill external commands after SECS seconds"
  | log => "Also write the log to FILE"

/-- The flag is followed by a value. -/
def takesValue : Flag → Bool
  | command | timeout | log => true
  | _ => false

/-- All flags, in the order of their long spellings. -/
def all : List Flag := [command, debug, help, log, quiet, timeout, version]

/-- The flag of a table that an argument spells. -/
def ofArg? (table : List Flag) (arg : String) : Option Flag :=
  table.find? fun f => arg == f.short || arg == f.long

end Flag

/-- Why the options of a command line were refused. -/
inductive FlagError where
  | unknown (arg : String)
  | missingValue (arg : String)
  | invalidTimeout (value : String)
deriving Repr, DecidableEq

/-- The text shown to the user. -/
def FlagError.message : FlagError → String
  | unknown arg => "Unknown flag " ++ arg
  | missingValue arg => "Flag " ++ arg ++ " requires a value"
  | invalidTimeout value => "Invalid timeout '" ++ value ++ "'"

/-- The flags that are set, with their values.  A flag without a value of its own has the value
`true` when it is set. -/
structure Options where
  value? : Flag → Option String

/-- Why `--timeout` gives no duration. -/
inductive TimeoutError where
  | flag (error : FlagError)
  /-- The number of seconds is too large for a duration. -/
  | tooLong
deriving Repr, DecidableEq

/-- Which records are shown. -/
inductive Verbosity where
  | off
  | warnings
  | everything
deriving Repr, DecidableEq

/-- The name of the least important level that is shown. -/
def Verbosity.label : Verbosity → String
  | off => "OFF"
  | warnings => "WARN"
  | everything => "DEBUG"

/-- Records of this level are shown. -/
def Verbosity.shows : Verbosity → Level → Bool
  | off, _ => false
  | warnings, level => level == .warn
  | everything, _ => true

namespace Options

/-- No flag is set. -/
def none : Options := ⟨fun _ => .none⟩

/-- The options with a flag set. -/
def set (o : Options) (f : Flag) (value : String) : Options :=
  ⟨fun g => if g = f then some value else o.value? g⟩

/-- The flag is set. -/
def isSet (o : Options) (f : Flag) : Bool := (o.value? f).isSome

/-- The options after all arguments, or after those before the first that is wrong. -/
def addArgs (table : List Flag) (o : Options) : List String → Options × Option FlagError
  | [] => (o, .none)
  | arg :: rest =>
    match Flag.ofArg? table arg with
    | .none => (o, some (.unknown arg))
    | some f =>
      if f.takesValue then
        match rest with
        | [] => (o, some (.missingValue arg))
        | value :: rest => addArgs table (o.set f value) rest
      else addArgs table (o.set f "true") rest

/-- The options that arguments write. -/
def ofArgs (args : List String) : Options × Option FlagError :=
  addArgs Flag.all none args

/-- A number of seconds, which must be finite and greater than zero, as a duration. -/
def durationOf (raw : String) : Except TimeoutError Duration :=
  match Decimal.Numeral.ofText? raw with
  | some (.finite false digits exponent) =>
    match Decimal.nearestDecimal? digits exponent with
    | some seconds =>
      if seconds.significand = 0 then .error (.flag (.invalidTimeout raw))
      else
        match Duration.ofSeconds? seconds with
        | some d => .ok d
        | .none => .error .tooLong
    | .none => .error (.flag (.invalidTimeout raw))
  | _ => .error (.flag (.invalidTimeout raw))

/-- The time limit for programs. -/
def timeout (o : Options) : Except TimeoutError (Option Duration) :=
  match o.value? .timeout with
  | .none => .ok .none
  | some raw => (durationOf raw).map some

/-- Which records are shown: none when quiet, all when debugging, warnings otherwise. -/
def verbosity (o : Options) : Verbosity :=
  if o.isSet .quiet then .off
  else if o.isSet .debug then .everything
  else .warnings

/-- The line of the help text about a flag. -/
def helpLine (f : Flag) : String :=
  "  " ++ f.short ++ ", " ++ Text.padRight 15 f.long ++ " " ++ f.description ++ "\n"

/-- The help text. -/
def usage : String :=
  "Usage: sluice [OPTIONS]\n\nOptions:\n" ++ String.join (Flag.all.map helpLine)

end Options

end PipeShell
