import PipeShell.Builtin.Words
import PipeShell.Disk.Access

/-!
# Commands about files

`pwd` and `cd` are about the shell's directory, `cat` prints files, `mkdir` and `touch` make
directories and files.  Each of the last three works through its arguments in order and stops at the
first that fails; what was done before stays done.
-/

namespace PipeShell.Builtin

/-- `pwd`: the shell's directory. -/
def pwdCommand (s : ShellState) : Report := .print (s.dir ++ "\n")

/-- `cd [DIR]`: asks to go to a directory, to the home directory by default. -/
def cdCommand (v : View) (args : List String) : Report :=
  if 1 < args.length then .fail (.invalidArguments "too many arguments")
  else
    let target := args.headD "~"
    match v.resolve target with
    | .error e => .fail e
    | .ok path =>
      match v.disk.realDirectory? path with
      | some dir => .ask (.changeDir dir)
      | none => .fail (.notFound target)

/-! ## Printing files -/

/-- The contents of one file named to `cat`. -/
def catFile (v : View) (arg : String) : Except CommandError ByteArray :=
  match v.resolve arg with
  | .error e => .error e
  | .ok path =>
    if v.disk.isDirectory path then .error (.failed (arg ++ ": Is a directory"))
    else
      match v.disk.readBytes path with
      | .ok bytes => .ok bytes
      | .error _ => .error (.notFound arg)

/-- `cat [FILE...]`: the contents of the files, or the piped text when no file is named. -/
def catCommand (v : View) (args : List String) : Report :=
  if args.isEmpty then .print v.input else .each (catFile v) args

/-! ## Making files and directories -/

/-- The disk after a step for each argument, up to the first that fails. -/
def overArgs (step : Disk → String → Disk × Option CommandError) :
    Disk → List String → Disk × Option CommandError
  | disk, [] => (disk, none)
  | disk, arg :: rest =>
    match step disk arg with
    | (disk', none) => overArgs step disk' rest
    | (disk', some e) => (disk', some e)

/-- The outcome of a command that only changes the disk. -/
def diskOutcome (v : View) (changed : Disk × Option CommandError) : Outcome where
  result := match changed.2 with
    | none => .ok none
    | some e => .error e
  output := .empty
  history := v.history
  disk := changed.1
  events := []

/-- One directory of `mkdir`. -/
def makeDir (v : View) (disk : Disk) (arg : String) : Disk × Option CommandError :=
  match v.resolve arg with
  | .error e => (disk, some e)
  | .ok path =>
    let made := disk.makeDirectories path
    (made.1, made.2.map fun fault =>
      .failed ("mkdir: cannot create '" ++ arg ++ "': " ++ fault.message))

/-- `mkdir [-p] DIR...`: makes directories with all their parents. -/
def mkdirCommand (v : View) (args : List String) : Outcome :=
  let dirs := args.filter (· ≠ "-p")
  if dirs.isEmpty then v.refuse (.invalidArguments "mkdir: missing operand")
  else diskOutcome v (overArgs (makeDir v) v.disk dirs)

/-- One file of `touch`. -/
def touchFile (v : View) (disk : Disk) (arg : String) : Disk × Option CommandError :=
  match v.resolve arg with
  | .error e => (disk, some e)
  | .ok path =>
    match disk.append path .empty with
    | .ok disk' => (disk', none)
    | .error fault =>
      (disk, some (.failed ("touch: cannot touch '" ++ arg ++ "': " ++ fault.message)))

/-- `touch FILE...`: makes the files that do not exist. -/
def touchCommand (v : View) (args : List String) : Outcome :=
  if args.isEmpty then v.refuse (.invalidArguments "touch: missing file operand")
  else diskOutcome v (overArgs (touchFile v) v.disk args)

end PipeShell.Builtin
