import PipeShell.Options
import PipeShell.Session

/-!
# The command line

`CommandLine.run` is the whole program as a function: from its arguments, its environment, its input
and the disk to a status, the text it wrote, and the disk afterwards.

The options are looked at in a fixed order: wrong arguments, the help text, the version, the log
file, the places of the shell's files, the time limit.  The first of these that ends the program
decides what it says.
-/

namespace PipeShell.CommandLine

/-- What the program is started with. -/
structure Call where
  args : List String
  env : Environment
  input : ByteArray
  /-- The time that stands in front of a log record. -/
  clock : String

/-- What the program leaves. -/
structure Finished where
  /-- The status, less than 256. -/
  status : Nat
  console : Console
  disk : Disk

/-- The version of the program. -/
def version : String := "0.1.0"

/-- The status that the system keeps of a status: its last eight bits. -/
def keptStatus (status : Int) : Nat := (status % 256).toNat

/-- The status of a program that broke down. -/
def breakdownStatus : Nat := 101

/-- The end after this status. -/
def leave (status : Int) (s : Session) : Finished :=
  ⟨keptStatus status, s.console, s.shell.disk⟩

/-- The end after a text that answers a question about the program itself. -/
def answer (disk : Disk) (text : String) : Finished :=
  ⟨0, Console.empty.print text, disk⟩

/-- The end after an error of the shell. -/
def fail (console : Console) (disk : Disk) (e : ShellError) : Finished :=
  ⟨1, console.complain ("sluice: " ++ e.message ++ "\n"), disk⟩

/-- The disk with the log file on it, and the log file. -/
def openLog (clock : String) (disk : Disk) :
    Option String → Except Fault (Disk × Option LogFile)
  | none => .ok (disk, none)
  | some path =>
    match disk.append path .empty with
    | .error fault => .error fault
    | .ok disk' => (disk'.lookUp path).map fun found =>
      (disk', some ⟨disk'.openAt found.1, clock⟩)

/-- Runs the shell with everything around it known. -/
def runShell (around : Surroundings) (options : Options) (places : Startup.Places)
    (logFile : Option LogFile) (input : ByteArray) (disk : Disk) : Finished :=
  match Shell.start around.host.env places logFile disk with
  | .error failed =>
    let console := Console.empty.showLog around.verbosity around.clock failed.events
    fail console failed.disk failed.error
  | .ok shell =>
    let session : Session := ⟨shell, .empty⟩
    match options.value? .command with
    | some line =>
      let ran := session.runCommand around line
      leave ran.1 ran.2
    | none =>
      match session.runScript around 0 (ScriptLine.ofBytes input) with
      | (.left status, s) => leave status s
      | (.failed e, s) => fail s.console s.shell.disk e
      | (.brokeDown, s) => ⟨breakdownStatus, s.console, s.shell.disk⟩

/-- Runs the program with arguments that are in order. -/
def runWith (programs : Programs) (options : Options) (call : Call) (disk : Disk) : Finished :=
  if options.isSet .help then answer disk Options.usage
  else if options.isSet .version then answer disk ("sluice " ++ version ++ "\n")
  else
    match openLog call.clock disk (options.value? .log) with
    | .error fault => fail .empty disk (.io fault)
    | .ok (disk', logFile) =>
      match Startup.places call.env, options.timeout with
      | .error e, _ => fail .empty disk' (.config e)
      | .ok _, .error (.flag e) => fail .empty disk' (.flag e.message)
      | .ok _, .error .tooLong => ⟨breakdownStatus, .empty, disk'⟩
      | .ok places, .ok limit =>
        let around : Surroundings :=
          { host := ⟨call.env, programs, limit⟩
            palette := .ofEnvironment call.env
            verbosity := options.verbosity
            clock := call.clock }
        runShell around options places logFile call.input disk'

/-- Runs the program. -/
def run (programs : Programs) (call : Call) (disk : Disk) : Finished :=
  match Options.ofArgs call.args with
  | (_, some e) => fail .empty disk (.flag e.message)
  | (options, none) => runWith programs options call disk

end PipeShell.CommandLine
