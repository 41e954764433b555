import PipeShell.Disk.Access
import PipeShell.Program
import PipeShell.Toolbox.Octets
import PipeShell.Toolbox.Quoting

/-!
# Jobs of small tools

A shell needs programs to talk to.  The toolbox holds small ones, which stand in for the tools of a
system and are no part of the shell.  A tool is started with a `Job` and works on it as a `Task`,
which reads what it needs and writes what comes out; it can stop early.  Time is part of the work
and is not really spent: a tool that sleeps says how long, and one that never ends says `forever`.

Output is collected and leaves the tool a block at a time, while messages leave it at once.  What
leaves a tool is kept in the order of writing, since both streams may lead to the same place.

All names and arguments are texts of bytes (`PipeShell.Text.ofOctets`).
-/

namespace PipeShell.Toolbox

/-- What can be read. -/
inductive Input where
  | bytes (data : ByteArray)
  /-- Zeros without end. -/
  | zeros
  /-- Reading does not succeed. -/
  | fault (f : Fault)

/-- Nothing to read. -/
def Input.none : Input := .bytes .empty

/-- What a tool is started with. -/
structure Job where
  /-- The name by which the tool was called, which its messages begin with. -/
  name : String
  args : List String
  dir : String
  input : Input
  /-- The file that the input comes from, if it comes from one, and its size. -/
  source : Option (Location × Nat)
  /-- The file that the output goes to, if it goes to one. -/
  outlet : Option Location
  disk : Disk

/-- A stream that a tool writes to. -/
inductive Stream where
  | output
  | errors
deriving Repr, DecidableEq

/-- How far a tool has come. -/
structure Progress where
  /-- What is left of the input. -/
  left : Input
  /-- How much of the input had to be there; more can have been taken. -/
  used : Nat
  /-- The tool has come to the end of its input. -/
  drained : Bool
  disk : Disk
  /-- What was written, the latest first. -/
  written : List (Stream × ByteArray)
  /-- The output that is to be written. -/
  pending : ByteArray
  /-- After all that zeros are written without end. -/
  endless : Bool
  status : Nat
  /-- The time that has passed, in nanoseconds, since the tool was started. -/
  nanos : Nat

/-- What a tool does. -/
abbrev Task := ReaderT Job (ExceptT Unit (StateM Progress))

/-- A time that no limit reaches. -/
def forever : Nat := Nat.pow 2 100

/-- The text of a fault in the messages of tools. -/
def faultText : Fault → String
  | .system code => Fault.systemText code
  | fault => fault.message

namespace Task

/-- How far a tool comes with its job. -/
def run (task : Task Unit) (job : Job) : Progress :=
  let start : Progress := ⟨job.input, 0, false, job.disk, [], .empty, false, 0, 0⟩
  let ended := (Id.run ((task job).run start)).2
  if ended.pending.isEmpty then ended
  else { ended with written := (.output, ended.pending) :: ended.written, pending := .empty }

/-! ## Ending -/

/-- The tool ends here. -/
def stop {α : Type} : Task α := throw ()

/-- The tool ends with this status. -/
def leave {α : Type} (status : Nat) : Task α := do
  modify fun p => { p with status }
  stop

/-- The tool never ends. -/
def hang {α : Type} : Task α := do
  modify fun p => { p with nanos := forever }
  stop

/-- The tool writes zeros and never ends. -/
def pour {α : Type} : Task α := do
  modify fun p => { p with endless := true }
  stop

/-! ## Writing -/

/-- The size of the blocks that output leaves in. -/
def blockSize : Nat := 4096

/-- All output that is collected leaves. -/
def flush : Task Unit := modify fun p =>
  if p.pending.isEmpty then p
  else { p with written := (.output, p.pending) :: p.written, pending := .empty }

/-- Writes to the output. -/
def put (data : ByteArray) : Task Unit := modify fun p =>
  let all := p.pending ++ data
  let whole := all.size / blockSize * blockSize
  if whole = 0 then { p with pending := all }
  else { p with
    written := (.output, all.extract 0 whole) :: p.written
    pending := all.extract whole all.size }

/-- Writes a text to the output. -/
def say (text : String) : Task Unit := put (Text.octets text)

/-- Writes to the errors. -/
def report (text : String) : Task Unit := modify fun p =>
  { p with written := (.errors, Text.octets text) :: p.written }

/-- A message of the tool, after all output so far. -/
def complain (text : String) : Task Unit := do
  flush
  report ((← read).name ++ ": " ++ text ++ "\n")

/-- A message, after which the tool goes on; in the end it has this status. -/
def warn (status : Nat) (text : String) : Task Unit := do
  complain text
  modify fun p => { p with status }

/-- A message, and the tool ends with this status. -/
def fail {α : Type} (status : Nat) (text : String) : Task α := do
  complain text
  leave status

/-- The tool was called wrongly. -/
def misuse {α : Type} (status : Nat) (text : String) : Task α := do
  complain text
  report ("Try '" ++ (← read).name ++ " --help' for more information.\n")
  leave status

/-! ## Reading -/

/-- A path as the tool sees it. -/
def path (operand : String) : Task String := do
  let job ← read
  return if operand.isEmpty then "" else Path.join job.dir (Text.gather operand)

/-- All that is left of the input. -/
def drain : Task Input := do
  let p ← get
  match p.left with
  | .bytes _ => set { p with left := .none, drained := true }
  | _ => pure ()
  return p.left

/-- What a file holds. -/
def readFile (operand : String) : Task Input := do
  let path ← path operand
  let disk := (← get).disk
  match disk.lookUp path with
  | .ok (_, .device .zeros) => return .zeros
  | .ok (_, .device .full) => return .zeros
  | .ok (_, .device (.channel 0)) => drain
  | .error fault => return .fault fault
  | .ok _ =>
    match disk.readBytes path with
    | .ok data => return .bytes data
    | .error fault => return .fault fault

/-- What an operand holds; `-` is what is left of the input. -/
def contents (operand : String) : Task Input :=
  if operand = "-" then drain else readFile operand

end Task

end PipeShell.Toolbox
