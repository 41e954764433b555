import PipeShell.Toolbox.Script.Interpreter

/-!
# The toolbox

What programs do is no part of the shell: it is the parameter `Programs`, and all that is proved of
the shell holds whatever its value is.  To run at all, the shell needs one value.  Here it is
`Toolbox.programs`, with the disk that has the files of these programs on it (`Toolbox.equip`): a
stand-in for `/bin/sh` and for the common tools of a system, so that the shell can run on a disk in
memory and needs nothing else.

All of `PipeShell.Toolbox` is such a stand-in.  The definitions of the shell make no use of it, and
neither does any theorem; only `PipeShell.Main` brings the two together.

The system looks after a program with a time limit every ten milliseconds, so a program is overdue
if it still runs at the first look that the limit has passed.  What an overdue program wrote to
files before that stays written.
-/

namespace PipeShell.Toolbox

open Script

/-! ## The disk -/

/-- The names of all tools. -/
def toolNames : List String := interpreterName :: table.map Prod.fst

/-- The directory of the tools. -/
def toolDirectory : Location := ["usr", "bin"]

/-- The names of the devices. -/
def devices : List (String × Device) :=
  [("null", .sink), ("zero", .zeros), ("full", .full), ("stdin", .channel 0),
   ("stdout", .channel 1), ("stderr", .channel 2)]

/-- The disk with the tools and devices on it. -/
def equip (d : Disk) : Disk :=
  let dirs := [["usr"], toolDirectory, ["dev"], ["tmp"]].foldl (·.put · .directory) d
  let tools := toolNames.foldl
    (fun d name => d.put (toolDirectory ++ [name]) (.program name)) dirs
  devices.foldl (fun d p => d.put ["dev", p.1] (.device p.2)) (tools.put ["bin"] (.link "usr/bin"))

/-! ## The programs -/

/-- The time between two looks, in nanoseconds. -/
def lookInterval : Nat := 10000000

/-- The longest limit, in nanoseconds, that has passed at the very first look. -/
def firstLook : Nat := 1000

/-- The time of the first look at which a limit has passed. -/
def stopTime (limit : Duration) : Nat :=
  if limit.nanos ≤ firstLook then 0
  else (limit.nanos + lookInterval - 1) / lookInterval * lookInterval

/-- The zero character cannot be handed to a program. -/
def holdsZero (s : String) : Bool := s.toList.contains '\x00'

/-- Some text that is handed over holds the zero character. -/
def callHoldsZero (call : ProgramCall) : Bool :=
  holdsZero call.program || holdsZero call.name || call.args.any holdsZero || holdsZero call.dir
    || call.env.vars.toList.any fun p => holdsZero p.1 || holdsZero p.2

/-- The number of the process of a program. -/
def callProcess : Nat := 1000

/-- The machine that a program starts on: its output, its errors and its input are the buffers zero,
one and two. -/
def callMachine (call : ProgramCall) (disk : Disk) (plan : Plan) : Machine where
  world :=
    { disk
      buffers := #[.ofBytes .empty, .ofBytes .empty, .ofBytes call.input]
      files := #[]
      nanos := 0
      deadline := call.limit.map stopTime
      signals := []
      processes := callProcess
      plan
      children := []
      stopped := [] }
  process := callProcess
  origin := callProcess
  ancestors := [callProcess - 1]
  name := Text.spread call.name
  args := []
  dir := call.dir
  channels := [(0, .buffer 2), (1, .buffer 0), (2, .buffer 1)]
  vars := ∅
  functions := ∅
  aliases := []
  tracked := []
  options := []
  traps := []
  jobs := []
  background := none
  scopes := []
  status := 0
  inner := 0
  before := none
  line := 0
  caller := none
  loops := 0
  calls := 0
  optionIndex := 1
  optionPlace := 0
  mask := 18

/-- The search path of a system that is told none. -/
def systemSearchPath : String := "/bin:/usr/bin"

/-- Starts the program in a file.  A file that is no program is given to the interpreter if the call
allows it. -/
def startFile (call : ProgramCall) (file : String) : Run (Except Fault Exit) := do
  let args := call.args.map Text.spread
  match ← execute interpreter file (Text.spread call.name) args call.env with
  | .error .notAProgram =>
    if call.readsScripts then
      execute interpreter fallbackInterpreter fallbackInterpreter (file :: args) call.env
    else return .error .notAProgram
  | started => return started

/-- Starts the first of some files that is a program.  Files that are not there are passed over, and
so are those that may not be run, but that is told if there is no other. -/
def startFirst (call : ProgramCall) : Fault → List String → Run (Except Fault Exit)
  | fault, [] => return .error fault
  | fault, file :: rest => do
    match ← startFile call file with
    | .error .notPermitted => startFirst call .notPermitted rest
    | .error other =>
      if other = .notFound || other = .notADirectory then
        startFirst call (if fault = .notPermitted then fault else other) rest
      else return .error other
    | started => return started

/-- Starts a program, which is looked for in the search path if its name has no slash. -/
def start (call : ProgramCall) : Run (Except Fault Exit) :=
  let program := Text.spread call.program
  if program.toList.contains '/' then startFile call program
  else if program.isEmpty then return .error .notFound
  else if Disk.longestName < program.length then return .error .nameTooLong
  else
    startFirst call .notFound
      (candidates (Text.spread ((call.env.value? "PATH").getD systemSearchPath)) program)

/-- A better plan than the one that a run was made by.  Processes that the run stopped are stopped
when that was.  If the program ended in time, the limit stops nobody; all is seen when the program
has ended and nobody writes to its output any more. -/
def nextPlan? (limit : Option Nat) (w : World) : Option Plan :=
  let silent := w.silenceTime
  if w.stopped ≠ w.plan.stops then some { w.plan with stops := w.stopped }
  else if w.isOverdue then none
  else if w.plan.horizon.isSome && w.plan.horizon = limit && w.children.any (·.ends = forever) then
    some { w.plan with horizon := none }
  else if silent < forever && w.plan.horizon ≠ some silent && w.children.any (silent < ·.ends) then
    some { w.plan with horizon := some silent }
  else none

/-- The most runs that are made to find a plan. -/
def planLimit : Nat := 8

/-- Runs a program by a plan, or by a better one. -/
def runPlanned (call : ProgramCall) (disk : Disk) : (runs : Nat) → Plan →
    Except Stop (Except Fault Exit) × Machine
  | runs, plan =>
    let (result, m) := Run.on (callMachine call disk plan) (start call)
    match runs, nextPlan? (call.limit.map stopTime) m.world with
    | runs + 1, some plan => runPlanned call disk runs plan
    | _, _ => (result, m)

/-- What programs do. -/
def programs : Programs := fun call disk =>
  if callHoldsZero call then (.notStarted .zeroInData, disk)
  else if !disk.isDirectory call.dir then (.notStarted .notFound, disk)
  else
    let (result, m) := runPlanned call disk planLimit ⟨call.limit.map stopTime, []⟩
    let finished (exit : Exit) : Ending :=
      if m.world.isOverdue then .overdue
      else .finished exit (m.world.bufferBytes 0) (m.world.bufferBytes 1)
    match result with
    | .ok (.error fault) => (.notStarted fault, disk)
    | .ok (.ok exit) => (finished exit, m.world.disk)
    | .error (.killed signal) => (finished (.signal signal), m.world.disk)
    | .error _ => (finished (.code m.status), m.world.disk)

end PipeShell.Toolbox
