import PipeShell.Environment
import PipeShell.Toolbox.Script.Command
import PipeShell.Toolbox.Script.Field
import PipeShell.Toolbox.Script.World

/-!
# The machine that runs scripts

A `Machine` is all that a running script can change: the `World` that it shares with others, and
what it has to itself, such as its variables, its directory and where its channels lead.  `Run` is a
computation on a machine that can stop early, in one of the ways that `Stop` lists; what it did
until then stays done.

A script that runs inside another starts from the same machine and leaves nothing but the world
(`Machine.rejoin`).
-/

namespace PipeShell.Script

open Toolbox (Input)

/-- A variable of a script. -/
structure Variable where
  /-- A variable can be marked and yet have no value. -/
  value : Option String
  exported : Bool
  constant : Bool
deriving Repr, DecidableEq

/-- A process that runs in the background. -/
structure Job where
  process : Nat
  number : Nat
  exit : Exit
  /-- The time at which it ends. -/
  ends : Nat
  /-- The script knows that it has ended. -/
  reaped : Bool
  /-- The signals that it does not heed. -/
  deaf : List Nat

/-- A running script. -/
structure Machine where
  world : World
  /-- The number of the process. -/
  process : Nat
  /-- The number of the process that the script began in. -/
  origin : Nat
  /-- The numbers of the processes that it runs in, the nearest first. -/
  ancestors : List Nat
  /-- The name of the script, which its messages begin with. -/
  name : String
  args : List String
  dir : String
  channels : List (Nat × Channel)
  vars : NameMap Variable
  functions : NameMap Command
  /-- The aliases, in the order in which they were made. -/
  aliases : List (String × String)
  /-- The programs that were found for names. -/
  tracked : List (String × String)
  options : List Char
  /-- What is done on signals; nothing is done on an ignored one. -/
  traps : List (Nat × String)
  jobs : List Job
  /-- The number of the latest background process. -/
  background : Option Nat
  /-- What local variables were before, the innermost function first. -/
  scopes : List (List (String × Option Variable))
  status : Nat
  /-- The status of the latest script inside the command. -/
  inner : Nat
  /-- The status before a trap, while what is arranged for it is done. -/
  before : Option Nat
  /-- The line of the script that is being run. -/
  line : Nat
  /-- What messages name after the line. -/
  caller : Option String
  /-- How many loops and functions the command is in. -/
  loops : Nat
  calls : Nat
  /-- The argument at which `getopts` goes on, and the place in the one before it. -/
  optionIndex : Nat
  optionPlace : Nat
  mask : Nat

/-- Why a script does not go on after a command. -/
inductive Stop where
  /-- This many loops are left. -/
  | leaveLoops (n : Nat)
  /-- This many loops are left but the last, which goes on with its next round. -/
  | nextRound (n : Nat)
  | leaveFunction
  /-- The script ends. -/
  | leave
  /-- Something went wrong for which the script ends. -/
  | failed
  /-- A signal ends the process. -/
  | killed (signal : Nat)
  /-- Another program took the place of the script, and ended with this status. -/
  | replaced (status : Nat)
  /-- The process waits for others to read or to write this buffer. -/
  | blocked (buffer : Nat)
deriving Repr, DecidableEq

/-- A computation on a machine. -/
abbrev Run := ExceptT Stop (StateM Machine)

/-- The outer machine after an inner one has run in its world. -/
def Machine.rejoin (outer inner : Machine) : Machine := { outer with world := inner.world }

/-- The value of a variable. -/
def Machine.value? (m : Machine) (name : String) : Option String :=
  (m.vars.get? name).bind (·.value)

/-- The variables that programs see. -/
def Machine.environment (m : Machine) : Environment :=
  ⟨m.vars.toList.foldl (fun e p =>
    match p.2.exported, p.2.value with
    | true, some value => e.insert (Text.gather p.1) (Text.gather value)
    | _, _ => e) ∅⟩

/-- The characters that values are cut at. -/
def Machine.separators (m : Machine) : List Char :=
  ((m.value? "IFS").getD " \t\n").toList

/-- Where a channel leads. -/
def Machine.channel? (m : Machine) (n : Nat) : Option Channel := m.channels.lookup n

/-- A path as the system sees it. -/
def Machine.path (m : Machine) (p : String) : String :=
  if p.isEmpty then "" else Path.join m.dir (Text.gather p)

namespace Run

/-! ## Control -/

/-- The machine after a computation is changed, however that ends; the change sees the machine
before it as well. -/
def afterwards {α : Type} (run : Run α) (change : (before after : Machine) → Machine) : Run α :=
  fun m =>
    let (result, after) := Id.run (run m)
    pure (result, change m after)

/-- The machine after a computation on it, and how that ended. -/
def on {α : Type} (m : Machine) (run : Run α) : Except Stop α × Machine := Id.run (run m)

/-- The script has this option. -/
def option (letter : Char) : Run Bool := return (← get).options.contains letter

/-- Sets the status. -/
def setStatus (status : Nat) : Run Unit := modify fun m => { m with status }

/-- Time passes. -/
def wait (nanos : Nat) : Run Unit :=
  modify fun m => { m with world := { m.world with nanos := m.world.nanos + nanos } }

/-- All goes on at a later time, unless that has passed. -/
def waitUntil (time : Nat) : Run Unit :=
  modify fun m => { m with world := { m.world with nanos := max time m.world.nanos } }

/-- Nothing more happens if the time is over. -/
def checkTime : Run Unit := do
  if (← get).world.isOverdue then throw (.killed 9)

/-! ## Messages -/

/-- Writes to a channel, unless it is closed; the fault, if there is one. -/
def write (n : Nat) (data : ByteArray) : Run (Option Fault) := do
  let m ← get
  match m.channel? n with
  | none => return if data.isEmpty then none else some .badChannel
  | some c =>
    match m.world.write m.process c data with
    | .ok world => set { m with world }; return none
    | .error .brokenPipe =>
      if !m.world.leadsTo (·.broken) c then throw (.blocked c.number)
      else if m.traps.lookup 13 == some "" then return some .brokenPipe
      else throw (.killed 13)
    | .error fault => return some fault

/-- Writes to the standard error. -/
def report (text : String) : Run Unit := do
  let _ ← write 2 (Text.octets text)

/-- A message of the script. -/
def complain (text : String) : Run Unit := do
  let m ← get
  let place := m.name ++ ": " ++ toString m.line ++ ": "
  report (place ++ m.caller.elim "" (· ++ ": ") ++ text ++ "\n")

/-- A message, and the script ends. -/
def fail {α : Type} (text : String) : Run α := do
  complain text
  setStatus 2
  throw .failed

/-- A message, and the status that goes with it. -/
def refuse (status : Nat) (text : String) : Run Unit := do
  complain text
  setStatus status

/-- Writes to the standard output. -/
def say (text : String) : Run Unit := do
  match ← write 1 (Text.octets text) with
  | none => setStatus 0
  | some _ => refuse 1 ((← get).caller.getD "" ++ ": I/O error")

/-! ## Variables -/

/-- Changes a variable, unless it is constant. -/
def changeVar (name : String) (change : Variable → Variable) : Run Unit := do
  let m ← get
  let old := (m.vars.get? name).getD ⟨none, false, false⟩
  let new := change old
  if old.constant && new.value ≠ old.value then fail (name ++ ": is read only")
  let m := { m with vars := m.vars.insert name new }
  match name with
  | "OPTIND" =>
    let index := ((new.value.getD "").toNat?.getD 0)
    set { m with optionIndex := max 1 index, optionPlace := 0 }
  | "PATH" => set { m with tracked := [] }
  | _ => set m

/-- Sets a variable. -/
def setVar (name value : String) : Run Unit := do
  if !isValidName name then fail (name ++ ": bad variable name")
  let all ← option 'a'
  changeVar name fun v =>
    { v with value := some value, exported := v.exported || all }

/-- Notes what a variable is, so that it can be that again. -/
def keepVar (name : String) : Run Unit := modify fun m =>
  match m.scopes with
  | [] => m
  | scope :: outer =>
    if scope.any (·.1 == name) then m
    else { m with scopes := ((name, m.vars.get? name) :: scope) :: outer }

/-- Notes which options there are, so that they can be the same again.  They are kept under a name
that no variable can have. -/
def keepOptions : Run Unit := modify fun m =>
  match m.scopes with
  | [] => m
  | scope :: outer =>
    let options : Variable := ⟨some (String.ofList m.options), false, false⟩
    if scope.any (·.1 == "-") then m
    else { m with scopes := (("-", some options) :: scope) :: outer }

/-- The machine with a variable as it was. -/
def restore (m : Machine) (kept : String × Option Variable) : Machine :=
  match kept with
  | ("-", some v) => { m with options := (v.value.getD "").toList }
  | (name, some v) => { m with vars := m.vars.insert name v }
  | (name, none) => { m with vars := m.vars.erase name }

/-- The machine with its variables as they were when the innermost scope began. -/
def endScope (m : Machine) : Machine :=
  match m.scopes with
  | [] => m
  | scope :: outer => scope.foldl restore { m with scopes := outer }

/-- A computation whose local variables are no more afterwards. -/
def withScope {α : Type} (run : Run α) : Run α := do
  modify fun m => { m with scopes := [] :: m.scopes }
  afterwards run fun _ after => endScope after

/-! ## Channels -/

/-- A computation after which the channels lead where they led before. -/
def keepingChannels {α : Type} (run : Run α) : Run α :=
  afterwards run fun before after => { after with channels := before.channels }

/-- The channel leads there. -/
def setChannel (n : Nat) (c : Channel) : Run Unit :=
  modify fun m => { m with channels := (n, c) :: m.channels.filter (·.1 ≠ n) }

/-- The channel is closed. -/
def closeChannel (n : Nat) : Run Unit :=
  modify fun m => { m with channels := m.channels.filter (·.1 ≠ n) }

/-- A new buffer with data in it. -/
def newBuffer (b : Buffer) : Run Nat := do
  let m ← get
  let (world, n) := m.world.addBuffer b
  set { m with world }
  return n

/-! ## Processes -/

/-- A number for a new process. -/
def newProcess : Run Nat := do
  let m ← get
  let n := m.world.processes + 1
  set { m with world := { m.world with processes := n } }
  return n

end Run

end PipeShell.Script
