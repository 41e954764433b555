import PipeShell.Toolbox.Script.Builtin
import PipeShell.Toolbox.Script.Signal

/-!
# Commands about processes

Sending signals, arranging for them, waiting for what runs in the background, and ending loops,
functions and scripts.
-/

namespace PipeShell.Script

/-! ## Sending signals -/

/-- How `kill` is called. -/
def killUsage : String :=
  "Usage: kill [-s sigspec | -signum | -sigspec] [pid | job]... or\n" ++ "kill -l [exitstatus]"

/-- The name of the signal of a number, or of a status that a signal led to. -/
def nameSignal (text : String) : Run Unit := do
  let n ← number text
  let signal := if 128 < n then n - 128 else n
  if 0 < signal && signal ≤ Signal.names.length then Run.say (Signal.nameOf signal ++ "\n")
  else Run.fail ("invalid signal number or exit status: " ++ text)

/-- The lines that list all signals. -/
def listSignals : String := String.join (("0" :: Signal.names).map (· ++ "\n"))

/-- The job that a text such as `%1` names. -/
def findJob (m : Machine) (text : String) : Option Job :=
  match text.toList with
  | ['%'] => m.jobs.getLast?
  | ['%', '%'] => m.jobs.getLast?
  | ['%', '+'] => m.jobs.getLast?
  | ['%', '-'] => m.jobs.dropLast.getLast?
  | '%' :: digits => (String.ofList digits).toNat?.bind fun n => m.jobs.find? (·.number == n)
  | _ => none

/-- The job that a text has to name. -/
def requireJob (text : String) : Run Job := do
  match findJob (← get) text with
  | some job => return job
  | none => Run.fail ("No such job: " ++ text)

/-- Ends a background process by a signal. -/
def endJob (job : Job) (signal : Nat) : Run Unit :=
  modify fun m =>
    { m with
      jobs := m.jobs.map fun j =>
        if j.process = job.process then { j with exit := .signal signal, ends := m.world.nanos }
        else j
      world := m.world.stopChild job.process }

/-- Sends a signal to a process; whether there is one. -/
def sendSignal (signal : Nat) (text : String) : Run Bool := do
  if text.startsWith "%" then
    let _ ← requireJob text
    return false
  if text.startsWith "-" then
    let _ ← number (String.ofList text.toList.tail)
    return false
  let process ← number text
  let m ← get
  if process = m.process || process = m.origin || m.ancestors.contains process then
    set { m with world := { m.world with signals := (process, signal) :: m.world.signals } }
    return true
  match m.jobs.find? fun j => j.process = process && !j.reaped with
  | some job =>
    let heeds := Signal.absolute.contains signal || !job.deaf.contains signal
    if m.world.nanos < job.ends && heeds && !Signal.harmless.contains signal then
      endJob job signal
    return true
  | none => return false

/-- Sends a signal to processes. -/
def sendAll (signal : Nat) (targets : List String) : Run Unit := do
  let failed ← targets.foldlM (fun failed text => do
    if ← sendSignal signal text then return failed
    Run.complain "No such process\n"
    return true) false
  Run.setStatus (if failed then 1 else 0)

/-- Sends signals to processes. -/
def kill : BuiltIn := fun args => do
  let go (signal : Option Nat) (targets : List String) : Run Unit :=
    if targets.isEmpty then Run.fail killUsage else sendAll (signal.getD 15) targets
  match args with
  | [] => Run.fail killUsage
  | arg :: rest =>
    match arg.toList with
    | '-' :: cs =>
      match Signal.read? (String.ofList cs) with
      | some signal => go (some signal) rest
      | none =>
        let (opts, operands) ← options ['l'] ['s'] args
        if opts.any (·.1 == 'l') then
          match operands with
          | [] => Run.say listSignals
          | text :: _ => nameSignal text
        else
          match opts.getLast? with
          | none => go none operands
          | some (_, name) =>
            match Signal.read? name with
            | some signal => go (some signal) operands
            | none => Run.fail ("invalid signal number or name: " ++ name)
    | _ => go none args

/-! ## Traps -/

/-- Arranges for a signal: something is done, nothing is done, or what is done by itself. -/
def setTrap (action : Option String) (signal : Nat) : Run Unit :=
  modify fun m =>
    let others := m.traps.filter (·.1 ≠ signal)
    { m with traps := match action with
      | some text => (signal, text) :: others
      | none => others }

/-- The lines that list what is arranged. -/
def listTraps (m : Machine) : String :=
  String.join ((m.traps.mergeSort fun p q => p.1 ≤ q.1).map fun p =>
    "trap -- " ++ inQuotes p.2 ++ " " ++ Signal.nameOf p.1 ++ "\n")

/-- Arranges for signals. -/
def trap : BuiltIn := fun args => do
  let (_, args) ← options [] [] args
  match args with
  | [] => Run.say (listTraps (← get))
  | first :: rest =>
    let (action, signals) : Option String × List String :=
      if rest.isEmpty then (none, args)
      else if first == "-" then (none, rest)
      else (some first, rest)
    let failed ← signals.foldlM (fun failed text => do
      match Signal.read? text with
      | some signal => setTrap action signal; return failed
      | none =>
        Run.report ("trap: " ++ text ++ ": bad trap\n")
        return true) false
    Run.setStatus (if failed then 1 else 0)

/-! ## Background processes -/

/-- The script learns of the processes that have ended by now. -/
def reapAll : Run Unit :=
  modify fun m => { m with
    jobs := m.jobs.map fun j => { j with reaped := j.reaped || j.ends ≤ m.world.nanos } }

/-- Reports a process that a signal ended. -/
def reportExit (exit : Exit) : Run Unit :=
  match exit with
  | .signal n => (Signal.report? n).forM fun text => Run.report (text ++ "\n")
  | .code _ => pure ()

/-- Waits for a process. -/
def waitFor (job : Job) : Run Unit := do
  if !job.reaped then
    Run.waitUntil job.ends
    Run.checkTime
    reportExit job.exit
    reapAll
  Run.setStatus job.exit.status

/-- Waits for processes. -/
def wait : BuiltIn := fun args => do
  let (_, args) ← options [] [] args
  if args.isEmpty then
    Run.waitUntil ((← get).jobs.foldl (fun latest j => max latest j.ends) 0)
    Run.checkTime
    reapAll
    Run.setStatus 0
  else
    args.forM fun text => do
      if text.startsWith "%" then waitFor (← requireJob text)
      else
        let process ← number text
        match (← get).jobs.find? (·.process = process) with
        | some job => waitFor job
        | none => Run.setStatus 127

/-- What a list of jobs says about one. -/
def jobState (now : Nat) (job : Job) : String :=
  if now < job.ends then "Running"
  else
    match job.exit with
    | .code 0 => "Done"
    | .code n => "Done(" ++ toString n ++ ")"
    | .signal n => Signal.texts.getD (n - 1) ""

/-- The line of a job; the latest two are marked. -/
def jobLine (now : Nat) (withProcess : Bool) (mark : String) (job : Job) : String :=
  let front := "[" ++ toString job.number ++ "] " ++ mark ++ " "
    ++ (if withProcess then toString job.process ++ " " else "") ++ jobState now job
  Text.padRight (max 33 (front.length + 1)) front ++ "\n"

/-- Lists jobs.  Those that have ended are listed once. -/
def listJobs : BuiltIn := fun args => do
  let (opts, names) ← options ['l', 'p'] [] args
  let named ← names.mapM requireJob
  let m ← get
  let now := m.world.nanos
  let shown := if names.isEmpty then m.jobs.reverse else named
  let mark (job : Job) : String :=
    if m.jobs.getLast?.any (·.number == job.number) then "+"
    else if m.jobs.dropLast.getLast?.any (·.number == job.number) then "-"
    else " "
  let line (job : Job) : String :=
    if opts.any (·.1 == 'p') then toString job.process ++ "\n"
    else jobLine now (opts.any (·.1 == 'l')) (mark job) job
  set { m with jobs := m.jobs.filter fun j =>
    now < j.ends || !shown.any (·.number == j.number) }
  Run.say (String.join (shown.map line))
  Run.setStatus 0

/-- There is nothing to bring to the front. -/
def resume : BuiltIn := fun args => do
  match args with
  | [] => Run.fail "No current job"
  | text :: _ =>
    let _ ← requireJob text
    Run.fail "job not created under job control"

/-! ## Endings -/

/-- The number that the first argument writes. -/
def firstNumber (default : Nat) (args : List String) : Run Nat :=
  args.head?.elim (pure default) number

/-- Ends the script. -/
def exit : BuiltIn := fun args => do
  let m ← get
  Run.setStatus ((← firstNumber (m.before.getD m.status) args) % 256)
  throw .leave

/-- Ends the function, or the script. -/
def leaveFunction : BuiltIn := fun args => do
  Run.setStatus (← firstNumber (← get).status args)
  throw .leaveFunction

/-- Ends loops, or rounds of loops. -/
def leaveLoops (stop : Nat → Stop) : BuiltIn := fun args => do
  let text := args.headD "1"
  let n ← number text
  if n = 0 then Run.fail (Arithmetic.badNumber text)
  Run.setStatus 0
  let n := min n (← get).loops
  if 0 < n then throw (stop n)

end PipeShell.Script
