import PipeShell.Toolbox.Script.Launch

/-!
# Commands that run side by side

The commands of a pipeline start together, each in a process of its own, and each reads what the one
before it writes.  A pipe has room for a limited amount.  Whoever writes more has to wait until
somebody reads, and is stopped when nobody will.

Here the stages are run one after the other.  First each pipe has the room that it has.  When a
stage does not come to its end that way, but the last stage does without what is missing, then
nobody waits for that stage, and it meets a broken pipe.  When the last stage needs more, all is
done again with more room.  The clock of each stage starts when the pipeline starts, and the
pipeline is over when the last of them is.

A background command runs at once, and what it writes is given the time at which it does.
-/

namespace PipeShell.Script

/-! ## Pipelines -/

/-- How a stage of a pipeline came out. -/
inductive StageEnd where
  | ended (exit : Exit)
  /-- It waits for a buffer that the pipeline made. -/
  | stuck
  /-- Its time is over. -/
  | late
  /-- It cannot go on, for a reason outside the pipeline. -/
  | stopped (stop : Stop)

/-- How a run of a pipeline came out. -/
structure PipeRun where
  world : World
  ends : List StageEnd
  /-- The time at which the last stage ended. -/
  latest : Nat

/-- Marks the buffer that a stage did not fill. -/
def World.cutBuffer (w : World) (n : Nat) : World :=
  w.changeBuffer n fun b => { b with cut := true }

/-- Marks the buffer whose writer ended at some time. -/
def World.closeBuffer (w : World) (n time : Nat) : World :=
  w.changeBuffer n fun b => { b with latest := max b.latest time }

/-- How a stage ended, on a machine whose first buffer for the pipeline has the number `base`. -/
def stageEnd (base : Nat) (ended : Machine) : Except Stop Exit → StageEnd
  | .ok exit => .ended exit
  | .error (.blocked n) => if base ≤ n then .stuck else .stopped (.blocked n)
  | .error stop => if ended.world.isOverdue then .late else .stopped stop

/-- Runs the stages of a pipeline from a machine on, each pipe with so much room. -/
def runStages (m : Machine) (room : Nat) (broken : Bool) :
    (source : Option Nat) → List (Run Exit) → PipeRun → PipeRun
  | _, [], soFar => { soFar with ends := soFar.ends.reverse }
  | source, stage :: rest, soFar =>
    let buffer : Buffer := { Buffer.ofBytes .empty with room := some room, broken }
    let (world, n) := if rest.isEmpty then (soFar.world, 0) else soFar.world.addBuffer buffer
    let channels := m.channels
    let channels := source.elim channels fun b =>
      (0, .buffer b) :: channels.filter (·.1 ≠ 0)
    let channels := if rest.isEmpty then channels
      else (1, .buffer n) :: channels.filter (·.1 ≠ 1)
    let start := { m with world := { world with nanos := m.world.nanos }, channels }
    let (result, ended) := Run.on start stage
    let how := stageEnd m.world.buffers.size ended result
    let world := match rest.isEmpty, how with
      | true, _ => ended.world
      | false, .ended _ => ended.world.closeBuffer n ended.world.nanos
      | false, _ => ended.world.cutBuffer n
    let next : PipeRun := ⟨world, how :: soFar.ends, max soFar.latest ended.world.nanos⟩
    match how with
    | .stopped _ => { next with ends := next.ends.reverse }
    | _ => runStages m room broken (some n) rest next

/-- A stage did not end for want of a reader or a writer. -/
def StageEnd.isStuck : StageEnd → Bool
  | stuck => true
  | _ => false

/-- The time of a stage is over. -/
def StageEnd.isLate : StageEnd → Bool
  | late => true
  | _ => false

/-- The rooms that are tried for pipes; the first is the room that they have. -/
def pipeRooms : List Nat := [65536, 1048576, 16777216]

/-- Runs the stages of a pipeline; nothing if they never end. -/
def tryRooms (m : Machine) (stages : List (Run Exit)) : List Nat → Option PipeRun
  | [] => none
  | room :: more =>
    let run (broken : Bool) : PipeRun :=
      runStages m room broken none stages ⟨m.world, [], m.world.nanos⟩
    let first := run false
    if !first.ends.any StageEnd.isStuck || first.ends.any StageEnd.isLate then some first
    else if first.ends.getLast?.any StageEnd.isStuck then tryRooms m stages more
    else
      let second := run true
      if second.ends.any StageEnd.isStuck then tryRooms m stages more else some second

/-- Runs the stages of a pipeline and waits for all of them. -/
def runPipeline (stages : List (Run Exit)) : Run Unit := do
  let m ← get
  match tryRooms m stages pipeRooms with
  | none =>
    Run.waitUntil Toolbox.forever
    Run.checkTime
  | some run =>
    set { m with world := { run.world with nanos := run.latest } }
    Run.checkTime
    run.ends.forM fun
      | .ended exit => do
        reportExit exit
        Run.setStatus exit.status
      | .stopped stop => throw stop
      | _ => pure ()
    reapAll

/-! ## The background -/

/-- The time after which a background process begins, in nanoseconds. -/
def backgroundStart : Nat := 300000

/-- The least number that no job has. -/
def freeNumber (m : Machine) : Nat :=
  ((List.range (m.jobs.length + 1)).find? fun n => !m.jobs.any (·.number == n + 1)).elim 1 (· + 1)

/-- The channel leads to what is collected as the output of all. -/
def leadsOut (c : Option Channel) : Bool := c == some (.buffer 0) || c == some (.buffer 1)

/-- The command leaves the channel to others as soon as it runs. -/
def givesUp (n : Nat) : Command → Bool
  | .simple c => c.redirects.any (·.number = n)
  | .subshell _ _ rs => rs.any (·.number = n)
  | _ => false

/-- What a command does in a process of its own; parentheses around it ask for no other process. -/
def bareCommand : Command → Command
  | .subshell _ body [] => body
  | c => c

/-- How long a background process is followed when nothing is known to stop it, in nanoseconds. -/
def patience : Nat := 2000000000

/-- Runs a command in the background. -/
def runBackground (inner : Level) (c : Command) : Run Unit := do
  let process ← Run.newProcess
  let m ← get
  let now := m.world.nanos
  let nanos := now + backgroundStart
  let plan := m.world.plan
  let stop := (plan.stops.lookup process).getD (plan.horizon.getD (nanos + patience))
  let child : Machine := { forked process m with
    world := { m.world with nanos, deadline := some stop }
    channels := (0, .device .sink) :: m.channels.filter (·.1 ≠ 0) }
  let run : Run Unit := (inner ()).command ⟨false, true⟩ (bareCommand c)
  let (result, ended) := Run.on child (conclude inner run)
  let exit ← match result with
    | .ok exit => pure exit
    | .error stop => throw stop
  let ends := if ended.world.isOverdue then Toolbox.forever else ended.world.nanos
  let holds := (leadsOut (m.channel? 1) && !givesUp 1 c)
    || (leadsOut (m.channel? 2) && !givesUp 2 c)
  let world := { ended.world with
    nanos := now
    deadline := m.world.deadline
    children := ⟨process, ends, holds⟩ :: ended.world.children }
  let deaf := (ended.traps.filter (·.2.isEmpty)).map Prod.fst
  let job : Job := ⟨process, freeNumber m, exit, ends, false, deaf⟩
  set { m with world, background := some process, jobs := m.jobs ++ [job], status := 0 }

end PipeShell.Script
