import PipeShell.Toolbox.Script.Call
import PipeShell.Toolbox.Script.Pipe
import PipeShell.Toolbox.Script.Redirection

/-!
# The interpreter

Runs commands and scripts, in place of the `/bin/sh` of a system.  Each kind of command is a
function of the `Inner` that runs the commands inside it, and `level` ties these together: the
interpreter of one level hands what is inside a command to the level below.  A script that outruns
all levels has used up its memory.
-/

namespace PipeShell.Script

/-! ## Words of commands -/

/-- The commands whose arguments can be assignments. -/
def assigningNames : List String := ["alias", "export", "local", "readonly"]

/-- The texts of an argument of a command. -/
def expandArgument (inner : Level) (assigns : Bool) (w : Word) : Run (List String) := do
  match if assigns then Reader.assignment? w else none with
  | some (name, value) => return [name ++ "=" ++ (← expandText inner true value)]
  | none => expandFields inner w

/-- Words of which some are expanded already. -/
structure Pending where
  ready : List String
  words : List Word

/-- The next text of some words, and what comes after it. -/
def nextText (inner : Level) : List String → List Word → Run (Option (String × Pending))
  | text :: ready, words => pure (some (text, ⟨ready, words⟩))
  | [], [] => pure none
  | [], w :: words => do nextTextOf words (← expandFields inner w)
where
  /-- The next text when the first word came to these texts. -/
  nextTextOf (words : List Word) : List String → Run (Option (String × Pending))
    | text :: ready => pure (some (text, ⟨ready, words⟩))
    | [] => nextText inner [] words

/-- All texts that are left. -/
def allTexts (inner : Level) (assigns : Bool) (p : Pending) : Run (List String) := do
  let more ← p.words.mapM (expandArgument inner assigns)
  return p.ready ++ more.flatten

/-- What follows the name `command`. -/
inductive AfterCommand where
  | nothing
  /-- Options that ask for something else than to run a command. -/
  | other (texts : List String)
  /-- A command to run, with the standard search path or not. -/
  | run (standard : Bool) (rest : Pending)

/-- Reads what follows the name `command`. -/
def readAfterCommand (inner : Level) : (fuel : Nat) → (standard : Bool) → Pending →
    Run AfterCommand
  | 0, standard, p => pure (.run standard p)
  | fuel + 1, standard, p => do
    match ← nextText inner p.ready p.words with
    | none => return .nothing
    | some (text, rest) =>
      match text.toList with
      | ['-', '-'] => return .run standard rest
      | '-' :: c :: cs =>
        if (c :: cs).all (· == 'p') then readAfterCommand inner fuel true rest
        else return .other (text :: (← allTexts inner false rest))
      | _ => return .run standard ⟨text :: rest.ready, rest.words⟩

/-- Expands the words of a command, up to what is called. -/
def expandCall (inner : Level) : (fuel : Nat) → (call : Call) → (first : Bool) → Pending → Run Call
  | 0, call, _, _ => pure call
  | fuel + 1, call, first, p => do
    match ← nextText inner p.ready p.words with
    | none => return { call with words := if call.direct then ["command"] else [] }
    | some (name, rest) =>
      let isFunction := !call.direct && ((← get).functions.get? name).isSome
      let call := if first then { call with special := specialNames.contains name } else call
      if isFunction || name != "command" then
        let assigns := !isFunction && assigningNames.contains name
        return { call with words := name :: (← allTexts inner assigns rest) }
      else
        match ← readAfterCommand inner fuel false rest with
        | .nothing => return { call with words := [name], direct := true }
        | .other texts => return { call with words := name :: texts, direct := true }
        | .run standard rest =>
          let searchPath := if standard then some defaultSearchPath else call.searchPath
          expandCall inner fuel { call with direct := true, searchPath } false rest

/-! ## Simple commands -/

/-- Carries out assignments; what they are is given back for the trace. -/
def assignAll (inner : Level) (local? exports : Bool) (assignments : List (String × Word)) :
    Run (List String) :=
  assignments.mapM fun a => do
    let value ← expandText inner true a.2
    if local? then Run.keepVar a.1
    Run.setVar a.1 value
    if local? || exports then Run.changeVar a.1 fun v => { v with exported := true }
    return a.1 ++ "=" ++ value

/-- Shows a command before it is run, if the script has that option. -/
def trace (inner : Level) (channels : List (Nat × Channel)) (texts : List String) :
    Run Unit := do
  if ← Run.option 'x' then
    let m ← get
    let mark ← match wordOf (some .braces) m.line ((m.value? "PS4").getD "") with
      | .error _ => pure ""
      | .ok w => do pure (joinChunks (← (inner ()).chunks false w))
    let run : Run Unit := do
      modify fun m => { m with channels }
      Run.report (mark ++ " ".intercalate texts ++ "\n")
    Run.keepingChannels run

/-- Runs a command whose words are expanded and whose channels are arranged. -/
def runWords (inner : Level) (p : Place) (channels : List (Nat × Channel)) (c : Simple)
    (call : Call) : Run Unit := do
  match call.words with
  | [] =>
    let texts ← assignAll inner false false c.assignments
    if !texts.isEmpty then trace inner channels texts
    Run.setStatus (← get).inner
  | name :: args =>
    let run (local? : Bool) : Run Unit := do
      let texts ← assignAll inner local? (name == "exec" && !args.isEmpty) c.assignments
      trace inner channels (texts ++ name :: args)
      callNamed inner p call name args
    if c.assignments.isEmpty then
      trace inner channels (name :: args)
      callNamed inner p call name args
    else if call.special then run false
    else Run.withScope (run true)

/-- Runs a simple command. -/
def runSimple (inner : Level) (p : Place) (c : Simple) : Run Unit := do
  modify fun m => { m with line := c.line, inner := 0 }
  let call ← expandCall inner (c.words.length + 1) ⟨[], false, false, none⟩ true ⟨[], c.words⟩
  let targets ← targetsOf inner c.redirects
  let channels := (← get).channels
  let run : Run Unit := do
    if ← redirectAll inner targets then runWords inner p channels c call
    else
      Run.setStatus 2
      if call.special then throw .failed
  if targets.isEmpty || call.words == ["exec"] then run else Run.keepingChannels run

/-! ## Loops -/

/-- The most rounds of a loop, which nothing comes to in its time. -/
def roundLimit : Nat := Nat.pow 2 60

/-- How a round of a loop went. -/
inductive Round where
  | goOn
  | over
deriving Repr, DecidableEq

/-- Runs a round of a loop.  The loops outside it go on or end as they are told. -/
def runRound (round : Run Round) : Run Round := do
  try round
  catch
    | .leaveLoops n => if n ≤ 1 then return .over else throw (.leaveLoops (n - 1))
    | .nextRound n => if n ≤ 1 then return .goOn else throw (.nextRound (n - 1))
    | stop => throw stop

/-- A computation inside a loop. -/
def insideLoop (run : Run Unit) : Run Unit := do
  let loops := (← get).loops
  modify fun m => { m with loops := loops + 1 }
  Run.afterwards run fun _ after => { after with loops }

/-- Runs a loop.  Its status is that of the last round. -/
def runLoop (inner : Level) (p : Place) (negated : Bool) (condition body : Command) : Run Unit := do
  let round (last : Nat) : Run Round := do
    (inner ()).command ⟨true, false⟩ condition
    let holds := (← get).status == 0
    if holds == negated then
      Run.setStatus last
      return .over
    (inner ()).command ⟨p.tested, false⟩ body
    return .goOn
  let rec rounds (limit last : Nat) : Run Unit :=
    match limit with
    | 0 => pure ()
    | limit + 1 => do
      match ← runRound (round last) with
      | .goOn => rounds limit (← get).status
      | .over => pure ()
  insideLoop (rounds roundLimit 0)

/-- Runs a command for each of some values. -/
def runEach (inner : Level) (p : Place) (name : String) (values : List String) (body : Command) :
    Run Unit := do
  if values.isEmpty then Run.setStatus 0
  let rec rounds : List String → Run Unit
    | [] => pure ()
    | value :: rest => do
      let round : Run Round := do
        Run.setVar name value
        (inner ()).command ⟨p.tested, false⟩ body
        return .goOn
      match ← runRound round with
      | .goOn => rounds rest
      | .over => pure ()
  insideLoop (rounds values)

/-! ## Commands in processes of their own -/

/-- Runs a command in a process of its own. -/
def runSubshell (inner : Level) (p : Place) (line : Nat) (body : Command) (rs : List Redirect) :
    Run Unit := do
  modify fun m => { m with line }
  let targets ← targetsOf inner rs
  let run : Run Unit := do
    if ← redirectAll inner targets then (inner ()).command ⟨p.tested, true⟩ body
    else
      Run.setStatus 2
      throw .leave
  let exit ← inside inner run
  if ← canLeave p then replacedBy exit else noteExit exit

/-- Runs a command with its channels arranged. -/
def runRedirected (inner : Level) (p : Place) (line : Nat) (body : Command) (rs : List Redirect) :
    Run Unit := do
  modify fun m => { m with line }
  let targets ← targetsOf inner rs
  Run.keepingChannels do
    if ← redirectAll inner targets then (inner ()).command ⟨p.tested, false⟩ body
    else Run.setStatus 2

/-! ## All commands -/

/-- Runs commands one after the other. -/
def runSequence (inner : Level) (p : Place) : List Command → Run Unit
  | [] => pure ()
  | [c] => (inner ()).command p c
  | c :: rest => do
    (inner ()).command ⟨p.tested, false⟩ c
    runSequence inner p rest

/-- The first branch with a pattern that matches a text. -/
def branchFor (inner : Level) (text : String) : List (List Word × Command) →
    Run (Option Command)
  | [] => pure none
  | (patterns, c) :: rest => do
    if ← holdsOne patterns then return some c else branchFor inner text rest
where
  /-- One of the patterns matches. -/
  holdsOne : List Word → Run Bool
    | [] => pure false
    | w :: rest => do
      if matchesText (← expandPattern inner w) text.toList then return true else holdsOne rest

/-- The script ends if a command failed that nobody looks at, and the script has that option. -/
def checkFailure (p : Place) : Run Unit := do
  let m ← get
  if m.status != 0 && !p.tested && m.options.contains 'e' then throw .leave

/-- The name in front of a command, if it is written as a plain name. -/
def programName? : Command → Option String
  | .simple c => (c.words.head?.bind bareText?).filter isValidName
  | _ => none

/-- The time that it takes to come to a command, in nanoseconds. -/
def commandTime : Nat := 3000

/-- Does what a command says. -/
def carryOut (inner : Level) (p : Place) : Command → Run Unit
  | .nothing => Run.setStatus 0
  | .simple c => do
    runSimple inner p c
    handleSignals inner
    checkFailure p
  | .pipeline cs => do
    cs.forM fun c => (programName? c).forM Run.trackNamed
    runPipeline (cs.map fun c => inside inner ((inner ()).command ⟨p.tested, true⟩ c))
    handleSignals inner
    checkFailure p
  | .negated c => do
    (inner ()).command ⟨true, false⟩ c
    Run.setStatus (if (← get).status = 0 then 1 else 0)
  | .both first second => do
    (inner ()).command ⟨true, false⟩ first
    if (← get).status = 0 then (inner ()).command p second
  | .either first second => do
    (inner ()).command ⟨true, false⟩ first
    if (← get).status != 0 then (inner ()).command p second
  | .sequence cs => runSequence inner p cs
  | .background line c => do
    modify fun m => { m with line }
    runBackground inner c
  | .choice condition consequence otherwise => do
    (inner ()).command ⟨true, false⟩ condition
    if (← get).status = 0 then (inner ()).command p consequence
    else match otherwise with
      | some c => (inner ()).command p c
      | none => Run.setStatus 0
  | .loop negated condition body => runLoop inner p negated condition body
  | .each line name words body => do
    modify fun m => { m with line }
    let values ← match words with
      | some ws => do pure (← ws.mapM (expandFields inner)).flatten
      | none => do pure (← get).args
    runEach inner p name values body
  | .select line word branches => do
    modify fun m => { m with line }
    let text ← expandText inner false word
    match ← branchFor inner text branches with
    | some c => (inner ()).command p c
    | none => Run.setStatus 0
  | .redirected line body rs => runRedirected inner p line body rs
  | .subshell line body rs => do
    runSubshell inner p line body rs
    handleSignals inner
    checkFailure p
  | .define _ name body => do
    modify fun m => { m with functions := m.functions.insert name body }
    Run.setStatus 0

/-- Runs a command, unless nothing is to be run. -/
def runCommand (inner : Level) (p : Place) (c : Command) : Run Unit := do
  Run.wait commandTime
  Run.checkTime
  if ← Run.option 'n' then return
  carryOut inner p c

/-! ## Scripts -/

/-- The lines of a text, each with the newline at its end. -/
def linesOf (text : String) : List String :=
  let lines := (text.splitOn "\n").map (· ++ "\n")
  lines.dropLast ++ ((lines.getLast?.map fun l => String.ofList l.toList.dropLast).filter
    (!·.isEmpty)).toList

/-- The number of the lines that had to be read to find the next command or what is wrong. -/
def linesRead (script : Remaining) :
    Option (Except (ScriptError × Nat) (Command × Remaining)) → Nat
  | some (.error (_, line)) => line
  | some (.ok (_, rest)) => (rest.items.head?.map (·.line - 1)).getD script.last
  | none => script.last

/-- Runs the lines of a script that are left.  `began` says that some command was run; `unread` are
the lines to be shown, of which the first has the number `place`. -/
def runLines (inner : Level) (p : Place) : (lines : Nat) → (began : Bool) →
    (unread : List String) → (place : Nat) → Remaining → Run Unit
  | 0, _, _, _, _ => pure ()
  | lines + 1, began, unread, place, script => do
    let next := script.nextLine? (← get).aliases
    let read := linesRead script next + 1 - place
    if ← Run.option 'v' then Run.report (String.join (unread.take read))
    match next with
    | none => if !began then Run.setStatus 0
    | some (.error (e, line)) =>
      modify fun m => { m with line }
      Run.fail e.message
    | some (.ok (c, rest)) =>
      let go (began : Bool) : Run Unit :=
        runLines inner p lines began (unread.drop read) (place + read) rest
      match c with
      | .nothing => go began
      | c =>
        let last := p.last && rest.items.isEmpty && rest.fault.isNone
        runCommand inner ⟨p.tested, last⟩ c
        go true

/-- Runs a script, whose lines can be shown as they are read. -/
def runScript (inner : Level) (p : Place) (shown : Bool) (text : String) : Run Unit :=
  let script := Remaining.ofText 1 text
  runLines inner p (script.items.length + 2) false (if shown then linesOf text else []) 1 script

/-- The interpreter with so many levels below it. -/
def level : Nat → Level
  | 0, _ =>
    { command := fun _ _ => throw (.killed 11)
      script := fun _ _ _ => throw (.killed 11)
      chunks := fun _ _ => throw (.killed 11) }
  | levels + 1, _ =>
    { command := runCommand (level levels)
      script := runScript (level levels)
      chunks := wordChunks (level levels) }

/-- More levels than scripts go down to that end. -/
def levelLimit : Nat := 20000

/-- The whole interpreter. -/
def interpreter : Level := level levelLimit

end PipeShell.Script
