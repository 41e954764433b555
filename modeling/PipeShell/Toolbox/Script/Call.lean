import PipeShell.Toolbox.Script.Builtin.Places
import PipeShell.Toolbox.Script.Builtin.Texts
import PipeShell.Toolbox.Script.Launch

/-!
# Commands with names

A name stands for a function, for a command that scripts carry out themselves, or for a program.
Here are those commands that run other commands (`eval`, `.`, `exec`, `command`), the table of all
others, and the calls themselves.

A program usually runs in a process of its own.  Where nothing follows it, it takes the place of the
script.
-/

namespace PipeShell.Script

/-! ## Programs -/

/-- The status that goes with a fault of starting a program. -/
def faultStatus (fault : Fault) : Nat :=
  if fault = .notFound || fault = .notADirectory || fault = .tooManyLinks || fault = .nameTooLong
  then 127 else 126

/-- The script is over because this program took its place. -/
def replacedBy (exit : Exit) : Run Unit :=
  match exit with
  | .code status => throw (.replaced status)
  | .signal n => throw (.killed n)

/-- What reads files that are no programs. -/
def fallbackInterpreter : String := "/bin/sh"

/-- A file starts like a text. -/
def startsAsText (m : Machine) (file : String) : Bool :=
  (m.world.disk.readBytes (m.path file)).toOption.any fun data => !looksBinary data

/-- Runs the program in a file in the place of the script.  A text that is no program is taken for a
script. -/
def replaceBy (inner : Level) (file name : String) (args : List String) : Run Unit := do
  let give (fault : Fault) : Run Unit := do
    Run.complain (name ++ ": " ++ commandFault fault)
    Run.setStatus (faultStatus fault)
    throw .leave
  let m ← get
  let env := m.environment
  match ← execute inner file name args env with
  | .ok exit => replacedBy exit
  | .error .notAProgram =>
    if !startsAsText m file then give .notAProgram
    else match ← execute inner fallbackInterpreter fallbackInterpreter (file :: args) env with
    | .ok exit => replacedBy exit
    | .error fault => give fault
  | .error fault => give fault

/-- The file that a name of a program stands for. -/
def programFile (m : Machine) (searchPath : Option String) (name : String) :
    Except Fault String :=
  if name.toList.contains '/' then .ok name
  else
    match searchPath with
    | some path => firstProgram m .notFound (candidates path name)
    | none =>
      match m.tracked.lookup name with
      | some path => .ok path
      | none => findProgram m name

/-- Takes note of how a process that the script waited for has ended. -/
def noteExit (exit : Exit) : Run Unit := do
  reportExit exit
  Run.setStatus exit.status
  reapAll

/-- The process can be given up for another program. -/
def canLeave (p : Place) : Run Bool := return p.last && (← get).traps.all fun t => t.2.isEmpty

/-- Runs a program by its name. -/
def runProgram (inner : Level) (p : Place) (searchPath : Option String) (name : String)
    (args : List String) : Run Unit := do
  match programFile (← get) searchPath name with
  | .error fault => Run.refuse 127 (name ++ ": " ++ commandFault fault)
  | .ok file =>
    if !name.toList.contains '/' && searchPath.isNone then Run.track name file
    let run := replaceBy inner file name args
    if ← canLeave p then run else noteExit (← inside inner run)

/-! ## Commands that run others -/

/-- Runs its arguments as a script. -/
def evaluateText (inner : Level) (p : Place) : BuiltIn := fun args => do
  (inner ()).script ⟨p.tested, false⟩ false (" ".intercalate args)

/-- The file that a script to be read in is found in. -/
def readableFile? (m : Machine) (name : String) : Option String :=
  if name.toList.contains '/' then some name
  else (candidates ((m.value? "PATH").getD "") name).find? fun path =>
    match m.world.disk.lookUp (m.path path) with
    | .ok (_, e) => e.isFile
    | .error _ => false

/-- Runs a script in the same process. -/
def readIn (inner : Level) (p : Place) : BuiltIn := fun args => do
  let (_, args) ← options [] [] args
  match args with
  | [] => Run.setStatus 0
  | name :: _ =>
    match readableFile? (← get) name with
    | none => Run.fail (name ++ ": not found")
    | some file =>
      let text ← loadScript file
      let run : Run Unit := do
        modify fun m => { m with caller := some file }
        try (inner ()).script ⟨p.tested, false⟩ true text
        catch
          | .leaveFunction => pure ()
          | stop => throw stop
      Run.afterwards run fun before after => { after with caller := before.caller }

/-- Gives the place of the script to a program. -/
def replaceScript (inner : Level) : BuiltIn := fun args => do
  match args with
  | [] => Run.setStatus 0
  | name :: args =>
    let m ← get
    let file : Except Fault String :=
      if name.toList.contains '/' then .ok name else findProgram m name
    match file with
    | .ok file => replaceBy inner file name args
    | .error fault =>
      Run.complain (name ++ ": " ++ commandFault fault)
      Run.setStatus (faultStatus fault)
      throw .leave

/-- Says what a name stands for; running a command by its name is arranged for elsewhere. -/
def identifyCommand : BuiltIn := fun args => do
  let (opts, names) ← options ['p', 'v', 'V'] [] args
  let long := opts.any (·.1 == 'V')
  if (long || opts.any (·.1 == 'v')) && !names.isEmpty then
    tellMeanings (if long then describe else identify) (names.take 1)
  else Run.setStatus 0

/-! ## The table -/

/-- The commands that scripts carry out themselves. -/
def builtIns (inner : Level) (p : Place) : List (String × BuiltIn) :=
  [(".", readIn inner p), (":", plainStatus 0), ("[", test true), ("alias", makeAliases),
   ("bg", resume), ("break", leaveLoops .leaveLoops), ("cd", changeDir), ("chdir", changeDir),
   ("command", identifyCommand), ("continue", leaveLoops .nextRound), ("echo", echo),
   ("eval", evaluateText inner p), ("exec", replaceScript inner), ("exit", exit),
   ("export", exportVars), ("false", plainStatus 1), ("fg", resume), ("getopts", readOption),
   ("hash", trackPrograms), ("jobs", listJobs), ("kill", kill), ("local", localVars),
   ("printf", printFormatted), ("pwd", tellDir), ("read", readVars), ("readonly", fixVars),
   ("return", leaveFunction), ("set", setOptions), ("shift", shift), ("test", test false),
   ("times", tellTimes), ("trap", trap), ("true", plainStatus 0), ("type", tellMeanings describe),
   ("ulimit", tellLimit), ("umask", changeMask), ("unalias", removeAliases), ("unset", unset),
   ("wait", wait)]

/-! ## Calls -/

/-- What is called, and how. -/
structure Call where
  words : List String
  /-- What goes wrong ends the script. -/
  special : Bool
  /-- Functions are passed over. -/
  direct : Bool
  searchPath : Option String

/-- The most functions that one can be in. -/
def callLimit : Nat := 1000

/-- Calls a function. -/
def callFunction (inner : Level) (p : Place) (body : Command) (args : List String) :
    Run Unit := do
  let m ← get
  if callLimit ≤ m.calls then
    Run.fail ("Maximum function recursion depth (" ++ toString callLimit ++ ") reached")
  set { m with args, loops := 0, calls := m.calls + 1, optionIndex := 1, optionPlace := 0 }
  let run : Run Unit := do
    try (inner ()).command ⟨p.tested, false⟩ body
    catch
      | .leaveFunction => pure ()
      | stop => throw stop
  Run.afterwards (Run.withScope run) fun _ after =>
    { after with
      args := m.args
      loops := m.loops
      calls := m.calls
      optionIndex := m.optionIndex
      optionPlace := m.optionPlace }

/-- Calls a command that scripts carry out themselves. -/
def callBuiltIn (special : Bool) (name : String) (run : Run Unit) : Run Unit := do
  let caller := (← get).caller
  modify fun m => { m with caller := some name }
  let guarded : Run Unit := do
    try run
    catch
      | .failed => if special then throw .failed
      | stop => throw stop
  Run.afterwards guarded fun _ after => { after with caller }

/-- Calls what a name stands for. -/
def callNamed (inner : Level) (p : Place) (c : Call) (name : String) (args : List String) :
    Run Unit := do
  let m ← get
  let function? := if c.direct || name.toList.contains '/' then none else m.functions.get? name
  match function?, (builtIns inner p).lookup name with
  | some body, _ => callFunction inner p body args
  | none, some run => callBuiltIn c.special name (run args)
  | none, none => runProgram inner p c.searchPath name args

end PipeShell.Script
