import PipeShell.Toolbox.Script.Expansion
import PipeShell.Toolbox.Tool

/-!
# Starting programs

A program file is the image of a tool, or a script whose first line names its interpreter; the
interpreter can again be such a script, and so on through a few files.  The one interpreter there is
takes a script from its arguments, from a file or from its input.
-/

namespace PipeShell.Script

open Toolbox (Input Tool)

/-! ## First lines -/

/-- The size of the block at the start of a file in which its interpreter is named. -/
def headerSize : Nat := 256

/-- A blank of a first line. -/
def isHeaderBlank (b : UInt8) : Bool := b == 32 || b == 9

/-- What the block names behind `#!`: up to a newline, or else up to the last byte of the block.  A
zero ends the name and the argument, and without a newline something has to end the name. -/
def headerLine? (block : List UInt8) : Option (List UInt8) :=
  let front := block.takeWhile fun b => b != 10 && b != 0
  if block[front.length]? == some 10 then some front
  else
    let name := block.dropWhile isHeaderBlank
    if name.all fun b => !isHeaderBlank b && b != 0 then none else some block.dropLast

/-- The interpreter that the first line of a file names, and the argument it gives it. -/
def interpreterLine? (data : ByteArray) : Option (List UInt8 × Option (List UInt8)) :=
  let whole := (data.extract 0 headerSize).data.toList
  match whole ++ List.replicate (headerSize - whole.length) 0 with
  | 35 :: 33 :: rest =>
    (headerLine? rest).bind fun line =>
      let line := (line.reverse.dropWhile isHeaderBlank).reverse.dropWhile isHeaderBlank
      let name := line.takeWhile fun b => !isHeaderBlank b && b != 0
      let after := line.drop name.length
      let arg := (after.dropWhile isHeaderBlank).takeWhile (· ≠ 0)
      if line.isEmpty then none
      else some (name, if after.headD 0 == 0 then none else some arg)
  | _ => none

/-- How much of the start of a file is looked at to tell a text from other data. -/
def sampleSize : Nat := 128

/-- A byte that no text has. -/
def isForeign (b : UInt8) : Bool :=
  b == 127 || b < 32 && !(9 ≤ b && b ≤ 15) && b != 27

/-- The first line of a file is no text, as far as it is looked at. -/
def looksBinary (data : ByteArray) : Bool :=
  ((data.extract 0 sampleSize).data.toList.takeWhile (· != 10)).any isForeign

/-! ## Images -/

/-- What a program file comes to: the name of a tool, and the name and the arguments it gets. -/
structure Image where
  tool : String
  name : String
  args : List String

/-- How many files can name one another as interpreters. -/
def headerLimit : Nat := 6

/-- The image of a program file. -/
def imageOf (m : Machine) : (files : Nat) → (file name : String) → (args : List String) →
    Except Fault Image
  | files, file, name, args =>
    let path := if file.isEmpty then m.dir else m.path file
    match m.world.disk.lookUp path, files with
    | .error fault, _ => .error fault
    | .ok (_, e), 0 => .error (if e.isRunnable then .tooManyLinks else .notPermitted)
    | .ok (_, .program tool), _ + 1 => .ok ⟨tool, name, args⟩
    | .ok (_, .file data true), files + 1 =>
      match interpreterLine? data with
      | some (interpreter, arg) =>
        let text (bs : List UInt8) : String := Text.ofOctets ⟨bs.toArray⟩
        let next := text interpreter
        imageOf m files next next ((arg.map text).toList ++ file :: args)
      | none => .error .notAProgram
    | .ok _, _ + 1 => .error .notPermitted

/-! ## Tools -/

/-- The time that starting a program takes, in nanoseconds. -/
def startTime : Nat := 1000000

/-- The file that a channel leads to. -/
def Machine.handle? (m : Machine) (n : Nat) : Option Handle :=
  match m.channel? n with
  | some (.file k) => m.world.files[k]?
  | _ => none

/-- The job of a tool that is started on a machine. -/
def jobOf (m : Machine) (name : String) (args : List String) : Toolbox.Job where
  name := name
  args := args
  dir := m.dir
  input := m.world.input (m.channel? 0)
  source := (m.handle? 0).bind fun h =>
    match m.world.disk.entryAt? h.file.location with
    | some .directory => none
    | _ => some (h.file.location, (m.world.disk.openBytes? h.file).elim h.held.size ByteArray.size)
  outlet := (m.handle? 1).map fun h => h.file.location
  disk := m.world.disk

/-- Writes zeros until that is no longer possible. -/
def pourZeros : Run (Option Fault) := do
  let m ← get
  match m.channel? 1 with
  | some (.buffer n) =>
    match (m.world.buffers[n]?).bind (·.room) with
    | some room =>
      let _ ← Run.write 1 (Toolbox.zeroBytes room)
      Run.write 1 (Toolbox.zeroBytes 1)
    | none => Run.waitUntil Toolbox.forever; return none
  | some (.device .full) => return some .noSpace
  | none => return some .badChannel
  | _ => Run.waitUntil Toolbox.forever; return none

/-- Writes what a tool wrote; the fault that its output met. -/
def writeAll : List (Toolbox.Stream × ByteArray) → Run (Option Fault)
  | [] => pure none
  | (.errors, data) :: rest => do
    let _ ← Run.write 2 data
    writeAll rest
  | (.output, data) :: rest => do
    match ← Run.write 1 data with
    | none => writeAll rest
    | some fault =>
      (rest.filter (·.1 = .errors)).forM fun p => do
        let _ ← Run.write 2 p.2
      return some fault

/-- How much has to be there for a tool to go on; more than there is, if it reads to the end. -/
def neededOf (w : World) (source : Option Channel) (p : Toolbox.Progress) : Nat :=
  match w.input source with
  | .bytes data => if p.drained then data.size + 1 else p.used
  | _ => 0

/-- What a tool leaves of its input.  It can only take what is there when it has enough. -/
def restOf (w : World) (source : Option Channel) (p : Toolbox.Progress) : Input :=
  match source, w.input source, p.left with
  | some (.buffer n), .bytes data, .bytes left =>
    let time := max w.nanos (w.timeOf (neededOf w source p) source)
    let there := (w.buffers[n]?).elim 0 (·.sizeAt time)
    let taken := min (data.size - left.size) (max p.used there)
    .bytes (data.extract taken data.size)
  | _, _, left => left

/-- Runs a tool. -/
def runTool (tool : Tool) (name : String) (args : List String) : Run Exit := do
  Run.wait startTime
  Run.checkTime
  let m ← get
  let say (text : String) : Run Unit := Run.report (name ++ ": " ++ text ++ "\n")
  match m.channel? 1, tool.closed with
  | none, some text =>
    say text
    return .code 1
  | _, _ => pure ()
  let p := tool.task.run (jobOf m name args)
  let source := m.channel? 0
  let waits := p.drained && m.world.leadsTo (·.cut) source
  if waits && !tool.streams then throw (.blocked (source.elim 0 Channel.number))
  set { m with world := { m.world with disk := p.disk }.leaveInput source (restOf m.world source p) }
  Run.waitUntil (m.world.timeOf (neededOf m.world source p) source)
  let fault ← writeAll p.written.reverse
  if waits then throw (.blocked (source.elim 0 Channel.number))
  Run.wait p.nanos
  let fault ← if p.endless && fault.isNone then pourZeros else pure fault
  Run.checkTime
  match fault with
  | none => return .code p.status
  | some fault =>
    let (texts, status) := tool.fault fault
    texts.forM say
    return .code status

/-! ## The interpreter -/

/-- The search path of a script that has none. -/
def defaultSearchPath : String :=
  "/usr/local/sbin:/usr/local/bin:/usr/sbin:/usr/bin:/sbin:/bin"

/-- The variables that a script begins with. -/
def startVars (m : Machine) (env : Environment) : NameMap Variable :=
  let own (name value : String) (vars : NameMap Variable) : NameMap Variable :=
    vars.insert name ⟨some value, false, false⟩
  let plain := own "PATH" defaultSearchPath
    (own "PS1" "# " (own "PS2" "> " (own "PS4" "+ " ∅)))
  let inherited := env.vars.toList.foldl (fun vars p =>
    let name := Text.spread p.1
    if isValidName name then vars.insert name ⟨some (Text.spread p.2), true, false⟩ else vars)
    plain
  own "IFS" " \t\n" (own "OPTIND" "1"
    (own "PPID" (toString (m.ancestors.headD 1)) inherited))

/-- The directory as a script calls it: as it was told, if that is right. -/
def startDir (m : Machine) (env : Environment) : String :=
  match env.vars.get? "PWD" with
  | none => m.dir
  | some dir =>
    let disk := m.world.disk
    if Path.isAbsolute dir && disk.canonicalDirectory? dir == disk.canonicalDirectory? m.dir
      && (disk.canonicalDirectory? dir).isSome then dir
    else m.dir

/-- The machine of a script that is started as a program. -/
def startMachine (m : Machine) (env : Environment) (name : String) : Machine :=
  let dir := startDir m env
  { m with
    origin := m.process
    name
    args := []
    dir
    vars := (startVars m env).insert "PWD" ⟨some (Text.spread dir), true, false⟩
    functions := ∅
    aliases := []
    tracked := []
    options := []
    traps := m.traps.filter fun t => t.2.isEmpty
    jobs := []
    background := none
    scopes := []
    status := 0
    inner := 0
    before := none
    line := 0
    caller := none
    loops := 0
    calls := 0
    optionIndex := 1
    optionPlace := 0 }

/-- The options in front of the arguments of the interpreter, and whether one asks for a script
among the arguments.  A listing shows all as on but those that were switched off on purpose
(`off`). -/
def startOptions : (fuel : Nat) → (off : List Char) → (asked : Bool) → List String →
    Run (Bool × List String)
  | 0, _, asked, args => pure (asked, args)
  | fuel + 1, off, asked, args => do
    match args with
    | [] => return (asked, [])
    | arg :: rest =>
      let go (on : Bool) (letters : List Char) : Run (Bool × List String) := do
        letters.forM fun c => do
          if c != 'c' && c != 'l' && c != 'o' then switchLetters on [c]
        let named := letters.count 'o'
        (rest.take named).forM (switchNamed on)
        let switched := letters ++ (rest.take named).filterMap fun name => optionNames.lookup name
        let off := if on then off.filter fun c => !switched.contains c else switched ++ off
        let untouched := (optionNames.map Prod.snd).filter fun c => !off.contains c
        if rest.length < named then Run.say (listOptions untouched on)
        startOptions fuel off (asked || letters.contains 'c') (rest.drop named)
      match arg.toList with
      | ['-'] => return (asked, rest)
      | ['-', '-'] => return (asked, rest)
      | '-' :: letters => go true letters
      | '+' :: letters => go false letters
      | _ => return (asked, arg :: rest)

/-- The text of a script in a file.  Zeros are passed over. -/
def scriptText (data : ByteArray) : String :=
  Text.ofOctets ⟨data.data.filter (· != 0)⟩

/-- Everything that can be read from the standard input. -/
def readScript : Run String := do
  let m ← get
  let source := m.channel? 0
  if m.world.leadsTo (·.cut) source then throw (.blocked (source.elim 0 Channel.number))
  match m.world.input source with
  | .bytes data =>
    set { m with world := m.world.leaveInput source .none }
    return scriptText data
  | .zeros => Run.waitUntil Toolbox.forever; throw (.killed 9)
  | .fault _ => return ""

/-- The script in a file. -/
def loadScript (file : String) : Run String := do
  let m ← get
  match m.world.disk.lookUp (m.path file) with
  | .ok (_, .directory) => return ""
  | .ok (_, .device (.channel 0)) => readScript
  | .ok _ => return scriptText ((m.world.disk.readBytes (m.path file)).toOption.getD .empty)
  | .error fault =>
    let reason := if fault = .notFound || fault = .notADirectory then "No such file"
      else Toolbox.faultText fault
    Run.fail ("cannot open " ++ file ++ ": " ++ reason)

/-- Runs the interpreter with its arguments. -/
def runInterpreter (inner : Level) (args : List String) : Run Unit := do
  let (asked, operands) ← startOptions (args.length + 1) [] false args
  let run (text : String) : Run Unit := (inner ()).script .anywhere true text
  let nameBy (operands : List String) : Run Unit :=
    match operands with
    | [] => pure ()
    | name :: args => modify fun m => { m with name, args }
  match asked, operands with
  | true, [] => Run.fail "-c requires an argument"
  | true, text :: rest =>
    nameBy rest
    (inner ()).script ⟨false, true⟩ false text
    if ← Run.option 's' then run (← readScript)
  | false, operands =>
    let fromInput ← Run.option 's'
    if fromInput || operands.isEmpty then
      switch true 's'
      modify fun m => { m with args := operands }
      run (← readScript)
    else
      let text ← loadScript (operands.headD "")
      nameBy operands
      run text

/-- Runs the interpreter as a program that takes the place of what runs on the machine. -/
def interpret (inner : Level) (name : String) (args : List String) (env : Environment) :
    Run Exit := do
  Run.wait startTime
  let outer ← get
  let (result, ended) := Run.on (startMachine outer env name)
    (conclude inner (runInterpreter inner args))
  set (outer.rejoin ended)
  match result with
  | .ok exit =>
    Run.checkTime
    return exit
  | .error stop => throw stop

/-- Runs the program in a file, with the name and the arguments that it gets. -/
def execute (inner : Level) (file name : String) (args : List String) (env : Environment) :
    Run (Except Fault Exit) := do
  let m ← get
  match if file.isEmpty then .error .notFound else imageOf m headerLimit file name args with
  | .error fault => return .error fault
  | .ok image =>
    if image.tool == Toolbox.interpreterName then
      return .ok (← interpret inner image.name image.args env)
    else
      match Toolbox.table.lookup image.tool with
      | some tool => return .ok (← runTool tool image.name image.args)
      | none => return .error .notAProgram

end PipeShell.Script
