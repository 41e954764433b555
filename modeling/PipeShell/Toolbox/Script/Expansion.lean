import PipeShell.Toolbox.Script.Builtin.Processes
import PipeShell.Toolbox.Script.Builtin.Variables

/-!
# Expansion

What words come to when a command is run: parameters, the output of scripts, arithmetic and home
directories are put in, values are cut into fields, and fields that are patterns become paths.

The output of a script inside a word takes the interpreter, and the interpreter takes words.  Each
works with the `Inner` of the other, which is the whole interpreter with one level less to go.
-/

namespace PipeShell.Script

/-- Where a command stands. -/
structure Place where
  /-- Its failure is looked at, and so does not end the script. -/
  tested : Bool
  /-- Nothing follows it. -/
  last : Bool

/-- Nothing is known about what follows. -/
def Place.anywhere : Place := ⟨false, false⟩

/-- What the parts of the interpreter ask of each other. -/
structure Inner where
  /-- Runs a command. -/
  command : Place → Command → Run Unit
  /-- Runs a script, whose lines can be shown as they are read. -/
  script : Place → (shown : Bool) → String → Run Unit
  /-- Expands a word whose values are cut or stay together. -/
  chunks : (split : Bool) → Word → Run (List Chunk)

/-- The interpreter with less to go, made when it is asked for. -/
abbrev Level := Unit → Inner

/-! ## Processes -/

/-- Does what is arranged for a signal. -/
def runTrap (inner : Level) (text : String) : Run Unit := do
  let status := (← get).status
  let outer := (← get).before
  modify fun m => { m with before := some status }
  Run.afterwards ((inner ()).script .anywhere false text) fun _ after => { after with before := outer }
  Run.setStatus status

/-- Does what the signals ask for that came to the process. -/
def handleSignals (inner : Level) : Run Unit := do
  let m ← get
  let mine := (m.world.signals.filter (·.1 = m.process)).reverse.map Prod.snd
  if mine.isEmpty then return
  set { m with world := { m.world with
    signals := m.world.signals.filter (·.1 ≠ m.process) } }
  mine.forM fun signal => do
    let m ← get
    match if Signal.absolute.contains signal then none else m.traps.lookup signal with
    | some text => if !text.isEmpty then runTrap inner text
    | none => if !Signal.harmless.contains signal then throw (.killed signal)

/-- Does what is arranged for the end of the script; an `exit` in it gives the status. -/
def runLastTrap (inner : Level) : Run Unit := do
  let m ← get
  match m.traps.lookup 0 with
  | none => return
  | some text =>
    set { m with traps := m.traps.filter (·.1 ≠ 0), before := some m.status }
    try (inner ()).script .anywhere false text; Run.setStatus m.status
    catch
      | .leave => return
      | .failed => return
      | .killed signal => throw (.killed signal)
      | .blocked n => throw (.blocked n)
      | _ => Run.setStatus m.status

/-- Runs something that is a process of its own, up to the end of the process. -/
def conclude (inner : Level) (run : Run Unit) : Run Exit := do
  let finish : Run Exit := do
    runLastTrap inner
    return .code ((← get).status % 256)
  let ending (stop : Stop) : Run Exit :=
    match stop with
    | .killed signal => return .signal signal
    | .replaced status => return .code status
    | .blocked n => throw (.blocked n)
    | _ => do
      try finish
      catch
        | .killed signal => return .signal signal
        | .blocked n => throw (.blocked n)
        | _ => return .code ((← get).status % 256)
  try
    run
    finish
  catch stop => ending stop

/-- The machine of a new process that goes on from this one. -/
def forked (process : Nat) (m : Machine) : Machine :=
  { m with
    process
    ancestors := m.process :: m.ancestors
    traps := m.traps.filter fun t => t.2.isEmpty
    jobs := [] }

/-- Runs something in a process of its own, which starts from the machine and leaves only the
world. -/
def inside (inner : Level) (run : Run Unit) : Run Exit := do
  let process ← Run.newProcess
  let outer ← get
  let (result, ended) := Run.on (forked process outer) (conclude inner run)
  set (outer.rejoin ended)
  match result with
  | .ok exit =>
    Run.checkTime
    return exit
  | .error stop => throw stop

/-! ## Parameters -/

/-- The arguments as one text. -/
def joinArgs (m : Machine) : String :=
  let separator := match m.value? "IFS" with
    | none => " "
    | some s => (s.toList.head?.map Char.toString).getD ""
  separator.intercalate m.args

/-- The value of a parameter, when it is set. -/
def parameter? (m : Machine) (name : String) : Option String :=
  match name with
  | "?" => some (toString m.status)
  | "#" => some (toString m.args.length)
  | "$" => some (toString m.origin)
  | "!" => m.background.map fun n => toString n
  | "-" => some (optionLetters m)
  | "0" => some m.name
  | "@" => some (joinArgs m)
  | "*" => some (joinArgs m)
  | name =>
    match name.toNat? with
    | some n => m.args[n - 1]?
    | none => m.value? name

/-- The chunk of a value. -/
def valueChunk (quoted : Bool) (value : String) : Chunk :=
  if quoted then .text value true else .value value

/-- The parameter stands for the arguments one by one. -/
def isEach (split : Bool) (name : String) (quoted : Bool) : Bool :=
  split && (name == "@" || name == "*" && !quoted)

/-- The chunks of arguments. -/
def argChunks (quoted : Bool) (args : List String) : List Chunk :=
  (args.map (valueChunk quoted)).intersperse (if quoted then .border else .gap)

/-- The chunks of a parameter that is used as it is. -/
def parameterChunks (m : Machine) (split : Bool) (name : String) (quoted : Bool) : List Chunk :=
  if isEach split name quoted then argChunks quoted m.args
  else [valueChunk quoted ((parameter? m name).getD "")]

/-- A parameter without a value is a fault if the script wants that. -/
def requireSet (name : String) : Run Unit := do
  if (parameter? (← get) name).isNone && (← Run.option 'u') then
    Run.fail (name ++ ": parameter not set")

/-! ## Home directories -/

/-- The users that a system has from the start, with their home directories. -/
def users : List (String × String) :=
  [("root", "/root"), ("daemon", "/usr/sbin"), ("bin", "/bin"), ("sys", "/dev"), ("sync", "/bin"),
   ("games", "/usr/games"), ("man", "/var/cache/man"), ("lp", "/var/spool/lpd"),
   ("mail", "/var/mail"), ("news", "/var/spool/news"), ("uucp", "/var/spool/uucp"),
   ("proxy", "/bin"), ("www-data", "/var/www"), ("backup", "/var/backups"), ("list", "/var/list"),
   ("irc", "/run/ircd"), ("_apt", "/nonexistent"), ("nobody", "/nonexistent")]

/-- The home directory that a name behind a tilde stands for. -/
def homeOf? (m : Machine) (name : String) : Option String :=
  if name.isEmpty then m.value? "HOME" else users.lookup name

/-- The text with tildes replaced, at its start and, in the value of an assignment, behind colons.
`open` says that more of the word follows. -/
def tildesIn (m : Machine) (assigned goesOn : Bool) : (fuel : Nat) → (start : Bool) → List Char →
    List Part
  | 0, _, cs => [.text (String.ofList cs) false]
  | fuel + 1, start, cs =>
    let ends (c : Char) : Bool := c == '/' || (assigned && c == ':')
    let next (cs : List Char) : List Part :=
      let front := cs.takeWhile (· ≠ ':')
      let rest := cs.drop front.length
      if !assigned || rest.isEmpty then [.text (String.ofList cs) false]
      else .text (String.ofList front ++ ":") false
        :: tildesIn m assigned goesOn fuel true rest.tail
    match start, cs with
    | true, '~' :: rest =>
      let name := rest.takeWhile fun c => !ends c
      let after := rest.drop name.length
      match if goesOn && after.isEmpty then none else homeOf? m (String.ofList name) with
      | some home => .text home true :: next after
      | none => next cs
    | _, cs => if cs.isEmpty then [] else next cs

/-- The word with tildes replaced. -/
def replaceTildes (m : Machine) (assigned : Bool) : (start : Bool) → Word → Word
  | _, [] => []
  | start, .text s false :: rest =>
    if s.toList.contains '~' then
      tildesIn m assigned (!rest.isEmpty) (s.length + 1) start s.toList
        ++ replaceTildes m assigned (assigned && s.toList.getLast? == some ':') rest
    else .text s false
      :: replaceTildes m assigned (assigned && s.toList.getLast? == some ':') rest
  | _, part :: rest => part :: replaceTildes m assigned false rest

/-! ## Parts of words -/

/-- The text without newlines at its end. -/
def dropNewlines (text : String) : String :=
  String.ofList (text.toList.reverse.dropWhile (· == '\n')).reverse

/-- The output of a script, which runs in a process of its own. -/
def outputOf (inner : Level) (script : String) (line : Nat) (ticked : Bool) : Run String := do
  let outer ← get
  let start := if line = 0 then outer.line else line
  let run : Run Unit := do
    let b ← Run.newBuffer (.ofBytes .empty)
    Run.setChannel 1 (.buffer b)
    let aliases := (← get).aliases
    let text := Remaining.ofText start script
    match readInside aliases text ticked with
    | .error m =>
      let (e, line) := text.verdict aliases m
      modify fun m => { m with line }
      Run.fail e.message
    | .ok c => (inner ()).command ⟨false, true⟩ c
  let number := (← get).world.buffers.size
  let exit ← inside inner run
  reportExit exit
  modify fun m => { m with inner := exit.status }
  handleSignals inner
  let text := Text.ofOctets ((← get).world.bufferBytes number)
  return dropNewlines (String.ofList (text.toList.filter (· ≠ '\x00')))

/-- The value of an arithmetic expression. -/
def valueOf (inner : Level) (text : String) : Run String := do
  match wordOf (some .arithmetic) (← get).line text with
  | .error e => Run.fail e.message
  | .ok w =>
    let expression := joinChunks (← (inner ()).chunks false w)
    let m ← get
    match Arithmetic.evaluate m.value? expression with
    | .error wrong => Run.fail (wrong.message expression)
    | .ok (n, changes) =>
      changes.reverse.forM fun p => Run.setVar p.1 (toString p.2)
      return toString n

/-- The chunks of a word inside an expansion.  Outside quotes its own text can be cut as well. -/
def insideChunks (inner : Level) (split quoted : Bool) (word : String) : Run (List Chunk) := do
  match wordOf (if quoted then some .braces else none) (← get).line word with
  | .error e => Run.fail e.message
  | .ok w =>
    let m ← get
    let w := if quoted then w else replaceTildes m false true w
    let chunks ← (inner ()).chunks split w
    return if !split || quoted then chunks
      else chunks.map fun
        | .text s false => .value s
        | chunk => chunk

/-- The chunks of a parameter that an operator changes. -/
def changedChunks (inner : Level) (split : Bool) (name op word : String) (quoted : Bool) :
    Run (List Chunk) := do
  let m ← get
  let value := parameter? m name
  let present := if op.startsWith ":" then value.any (!·.isEmpty) else value.isSome
  let own : List Chunk := parameterChunks m split name quoted
  let whole : Run String := do
    return joinChunks (← insideChunks inner false quoted word)
  match if op.startsWith ":" then String.ofList op.toList.tail else op with
  | "-" => if present then return own else insideChunks inner split quoted word
  | "\x7d" => return own ++ (← insideChunks inner split quoted word)
  | "+" => if present then insideChunks inner split quoted word else return [valueChunk quoted ""]
  | "=" =>
    if present then return own
    let text ← whole
    Run.setVar name text
    return [valueChunk quoted text]
  | "?" =>
    if present then return own
    let text ← whole
    let missing := if op == "?" then "parameter not set" else "parameter not set or null"
    Run.fail (name ++ ": " ++ if word.isEmpty then missing else text)
  | op =>
    requireSet name
    let pattern := patternOf (← insideChunks inner false false word)
    let texts := if isEach split name quoted then m.args else [value.getD ""]
    let longest := op.length = 2
    let cut := if op.startsWith "#" then dropFronts else dropEnds
    return argChunks quoted (cut longest pattern texts)

/-- The chunks of a part of a word. -/
def partChunks (inner : Level) (split : Bool) (part : Part) : Run (List Chunk) := do
  match part with
  | .text s quoted => return [.text s quoted]
  | .malformed => Run.fail "Bad substitution"
  | .parameter name .plain quoted =>
    requireSet name
    return parameterChunks (← get) split name quoted
  | .parameter name .length quoted =>
    requireSet name
    return [valueChunk quoted (toString ((parameter? (← get) name).getD "").length)]
  | .parameter name (.changed op word) quoted => changedChunks inner split name op word quoted
  | .output script line ticked quoted =>
    return [valueChunk quoted (← outputOf inner script line ticked)]
  | .arithmetic text quoted => return [valueChunk quoted (← valueOf inner text)]

/-- The chunks of a word. -/
def wordChunks (inner : Level) (split : Bool) (w : Word) : Run (List Chunk) := do
  let parts ← w.mapM (partChunks inner split)
  return parts.flatten

/-! ## Words -/

/-- The text of a word that stays together. -/
def expandText (inner : Level) (assigned : Bool) (w : Word) : Run String := do
  return joinChunks (← wordChunks inner false (replaceTildes (← get) assigned true w))

/-- The pattern that a word writes. -/
def expandPattern (inner : Level) (w : Word) : Run Field := do
  return patternOf (← wordChunks inner false (replaceTildes (← get) false true w))

/-- The texts of a word, which can be several or none. -/
def expandFields (inner : Level) (w : Word) : Run (List String) := do
  let chunks ← wordChunks inner true (replaceTildes (← get) false true w)
  let m ← get
  let fields := fieldsOf m.separators chunks
  return if m.options.contains 'f' then fields.map fieldText
    else fields.flatMap (pathsOf m.world.disk m.dir)

end PipeShell.Script
