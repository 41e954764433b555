import PipeShell.Toolbox.Script.Builtin

/-!
# Commands about variables

Marking, removing and listing variables, the arguments of a script and its options, and the commands
that read lines and options into variables.
-/

namespace PipeShell.Script

/-! ## Marks -/

/-- The name of an assignment, and its value if it has one. -/
def cutAssignment (text : String) : String × Option String :=
  match Text.cutText '=' text with
  | some (name, value) => (name, some value)
  | none => (text, none)

/-- Changes a variable, with a value or without one. -/
def markVar (change : Variable → Variable) (text : String) : Run Unit := do
  let (name, value) := cutAssignment text
  if !isValidName name then Run.fail (name ++ ": bad variable name")
  match value with
  | none => Run.changeVar name change
  | some value =>
    Run.setVar name value
    Run.changeVar name change

/-- The lines that list the variables with a mark. -/
def markedVars (m : Machine) (command : String) (has : Variable → Bool) : String :=
  String.join ((m.vars.toList.filter fun p => has p.2).map fun p =>
    command ++ " " ++ (match p.2.value with
      | some value => assignmentText p.1 value
      | none => p.1) ++ "\n")

/-- Marks variables, or lists those that are marked. -/
def mark (command : String) (change : Variable → Variable) (has : Variable → Bool) : BuiltIn :=
  fun args => do
    let (opts, names) ← options ['p'] [] args
    if names.isEmpty || !opts.isEmpty then Run.say (markedVars (← get) command has)
    else
      names.forM (markVar change)
      Run.setStatus 0

/-- Makes variables known to programs. -/
def exportVars : BuiltIn :=
  mark "export" (fun v => { v with exported := true }) (·.exported)

/-- Makes variables constant. -/
def fixVars : BuiltIn :=
  mark "readonly" (fun v => { v with constant := true }) (·.constant)

/-- Makes variables local to the function. -/
def localVars : BuiltIn := fun args => do
  if (← get).calls = 0 then Run.fail "not in a function"
  args.forM fun arg => do
    let (name, value) := cutAssignment arg
    if name == "-" && value.isNone then
      Run.keepOptions
      return
    if !isValidName name then Run.fail (name ++ ": bad variable name")
    Run.keepVar name
    value.forM (Run.setVar name)
  Run.setStatus 0

/-- Removes variables or functions. -/
def unset : BuiltIn := fun args => do
  let (opts, names) ← options ['v', 'f'] [] args
  let functions := opts.getLast?.any (·.1 == 'f')
  names.forM fun name => do
    let m ← get
    if functions then set { m with functions := m.functions.erase name }
    else
      if !isValidName name then Run.fail (name ++ ": bad variable name")
      if (m.vars.get? name).any (·.constant) then Run.fail (name ++ ": is read only")
      set { m with
        vars := m.vars.erase name
        tracked := if name == "PATH" then [] else m.tracked }
  Run.setStatus 0

/-! ## Options and arguments of the script -/

/-- The options with their names and letters, in the order of listings.  The last two can only be
called by their names. -/
def optionNames : List (String × Char) :=
  [("errexit", 'e'), ("noglob", 'f'), ("ignoreeof", 'I'), ("interactive", 'i'), ("monitor", 'm'),
   ("noexec", 'n'), ("stdin", 's'), ("xtrace", 'x'), ("verbose", 'v'), ("vi", 'V'), ("emacs", 'E'),
   ("noclobber", 'C'), ("allexport", 'a'), ("notify", 'b'), ("nounset", 'u'), ("privileged", 'p'),
   ("nolog", '\x01'), ("debug", '\x02')]

/-- The letters that options can be called by. -/
def settableLetters : List Char := (optionNames.map Prod.snd).filter Char.isAlpha

/-- The letters of options that are on. -/
def optionLetters (m : Machine) : String :=
  String.ofList (settableLetters.reverse.filter m.options.contains)

/-- Switches an option.  Job control takes a terminal, which is looked for when a script asks for it
that was not forked off. -/
def switch (on : Bool) (letter : Char) : Run Unit := do
  let m ← get
  let others := m.options.filter (· ≠ letter)
  if on && letter == 'm' && m.process = m.origin then
    Run.complain "can't access tty; job control turned off"
  else set { m with options := if on then letter :: others else others }

/-- Switches the options of these letters. -/
def switchLetters (on : Bool) (letters : List Char) : Run Unit :=
  letters.forM fun c =>
    if settableLetters.contains c then switch on c
    else Run.fail ("Illegal option -" ++ c.toString)

/-- Switches an option by its name. -/
def switchNamed (on : Bool) (name : String) : Run Unit :=
  match optionNames.lookup name with
  | some letter => switch on letter
  | none => Run.fail ("Illegal option -o " ++ name)

/-- The lines that list all options, of which some are on. -/
def listOptions (options : List Char) (on : Bool) : String :=
  let row (p : String × Char) : String :=
    let isOn := options.contains p.2
    if on then Text.padRight 16 p.1 ++ (if isOn then "on" else "off") ++ "\n"
    else "set " ++ (if isOn then "-" else "+") ++ "o " ++ p.1 ++ "\n"
  (if on then "Current option settings\n" else "") ++ String.join (optionNames.map row)

/-- Carries out the options at the front of arguments.  What is left of the arguments, and whether
they take the place of those of the script. -/
def applyOptions : (fuel : Nat) → List String → Run (List String × Bool)
  | 0, args => pure (args, false)
  | fuel + 1, args => do
    match args with
    | [] => return ([], false)
    | arg :: rest =>
      let go (on : Bool) (letters : List Char) : Run (List String × Bool) := do
        let named := letters.contains 'o'
        switchLetters on (letters.filter (· ≠ 'o'))
        match named, rest with
        | true, [] => Run.say (listOptions (← get).options on); return ([], false)
        | true, name :: rest => switchNamed on name; applyOptions fuel rest
        | false, rest => applyOptions fuel rest
      match arg.toList with
      | ['-'] => switch false 'x'; switch false 'v'; return (rest, !rest.isEmpty)
      | ['-', '-'] => return (rest, true)
      | '-' :: letters => go true letters
      | '+' :: letters => go false letters
      | _ => return (args, true)

/-- The lines that list all variables. -/
def listVars (m : Machine) : String :=
  String.join (m.vars.toList.filterMap fun p =>
    p.2.value.map fun value => assignmentText p.1 value ++ "\n")

/-- Sets options and arguments, or lists all variables. -/
def setOptions : BuiltIn := fun args => do
  if args.isEmpty then Run.say (listVars (← get))
  else
    Run.setStatus 0
    let (rest, replaced) ← applyOptions (args.length + 1) args
    if replaced then
      modify fun m => { m with args := rest, optionIndex := 1, optionPlace := 0 }

/-- Drops arguments of the script. -/
def shift : BuiltIn := fun args => do
  let n ← args.head?.elim (pure 1) number
  let m ← get
  if m.args.length < n then Run.fail "can't shift that many"
  set { m with args := m.args.drop n, optionIndex := 1, optionPlace := 0 }
  Run.setStatus 0

/-! ## Reading -/

/-- The characters of a line, each with whether it can separate words; whether the line goes on
after its end.  A backslash takes the meaning from the character after it. -/
def markLine (raw : Bool) : List Char → List (Char × Bool) × Bool
  | [] => ([], false)
  | ['\\'] => if raw then ([('\\', true)], false) else ([], true)
  | c :: d :: cs =>
    if c == '\\' && !raw then
      let (more, goesOn) := markLine raw cs
      ((d, false) :: more, goesOn)
    else
      let (more, goesOn) := markLine raw (d :: cs)
      ((c, true) :: more, goesOn)
  | [c] => ([(c, true)], false)

/-- Takes lines from the standard input until one does not go on; whether the last one was ended. -/
def takeLines (raw : Bool) : (fuel : Nat) → Run (List (Char × Bool) × Bool)
  | 0 => pure ([], false)
  | fuel + 1 => do
    let m ← get
    let channel := m.channel? 0
    let (line, ended, world) := m.world.takeLine channel
    if !ended && m.world.leadsTo (·.cut) channel then
      throw (.blocked (channel.elim 0 Channel.number))
    let time := m.world.timeOf (line.size + 1) channel
    set { m with world }
    Run.waitUntil time
    let (marked, goesOn) := markLine raw ((Text.ofOctets line).toList.filter (· ≠ '\x00'))
    if goesOn && ended then
      let (more, ended) ← takeLines raw fuel
      return (marked ++ more, ended)
    else return (marked, ended)

/-- The most lines that can be taken as one. -/
def lineLimit : Nat := 100000

/-- Reads a line into variables. -/
def readVars : BuiltIn := fun args => do
  let (opts, names) ← options ['r'] ['p'] args
  if names.isEmpty then Run.fail "arg count"
  let (line, ended) ← takeLines (opts.any (·.1 == 'r')) lineLimit
  let values := wordsOfLine (← get).separators names.length line
  (names.zip values).forM fun p => Run.setVar p.1 p.2
  Run.setStatus (if ended then 0 else 1)

/-- The letter's option in a list of options, in which a colon stands behind an option with a value;
whether it takes one. -/
def optionRule? (letter : Char) : List Char → Option Bool
  | [] => none
  | c :: cs => if c == letter then some (cs.head? == some ':') else optionRule? letter cs

/-- The next option among arguments: the option as the script gets it, its value if that is to be
set or removed, and the place to go on; `quiet` lists leave complaints to the script. -/
structure NextOption where
  letter : String
  value : Option (Option String)
  complaint : Option String
  index : Nat
  place : Nat
  done : Bool

/-- The next option among arguments. -/
def nextOption (list : String) (args : List String) (index place : Nat) : NextOption :=
  let quiet := list.toList.head? == some ':'
  let current := if index ≤ 1 || place = 0 then []
    else ((args.getD (index - 2) "").toList).drop place
  let ended (index : Nat) : NextOption := ⟨"?", none, none, index, 0, true⟩
  let read (c : Char) (rest : List Char) (index place : Nat) : NextOption :=
    let goOn := place + 1
    match optionRule? c list.toList with
    | none =>
      if quiet then ⟨"?", some (some c.toString), none, index, goOn, false⟩
      else ⟨"?", some none, some ("Illegal option -" ++ c.toString ++ "\n"), index, goOn, false⟩
    | some false => ⟨c.toString, some (some ""), none, index, goOn, false⟩
    | some true =>
      match rest, args[index - 1]? with
      | [], none =>
        if quiet then ⟨":", some (some c.toString), none, index, 0, false⟩
        else ⟨"?", some none, some ("No arg for -" ++ c.toString ++ " option\n"), index, 0, false⟩
      | [], some value => ⟨c.toString, some (some value), none, index + 1, 0, false⟩
      | rest, _ => ⟨c.toString, some (some (String.ofList rest)), none, index, 0, false⟩
  match current with
  | c :: rest => read c rest index place
  | [] =>
    match (args[index - 1]?).map String.toList with
    | some ['-', '-'] => ended (index + 1)
    | some ('-' :: c :: rest) => read c rest (index + 1) 1
    | _ => ended index

/-- Reads the next option of the script's arguments, or of its own, into a variable. -/
def readOption : BuiltIn := fun args => do
  let (_, args) ← options [] [] args
  match args with
  | list :: name :: own => do
    let m ← get
    let given := if own.isEmpty then m.args else own
    let fresh := given.length + 1 < m.optionIndex
    let next := nextOption list given (if fresh then 1 else m.optionIndex)
      (if fresh then 0 else m.optionPlace)
    next.complaint.forM Run.report
    match next.value with
    | some (some value) => Run.setVar "OPTARG" value
    | some none => modify fun m => { m with vars := m.vars.erase "OPTARG" }
    | none => pure ()
    Run.setVar "OPTIND" (toString next.index)
    Run.setVar name next.letter
    modify fun m => { m with optionIndex := next.index, optionPlace := next.place }
    Run.setStatus (if next.done then 1 else 0)
  | _ => Run.fail "Usage: getopts optstring var [arg...]"

end PipeShell.Script
