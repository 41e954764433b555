import PipeShell.Toolbox.Script.Lexeme

/-!
# Commands of scripts

A script is a list of lines, each a command that is run before the next line is read.  `nextLine?`
reads one.  The reader goes down the grammar with one function per level: lists, and-or lists,
pipelines, commands.  Each takes lexemes from the front of those that are left.

Words of the grammar and aliases are looked for where a command can begin.  An alias is replaced by
its lexemes; inside these its own name has no meaning, so that the replacement ends.
-/

namespace PipeShell.Script

/-- A redirection: the number of a channel, an operator, and a word. -/
structure Redirect where
  number : Nat
  operator : String
  target : Word
deriving Repr, DecidableEq

/-- A command with a name, or assignments without one. -/
structure Simple where
  /-- The line of the script that the command is on. -/
  line : Nat
  assignments : List (String × Word)
  words : List Word
  redirects : List Redirect
deriving Repr, DecidableEq

/-- A command. -/
inductive Command where
  | nothing
  | simple (c : Simple)
  | pipeline (commands : List Command)
  | negated (c : Command)
  | both (first second : Command)
  | either (first second : Command)
  | sequence (commands : List Command)
  | background (line : Nat) (c : Command)
  | choice (condition consequence : Command) (otherwise : Option Command)
  | loop (negated : Bool) (condition body : Command)
  | each (line : Nat) (name : String) (words : Option (List Word)) (body : Command)
  | select (line : Nat) (word : Word) (branches : List (List Word × Command))
  | redirected (line : Nat) (body : Command) (redirects : List Redirect)
  | subshell (line : Nat) (body : Command) (redirects : List Redirect)
  | define (line : Nat) (name : String) (body : Command)

/-- A lexeme of a script that is being read. -/
structure Item where
  lexeme : Lexeme
  line : Nat
  /-- The aliases that the lexeme came from. -/
  origins : List String
  /-- An alias is looked for here although no command begins. -/
  expand : Bool
  /-- This cannot be a word of the grammar. -/
  plain : Bool

/-- The lexemes that are left. -/
abbrev Items := List Item

/-- What a reader needs to know besides the lexemes. -/
structure Reading where
  aliases : List (String × String)
  /-- The line on which the script ends. -/
  last : Nat

/-- What is wrong with a script on some line, and how many of its lexemes are left there. -/
structure Misread where
  error : ScriptError
  line : Nat
  left : Nat

/-- A reader of the lexemes that are left. -/
abbrev Reader := ReaderT Reading (StateT Items (Except Misread))

/-! ## Single lexemes -/

/-- The words of the grammar. -/
def reserved : List String :=
  ["!", "case", "do", "done", "elif", "else", "esac", "fi", "for", "if", "in", "then", "until",
   "while", "\x7b", "\x7d"]

/-- The names of the special commands, for which no function can stand in. -/
def specialNames : List String :=
  [".", ":", "break", "continue", "eval", "exec", "exit", "export", "local", "readonly", "return",
   "set", "shift", "times", "trap", "unset"]

/-- A word of the grammar or an operator as messages show it. -/
def shown (s : String) : String := "\"" ++ s ++ "\""

/-- A lexeme as a message shows it. -/
def Lexeme.describe (keywords : Bool) : Lexeme → String
  | word w =>
    match bareText? w with
    | some s => if keywords && reserved.contains s then shown s else "word"
    | none => "word"
  | operator s => shown s
  | redirect _ _ => "redirection"
  | newline => "newline"

namespace Reader

/-- The line that has been reached when the lexeme at the front is known. -/
def reached : Reader Nat := do
  match (← get).head? with
  | none => return (← read).last
  | some i => return if i.lexeme == .newline then i.line + 1 else i.line

/-- Something is wrong, which shows on some line. -/
def wrong {α : Type} (e : ScriptError) (line : Nat) : Reader α := do
  throw ⟨e, line, (← get).length⟩

/-- The lexeme at the front is not what has to be there. -/
def unexpected {α : Type} (keywords : Bool) (expecting : Option String) : Reader α := do
  let found : ScriptError := match (← get).head? with
    | none => .unfinished expecting
    | some i => .unexpected (i.lexeme.describe (keywords && !i.plain)) expecting
  wrong found (← reached)

/-- The lexeme at the front. -/
def peek : Reader (Option Lexeme) := do
  return (← get).head?.map (·.lexeme)

/-- The lexeme at the front is left behind. -/
def skip : Reader Unit := modify List.tail

/-- The newlines at the front are left behind. -/
def skipNewlines : Reader Unit :=
  modify fun ls => ls.dropWhile (·.lexeme == .newline)

/-- The line of the lexeme at the front. -/
def currentLine : Reader Nat := do
  return ((← get).head?.map (·.line)).getD (← read).last

/-- The word of the grammar at the front. -/
def keyword? : Reader (Option String) := do
  match (← get).head? with
  | some ⟨.word w, _, _, _, false⟩ => return (bareText? w).filter reserved.contains
  | _ => return none

/-- The operator at the front. -/
def operator? : Reader (Option String) := do
  match ← peek with
  | some (.operator s) => return some s
  | _ => return none

/-- Takes a word of the grammar that has to be at the front. -/
def expectKeyword (k : String) : Reader Unit := do
  if (← keyword?) == some k then skip else unexpected true (some (shown k))

/-- Takes an operator that has to be at the front. -/
def expectOperator (keywords : Bool) (op : String) : Reader Unit := do
  if (← operator?) == some op then skip else unexpected keywords (some (shown op))

/-- The lexemes of an alias, for its place in a script. -/
def aliasItems (name body : String) (item : Item) : Items :=
  (lexemes 1 body).1.map fun l => ⟨l.1, item.line, name :: item.origins, false, false⟩

/-- The lexemes with an alias for the next word looked for. -/
def markNext : Items → Items
  | [] => []
  | i :: rest => { i with expand := true } :: rest

/-- Puts the lexemes of an alias in the place of its name, as often as there is one at the front. -/
def expandAliases : (fuel : Nat) → Reader Unit
  | 0 => return
  | fuel + 1 => do
    match ← get with
    | [] => return
    | i :: rest =>
      match i.lexeme with
      | .word w =>
        let name := (bareText? w).getD ""
        match (← read).aliases.lookup name with
        | none => return
        | some body =>
          if i.origins.contains name then return
          let blank := body.toList.getLast? == some ' ' || body.toList.getLast? == some '\t'
          set (aliasItems name body i ++ if blank then markNext rest else rest)
          expandAliases fuel
      | _ => return

/-- Enough for all replacements in one place. -/
def aliasDepth : Nat := 100

/-! ## Simple commands -/

/-- The assignment that a word writes. -/
def assignment? (w : Word) : Option (String × Word) :=
  match w with
  | .text s false :: rest =>
    let name := s.toList.takeWhile (· ≠ '=')
    if name.length < s.length && isNameChars name then
      let value := String.ofList (s.toList.drop (name.length + 1))
      some (String.ofList name, if value.isEmpty then rest else .text value false :: rest)
    else none
  | _ => none

/-- The channel that a redirection operator is about when no number is written. -/
def defaultChannel (op : String) : Nat :=
  if op.startsWith "<" then 0 else 1

/-- Takes a redirection, if there is one. -/
def redirect? : Reader (Option Redirect) := do
  match ← peek with
  | some (.redirect number op) =>
    skip
    match ← peek with
    | some (.word w) =>
      skip
      return some ⟨number.getD (defaultChannel op), op, w⟩
    | _ => unexpected false none
  | _ => return none

/-- Takes the redirections at the front. -/
def redirects : (fuel : Nat) → Reader (List Redirect)
  | 0 => return []
  | fuel + 1 => do
    match ← redirect? with
    | none => return []
    | some r => return r :: (← redirects fuel)

/-- Takes the redirections behind a command that ends with a word of the grammar.  No such word can
stand right behind them. -/
def closingRedirects (fuel : Nat) : Reader (List Redirect) := do
  let rs ← redirects fuel
  if !rs.isEmpty then
    modify fun
      | [] => []
      | i :: rest => { i with plain := true } :: rest
  return rs

/-- Takes the words at the front. -/
def words : (fuel : Nat) → Reader (List Word)
  | 0 => return []
  | fuel + 1 => do
    match ← peek with
    | some (.word w) => skip; return w :: (← words fuel)
    | _ => return []

/-- A function can have this name. -/
def isFunctionName (name : String) : Bool :=
  isValidName name && !specialNames.contains name

/-! ## Commands -/

/-- Where a list of commands stands. -/
inductive ListPlace where
  /-- On a line of the script. -/
  | line
  /-- In another command. -/
  | nested
  /-- In another command, and it may be empty. -/
  | branch
deriving Repr, DecidableEq

/-- The words that end a list of commands. -/
def listEnds : List String :=
  ["then", "else", "elif", "fi", "do", "done", "esac", "\x7d"]

/-- No more command can begin here. -/
def atListEnd : Reader Bool := do
  match ← operator? with
  | some op => return op == ")" || op == ";;"
  | none => return (← keyword?).any listEnds.contains

/-- The command of a list. -/
def ofList : List Command → Command
  | [] => .nothing
  | [c] => c
  | cs => .sequence cs

mutual

/-- A list of commands, after those that were read already. -/
def list (fuel : Nat) (place : ListPlace) (checkEnd : Bool) (done : List Command) :
    Reader Command :=
  match fuel with
  | 0 => unexpected true none
  | fuel + 1 => do
    if place != .line then skipNewlines
    match ← peek with
    | none => return ofList done.reverse
    | some .newline => skip; return ofList done.reverse
    | _ =>
      if checkEnd && place != .line && (← atListEnd) then return ofList done.reverse
      let line ← currentLine
      let c ← andOr fuel
      match ← peek with
      | none => return ofList (c :: done).reverse
      | some .newline => list fuel place true (c :: done)
      | some (.operator "&") => skip; list fuel place true (.background line c :: done)
      | some (.operator ";") => skip; list fuel place true (c :: done)
      | _ => if place == .line then unexpected true none else return ofList (c :: done).reverse

/-- Pipelines joined by `&&` and `||`. -/
def andOr (fuel : Nat) : Reader Command :=
  match fuel with
  | 0 => unexpected true none
  | fuel + 1 => do
    let c ← pipeline fuel
    andOrFrom fuel c

/-- The rest of an and-or list. -/
def andOrFrom (fuel : Nat) (c : Command) : Reader Command :=
  match fuel with
  | 0 => unexpected true none
  | fuel + 1 => do
    match ← operator? with
    | some "&&" =>
      skip
      skipNewlines
      let d ← pipeline fuel
      andOrFrom fuel (.both c d)
    | some "||" =>
      skip
      skipNewlines
      let d ← pipeline fuel
      andOrFrom fuel (.either c d)
    | _ => return c

/-- Commands joined by pipes, perhaps negated. -/
def pipeline (fuel : Nat) : Reader Command :=
  match fuel with
  | 0 => unexpected true none
  | fuel + 1 => do
    if (← keyword?) == some "!" then
      skip
      return .negated (← piped fuel)
    else piped fuel

/-- Commands joined by pipes. -/
def piped (fuel : Nat) : Reader Command :=
  match fuel with
  | 0 => unexpected true none
  | fuel + 1 => do
    let c ← command fuel
    if (← operator?) != some "|" then return c
    skip
    skipNewlines
    match ← piped fuel with
    | .pipeline ds => return .pipeline (c :: ds)
    | d => return .pipeline [c, d]

/-- A command. -/
def command (fuel : Nat) : Reader Command :=
  match fuel with
  | 0 => unexpected true none
  | fuel + 1 => do
    if (← keyword?).isNone then expandAliases aliasDepth
    let line ← currentLine
    let wrapped (c : Command) : Reader Command := do
      let rs ← closingRedirects fuel
      return if rs.isEmpty then c else .redirected line c rs
    match ← operator?, ← keyword? with
    | some "(", _ =>
      skip
      let body ← list fuel .nested false []
      expectOperator true ")"
      return .subshell line body (← closingRedirects fuel)
    | none, some "\x7b" =>
      skip
      let body ← list fuel .nested false []
      expectKeyword "\x7d"
      wrapped body
    | none, some "if" => skip; wrapped (← choice fuel)
    | none, some "while" => skip; wrapped (← loop fuel false)
    | none, some "until" => skip; wrapped (← loop fuel true)
    | none, some "for" => skip; wrapped (← each fuel)
    | none, some "case" => skip; wrapped (← select fuel)
    | none, none =>
      match ← peek with
      | some (.word _) => simple fuel ⟨line, [], [], []⟩
      | some (.redirect _ _) => simple fuel ⟨line, [], [], []⟩
      | _ => unexpected true none
    | _, _ => unexpected true none

/-- A simple command, from what was read of it already, or the definition of a function. -/
def simple (fuel : Nat) (c : Simple) : Reader Command :=
  match fuel with
  | 0 => unexpected true none
  | fuel + 1 => do
    match (← get).head? with
    | some i => if c.words.isEmpty || i.expand then expandAliases aliasDepth
    | none => pure ()
    match ← redirect? with
    | some r => simple fuel { c with redirects := c.redirects ++ [r] }
    | none =>
      match ← peek with
      | some (.word w) =>
        skip
        match if c.words.isEmpty then assignment? w else none with
        | some a => simple fuel { c with assignments := c.assignments ++ [a] }
        | none => simple fuel { c with words := c.words ++ [w] }
      | some (.operator "(") =>
        match c.words, c.assignments, c.redirects with
        | [w], [], [] =>
          skip
          if (← operator?) != some ")" then unexpected false (some (shown ")"))
          let line ← currentLine
          skip
          let name := (bareText? w).getD ""
          if !isFunctionName name then wrong .badFunctionName line
          skipNewlines
          return .define line name (← command fuel)
        | _, _, _ => return .simple c
      | _ => return .simple c

/-- The rest of a choice after `if` or `elif`. -/
def choice (fuel : Nat) : Reader Command :=
  match fuel with
  | 0 => unexpected true none
  | fuel + 1 => do
    let condition ← list fuel .nested false []
    expectKeyword "then"
    let consequence ← list fuel .nested false []
    match ← keyword? with
    | some "elif" => skip; return .choice condition consequence (some (← choice fuel))
    | some "else" =>
      skip
      let otherwise ← list fuel .nested false []
      expectKeyword "fi"
      return .choice condition consequence (some otherwise)
    | _ =>
      expectKeyword "fi"
      return .choice condition consequence none

/-- The rest of a loop after `while` or `until`. -/
def loop (fuel : Nat) (negated : Bool) : Reader Command :=
  match fuel with
  | 0 => unexpected true none
  | fuel + 1 => do
    let condition ← list fuel .nested false []
    return .loop negated condition (← body fuel)

/-- The rest of a loop after `for`. -/
def each (fuel : Nat) : Reader Command :=
  match fuel with
  | 0 => unexpected true none
  | fuel + 1 => do
    let line ← currentLine
    let name := match ← peek with
      | some (.word w) => (bareText? w).getD ""
      | _ => ""
    if !isValidName name then wrong .badLoopVariable (← reached)
    skip
    skipNewlines
    if (← keyword?) == some "in" then
      skip
      let ws ← words fuel
      match ← peek with
      | some .newline => skip
      | some (.operator ";") => skip
      | _ => unexpected false none
      skipNewlines
      return .each line name (some ws) (← body fuel)
    else
      if (← operator?) == some ";" then skip
      skipNewlines
      return .each line name none (← body fuel)

/-- The rest of a choice after `case`. -/
def select (fuel : Nat) : Reader Command :=
  match fuel with
  | 0 => unexpected true none
  | fuel + 1 => do
    let line ← currentLine
    match ← peek with
    | some (.word w) =>
      skip
      skipNewlines
      expectKeyword "in"
      return .select line w (← branches fuel)
    | _ => unexpected false (some "word")

/-- The branches of a choice, up to its end. -/
def branches (fuel : Nat) : Reader (List (List Word × Command)) :=
  match fuel with
  | 0 => unexpected true none
  | fuel + 1 => do
    skipNewlines
    if (← keyword?) == some "esac" then
      skip
      return []
    if (← operator?) == some "(" then skip
    let ps ← patterns fuel
    expectOperator false ")"
    let c ← list fuel .branch true []
    skipNewlines
    if (← keyword?) == some "esac" then
      skip
      return [(ps, c)]
    expectOperator true ";;"
    return (ps, c) :: (← branches fuel)

/-- The patterns of a branch.  Whatever stands there is taken for a pattern; what is wrong shows
when no parenthesis follows. -/
def patterns (fuel : Nat) : Reader (List Word) :=
  match fuel with
  | 0 => unexpected true none
  | fuel + 1 => do
    let w : Word := match ← peek with
      | some (.word w) => w
      | _ => []
    skip
    if (← operator?) == some "|" then
      skip
      return w :: (← patterns fuel)
    else return [w]

/-- The body of a loop. -/
def body (fuel : Nat) : Reader Command :=
  match fuel with
  | 0 => unexpected true none
  | fuel + 1 => do
    expectKeyword "do"
    let c ← list fuel .nested false []
    expectKeyword "done"
    return c

end

end Reader

/-! ## Scripts -/

/-- A script that is being run: the lexemes that are left, and what ends them. -/
structure Remaining where
  items : Items
  fault : Option (ScriptError × Nat)
  /-- The line on which the script ends. -/
  last : Nat

/-- A script before its first line, which has this number. -/
def Remaining.ofText (line : Nat) (text : String) : Remaining :=
  let (ls, fault) := lexemes line text
  ⟨ls.map fun l => ⟨l.1, l.2, [], false, false⟩, fault, line + newlines text.toList⟩

/-- Reads with enough fuel for the items. -/
def Reader.read {α : Type} (reader : (fuel : Nat) → Reader α) (aliases : List (String × String))
    (last : Nat) (items : Items) : Except Misread (α × Items) :=
  ((reader (16 * items.length + 64)).run ⟨aliases, last⟩).run items

/-- Reads a script inside a word, which is read as a whole.  Between parentheses it has to reach the
closing one; between back quotes what it does not reach does not count. -/
def Reader.inside (ticked : Bool) (fuel : Nat) : Reader Command := do
  let c ← Reader.list fuel .branch true []
  if !ticked then Reader.expectOperator true ")"
  return c

/-- How deep scripts inside scripts are looked at before they run. -/
def inspectionDepth : Nat := 20

/-- What is wrong with a text.  Where that is a script which does not end, it is the first thing
that is wrong with that script. -/
def faultOf (aliases : List (String × String)) : (depth : Nat) → ScriptError × Nat →
    ScriptError × Nat
  | depth + 1, (.openScript text, last) =>
    let script := Remaining.ofText (last - newlines text.toList) text
    match Reader.read (Reader.inside false) aliases script.last script.items with
    | .error ⟨.unexpected "end of file" e, line, _⟩ =>
      (script.fault.map (faultOf aliases depth)).getD (.unexpected "end of file" e, line)
    | .error m => (m.error, m.line)
    | .ok _ => (.openScript text, last)
  | _, wrong => wrong

/-- What is wrong with a script: what was misread, or what ended its lexemes too early. -/
def Remaining.verdict (r : Remaining) (aliases : List (String × String)) (m : Misread) :
    ScriptError × Nat :=
  match m.error with
  | .unexpected "end of file" _ =>
    (r.fault.map (faultOf aliases inspectionDepth)).getD (m.error, m.line)
  | e => (e, m.line)

/-- The lexemes that were read before something was wrong. -/
def Remaining.before (r : Remaining) (m : Misread) : Items :=
  r.items.take (r.items.length - m.left)

/-- The command of a script inside a word. -/
def readInside (aliases : List (String × String)) (script : Remaining) (ticked : Bool) :
    Except Misread Command :=
  let closing : Items := if ticked then [] else [⟨.operator ")", script.last, [], false, false⟩]
  match Reader.read (Reader.inside ticked) aliases script.last (script.items ++ closing) with
  | .error m => .error m
  | .ok (c, _) =>
    match script.fault with
    | some (_, line) => .error ⟨.unfinished none, line, 0⟩
    | none => .ok c

/-- What is wrong with the scripts inside the words of some items. -/
def faultInside? (aliases : List (String × String)) : (depth : Nat) → Items →
    Option (ScriptError × Nat)
  | 0, _ => none
  | depth + 1, items =>
    items.findSome? fun i =>
      match i.lexeme with
      | .word w =>
        w.findSome? fun
          | .output text line ticked _ =>
            let script := Remaining.ofText line text
            match readInside aliases script ticked with
            | .error m =>
              some ((faultInside? aliases depth (script.before m)).getD (script.verdict aliases m))
            | .ok _ => faultInside? aliases depth script.items
          | _ => none
      | _ => none

/-- The next line of a script and what comes after it, or what is wrong with it; nothing at the end
of the script.  Where reading breaks off for a lexeme that is none, that is what is wrong, unless
something is wrong with a script inside a word before that. -/
def Remaining.nextLine? (r : Remaining) (aliases : List (String × String)) :
    Option (Except (ScriptError × Nat) (Command × Remaining)) :=
  let inside (items : Items) : Option (ScriptError × Nat) :=
    faultInside? aliases inspectionDepth items
  let checked (c : Command) (rest : Items) : Except (ScriptError × Nat) (Command × Remaining) :=
    match inside (r.items.take (r.items.length - rest.length)) with
    | some fault => .error fault
    | none => .ok (c, { r with items := rest })
  let failed (m : Misread) : Except (ScriptError × Nat) (Command × Remaining) :=
    .error ((inside (r.before m)).getD (r.verdict aliases m))
  match r.items, r.fault with
  | [], none => none
  | [], some (_, line) => some (failed ⟨.unfinished none, line, 0⟩)
  | items, _ =>
    match Reader.read (Reader.list · .line false []) aliases r.last items with
    | .ok (c, []) =>
      match r.fault, items.getLast?.map Item.lexeme with
      | some _, some .newline => some (checked c [])
      | some (_, line), _ => some (failed ⟨.unfinished none, line, 0⟩)
      | none, _ => some (checked c [])
    | .ok (c, rest) => some (checked c rest)
    | .error m => some (failed m)

end PipeShell.Script
