import PipeShell.Decimal.Numeral
import PipeShell.Toolbox.Job

/-!
# Arguments of tools

Tools take options and operands in any order.  An option is a letter behind a dash or a word behind
two, and a word may be cut short as long as it is clear which one is meant.

Options are read one by one: what is wrong with the third one shows only when the first two were
fine.  So `Arguments.read` returns all that it could read together with what stopped it.
-/

namespace PipeShell.Toolbox

/-- Whether an option takes a value. -/
inductive Taking where
  | nothing
  | value
  /-- A word can have a value behind an equals sign. -/
  | maybe
deriving Repr, DecidableEq

/-- An option of a tool. -/
structure OptionForm where
  /-- What it is known by: its letter, if it has one. -/
  key : String
  /-- Its word, which is empty if it has none. -/
  word : String
  takes : Taking
deriving Repr, DecidableEq

/-- Why arguments were refused. -/
inductive ArgumentError where
  | unknown (letter : Char)
  | missing (letter : Char)
  | unrecognized (written : String)
  | ambiguous (written : String) (words : List String)
  | unwanted (word : String)
  | missingFor (word : String)
deriving Repr, DecidableEq

/-- The text shown to the user. -/
def ArgumentError.message : ArgumentError → String
  | unknown c => "invalid option -- '" ++ c.toString ++ "'"
  | missing c => "option requires an argument -- '" ++ c.toString ++ "'"
  | unrecognized s => "unrecognized option '" ++ s ++ "'"
  | ambiguous s words =>
    "option '" ++ s ++ "' is ambiguous; possibilities:"
      ++ String.join (words.map fun w => " '--" ++ w ++ "'")
  | unwanted word => "option '--" ++ word ++ "' doesn't allow an argument"
  | missingFor word => "option '--" ++ word ++ "' requires an argument"

/-- An option or an operand. -/
inductive Argument where
  | option (key : String) (value : Option String)
  | operand (text : String)
deriving Repr, DecidableEq

/-- The arguments of a tool, up to one that is refused. -/
structure Arguments where
  items : List Argument
  fault : Option ArgumentError

namespace Arguments

/-- The options with their values. -/
def options (a : Arguments) : List (String × Option String) :=
  a.items.filterMap fun
    | .option key value => some (key, value)
    | .operand _ => none

/-- The operands. -/
def operands (a : Arguments) : List String :=
  a.items.filterMap fun
    | .operand text => some text
    | .option _ _ => none

/-- Some option of these is given. -/
def has (a : Arguments) (keys : List String) : Bool := a.options.any fun o => keys.contains o.1

/-- The arguments with more in front. -/
def cons (items : List Argument) (a : Arguments) : Arguments := { a with items := items ++ a.items }

/-- Nothing but a fault. -/
def failed (e : ArgumentError) : Arguments := ⟨[], some e⟩

/-- The options that a word means: the one that has it, or all that begin with it. -/
def meant (forms : List OptionForm) (word : String) : List OptionForm :=
  match forms.find? fun f => !f.word.isEmpty && f.word == word with
  | some f => [f]
  | none => forms.filter fun f => !f.word.isEmpty && f.word.startsWith word

/-- Reads the letters of an argument; the next argument can be the value of the last one.  Whether
it is used that way is given with what was read. -/
def letters (forms : List OptionForm) (next : Option String) :
    List Char → List Argument × Bool × Option ArgumentError
  | [] => ([], false, none)
  | c :: cs =>
    match forms.find? (·.key == c.toString) with
    | none => ([], false, some (.unknown c))
    | some f =>
      if f.takes = .value then
        match cs, next with
        | [], none => ([], false, some (.missing c))
        | [], some value => ([.option f.key (some value)], true, none)
        | cs, _ => ([.option f.key (some (String.ofList cs))], false, none)
      else
        let (more, used, fault) := letters forms next cs
        (.option f.key none :: more, used, fault)

/-- Reads a word with its value; whether the next argument is that value. -/
def word (forms : List OptionForm) (next : Option String) (written : String) :
    Except ArgumentError (Argument × Bool) :=
  let cs := written.toList.drop 2
  let name := String.ofList (cs.takeWhile (· ≠ '='))
  let value := if name.length < cs.length
    then some (String.ofList (cs.drop (name.length + 1))) else none
  match meant forms name with
  | [] => .error (.unrecognized written)
  | f :: others =>
    if others.any fun g => g.key != f.key then .error (.ambiguous written ((f :: others).map (·.word)))
    else
      match f.takes, value, next with
      | .nothing, some _, _ => .error (.unwanted f.word)
      | .value, none, none => .error (.missingFor f.word)
      | .value, none, some value => .ok (.option f.key (some value), true)
      | _, value, _ => .ok (.option f.key value, false)

/-- Reads arguments.  The first one is passed over with `used`.  With `first` options stand only in
front of the operands. -/
def readFrom (forms : List OptionForm) (first : Bool) : (used : Bool) → List String → Arguments
  | _, [] => ⟨[], none⟩
  | true, _ :: rest => readFrom forms first false rest
  | false, arg :: rest =>
    match arg.toList with
    | ['-', '-'] => ⟨rest.map .operand, none⟩
    | '-' :: '-' :: _ =>
      match word forms rest.head? arg with
      | .error e => failed e
      | .ok (item, used) => cons [item] (readFrom forms first used rest)
    | '-' :: c :: cs =>
      match letters forms rest.head? (c :: cs) with
      | (items, _, some e) => ⟨items, some e⟩
      | (items, used, none) => cons items (readFrom forms first used rest)
    | _ =>
      if first then ⟨(arg :: rest).map .operand, none⟩
      else cons [.operand arg] (readFrom forms first false rest)

/-- Every tool can say how it is called and which version it is. -/
def commonForms : List OptionForm := [⟨"help", "help", .nothing⟩, ⟨"version", "version", .nothing⟩]

/-- Reads the arguments of a tool with these options. -/
def read (forms : List OptionForm) (first : Bool) (args : List String) : Arguments :=
  readFrom (forms ++ commonForms) first false args

end Arguments

namespace Task

/-- Reads arguments of the tool.  What each option asks for is added to what was asked so far.
After a wrong option the tool ends with this status. -/
def arguments {α : Type} (forms : List OptionForm) (first : Bool) (status : Nat) (start : α)
    (add : α → String → Option String → Task α) (args : List String) :
    Task (α × List String) := do
  let a := Arguments.read forms first args
  let asked ← a.options.foldlM (fun asked o => do
    if o.1 == "help" || o.1 == "version" then leave 0
    add asked o.1 o.2) start
  match a.fault with
  | some e => misuse status e.message
  | none => return (asked, a.operands)

/-- The choices as a message lists them: those that mean the same stand together. -/
def choiceLines {α : Type} [BEq α] : List (String × α) → List String
  | [] => []
  | [p] => ["  - " ++ quoted p.1 ++ "\n"]
  | p :: q :: rest =>
    match choiceLines (q :: rest) with
    | [] => []
    | line :: lines =>
      if p.2 == q.2 then
        ("  - " ++ quoted p.1 ++ ", " ++ String.ofList (line.toList.drop 4)) :: lines
      else ("  - " ++ quoted p.1 ++ "\n") :: line :: lines

/-- The one of some words that an argument writes, which may be cut short as long as all that it can
be mean the same. -/
def choose {α : Type} [BEq α] (option : String) (status : Nat) (choices : List (String × α))
    (text : String) : Task α := do
  let wrong (what : String) : Task α := do
    complain (what ++ " argument " ++ quoted text ++ " for " ++ quoted option)
    report ("Valid arguments are:\n" ++ String.join (choiceLines choices))
    report ("Try '" ++ (← read).name ++ " --help' for more information.\n")
    leave status
  match choices.find? (·.1 == text), choices.filter (·.1.startsWith text) with
  | some p, _ => return p.2
  | none, p :: more => if more.all (·.2 == p.2) then return p.2 else wrong "ambiguous"
  | none, [] => wrong "invalid"

end Task

/-! ## Numbers -/

/-- A number that an argument writes, or what is wrong with it. -/
inductive SizeRead where
  | ok (n : Nat)
  | tooLarge
  | none
deriving Repr, DecidableEq

/-- The largest number. -/
def largestSize : Nat := 18446744073709551615

/-- The power of a unit. -/
def unitPower? (c : Char) : Option Nat :=
  match c with
  | 'K' => some 1
  | 'k' => some 1
  | 'M' => some 2
  | 'm' => some 2
  | 'G' => some 3
  | 'T' => some 4
  | 'P' => some 5
  | 'E' => some 6
  | 'Z' => some 7
  | 'Y' => some 8
  | 'R' => some 9
  | 'Q' => some 10
  | _ => none

/-- The factor that letters behind a number stand for. -/
def unitFactor? : List Char → Option Nat
  | [] => some 1
  | ['b'] => some 512
  | [c] => (unitPower? c).map (Nat.pow 1024)
  | [c, 'B'] => (unitPower? c).map (Nat.pow 1000)
  | [c, 'D'] => (unitPower? c).map (Nat.pow 1000)
  | [c, 'i', 'B'] => (unitPower? c).map (Nat.pow 1024)
  | _ => none

/-- A number with a unit; a unit alone stands for one of it. -/
def SizeRead.read (text : String) : SizeRead :=
  let cs := text.toList.dropWhile fun c => c == ' ' || ('\t' ≤ c && c ≤ '\r')
  let cs := match cs with
    | '+' :: rest => if (rest.headD ' ').isDigit then rest else cs
    | cs => cs
  let digits := cs.takeWhile Char.isDigit
  let unit := cs.drop digits.length
  if digits.isEmpty && unit.isEmpty then .none
  else
    match unitFactor? unit with
    | Option.none => .none
    | some factor =>
      let n := (if digits.isEmpty then 1 else Decimal.digitsValue digits) * factor
      if largestSize < n then .tooLarge else .ok n

end PipeShell.Toolbox
