import PipeShell.Text.Field
import PipeShell.Toolbox.Arguments

/-!
# Counting lines, words and bytes

`wc` counts newlines, words between white space, bytes, and the columns of the longest line.  Only
what can be printed makes a word.  The numbers stand in columns as wide as the total size of the
files needs, or seven wide when some input is no regular file; a single number for a single input
stands alone.
-/

namespace PipeShell.Toolbox

/-! ## Tallies -/

/-- What was counted. -/
structure Tally where
  lines : Nat
  words : Nat
  bytes : Nat
  /-- The columns of the longest line. -/
  longest : Nat

namespace Tally

/-- Nothing was counted. -/
def zero : Tally := ⟨0, 0, 0, 0⟩

/-- The tally of two inputs. -/
def add (s t : Tally) : Tally :=
  ⟨s.lines + t.lines, s.words + t.words, s.bytes + t.bytes, max s.longest t.longest⟩

/-- A tally that goes on inside a word or outside, in some column of a line. -/
structure Going where
  tally : Tally
  inWord : Bool
  column : Nat

/-- Words end here. -/
def Going.space (g : Going) (column : Nat) : Going := { g with inWord := false, column }

/-- A line ends here, or is written over. -/
def Going.line (g : Going) (lines : Nat) : Going :=
  { g with tally := { g.tally with
    lines := g.tally.lines + lines
    longest := max g.tally.longest g.column } }.space 0

/-- One more byte. -/
def Going.step (g : Going) (b : UInt8) : Going :=
  if b == 10 then g.line 1
  else if b == 13 || b == 12 then g.line 0
  else if b == 9 then g.space (g.column / 8 * 8 + 8)
  else if b == 32 then g.space (g.column + 1)
  else if b == 11 then g.space g.column
  else if 32 < b && b < 127 then
    let words := if g.inWord then g.tally.words else g.tally.words + 1
    ⟨{ g.tally with words }, true, g.column + 1⟩
  else g

/-- The tally of some bytes. -/
def ofBytes (data : ByteArray) : Tally :=
  { ((data.foldl Going.step ⟨zero, false, 0⟩).line 0).tally with bytes := data.size }

end Tally

/-! ## Options -/

/-- When the totals are told. -/
inductive Totals where
  | auto
  | always
  | only
  | never
deriving Repr, DecidableEq

/-- What is counted. -/
structure Counting where
  lines : Bool
  words : Bool
  chars : Bool
  bytes : Bool
  longest : Bool
  totals : Totals
  /-- The names of the inputs are read from here. -/
  names : Option String

/-- The options of `wc`. -/
def wcForms : List OptionForm :=
  [⟨"c", "bytes", .nothing⟩, ⟨"m", "chars", .nothing⟩, ⟨"l", "lines", .nothing⟩,
   ⟨"w", "words", .nothing⟩, ⟨"debug", "debug", .nothing⟩,
   ⟨"files0-from", "files0-from", .value⟩, ⟨"L", "max-line-length", .nothing⟩,
   ⟨"total", "total", .value⟩]

/-- The names of the times to tell totals. -/
def totalsChoices : List (String × Totals) :=
  [("auto", .auto), ("always", .always), ("only", .only), ("never", .never)]

/-- What an option of `wc` asks for. -/
def Counting.add (c : Counting) (key : String) (value : Option String) : Task Counting := do
  match key with
  | "c" => return { c with bytes := true }
  | "m" => return { c with chars := true }
  | "l" => return { c with lines := true }
  | "w" => return { c with words := true }
  | "L" => return { c with longest := true }
  | "files0-from" => return { c with names := value }
  | "total" =>
    return { c with totals := ← Task.choose "--total" 1 totalsChoices (value.getD "") }
  | _ => return c

/-- The numbers that are told, in their fixed order. -/
def Counting.numbers (c : Counting) (t : Tally) : List Nat :=
  let all := !(c.lines || c.words || c.chars || c.bytes || c.longest)
  (if c.lines || all then [t.lines] else []) ++ (if c.words || all then [t.words] else [])
    ++ (if c.chars then [t.bytes] else []) ++ (if c.bytes || all then [t.bytes] else [])
    ++ if c.longest then [t.longest] else []

/-- A row of numbers and the name of what was counted. -/
def Counting.row (c : Counting) (width : Nat) (t : Tally) (name : Option String) : String :=
  let columns := " ".intercalate ((c.numbers t).map fun n => Text.padLeft width (toString n))
  let shown (n : String) : String := if n.toList.contains '\n' then shellQuotedName n else n
  columns ++ name.elim "" (fun n => " " ++ shown n) ++ "\n"

/-! ## Inputs -/

/-- The size of an input: none if it is no regular file, and a fault if it is not there. -/
def inputSize (operand : Option String) : Task (Except Fault (Option Nat)) := do
  match operand.filter (· ≠ "-") with
  | none =>
    match (← read).source, (← read).input with
    | some (_, size), _ => return .ok (some size)
    | none, .fault .badChannel => return .error .badChannel
    | none, _ => return .ok none
  | some operand =>
    let path ← Task.path operand
    match (← get).disk.lookUp path with
    | .ok (_, .file data _) => return .ok (some data.size)
    | .ok (_, .program _) => return .ok (some Disk.programBytes.size)
    | .ok _ => return .ok none
    | .error fault => return .error fault

/-- The width of the columns. -/
def Counting.width (c : Counting) (inputs : List (Option String)) : Task Nat := do
  if c.totals = .only || (inputs.length = 1 && (c.numbers .zero).length = 1) then return 1
  let known := (← inputs.mapM inputSize).filterMap Except.toOption
  let total := (known.map (·.getD 0)).foldl (· + ·) 0
  return max (toString total).length (if known.all Option.isSome then 1 else 7)

/-- Counts what an input holds and tells it. -/
def Counting.count (c : Counting) (width : Nat) (input : Option String) : Task Tally := do
  let tell (t : Tally) : Task Unit := do
    if c.totals ≠ .only then Task.say (c.row width t input)
  let operand := input.getD "-"
  match ← Task.contents operand with
  | .zeros => Task.hang
  | .bytes data =>
    let t := Tally.ofBytes data
    tell t
    return t
  | .fault fault =>
    let name := shellQuotedName (input.getD "standard input")
    Task.warn 1 (name ++ ": " ++ faultText fault)
    if operand = "-" || fault = .isADirectory then tell .zero
    match operand, fault with
    | "-", .badChannel => Task.warn 1 ("-: " ++ faultText fault)
    | _, _ => pure ()
    return .zero

/-- Texts that a zero ends. -/
def zeroEnded (data : ByteArray) : List String :=
  let cs := (Text.ofOctets data).toList
  let parts := (Text.fields '\x00' cs).map String.ofList
  if cs.isEmpty then [] else if cs.getLast? == some '\x00' then parts.dropLast else parts

/-- The names of inputs that some file holds. -/
def listedNames (file : String) : Task (List String) := do
  match ← Task.contents file with
  | .zeros => Task.hang
  | .bytes data => return zeroEnded data
  | .fault fault =>
    if fault = .isADirectory then
      Task.fail 1 (shellQuotedName file ++ ": read error: " ++ faultText fault)
    else
      Task.fail 1
        ("cannot open " ++ shellQuoted true file ++ " for reading: " ++ faultText fault)

/-- Counts an input that is named in a file. -/
def Counting.countListed (c : Counting) (width : Nat) (file : String) (place : Nat)
    (name : String) : Task Tally := do
  if file = "-" && name = "-" then
    Task.warn 1 "when reading file names from stdin, no file name of '-' allowed"
    return .zero
  else if name.isEmpty then
    Task.warn 1 (shellQuotedName file ++ ":" ++ toString (place + 1)
      ++ ": invalid zero-length file name")
    return .zero
  else c.count width (some name)

/-- Counts what the operands hold. -/
def wc : Task Unit := do
  let (c, operands) ← Task.arguments wcForms false 1
    (⟨false, false, false, false, false, .auto, none⟩ : Counting) Counting.add (← read).args
  let finish (width count : Nat) (tallies : List Tally) : Task Unit := do
    let wanted : Bool := match c.totals with
      | .auto => decide (1 < count)
      | .never => false
      | _ => true
    if wanted then
      Task.say (c.row width (tallies.foldl Tally.add .zero)
        (if c.totals = .only then none else some "total"))
  match c.names with
  | none =>
    let inputs := if operands.isEmpty then [none] else operands.map some
    let width ← c.width inputs
    finish width inputs.length (← inputs.mapM (c.count width))
  | some file =>
    match operands with
    | operand :: _ =>
      Task.complain ("extra operand " ++ shellQuoted true operand)
      Task.report "file operands cannot be combined with --files0-from\n"
      Task.report ("Try '" ++ (← read).name ++ " --help' for more information.\n")
      Task.leave 1
    | [] =>
      let names ← listedNames file
      let width ← if file = "-" || names.isEmpty then pure 1 else c.width (names.map some)
      let tallies ← names.zipIdx.mapM fun p => c.countListed width file p.2 p.1
      if !names.isEmpty then finish width names.length tallies

end PipeShell.Toolbox
