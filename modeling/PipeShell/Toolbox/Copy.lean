import PipeShell.Toolbox.Arguments

/-!
# Copying files

`cat` writes its operands one after the other and can show what is in them that is hard to see;
`head` writes the beginning of each.
-/

namespace PipeShell.Toolbox

/-! ## Whole files -/

/-- What `cat` shows. -/
structure Showing where
  numbers : Bool
  /-- Empty lines have no number. -/
  filledOnly : Bool
  /-- Of empty lines in a row only one is shown. -/
  squeezes : Bool
  controls : Bool
  ends : Bool
  tabs : Bool
deriving DecidableEq

/-- Nothing is shown but what is there. -/
def Showing.plain : Showing := ⟨false, false, false, false, false, false⟩

/-- The options of `cat`. -/
def catForms : List OptionForm :=
  [⟨"b", "number-nonblank", .nothing⟩, ⟨"n", "number", .nothing⟩, ⟨"s", "squeeze-blank", .nothing⟩,
   ⟨"v", "show-nonprinting", .nothing⟩, ⟨"E", "show-ends", .nothing⟩,
   ⟨"T", "show-tabs", .nothing⟩, ⟨"A", "show-all", .nothing⟩, ⟨"e", "", .nothing⟩,
   ⟨"t", "", .nothing⟩, ⟨"u", "", .nothing⟩]

/-- What an option of `cat` asks for. -/
def Showing.add (s : Showing) (key : String) (_ : Option String) : Task Showing :=
  return match key with
    | "b" => { s with numbers := true, filledOnly := true }
    | "n" => { s with numbers := true }
    | "s" => { s with squeezes := true }
    | "v" => { s with controls := true }
    | "E" => { s with ends := true }
    | "T" => { s with tabs := true }
    | "A" => { s with controls := true, ends := true, tabs := true }
    | "e" => { s with controls := true, ends := true }
    | "t" => { s with controls := true, tabs := true }
    | _ => s

/-- Where `cat` is in what it shows. -/
structure Shown where
  /-- The number of newlines right before, less one for the end of a line; at most two. -/
  newlines : Int
  lines : Nat
  /-- A return was read and may stand at the end of a line. -/
  return? : Bool
  output : ByteArray

/-- Nothing was read. -/
def Shown.start : Shown := ⟨0, 0, false, .empty⟩

/-- More output. -/
def Shown.put (s : Shown) (text : String) : Shown :=
  { s with output := s.output ++ Text.octets text }

/-- The number of the next line. -/
def Shown.number (s : Shown) : Shown :=
  let digits := toString (s.lines + 1)
  let blanks := String.ofList (List.replicate (6 - digits.length) ' ')
  { s with lines := s.lines + 1 }.put (blanks ++ digits ++ "\t")

/-- A control character, behind a sign for its highest bit. -/
def shownControl (tabs : Bool) (b : UInt8) : List UInt8 :=
  let low := b % 128
  let sign : List UInt8 := if b < 128 then [] else [77, 45]
  if b == 9 && !tabs then [9]
  else sign ++ if low < 32 then [94, low + 64] else if low == 127 then [94, 63] else [low]

/-- One more byte. -/
def Shown.step (w : Showing) (s : Shown) (b : UInt8) : Shown :=
  if b == 10 then
    let newlines := min 2 (s.newlines + 1)
    if newlines = 2 && w.squeezes then { s with newlines }
    else
      let s := if 0 < newlines && w.numbers && !w.filledOnly then s.number else s
      let s := if s.return? && w.ends then { s with return? := false }.put "^M" else s
      { s with newlines }.put (if w.ends then "$\n" else "\n")
  else
    let s := if s.return? then { s with return? := false }.put "\r" else s
    let s := if 0 ≤ s.newlines && w.numbers then s.number else s
    let s := { s with newlines := -1 }
    if w.controls then { s with output := (shownControl w.tabs b).foldl ByteArray.push s.output }
    else if b == 9 && w.tabs then s.put "^I"
    else if b == 13 && w.ends then { s with return? := true }
    else { s with output := s.output.push b }

/-- The file that an operand names. -/
def operandFile? (operand : String) : Task (Option Location) := do
  if operand = "-" then return (← read).source.map Prod.fst
  let path ← Task.path operand
  return ((← get).disk.lookUp path).toOption.map Prod.fst

/-- Writes what an operand holds. -/
def copyOperand (w : Showing) (s : Shown) (operand : String) : Task Shown := do
  let own := (← read).outlet.isSome && (← operandFile? operand) == (← read).outlet
  match ← Task.contents operand with
  | .fault fault =>
    Task.warn 1 (shellQuotedName operand ++ ": " ++ faultText fault)
    return s
  | .zeros => Task.pour
  | .bytes data =>
    if own && !data.isEmpty then
      Task.warn 1 (shellQuotedName operand ++ ": input file is output file")
      return s
    else if w = .plain then
      Task.put data
      Task.flush
      return s
    else
      let s := data.foldl (Shown.step w) s
      Task.put s.output
      Task.flush
      return { s with output := .empty }

/-- Writes the operands. -/
def cat : Task Unit := do
  let (w, operands) ← Task.arguments catForms false 1 .plain Showing.add (← read).args
  let operands := if operands.isEmpty then ["-"] else operands
  let s ← operands.foldlM (copyOperand w) .start
  if s.return? then Task.say "\r"
  match (← read).input with
  | .fault .badChannel =>
    if operands.contains "-" then
      Task.warn 1 ("closing standard input: " ++ faultText .badChannel)
  | _ => pure ()

/-! ## Beginnings -/

/-- What `head` writes of each operand: units from the start, or all but the last units. -/
structure HeadCount where
  lines : Bool
  fromEnd : Bool
  count : Nat
  /-- Titles stand in front of the texts always or never; else if there are several. -/
  titles : Option Bool
  /-- The byte that ends a line. -/
  ending : UInt8

/-- The options of `head`. -/
def headForms : List OptionForm :=
  [⟨"c", "bytes", .value⟩, ⟨"n", "lines", .value⟩, ⟨"q", "quiet", .nothing⟩,
   ⟨"q", "silent", .nothing⟩, ⟨"v", "verbose", .nothing⟩, ⟨"z", "zero-terminated", .nothing⟩]
  ++ (List.range 10).map fun n => ⟨toString n, "", .nothing⟩

/-- The count that a text writes. -/
def headSize (lines : Bool) (text : String) : Task Nat := do
  let wrong := "invalid number of " ++ (if lines then "lines" else "bytes") ++ ": " ++ quoted text
  match SizeRead.read text with
  | .ok n => return n
  | .tooLarge => Task.fail 1 (wrong ++ ": Value too large for defined data type")
  | .none => Task.fail 1 wrong

/-- What an option of `head` asks for. -/
def HeadCount.add (h : HeadCount) (key : String) (value : Option String) : Task HeadCount := do
  match key with
  | "q" => return { h with titles := some false }
  | "v" => return { h with titles := some true }
  | "z" => return { h with ending := 0 }
  | key =>
    if key == "c" || key == "n" then
      let text := value.getD ""
      let fromEnd := text.startsWith "-"
      let count ← headSize (key == "n") (if fromEnd then String.ofList text.toList.tail else text)
      return { h with lines := key == "n", fromEnd, count }
    else Task.misuse 1 ("invalid trailing option -- " ++ key)

/-- The count that a first argument such as `-5` gives. -/
def HeadCount.addOld (h : HeadCount) (arg : String) : Task HeadCount := do
  let cs := arg.toList.tail
  let digits := cs.takeWhile Char.isDigit
  let step (p : HeadCount × List Char) (c : Char) : Task (HeadCount × List Char) := do
    let (h, unit) := p
    match c with
    | 'c' => return ({ h with lines := false }, [])
    | 'l' => return ({ h with lines := true }, unit)
    | 'q' => return ({ h with titles := some false }, unit)
    | 'v' => return ({ h with titles := some true }, unit)
    | 'z' => return ({ h with ending := 0 }, unit)
    | c =>
      if ['b', 'k', 'm'].contains c then return ({ h with lines := false }, [c])
      else Task.misuse 1 ("invalid trailing option -- " ++ c.toString)
  let (h, unit) ← (cs.drop digits.length).foldlM step (h, [])
  return { h with count := ← headSize h.lines (String.ofList (digits ++ unit)) }

/-- The place behind `count` more lines, from the place `i` on, and the number of lines that are
missing. -/
def lineEnd (data : ByteArray) (ending : UInt8) : (left : Nat) → (i count : Nat) → Nat × Nat
  | _, i, 0 => (i, 0)
  | 0, i, count + 1 => (i, count + 1)
  | left + 1, i, count + 1 =>
    lineEnd data ending left (i + 1) (if data.get! i == ending then count else count + 1)

/-- The number of lines, an unfinished one included. -/
def lineTotal (data : ByteArray) (ending : UInt8) : Nat :=
  let ended := data.foldl (fun n b => if b == ending then n + 1 else n) 0
  if data.isEmpty || data.get! (data.size - 1) == ending then ended else ended + 1

/-- The number of bytes of the data that are written, and whether all of it had to be seen. -/
def HeadCount.size (h : HeadCount) (data : ByteArray) : Nat × Bool :=
  match h.lines, h.fromEnd with
  | false, false => (min h.count data.size, data.size < h.count)
  | false, true => (data.size - h.count, true)
  | true, false =>
    let (place, missing) := lineEnd data h.ending data.size 0 h.count
    (place, 0 < missing)
  | true, true =>
    ((lineEnd data h.ending data.size 0 (lineTotal data h.ending - h.count)).1, true)

/-- So many zeros. -/
def zeroBytes (n : Nat) : ByteArray :=
  let block : ByteArray := ⟨Array.replicate 1024 0⟩
  let rec double (times : Nat) (data : ByteArray) : ByteArray :=
    match times with
    | 0 => data
    | times + 1 => double times (data ++ data)
  (double (Nat.log2 (n / 1024 + 1) + 1) block).extract 0 n

/-- The bytes that are read from a pipe at a time. -/
def readSize : Nat := 8192

/-- Takes the beginning of the standard input; what was read along with it is lost, unless it can be
read again. -/
def HeadCount.take (h : HeadCount) (data : ByteArray) : Task ByteArray := do
  let (n, drained) := h.size data
  let seen := if drained then data.size
    else if h.lines then (n + readSize - 1) / readSize * readSize else n
  let place := if (← read).source.isSome then n else min data.size seen
  modify fun p => { p with
    left := .bytes (data.extract place data.size)
    used := p.used + n
    drained }
  return data.extract 0 n

/-- The line in front of the text of an operand. -/
def headTitle (first : Bool) (name : String) : String :=
  (if first then "" else "\n") ++ "==> " ++ name ++ " <==\n"

/-- Writes the beginning of an operand.  The first text has no empty line in front of it. -/
def HeadCount.show (h : HeadCount) (titled first : Bool) (operand : String) : Task Bool := do
  let name := if operand = "-" then "standard input" else operand
  let title : Task Unit := do
    if titled then Task.say (headTitle first name)
  let input ← if operand = "-" then do pure (← get).left else Task.readFile operand
  match input with
  | .fault fault =>
    let opens := operand = "-" || fault = .isADirectory
    if opens then
      title
      if h.fromEnd || h.count != 0 then
        Task.warn 1 ("error reading " ++ shellQuoted true name ++ ": " ++ faultText fault)
    else
      Task.warn 1 ("cannot open " ++ shellQuoted true name ++ " for reading: " ++ faultText fault)
    return first && !opens
  | .zeros =>
    title
    if h.fromEnd || (h.lines && h.ending != 0 && h.count != 0) then Task.pour
    Task.put (zeroBytes h.count)
    return false
  | .bytes data =>
    title
    Task.put (← if operand = "-" then h.take data else pure (data.extract 0 (h.size data).1))
    return false

/-- Writes the beginnings of the operands. -/
def head : Task Unit := do
  let args := (← read).args
  let start : HeadCount := ⟨true, false, 10, none, 10⟩
  let isOld := match (args.headD "").toList with
    | '-' :: c :: _ => c.isDigit
    | _ => false
  let start ← if isOld then start.addOld (args.headD "") else pure start
  let (h, operands) ← Task.arguments headForms false 1 start HeadCount.add
    (if isOld then args.tail else args)
  let operands := if operands.isEmpty then ["-"] else operands
  let titled := h.titles.getD (1 < operands.length)
  let _ ← operands.foldlM (fun first operand => h.show titled first operand) true
  match (← read).input with
  | .fault .badChannel => if operands.contains "-" then Task.warn 1 ("-: " ++ faultText .badChannel)
  | _ => pure ()

end PipeShell.Toolbox
