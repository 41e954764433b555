import PipeShell.Toolbox.Arguments
import PipeShell.Toolbox.Order.Key

/-!
# Sorting lines

`sort` puts the lines of its operands in the order of their keys.  Lines whose keys tie are ordered
by their bytes, unless ties stay as they are or only one of each is kept.  It can also merge what is
in order already, or say whether it is.
-/

namespace PipeShell.Toolbox

/-! ## Options -/

/-- How `sort` sorts. -/
structure Sorting where
  /-- The manner for keys that have none of their own. -/
  manner : Manner
  keys : List SortKey
  separator : Option UInt8
  unique : Bool
  stable : Bool
  merges : Bool
  /-- The letter of the option to check the order. -/
  checks : Option Char
  outlet : Option String
  /-- The byte that ends a line. -/
  ending : UInt8
  /-- The names of the inputs are read from here. -/
  names : Option String
  /-- Where chance is taken from. -/
  chance : Option String

/-- The options of `sort`. -/
def sortForms : List OptionForm :=
  [⟨"b", "ignore-leading-blanks", .nothing⟩, ⟨"check", "check", .maybe⟩,
   ⟨"compress-program", "compress-program", .value⟩, ⟨"debug", "debug", .nothing⟩,
   ⟨"d", "dictionary-order", .nothing⟩, ⟨"f", "ignore-case", .nothing⟩,
   ⟨"files0-from", "files0-from", .value⟩, ⟨"g", "general-numeric-sort", .nothing⟩,
   ⟨"i", "ignore-nonprinting", .nothing⟩, ⟨"k", "key", .value⟩, ⟨"m", "merge", .nothing⟩,
   ⟨"M", "month-sort", .nothing⟩, ⟨"n", "numeric-sort", .nothing⟩,
   ⟨"h", "human-numeric-sort", .nothing⟩, ⟨"V", "version-sort", .nothing⟩,
   ⟨"R", "random-sort", .nothing⟩, ⟨"random-source", "random-source", .value⟩,
   ⟨"sort", "sort", .value⟩, ⟨"o", "output", .value⟩, ⟨"r", "reverse", .nothing⟩,
   ⟨"s", "stable", .nothing⟩, ⟨"batch-size", "batch-size", .value⟩,
   ⟨"S", "buffer-size", .value⟩, ⟨"t", "field-separator", .value⟩,
   ⟨"T", "temporary-directory", .value⟩, ⟨"u", "unique", .nothing⟩,
   ⟨"z", "zero-terminated", .nothing⟩, ⟨"parallel", "parallel", .value⟩, ⟨"c", "", .nothing⟩,
   ⟨"C", "", .nothing⟩, ⟨"y", "", .value⟩]

/-- The manners that have names. -/
def mannerChoices : List (String × Char) :=
  [("general-numeric", 'g'), ("human-numeric", 'h'), ("month", 'M'), ("numeric", 'n'),
   ("random", 'R'), ("version", 'V')]

/-- The ways to check that have names. -/
def checkChoices : List (String × Char) :=
  [("quiet", 'C'), ("silent", 'C'), ("diagnose-first", 'c')]

/-- Two options cannot both be given. -/
def incompatible {α : Type} (letters : String) : Task α :=
  Task.fail 2 ("options '-" ++ letters ++ "' are incompatible")

/-! ## Keys -/

/-- The count at the front of a text, and what follows it. -/
def takeCount? (text : String) : Option (Nat × String) :=
  let cs := text.toList.dropWhile fun c => c == ' ' || ('\t' ≤ c && c ≤ '\r')
  let cs := if cs.head? == some '+' then cs.tail else cs
  let digits := cs.takeWhile Char.isDigit
  if digits.isEmpty then none
  else some (Decimal.digitsValue digits, String.ofList (cs.drop digits.length))

/-- The count at the front of a text, which has to be there. -/
def takeCount (text wrong : String) : Task (Nat × String) :=
  match takeCount? text with
  | some p => pure p
  | none => Task.fail 2 (wrong ++ ": invalid count at start of " ++ quoted text)

/-- The options at the front of a text, and what follows them; `first` says that they are about the
start of a part. -/
def takeManner (k : SortKey) (first : Bool) : List Char → SortKey × List Char
  | [] => (k, [])
  | c :: cs =>
    match k.manner.add? c with
    | none => (k, c :: cs)
    | some manner =>
      if c == 'b' && !first then takeManner { k with skipsLast := true } first cs
      else takeManner { k with manner } first cs

/-- A key is written wrongly. -/
def badKey {α : Type} (text wrong : String) : Task α :=
  Task.fail 2 (wrong ++ ": invalid field specification " ++ quoted text)

/-- Takes a character place, if one is written, which counts from one. -/
def takePlace (whole text : String) (zeroIsFine : Bool) : Task (Option Nat × String) := do
  match text.toList with
  | '.' :: cs =>
    let (n, rest) ← takeCount (String.ofList cs) "invalid number after '.'"
    if n = 0 && !zeroIsFine then badKey whole "character offset is zero"
    return (some n, rest)
  | _ => return (none, text)

/-- The key that an argument writes. -/
def readKey (text : String) : Task SortKey := do
  let (field, rest) ← takeCount text "invalid number at field start"
  if field = 0 then badKey text "field number is zero"
  let (place, rest) ← takePlace text rest false
  let firstChar := place.getD 1 - 1
  let first := if field = 1 && firstChar = 0 then none else some (field - 1)
  let start : SortKey := { SortKey.line .plain with first, firstChar }
  let (k, rest) := takeManner start true rest.toList
  match rest with
  | [] => return k
  | ',' :: rest =>
    let (field, rest) ← takeCount (String.ofList rest) "invalid number after ','"
    if field = 0 then badKey text "field number is zero"
    let (place, rest) ← takePlace text rest true
    let (k, rest) := takeManner { k with last := some (field - 1), lastChar := place.getD 0 } false
      rest.toList
    if rest.isEmpty then return k else badKey text "stray character in field spec"
  | _ => badKey text "stray character in field spec"

/-- The start of a key in the old notation `+1.2n`, if it is one. -/
def readOldStart? (text : String) : Option SortKey := do
  let (field, rest) ← takeCount? (String.ofList text.toList.tail)
  let (place, rest) ← match rest.toList with
    | '.' :: cs => takeCount? (String.ofList cs)
    | _ => some (0, rest)
  let first := if field = 0 && place = 0 then none else some field
  let start : SortKey := { SortKey.line .plain with first, firstChar := place }
  let (k, rest) := takeManner start true rest.toList
  if rest.isEmpty then return k else none

/-- The key with its end in the old notation `-2.1`. -/
def readOldEnd (k : SortKey) (text : String) : Task SortKey := do
  let (field, rest) ← takeCount (String.ofList text.toList.tail) "invalid number after '-'"
  let (place, rest) ← takePlace text rest true
  let lastChar := place.getD 0
  let last := if lastChar = 0 then field - 1 else field
  let (k, rest) := takeManner { k with last := some last, lastChar } false rest.toList
  if rest.isEmpty then return k else badKey text "stray character in field spec"

/-- What an option of `sort` asks for. -/
def Sorting.add (s : Sorting) (key : String) (value : Option String) : Task Sorting := do
  let text := value.getD ""
  let letter (c : Char) : Sorting := { s with manner := (s.manner.add? c).getD s.manner }
  match key with
  | "k" => return { s with keys := s.keys ++ [← readKey text] }
  | "old" =>
    match text.toList with
    | '-' :: _ =>
      match s.keys.getLast? with
      | some k => return { s with keys := s.keys.dropLast ++ [← readOldEnd k text] }
      | none => return s
    | _ => return { s with keys := s.keys ++ (readOldStart? text).toList }
  | "c" => check 'c'
  | "C" => check 'C'
  | "check" => check (← value.elim (pure 'c') (Task.choose "--check" 1 checkChoices))
  | "sort" => return letter (← Task.choose "--sort" 1 mannerChoices text)
  | "m" => return { s with merges := true }
  | "s" => return { s with stable := true }
  | "u" => return { s with unique := true }
  | "z" => return { s with ending := 0 }
  | "o" =>
    if s.outlet.any (· ≠ text) then Task.fail 2 "multiple output files specified"
    return { s with outlet := some text }
  | "t" =>
    if text.isEmpty then Task.fail 2 "empty tab"
    if 1 < text.length && text != "\\0" then Task.fail 2 ("multi-character tab " ++ quoted text)
    let b : UInt8 := if text == "\\0" then 0 else UInt8.ofNat (text.toList.headD ' ').toNat
    if s.separator.any (· ≠ b) then Task.fail 2 "incompatible tabs"
    return { s with separator := some b }
  | "files0-from" => return { s with names := value }
  | "random-source" => return { s with chance := value }
  | "S" => size "-S"; return s
  | "parallel" =>
    size "--parallel"
    if (takeCount? text).any (·.1 == 0) then Task.fail 2 "number in parallel must be nonzero"
    return s
  | "batch-size" =>
    size "--batch-size"
    if (takeCount? text).any (·.1 < 2) then
      Task.complain ("invalid --batch-size argument " ++ quoted text)
      Task.fail 2 "minimum --batch-size argument is '2'"
    return s
  | key => return letter (key.toList.headD ' ')
where
  /-- Checks in one way, and not in two. -/
  check (c : Char) : Task Sorting := do
    if s.checks.any (· ≠ c) then incompatible "cC"
    return { s with checks := some c }
  /-- A number has to be given. -/
  size (option : String) : Task Unit := do
    let text := value.getD ""
    if (takeCount? text).isNone then
      Task.fail 2 ("invalid " ++ option ++ " argument " ++ quoted text)

/-- The arguments with keys in the old notation marked as options. -/
def markOldKeys : List String → List String
  | [] => []
  | "--" :: rest => "--" :: rest
  | [arg] => if arg.startsWith "+" && (readOldStart? arg).isSome then ["-- old=" ++ arg] else [arg]
  | arg :: next :: rest =>
    if arg.startsWith "+" && (readOldStart? arg).isSome then
      match next.toList with
      | '-' :: c :: _ =>
        if c.isDigit then ("-- old=" ++ arg) :: ("-- old=" ++ next) :: markOldKeys rest
        else ("-- old=" ++ arg) :: markOldKeys (next :: rest)
      | _ => ("-- old=" ++ arg) :: markOldKeys (next :: rest)
    else arg :: markOldKeys (next :: rest)

/-- The sorting with all its keys: those that say nothing about how to compare do it in the manner
of all, and without keys the whole line is one if there is a manner. -/
def Sorting.complete (s : Sorting) : Task Sorting := do
  let inherit (k : SortKey) : SortKey :=
    if k.isPlain then { k with manner := s.manner, skipsLast := s.manner.skips } else k
  let whole : List SortKey :=
    if { s.manner with reverse := false } = .plain then [] else [.line s.manner]
  let keys := if s.keys.isEmpty then whole else s.keys.map inherit
  match keys.find? fun k => k.manner.conflicts with
  | some k => incompatible k.manner.letters
  | none => pure ()
  if keys.any fun k => k.manner.random then
    s.chance.forM fun file => do
      match ← Task.readFile file with
      | .fault fault =>
        Task.fail 2 ("open failed: " ++ shellQuotedName file ++ ": " ++ faultText fault)
      | _ => pure ()
  return { s with keys }

/-! ## Lines -/

/-- The lines of some bytes, a last one without an end included. -/
def byteLines (ending : UInt8) (data : ByteArray) : List (List UInt8) :=
  let cut := data.data.toList.foldl (fun (p : List (List UInt8) × List UInt8) b =>
    if b == ending then (p.2.reverse :: p.1, []) else (p.1, b :: p.2)) ([], [])
  (if cut.2.isEmpty then cut.1 else cut.2.reverse :: cut.1).reverse

/-- The bytes of a line with its end. -/
def Sorting.lineBytes (s : Sorting) (line : List UInt8) : ByteArray :=
  (line.foldl ByteArray.push .empty).push s.ending

/-- The order of two lines, ties decided. -/
def Sorting.compare (s : Sorting) (x y : List UInt8) : Ordering :=
  let order := compareByKeys s.separator s.keys x y
  let tie := compareBytes x y
  if s.keys.isEmpty then if s.manner.reverse then tie.swap else tie
  else if s.unique || s.stable then order
  else order.then (if s.manner.reverse then tie.swap else tie)

/-- The lines without those that tie with the line before. -/
def Sorting.dropTies (s : Sorting) : List (List UInt8) → List (List UInt8)
  | x :: y :: rest =>
    if s.compare x y == .eq then dropTies s (x :: rest) else x :: dropTies s (y :: rest)
  | short => short
termination_by lines => lines.length

/-- The first line of some inputs that comes before all others, with the inputs without it. -/
def Sorting.takeLeast (s : Sorting) : List (List (List UInt8)) →
    Option (List UInt8 × List (List (List UInt8)))
  | [] => none
  | [] :: more => takeLeast s more
  | (x :: rest) :: more =>
    match takeLeast s more with
    | some (y, others) =>
      if s.compare y x == .lt then some (y, (x :: rest) :: others) else some (x, rest :: more)
    | none => some (x, rest :: more)

/-- The lines of inputs that are in order already, put together. -/
def Sorting.mergeLines (s : Sorting) : (count : Nat) → List (List (List UInt8)) →
    List (List UInt8)
  | 0, _ => []
  | count + 1, inputs =>
    match s.takeLeast inputs with
    | some (line, rest) => line :: mergeLines s count rest
    | none => []

/-- The lines of inputs in order. -/
def Sorting.sorted (s : Sorting) (inputs : List (List (List UInt8))) : List (List UInt8) :=
  let all := inputs.flatten
  let ordered := if s.merges then s.mergeLines all.length inputs
    else all.mergeSort fun x y => s.compare x y != .gt
  if s.unique then s.dropTies ordered else ordered

/-! ## Inputs -/

/-- The lines of an input. -/
def Sorting.linesOf (s : Sorting) (opens operand : String) : Task (List (List UInt8)) := do
  match ← Task.contents operand with
  | .zeros => Task.hang
  | .bytes data => return byteLines s.ending data
  | .fault fault =>
    let action := if fault = .isADirectory then "read failed"
      else if fault = .badChannel then "stat failed" else opens
    Task.fail 2 (action ++ ": " ++ shellQuotedName operand ++ ": " ++ faultText fault)

/-- The names that are listed in a file. -/
def Sorting.listed (file : String) : Task (List String) := do
  match ← Task.contents file with
  | .zeros => Task.hang
  | .fault fault =>
    Task.fail 2 ("open failed: " ++ shellQuotedName file ++ ": " ++ faultText fault)
  | .bytes data =>
    let names := (byteLines 0 data).map fun bs =>
      String.ofList (bs.map fun b => Char.ofNat b.toNat)
    if names.isEmpty then Task.fail 2 ("no input from " ++ shellQuoted true file)
    names.zipIdx.forM fun p => do
      if p.1.isEmpty then
        Task.fail 2 (shellQuotedName file ++ ":" ++ toString (p.2 + 1)
          ++ ": invalid zero-length file name")
      if p.1 = "-" && file = "-" then
        Task.fail 2 "when reading file names from stdin, no file name of '-' allowed"
    return names

/-- Says whether the lines of an input are in order. -/
def Sorting.check (s : Sorting) (tells : Bool) (operand : String) : Task Unit := do
  let lines ← s.linesOf "open failed" operand
  let wrong (p : List UInt8 × List UInt8) : Bool :=
    match s.compare p.1 p.2 with
    | .gt => true
    | .eq => s.unique
    | .lt => false
  match (lines.zip lines.tail).zipIdx.find? fun p => wrong p.1 with
  | none => return
  | some ((_, line), index) =>
    if tells then
      Task.report ((← read).name ++ ": " ++ operand ++ ":" ++ toString (index + 2)
        ++ ": disorder: " ++ Text.ofOctets (s.lineBytes line))
    Task.leave 1

/-- The operands have to be there. -/
def requireOperands (operands : List String) : Task Unit :=
  operands.forM fun operand => do
    if operand != "-" then
      let path ← Task.path operand
      match (← get).disk.lookUp path with
      | .ok _ => pure ()
      | .error fault =>
        Task.fail 2 ("cannot read: " ++ shellQuotedName operand ++ ": " ++ faultText fault)

/-- Changes the file that the output goes to. -/
def changeOutlet (file : String) (change : ByteArray → ByteArray) : Task Unit := do
  let path ← Task.path file
  let p ← get
  match p.disk.edit path change with
  | .ok disk => set { p with disk }
  | .error fault =>
    Task.fail 2 ("open failed: " ++ shellQuotedName file ++ ": " ++ faultText fault)

/-- Writes the lines of the operands in order. -/
def sort : Task Unit := do
  let start : Sorting := ⟨.plain, [], none, false, false, false, none, none, 10, none, none⟩
  let (s, operands) ← Task.arguments (sortForms ++ [⟨"old", " old", .value⟩]) false 2 start
    Sorting.add (markOldKeys (← read).args)
  let operands ← match s.names, operands with
    | none, [] => pure ["-"]
    | none, operands => pure operands
    | some file, [] => Sorting.listed file
    | some _, operand :: _ =>
      Task.complain ("extra operand " ++ shellQuoted true operand)
      Task.report "file operands cannot be combined with --files0-from\n"
      Task.report ("Try '" ++ (← read).name ++ " --help' for more information.\n")
      Task.leave 2
  let s ← s.complete
  match s.checks with
  | some c =>
    match operands with
    | [operand] =>
      if s.outlet.isSome then incompatible (String.ofList [c, 'o'])
      s.check (c == 'c') operand
    | _ =>
      Task.fail 2 ("extra operand " ++ shellQuoted true (operands.getD 1 "")
        ++ " not allowed with -" ++ c.toString)
  | none =>
    requireOperands operands
    s.outlet.forM fun file => changeOutlet file id
    let lines := s.sorted (← operands.mapM (s.linesOf "cannot read"))
    let output := lines.foldl (fun (out : ByteArray) line =>
      (line.foldl ByteArray.push out).push s.ending) .empty
    match s.outlet with
    | some file => changeOutlet file fun _ => output
    | none => Task.put output

end PipeShell.Toolbox
