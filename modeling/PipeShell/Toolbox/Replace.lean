import PipeShell.Toolbox.Arguments

/-!
# Replacing bytes

`tr` replaces bytes by bytes, deletes them, or squeezes repeats of them into one.  Its sets are
written as characters, ranges, escapes, classes and repeats (`SetPiece`); everything is about bytes
and not about characters.
-/

namespace PipeShell.Toolbox

/-! ## Sets -/

/-- A piece of a written set. -/
inductive SetPiece where
  | byte (b : UInt8)
  | range (first last : UInt8)
  | family (name : String)
  /-- All bytes that are the same as this one. -/
  | same (b : UInt8)
  /-- A byte so many times, or as often as it takes. -/
  | repeated (b : UInt8) (count : Option Nat)
deriving Repr, DecidableEq

/-- All bytes. -/
def allBytes : List UInt8 := (List.range 256).map UInt8.ofNat

/-- The bytes from `a` to `b`. -/
def byteRange (a b : UInt8) : List UInt8 :=
  allBytes.filter fun x => a ≤ x && x ≤ b

/-- The small letters and the capitals. -/
def smallBytes : List UInt8 := byteRange 97 122

/-- The capitals. -/
def capitalBytes : List UInt8 := byteRange 65 90

/-- The bytes of a named class. -/
def byteClass? (name : String) : Option (List UInt8) :=
  let digit := byteRange 48 57
  let letter := capitalBytes ++ smallBytes
  let graph := byteRange 33 126
  match name with
  | "upper" => some capitalBytes
  | "lower" => some smallBytes
  | "digit" => some digit
  | "alpha" => some letter
  | "alnum" => some (digit ++ letter)
  | "space" => some (byteRange 9 13 ++ [32])
  | "blank" => some [9, 32]
  | "cntrl" => some (byteRange 0 31 ++ [127])
  | "graph" => some graph
  | "print" => some (32 :: graph)
  | "punct" => some (graph.filter fun b => !(digit ++ letter).contains b)
  | "xdigit" => some (digit ++ byteRange 65 70 ++ byteRange 97 102)
  | _ => none

/-- The most times that a byte is repeated in the bytes of a piece.  More would face nothing. -/
def repeatLimit : Nat := 65536

/-- The bytes of a piece, in order. -/
def SetPiece.members : SetPiece → List UInt8
  | byte b => [b]
  | range a b => byteRange a b
  | family name => (byteClass? name).getD []
  | same b => [b]
  | repeated b count => List.replicate (min (count.getD 0) repeatLimit) b

/-- The number of bytes of a piece. -/
def SetPiece.size : SetPiece → Nat
  | repeated _ count => count.getD 0
  | piece => piece.members.length

/-! ## Reading sets -/

/-- A byte of a set, and whether a backslash took its meaning. -/
abbrev SetByte := UInt8 × Bool

/-- An octal digit. -/
def isOctalByte (b : UInt8) : Bool := 48 ≤ b && b ≤ 55

/-- The value of octal digits. -/
def octalByteValue (ds : List UInt8) : Nat :=
  ds.foldl (fun n d => n * 8 + (d.toNat - 48)) 0

/-- The letters after a backslash that stand for other bytes. -/
def byteEscapes : List (UInt8 × UInt8) :=
  [(97, 7), (98, 8), (102, 12), (110, 10), (114, 13), (116, 9), (118, 11)]

/-- The text of bytes. -/
def bytesText (bs : List UInt8) : String := String.ofList (bs.map fun b => Char.ofNat b.toNat)

/-- A warning about an octal escape that could be read in two ways. -/
def octalWarning (three : List UInt8) : String :=
  let digits (bs : List UInt8) : String := bytesText bs
  "warning: the ambiguous octal escape \\" ++ digits three ++ " is being\n\tinterpreted as the "
    ++ "2-byte sequence \\0" ++ digits (three.take 2) ++ ", " ++ digits (three.drop 2)

/-- Takes the escapes out of a written set.  The first `skip` bytes belong to the escape before. -/
def unescapeSet : (skip : Nat) → List UInt8 → Task (List SetByte)
  | _, [] => pure []
  | skip + 1, _ :: bs => unescapeSet skip bs
  | 0, b :: bs => do
    if b != 92 then return (b, false) :: (← unescapeSet 0 bs)
    match bs with
    | [] =>
      Task.complain "warning: an unescaped backslash at end of string is not portable"
      return [(92, false)]
    | c :: _ =>
      if !isOctalByte c then
        return ((byteEscapes.lookup c).getD c, true) :: (← unescapeSet 1 bs)
      let three := (bs.take 3).takeWhile isOctalByte
      let fits := octalByteValue three < 256
      if !fits then Task.complain (octalWarning three)
      let digits := if fits then three else three.take 2
      return (UInt8.ofNat (octalByteValue digits), true) :: (← unescapeSet digits.length bs)

/-- The byte is there and was not escaped. -/
def isBare (c : Char) (b : Option SetByte) : Bool := b == some (UInt8.ofNat c.toNat, false)

/-- A byte as a message shows it: what cannot be printed as octal digits. -/
def octalShown (b : UInt8) : String :=
  if 32 ≤ b && b ≤ 126 then (Char.ofNat b.toNat).toString
  else
    let digit (n : Nat) : Char := Char.ofNat (48 + n % 8)
    String.ofList ['\\', digit (b.toNat / 64), digit (b.toNat / 8), digit b.toNat]

/-- Bytes as a message shows them. -/
def shownBytes (bs : List UInt8) : String :=
  String.join (bs.map fun b =>
    if b == 92 then "\\\\"
    else match byteEscapes.find? (·.2 == b) with
      | some p => "\\" ++ (Char.ofNat p.1.toNat).toString
      | none => octalShown b)

/-- What stands between `[:` and `:]`, or `[=` and `=]`, and what follows. -/
def takeNamed (mark : UInt8) : List SetByte → Option (List UInt8 × List SetByte)
  | (a, p) :: (b, q) :: rest =>
    if a == mark && !p && b == 93 && !q then some ([], rest)
    else (takeNamed mark ((b, q) :: rest)).map fun r => (a :: r.1, r.2)
  | _ => none

/-- What follows a bracket and a mark is a star, digits and a closing bracket. -/
def isStarred (bs : List SetByte) : Bool :=
  isBare '*' bs.head? && isBare ']' (bs.tail.dropWhile fun p => 48 ≤ p.1 && p.1 ≤ 57).head?

/-- The count of a repeat. -/
def repeatCount? (digits : List UInt8) : Option (Option Nat) :=
  if digits.isEmpty then some none
  else
    let octal := digits.head? == some 48
    if !digits.all (if octal then isOctalByte else fun b => 48 ≤ b && b ≤ 57) then none
    else
      let n := digits.foldl (fun n d => n * (if octal then 8 else 10) + (d.toNat - 48)) 0
      if largestSize ≤ n + 1 then none else some (if n = 0 then none else some n)

/-- The repeat at the front of a set behind its bracket, and what follows. -/
def takeRepeat (bs : List SetByte) : Task (Option (SetPiece × List SetByte)) := do
  match bs with
  | (b, _) :: star :: rest =>
    if !isBare '*' (some star) then return none
    let digits := rest.takeWhile fun p => !p.2 && p.1 != 93
    let after := rest.drop digits.length
    if !isBare ']' after.head? then return none
    match repeatCount? (digits.map Prod.fst) with
    | some count => return some (.repeated b count, after.tail)
    | none =>
      Task.fail 1 ("invalid repeat count " ++ quoted (shownBytes (digits.map Prod.fst))
        ++ " in [c*n] construct")
  | _ => return none

/-- The class at the front of a set behind its bracket, and what follows. -/
def takeFamily (bs : List SetByte) : Task (Option (SetPiece × List SetByte)) := do
  match bs with
  | (mark, false) :: rest =>
    if mark != 58 && mark != 61 then return none
    match takeNamed mark rest with
    | none => return none
    | some (name, after) =>
      if name.isEmpty then
        Task.fail 1 (if mark == 58 then "missing character class name '[::]'"
          else "missing equivalence class character '[==]'")
      if mark == 58 then
        if (byteClass? (bytesText name)).isSome then
          return some (.family (bytesText name), after)
        if isStarred rest then return none
        Task.fail 1 ("invalid character class " ++ quoted (shownBytes name))
      else
        match name with
        | [b] => return some (.same b, after)
        | name =>
          if isStarred rest then return none
          Task.fail 1 (shownBytes name
            ++ ": equivalence class operand must be a single character")
  | _ => return none

/-- The pieces of a set.  `fuel` is more than its length. -/
def setPieces : (fuel : Nat) → List SetByte → Task (List SetPiece)
  | 0, _ => pure []
  | fuel + 1, bs => do
    match bs with
    | a :: b :: c :: rest =>
      if isBare '[' (some a) then
        match ← takeFamily (b :: c :: rest) with
        | some (piece, after) => return piece :: (← setPieces fuel after)
        | none => pure ()
        match ← takeRepeat (b :: c :: rest) with
        | some (piece, after) => return piece :: (← setPieces fuel after)
        | none => pure ()
      if isBare '-' (some b) then
        if c.1 < a.1 then
          Task.fail 1 ("range-endpoints of '" ++ octalShown a.1 ++ "-" ++ octalShown c.1
            ++ "' are in reverse collating sequence order")
        return .range a.1 c.1 :: (← setPieces fuel rest)
      return .byte a.1 :: (← setPieces fuel (b :: c :: rest))
    | short => return short.map fun b => .byte b.1

/-- The pieces of a written set. -/
def readSet (text : String) : Task (List SetPiece) := do
  let bs ← unescapeSet 0 (Text.octets text).data.toList
  setPieces (bs.length + 1) bs

/-! ## Checking sets -/

/-- What `tr` does. -/
structure Replacing where
  complement : Bool
  deletes : Bool
  squeezes : Bool
  truncates : Bool

/-- The options of `tr`. -/
def trForms : List OptionForm :=
  [⟨"c", "complement", .nothing⟩, ⟨"C", "", .nothing⟩, ⟨"d", "delete", .nothing⟩,
   ⟨"s", "squeeze-repeats", .nothing⟩, ⟨"t", "truncate-set1", .nothing⟩, ⟨"A", "", .nothing⟩]

/-- What an option of `tr` asks for. -/
def Replacing.add (r : Replacing) (key : String) (_ : Option String) : Task Replacing :=
  return match key with
    | "d" => { r with deletes := true }
    | "s" => { r with squeezes := true }
    | "t" => { r with truncates := true }
    | "A" => r
    | _ => { r with complement := true }

/-- The number of bytes of some pieces. -/
def setSize (pieces : List SetPiece) : Nat := pieces.foldl (fun n p => n + p.size) 0

/-- The pieces that repeat as often as it takes. -/
def openRepeats (pieces : List SetPiece) : Nat := pieces.countP fun
  | .repeated _ none => true
  | _ => false

/-- The class is that of small letters or of capitals. -/
def SetPiece.isCase : SetPiece → Bool
  | family name => name == "lower" || name == "upper"
  | _ => false

/-- The piece is a class. -/
def SetPiece.isFamily : SetPiece → Bool
  | family _ => true
  | _ => false

/-- The bytes of a set that are all the others when it is taken as its complement. -/
def chosenBytes (complement : Bool) (pieces : List SetPiece) : List UInt8 :=
  let members := pieces.flatMap SetPiece.members
  if complement then allBytes.filter fun b => !members.contains b else members

/-- The pairs of bytes that two sets make, one by one.  Classes of small letters and capitals that
face each other make one pair of pieces; nothing if some class of the second set faces a byte that
no such class begins with. -/
def pairPieces : (fuel : Nat) → (fresh : Bool) → List SetPiece → (freshSecond : Bool) →
    List SetPiece → Option (List (UInt8 × UInt8) × Nat × Nat)
  | 0, _, _, _, _ => some ([], 0, 0)
  | fuel + 1, fresh, first, freshSecond, second =>
    match first, second with
    | p :: ps, q :: qs =>
      if freshSecond && q.isCase then
        if fresh && p.isCase then
          let pairs := p.members.zip q.members
          (pairPieces fuel true ps true qs).map fun r =>
            (pairs ++ r.1, r.2.1 + p.size - 1, r.2.2 + q.size - 1)
        else none
      else
        match p.members, q.members with
        | [], _ => pairPieces fuel true ps freshSecond second
        | _, [] => pairPieces fuel fresh first true qs
        | a :: as, b :: bs =>
          let left := if as.isEmpty then ps else as.map SetPiece.byte ++ ps
          let right := if bs.isEmpty then qs else bs.map SetPiece.byte ++ qs
          (pairPieces fuel as.isEmpty left bs.isEmpty right).map fun r =>
            ((a, b) :: r.1, r.2.1, r.2.2)
    | _, _ => some ([], 0, 0)

/-- Enough for all pairs of two sets. -/
def pairFuel (first second : List SetPiece) : Nat :=
  setSize first + setSize second + first.length + second.length + 1

/-- The last byte of a set, repeated for what is missing of it. -/
def extension (missing : Nat) : List SetPiece → Task (List SetPiece) := fun pieces =>
  match pieces.getLast? with
  | some (.family _) =>
    Task.fail 1 ("when translating with string1 longer than string2,\nthe latter string must not "
      ++ "end with a character class")
  | some (.byte b) => pure [.repeated b (some missing)]
  | some (.range _ b) => pure [.repeated b (some missing)]
  | some (.same b) => pure [.repeated b (some missing)]
  | some (.repeated b _) => pure [.repeated b (some missing)]
  | none => pure []

/-- The second set with an open repeat made as long as it takes. -/
def closeRepeat (size : Nat) (pieces : List SetPiece) : List SetPiece :=
  if openRepeats pieces = 1 && setSize pieces ≤ size then
    let missing := size - setSize pieces
    pieces.map fun
      | .repeated b none => .repeated b (some missing)
      | piece => piece
  else pieces

/-- The most bytes that a set may have. -/
def setLimit : Nat := largestSize - 1

/-- The second set, made as long as the first one for replacing. -/
def fitSecond (r : Replacing) (first second : List SetPiece) (size : Nat) :
    Task (List SetPiece) := do
  if second.any fun p => match p with | .same _ => true | _ => false then
    Task.fail 1 "[=c=] expressions may not appear in string2 when translating"
  if second.any fun p => p.isFamily && !p.isCase then
    Task.fail 1 ("when translating, the only character classes that may appear in\nstring2 are "
      ++ "'upper' and 'lower'")
  let saved ← if r.complement || !second.any SetPiece.isFamily then pure (0, 0)
    else match pairPieces (pairFuel first second) true first true second with
      | some (_, a, b) => pure (a, b)
      | none => Task.fail 1 "misaligned [:upper:] and/or [:lower:] construct"
  let size := size - saved.1
  let length := setSize second - saved.2
  let fitted ← if size ≤ length || r.truncates then pure second
    else if length = 0 then
      Task.fail 1 "when not truncating set1, string2 must be non-empty"
    else do pure (second ++ (← extension (size - length) second))
  if r.complement && first.any SetPiece.isFamily then
    let all := fitted.flatMap SetPiece.members
    if size != setSize fitted || !all.all (some · == all.head?) then
      Task.fail 1 ("when translating with complemented character classes,\nstring2 must map all "
        ++ "characters in the domain to one")
  return fitted

/-! ## Filters -/

/-- The data with runs of one of these bytes made single. -/
def squeeze (members : List UInt8) (data : ByteArray) : ByteArray :=
  let isMember := (allBytes.map members.contains).toArray
  (data.foldl (fun (p : ByteArray × Option UInt8) b =>
    if p.2 == some b && isMember.getD b.toNat false then p else (p.1.push b, some b))
    (.empty, none)).1

/-- The data without these bytes. -/
def withoutBytes (members : List UInt8) (data : ByteArray) : ByteArray :=
  let isMember := (allBytes.map members.contains).toArray
  data.foldl (fun out b => if isMember.getD b.toNat false then out else out.push b) .empty

/-- The data with each byte replaced; the last pair for a byte counts. -/
def replaceBytes (pairs : List (UInt8 × UInt8)) (data : ByteArray) : ByteArray :=
  let table := pairs.foldl (fun (t : Array UInt8) p => t.set! p.1.toNat p.2) allBytes.toArray
  data.foldl (fun out b => out.push (table.getD b.toNat b)) .empty

/-- The pairs that the sets make. -/
def replacements (r : Replacing) (first second : List SetPiece) : List (UInt8 × UInt8) :=
  if r.complement then (chosenBytes true first).zip (second.flatMap SetPiece.members)
  else (pairPieces (pairFuel first second) true first true second).elim [] Prod.fst

/-- What the sets make of data. -/
def makeFilter (r : Replacing) (first : List SetPiece) (second : Option (List SetPiece)) :
    Task (ByteArray → ByteArray) := do
  let chosen := chosenBytes r.complement first
  let size := if r.complement then chosen.eraseDups.length else setSize first
  if setLimit < setSize first then Task.fail 1 "too many characters in set"
  if openRepeats first != 0 then
    Task.fail 1 "the [c*] repeat construct may not appear in string1"
  match second with
  | none => return if r.deletes then withoutBytes chosen else squeeze chosen
  | some second =>
    if setLimit < setSize second then Task.fail 1 "too many characters in set"
    if 1 < openRepeats second then
      Task.fail 1 "only one [c*] repeat construct may appear in string2"
    if r.deletes then
      if openRepeats second != 0 then
        Task.fail 1 "the [c*] construct may appear in string2 only when translating"
      return fun data => squeeze (chosenBytes false second) (withoutBytes chosen data)
    let second ← fitSecond r first (closeRepeat size second) size
    let pairs := replacements r first second
    let members := chosenBytes false second
    return fun data =>
      if r.squeezes then squeeze members (replaceBytes pairs data) else replaceBytes pairs data

/-- The number of sets has to fit what is done. -/
def Replacing.checkCount (r : Replacing) (operands : List String) : Task Unit := do
  let least := if r.deletes == r.squeezes then 2 else 1
  let most := if r.deletes && !r.squeezes then 1 else 2
  let count := operands.length
  if count = 0 then Task.misuse 1 "missing operand"
  if count < least then
    Task.misuse 1 ("missing operand after " ++ quoted (operands.getLastD "") ++ "\n" ++
      if r.squeezes then "Two strings must be given when both deleting and squeezing repeats."
      else "Two strings must be given when translating.")
  if most < count then
    Task.misuse 1 ("extra operand " ++ quoted (operands.getD most "") ++
      if count = 2 then "\nOnly one string may be given when deleting without squeezing repeats."
      else "")

/-- Replaces, deletes or squeezes bytes of the standard input. -/
def tr : Task Unit := do
  let (r, operands) ← Task.arguments trForms true 1 (⟨false, false, false, false⟩ : Replacing)
    Replacing.add (← read).args
  r.checkCount operands
  let first ← readSet (operands.headD "")
  let second ← operands[1]?.mapM readSet
  let filter ← makeFilter r first second
  match ← Task.drain with
  | .bytes data => Task.put (filter data)
  | .fault fault => Task.fail 1 ("read error: " ++ faultText fault)
  | .zeros =>
    let one := filter ⟨#[0, 0]⟩
    if one.size < 2 then Task.hang else Task.pour

end PipeShell.Toolbox
