import PipeShell.Toolbox.Notation
import PipeShell.Toolbox.Order.Version

/-!
# Keys of lines

Lines are ordered by keys, each a part of the line with a manner of comparing it: by bytes, by the
number or the month at its front, or as a version.  A part begins and ends at counted fields and
characters.  Fields are cut at a separator, or before the blanks that follow what is no blank.
-/

namespace PipeShell.Toolbox

/-- How parts of lines are compared. -/
structure Manner where
  /-- Blanks at the front do not count. -/
  skips : Bool
  /-- Only blanks, letters and digits count. -/
  dictionary : Bool
  /-- Only what can be printed counts. -/
  printing : Bool
  fold : Bool
  general : Bool
  human : Bool
  month : Bool
  numeric : Bool
  random : Bool
  version : Bool
  reverse : Bool
deriving DecidableEq

/-- By bytes. -/
def Manner.plain : Manner :=
  ⟨false, false, false, false, false, false, false, false, false, false, false⟩

/-- The manner with a letter's option. -/
def Manner.add? (m : Manner) (letter : Char) : Option Manner :=
  match letter with
  | 'b' => some { m with skips := true }
  | 'd' => some { m with dictionary := true }
  | 'f' => some { m with fold := true }
  | 'g' => some { m with general := true }
  | 'h' => some { m with human := true }
  | 'i' => some { m with printing := true }
  | 'M' => some { m with month := true }
  | 'n' => some { m with numeric := true }
  | 'R' => some { m with random := true }
  | 'r' => some { m with reverse := true }
  | 'V' => some { m with version := true }
  | _ => none

/-- The letters of the options that are about what is compared. -/
def Manner.letters (m : Manner) : String :=
  let letter (on : Bool) (c : Char) : List Char := if on then [c] else []
  String.ofList (letter m.dictionary 'd' ++ letter m.fold 'f' ++ letter m.general 'g'
    ++ letter m.human 'h' ++ letter (m.printing && !m.dictionary) 'i' ++ letter m.month 'M'
    ++ letter m.numeric 'n' ++ letter m.random 'R' ++ letter m.version 'V')

/-- The manner cannot do all that is asked of it. -/
def Manner.conflicts (m : Manner) : Bool :=
  let other := m.version || m.random || m.dictionary || m.printing
  1 < [m.numeric, m.general, m.human, m.month, other].count true

/-- A key. -/
structure SortKey where
  /-- The field that the part begins in; none is the start of the line. -/
  first : Option Nat
  firstChar : Nat
  /-- The field that the part ends in; none is the end of the line. -/
  last : Option Nat
  lastChar : Nat
  /-- Blanks in front of the end do not count. -/
  skipsLast : Bool
  manner : Manner

/-- The key that is the whole line. -/
def SortKey.line (manner : Manner) : SortKey := ⟨none, 0, none, 0, manner.skips, manner⟩

/-- Nothing is said about how the part is compared. -/
def SortKey.isPlain (k : SortKey) : Bool := k.manner = .plain && !k.skipsLast

/-! ## Parts of lines -/

/-- A blank between fields. -/
def isBlankByte (b : UInt8) : Bool := b == 32 || b == 9 || b == 10

/-- The line from a field on. -/
def fromField (separator : Option UInt8) : Nat → List UInt8 → List UInt8
  | 0, line => line
  | n + 1, line =>
    let rest := match separator with
      | some s => (line.dropWhile (· ≠ s)).tail
      | none => (line.dropWhile isBlankByte).dropWhile fun b => !isBlankByte b
    fromField separator n rest

/-- What follows so many fields; the separator behind the last one counts only if `through`. -/
def afterFields (separator : Option UInt8) (through : Bool) : Nat → List UInt8 → List UInt8
  | 0, line => line
  | n + 1, line =>
    match separator with
    | some s =>
      let rest := line.dropWhile (· ≠ s)
      afterFields separator through n (if 0 < n || through then rest.tail else rest)
    | none =>
      afterFields separator through n
        ((line.dropWhile isBlankByte).dropWhile fun b => !isBlankByte b)

/-- The part of a line that a key is about. -/
def SortKey.part (k : SortKey) (separator : Option UInt8) (line : List UInt8) : List UInt8 :=
  let start := match k.first with
    | none => if k.manner.skips then line.dropWhile isBlankByte else line
    | some n =>
      let field := fromField separator n line
      (if k.manner.skips then field.dropWhile isBlankByte else field).drop k.firstChar
  let rest := match k.last with
    | none => []
    | some n =>
      if k.lastChar = 0 then afterFields separator false (n + 1) line
      else
        let field := afterFields separator true n line
        (if k.skipsLast then field.dropWhile isBlankByte else field).drop k.lastChar
  start.take (start.length - rest.length)

/-! ## Numbers at the front -/

/-- The number at the front of a line, as a sign, whole digits and fraction digits. -/
structure LineNumber where
  negative : Bool
  whole : Nat
  fraction : List UInt8
  /-- What follows it. -/
  rest : List UInt8

/-- Reads the number at the front of a line; a line without one counts as zero. -/
def LineNumber.read (line : List UInt8) : LineNumber :=
  let cs := line.dropWhile isBlankByte
  let negative := cs.head? == some 45
  let cs := if negative then cs.tail else cs
  let digits := cs.takeWhile isDigitByte
  let rest := cs.dropWhile isDigitByte
  let dotted := rest.head? == some 46
  let fraction := if dotted then rest.tail.takeWhile isDigitByte else []
  let kept := (fraction.reverse.dropWhile (· == 48)).reverse
  let whole := digits.foldl (fun n b => n * 10 + (b.toNat - 48)) 0
  ⟨negative && (whole != 0 || !kept.isEmpty), whole, kept,
    if dotted then rest.tail.dropWhile isDigitByte else rest⟩

/-- Byte lists in dictionary order. -/
def compareBytes : List UInt8 → List UInt8 → Ordering
  | [], [] => .eq
  | [], _ :: _ => .lt
  | _ :: _, [] => .gt
  | a :: as, b :: bs => (compare a b).then (compareBytes as bs)

/-- Numbers in order of size. -/
def LineNumber.compare (x y : LineNumber) : Ordering :=
  let size (x y : LineNumber) : Ordering :=
    (Ord.compare x.whole y.whole).then (compareBytes x.fraction y.fraction)
  match x.negative, y.negative with
  | false, false => size x y
  | true, true => size y x
  | true, false => .lt
  | false, true => .gt

/-- The letters of units behind numbers, from the smallest on; the first two are the same unit. -/
def unitLetters : List UInt8 := "KMGTPEZYRQ".toList.map fun c => UInt8.ofNat c.toNat

/-- The rank of the unit behind a number, which counts below zero for a number below zero. -/
def LineNumber.unitRank (x : LineNumber) : Int :=
  let letter := x.rest.head?.map fun b => if b == 107 then 75 else b
  let rank : Int := (letter.bind fun b => unitLetters.findIdx? (· == b)).elim 0 fun i => i + 1
  if x.whole = 0 && x.fraction.isEmpty then 0 else if x.negative then -rank else rank

/-- The names of the months. -/
def monthNames : List String :=
  ["JAN", "FEB", "MAR", "APR", "MAY", "JUN", "JUL", "AUG", "SEP", "OCT", "NOV", "DEC"]

/-- A small letter as its capital. -/
def upperByte (b : UInt8) : UInt8 :=
  if 97 ≤ b && b ≤ 122 then b - 32 else b

/-- The month at the front of a line, from one on; zero if there is none. -/
def monthOf (line : List UInt8) : Nat :=
  let name := ((line.dropWhile isBlankByte).take 3).map fun b => Char.ofNat (upperByte b).toNat
  (monthNames.findIdx? (· == String.ofList name)).elim 0 (· + 1)

/-- The order of two floating point numbers: what is no number first. -/
def compareFloating : Decimal.Floating → Decimal.Floating → Ordering
  | .notANumber _, .notANumber _ => .eq
  | .notANumber _, _ => .lt
  | _, .notANumber _ => .gt
  | .infinite m, .infinite n => compare n.toNat m.toNat
  | .infinite m, _ => if m then .lt else .gt
  | _, .infinite n => if n then .gt else .lt
  | .finite m x, .finite n y =>
    let value (negative : Bool) (s : Decimal.Scaled) : Int :=
      let size := s.significand * Nat.pow 2 (s.exponent + 16500).toNat
      if negative then -size else size
    compare (value m x) (value n y)

/-- The order of the numbers at the front of two lines in any notation; a line without one comes
first. -/
def compareGeneral (x y : List UInt8) : Ordering :=
  let read (line : List UInt8) : Option Decimal.Floating :=
    let cs := line.map fun b => Char.ofNat b.toNat
    let r := Decimal.Precision.extended.read cs
    if r.rest.length = cs.length then none else some r.value
  match read x, read y with
  | none, none => .eq
  | none, some _ => .lt
  | some _, none => .gt
  | some a, some b => compareFloating a b

/-! ## Comparing -/

/-- What of a part counts. -/
def Manner.counted (m : Manner) (part : List UInt8) : List UInt8 :=
  let counts (b : UInt8) : Bool :=
    if m.dictionary then isBlankByte b || isDigitByte b || isLetterByte b
    else !m.printing || (32 ≤ b && b ≤ 126)
  let kept := if m.dictionary || m.printing then part.filter counts else part
  if m.fold then kept.map upperByte else kept

/-- The order of two parts. -/
def Manner.compare (m : Manner) (x y : List UInt8) : Ordering :=
  let x := m.counted x
  let y := m.counted y
  let order :=
    if m.numeric then LineNumber.compare (.read x) (.read y)
    else if m.general then compareGeneral x y
    else if m.human then
      let a := LineNumber.read x
      let b := LineNumber.read y
      (Ord.compare a.unitRank b.unitRank).then (LineNumber.compare a b)
    else if m.month then Ord.compare (monthOf x) (monthOf y)
    else if m.random then .eq
    else if m.version then Version.compareVersions x y
    else compareBytes x y
  if m.reverse then order.swap else order

/-- The order of two lines by keys. -/
def compareByKeys (separator : Option UInt8) (keys : List SortKey) (x y : List UInt8) : Ordering :=
  keys.foldl (fun order k =>
    order.then (k.manner.compare (k.part separator x) (k.part separator y))) .eq

end PipeShell.Toolbox
