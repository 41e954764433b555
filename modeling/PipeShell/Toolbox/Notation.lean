import PipeShell.Decimal.Binary64

/-!
# Notations of floating point numbers

Numbers of a given `Precision` are read from the front of a text, rounded to the nearest one, and
written out again: with a fixed number of places, with a power of ten, whichever of these is
shorter, or in hexadecimal digits.  All that is written is exact or rounded once, a tie going to the
even digit.
-/

namespace PipeShell.Decimal

/-- The numbers `m · 2 ^ e` with `m` of so many bits, and `e` between two bounds. -/
structure Precision where
  bits : Nat
  lowest : Int
  highest : Int
deriving Repr, DecidableEq

/-- Numbers of 64 bits. -/
def Precision.double : Precision := ⟨53, -1074, 971⟩

/-- Numbers of 80 bits. -/
def Precision.extended : Precision := ⟨64, -16445, 16320⟩

/-- A floating point number. -/
inductive Floating where
  | finite (negative : Bool) (size : Scaled)
  | infinite (negative : Bool)
  | notANumber (negative : Bool)
deriving Repr, DecidableEq

/-- The number of the precision that is nearest to `num / den`, and whether it is in range. -/
def Precision.round (p : Precision) (negative : Bool) (num den : Nat) : Floating × Bool :=
  if num = 0 then (.finite negative ⟨0, 0⟩, true)
  else
    let e := max (floorLog2 num den - (p.bits - 1)) p.lowest
    let scaled := scaleBy e num den
    let m := roundQuotient scaled.1 scaled.2
    let full := m == Nat.pow 2 p.bits
    let m := if full then m / 2 else m
    let e := if full then e + 1 else e
    if p.highest < e then (.infinite negative, false)
    else (.finite negative ⟨m, e⟩, m != 0)

/-! ## Reading -/

/-- What was read from the front of a text. -/
structure FloatingRead where
  value : Floating
  /-- The value is not out of range. -/
  inRange : Bool
  /-- What follows the number; nothing was read if that is the whole text. -/
  rest : List Char

/-- The value of a hexadecimal digit. -/
def hexValue? (c : Char) : Option Nat :=
  if c.isDigit then some (c.toNat - 48)
  else if 'a' ≤ c && c ≤ 'f' then some (c.toNat - 87)
  else if 'A' ≤ c && c ≤ 'F' then some (c.toNat - 55)
  else none

/-- A power behind a mark at the front, and what follows it; none if no digit follows the mark. -/
def takePower (marks cs : List Char) : Int × List Char :=
  match cs with
  | c :: rest =>
    let signed := splitSign rest
    let digits := splitDigits signed.2
    if marks.contains c && !digits.1.isEmpty then
      let size : Int := min (digitsValue digits.1) 1000000
      (if signed.1 then -size else size, digits.2)
    else (0, cs)
  | [] => (0, [])

/-- Digits in front of a point and behind it, and what follows. -/
def takePlaces (isDigit : Char → Bool) (cs : List Char) : List Char × List Char × List Char :=
  let whole := cs.takeWhile isDigit
  match cs.drop whole.length with
  | '.' :: rest =>
    let places := rest.takeWhile isDigit
    if whole.isEmpty && places.isEmpty then ([], [], cs)
    else (whole, places, rest.drop places.length)
  | rest => (whole, [], rest)

/-- The word at the front, in any case of letters, and what follows it. -/
def takeWord? (word : String) (cs : List Char) : Option (List Char) :=
  if (cs.take word.length).map Char.toLower == word.toList then some (cs.drop word.length) else none

/-- The number at the front of a text, after blanks. -/
def Precision.read (p : Precision) (text : List Char) : FloatingRead :=
  let start := text.dropWhile fun c => c == ' ' || ('\t' ≤ c && c ≤ '\r')
  let (negative, cs) := splitSign start
  let infinite (rest : List Char) : FloatingRead := ⟨.infinite negative, true, rest⟩
  match takeWord? "infinity" cs, takeWord? "inf" cs, takeWord? "nan" cs with
  | some rest, _, _ => infinite rest
  | none, some rest, _ => infinite rest
  | none, none, some rest => ⟨.notANumber negative, true, rest⟩
  | none, none, none =>
    let hex := (takeWord? "0x" cs).map (takePlaces fun c => (hexValue? c).isSome)
    match hex.filter fun h => !(h.1.isEmpty && h.2.1.isEmpty) with
    | some (whole, places, rest) =>
      let (power, rest) := takePower ['p', 'P'] rest
      let digits := (whole ++ places).foldl (fun n c => n * 16 + (hexValue? c).getD 0) 0
      let e := power - 4 * places.length
      let (value, inRange) :=
        if 0 ≤ e then p.round negative (digits * Nat.pow 2 (min e.toNat 20000)) 1
        else p.round negative digits (Nat.pow 2 (min (-e).toNat 20000))
      ⟨value, inRange || digits == 0, rest⟩
    | none =>
      let (whole, places, rest) := takePlaces Char.isDigit cs
      if whole.isEmpty && places.isEmpty then ⟨.finite false ⟨0, 0⟩, true, text⟩
      else
        let (power, rest) := takePower ['e', 'E'] rest
        let digits := digitsValue (whole ++ places)
        let e := power - places.length
        let place : Int := decimalLength digits + e
        let (value, inRange) :=
          if digits = 0 then (.finite negative ⟨0, 0⟩, true)
          else if 5000 < place then (.infinite negative, false)
          else if place < -5000 then (.finite negative ⟨0, 0⟩, false)
          else if 0 ≤ e then p.round negative (digits * Nat.pow 10 e.toNat) 1
          else p.round negative digits (Nat.pow 10 (-e).toNat)
        ⟨value, inRange, rest⟩

/-! ## Writing -/

/-- The size as a fraction of whole numbers. -/
def Scaled.fraction (s : Scaled) : Nat × Nat := scaleBy (-s.exponent) s.significand 1

/-- The digits of `n`, of which so many stand behind the point. -/
def pointed (n places : Nat) (keepPoint : Bool) : String :=
  let digits := Nat.toDigits 10 n
  let padded := List.replicate (places + 1 - digits.length) '0' ++ digits
  let whole := padded.take (padded.length - places)
  let behind := padded.drop (padded.length - places)
  String.ofList whole ++ if behind.isEmpty && !keepPoint then "" else "." ++ String.ofList behind

/-- The size with so many places. -/
def Scaled.fixed (s : Scaled) (places : Nat) (keepPoint : Bool) : String :=
  let (num, den) := s.fraction
  pointed (roundQuotient (num * Nat.pow 10 places) den) places keepPoint

/-- The size rounded to one digit in front of the point and so many places behind it, all as one
whole number, with the power of ten. -/
def Scaled.decimal (s : Scaled) (places : Nat) : Nat × Int :=
  let (num, den) := s.fraction
  if num = 0 then (0, 0)
  else
    let guess : Int := (decimalLength num : Int) - decimalLength den
    let scale (e : Int) : Nat × Nat :=
      if 0 ≤ e then (num, den * Nat.pow 10 e.toNat) else (num * Nat.pow 10 (-e).toNat, den)
    let power := if (scale guess).1 < (scale guess).2 then guess - 1 else guess
    let scaled := scale power
    let n := roundQuotient (scaled.1 * Nat.pow 10 places) scaled.2
    if Nat.pow 10 (places + 1) ≤ n then (n / 10, power + 1) else (n, power)

/-- A power behind a mark, with at least two digits. -/
def powerText (mark : Char) (power : Int) : String :=
  let digits := toString power.natAbs
  mark.toString ++ (if power < 0 then "-" else "+")
    ++ (if digits.length < 2 then "0" else "") ++ digits

/-- The size with a power of ten. -/
def Scaled.scientific (s : Scaled) (places : Nat) (keepPoint : Bool) : String :=
  let (n, power) := s.decimal places
  pointed n places keepPoint ++ powerText 'e' power

/-- The text without zeros behind the point at its end. -/
def dropZeros (text : String) : String :=
  let cs := text.toList
  if cs.contains '.' then
    let kept := cs.reverse.dropWhile (· == '0')
    String.ofList (if kept.head? == some '.' then kept.tail else kept).reverse
  else text

/-- The size with so many digits, in the notation that is shorter. -/
def Scaled.general (s : Scaled) (digits : Nat) (keepZeros : Bool) : String :=
  let digits := max digits 1
  let (n, power) := s.decimal (digits - 1)
  let trim (text : String) : String := if keepZeros then text else dropZeros text
  if -4 ≤ power && power < digits then
    trim (s.fixed ((digits : Int) - 1 - power).toNat keepZeros)
  else trim (pointed n (digits - 1) keepZeros) ++ powerText 'e' power

/-- The size in hexadecimal digits, with a power of two: the bits that do not fill digits behind the
point stand in front of it. -/
def Scaled.hexadecimal (s : Scaled) (p : Precision) (places : Option Nat) (keepPoint : Bool) :
    String :=
  let count := (p.bits - 1) / 4
  let zero := s.significand == 0
  let shift := p.bits - 1 - Nat.log2 s.significand
  let short := if zero || s.exponent - shift < p.lowest then 0 else shift
  let m := s.significand * Nat.pow 2 short
  let power := if zero then 0 else s.exponent - short + 4 * count
  let kept := min (places.getD count) count
  let n := roundQuotient m (Nat.pow 16 (count - kept))
  let full := Nat.pow 16 (kept + 1) ≤ n
  let (n, power) := if full then (n / 16, power + 4) else (n, power)
  let digits := Nat.toDigits 16 n
  let padded := List.replicate (kept + 1 - digits.length) '0' ++ digits
  let whole := padded.take (padded.length - kept)
  let behind := padded.drop (padded.length - kept)
  let behind := match places with
    | none => (behind.reverse.dropWhile (· == '0')).reverse
    | some places => behind ++ List.replicate (places - kept) '0'
  let power := (if power < 0 then "p-" else "p+") ++ toString power.natAbs
  "0x" ++ String.ofList whole
    ++ (if behind.isEmpty && !keepPoint then "" else "." ++ String.ofList behind) ++ power

end PipeShell.Decimal
