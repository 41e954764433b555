import PipeShell.Decimal.Numeral

/-!
# The nearest binary64

Rounding an exact positive fraction to the nearest number of the form `m · 2 ^ e` with `m` below
`2 ^ 53` and `e` at least `-1074`, a tie going to the even `m`.  Everything is computed with whole
numbers, so the statements about it are statements about `Nat`.

`roundQuotient` is the one rounding rule of the library: to the nearest whole number, a tie to the
even one.
-/

namespace PipeShell.Decimal

/-- The whole number nearest to `num / den`; of two equally near ones the even one. -/
def roundQuotient (num den : Nat) : Nat :=
  let q := num / den
  let r := num % den
  if 2 * r < den then q
  else if 2 * r = den then (if q % 2 = 0 then q else q + 1)
  else q + 1

/-- A positive number `significand · 2 ^ exponent`, or zero when the significand is zero. -/
structure Scaled where
  significand : Nat
  exponent : Int
deriving Repr, DecidableEq

/-- `num / den · 2 ^ (- e)` as a fraction of whole numbers. -/
def scaleBy (e : Int) (num den : Nat) : Nat × Nat :=
  if 0 ≤ e then (num, den * Nat.pow 2 e.toNat) else (num * Nat.pow 2 (-e).toNat, den)

/-- The exponent of the highest power of two that is at most `num / den`. -/
def floorLog2 (num den : Nat) : Int :=
  let k : Int := (Nat.log2 num : Int) - (Nat.log2 den : Int)
  let scaled := scaleBy k num den
  if scaled.1 < scaled.2 then k - 1 else k

/-- The binary64 nearest to `num / den`; `none` when that is infinity. -/
def nearest? (num den : Nat) : Option Scaled :=
  if num = 0 then some ⟨0, 0⟩
  else
    let e := max (floorLog2 num den - 52) (-1074)
    let scaled := scaleBy e num den
    let m := roundQuotient scaled.1 scaled.2
    if m * Nat.pow 2 (e + 1074).toNat < Nat.pow 2 (1024 + 1074) then some ⟨m, e⟩ else none

/-- The number of decimal digits of `n`. -/
def decimalLength (n : Nat) : Nat :=
  (Nat.toDigits 10 n).length

/-- The binary64 nearest to `digits · 10 ^ exponent`.  A number of more than 310 digits before the
point is infinite and one with more than 400 zeros behind it is zero, so that no huge power is
ever computed. -/
def nearestDecimal? (digits : Nat) (exponent : Int) : Option Scaled :=
  if digits = 0 then some ⟨0, 0⟩
  else
    let place : Int := decimalLength digits + exponent
    if 310 < place then none
    else if place < -400 then some ⟨0, 0⟩
    else if 0 ≤ exponent then nearest? (digits * Nat.pow 10 exponent.toNat) 1
    else nearest? digits (Nat.pow 10 (-exponent).toNat)

end PipeShell.Decimal
