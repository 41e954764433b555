/-!
# Numerals

The written form of a number: an optional sign, then digits with at most one point among them and
an optional power of ten, or one of the words for infinity and for no number.  A `Numeral` is the
number exactly as written; rounding to machine precision is the business of
`PipeShell.Decimal.Binary64`.

`readInt?` and `readNat?` read whole numbers under the rules for command arguments: a sign, then
digits and nothing else.
-/

namespace PipeShell.Decimal

/-- A number as written: `digits · 10 ^ exponent`, with a sign, or one of the two special words. -/
inductive Numeral where
  | finite (negative : Bool) (digits : Nat) (exponent : Int)
  | infinite (negative : Bool)
  | notANumber
deriving Repr, DecidableEq

/-- The value of a list of decimal digits. -/
def digitsValue (ds : List Char) : Nat :=
  ds.foldl (fun n d => 10 * n + (d.toNat - '0'.toNat)) 0

/-- A sign in front of a text, and the text after it; `true` means minus. -/
def splitSign : List Char → Bool × List Char
  | '-' :: cs => (true, cs)
  | '+' :: cs => (false, cs)
  | cs => (false, cs)

/-- The digits at the start of a text, and the rest. -/
def splitDigits (cs : List Char) : List Char × List Char :=
  (cs.takeWhile Char.isDigit, cs.dropWhile Char.isDigit)

/-- The whole text as a number without sign. -/
def wholeNat? (cs : List Char) : Option Nat :=
  if !cs.isEmpty && cs.all Char.isDigit then some (digitsValue cs) else none

/-- The whole text as a number with an optional sign. -/
def wholeInt? (cs : List Char) : Option Int :=
  (wholeNat? (splitSign cs).2).map fun n => if (splitSign cs).1 then -n else n

/-- The power of ten at the end of a numeral: nothing, or `e` and a whole number. -/
def exponentPart? : List Char → Option Int
  | [] => some 0
  | c :: cs => if c = 'e' || c = 'E' then wholeInt? cs else none

/-- A numeral without its sign. -/
def Numeral.unsigned? (negative : Bool) (cs : List Char) : Option Numeral :=
  let word := String.ofList (cs.map Char.toLower)
  if word = "inf" || word = "infinity" then some (.infinite negative)
  else if word = "nan" then some .notANumber
  else
    let whole := splitDigits cs
    let fraction := match whole.2 with
      | '.' :: rest => splitDigits rest
      | rest => ([], rest)
    if whole.1.isEmpty && fraction.1.isEmpty then none
    else (exponentPart? fraction.2).map fun e =>
      .finite negative (digitsValue (whole.1 ++ fraction.1)) (e - fraction.1.length)

/-- The numeral that a text writes, if it writes one. -/
def Numeral.ofText? (s : String) : Option Numeral :=
  let signed := splitSign s.toList
  Numeral.unsigned? signed.1 signed.2

/-! ## Whole numbers as arguments -/

/-- A number from `low` to `high`, with an optional sign. -/
def readInt? (low high : Int) (s : String) : Option Int :=
  (wholeInt? s.toList).filter fun n => low ≤ n && n ≤ high

/-- A number up to `high`; a plus sign may stand in front. -/
def readNat? (high : Nat) (s : String) : Option Nat :=
  match s.toList with
  | '+' :: cs => (wholeNat? cs).filter (· ≤ high)
  | cs => (wholeNat? cs).filter (· ≤ high)

end PipeShell.Decimal
