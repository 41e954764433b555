import PipeShell.Decimal.Binary64
import PipeShell.Text.Field

/-!
# Durations

A span of time counted in nanoseconds, less than `2 ^ 64` seconds long.  `Duration.ofSeconds?`
rounds a number of seconds to the nearest nanosecond, and `Duration.render` writes a duration in
the largest unit of which it holds at least one, with the fraction digits it needs and no more.
-/

namespace PipeShell

/-- A span of time in nanoseconds. -/
structure Duration where
  nanos : Nat
deriving Repr, DecidableEq

namespace Duration

/-- The nanoseconds in a second. -/
def perSecond : Nat := 1000000000

/-- The first number of seconds that is too long for a duration. -/
def secondLimit : Nat := 18446744073709551616

/-- Whole milliseconds. -/
def ofMillis (n : Nat) : Duration := ⟨n * 1000000⟩

/-- Whole seconds, and nanoseconds on top. -/
def ofParts (seconds nanos : Nat) : Duration := ⟨seconds * perSecond + nanos⟩

/-- The whole seconds of the duration. -/
def seconds (d : Duration) : Nat := d.nanos / perSecond

/-- The nanoseconds beyond the whole seconds. -/
def subsecond (d : Duration) : Nat := d.nanos % perSecond

/-- A number of seconds to the nearest nanosecond, a tie to the even one; `none` when there are
too many seconds. -/
def ofSeconds? (s : Decimal.Scaled) : Option Duration :=
  let fraction := Decimal.scaleBy (-s.exponent) s.significand 1
  let num := fraction.1
  let den := fraction.2
  if secondLimit * den ≤ num then none
  else some ⟨Decimal.roundQuotient (num * perSecond) den⟩

/-- A whole number of units and a fraction of `places` digits, written without trailing zeros. -/
def renderFraction (whole fraction places : Nat) : String :=
  let digits := (Nat.toDigits 10 fraction)
  let padded := List.replicate (places - digits.length) '0' ++ digits
  let kept := (padded.reverse.dropWhile (· = '0')).reverse
  if kept.isEmpty then toString whole
  else toString whole ++ "." ++ String.ofList kept

/-- The duration in seconds, milliseconds, microseconds or nanoseconds. -/
def render (d : Duration) : String :=
  if perSecond ≤ d.nanos then renderFraction d.seconds d.subsecond 9 ++ "s"
  else if 1000000 ≤ d.nanos then renderFraction (d.nanos / 1000000) (d.nanos % 1000000) 6 ++ "ms"
  else if 1000 ≤ d.nanos then renderFraction (d.nanos / 1000) (d.nanos % 1000) 3 ++ "µs"
  else toString d.nanos ++ "ns"

end Duration

end PipeShell
