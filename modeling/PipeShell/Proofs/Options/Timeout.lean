import PipeShell.Options
import PipeShell.Proofs.Decimal.Nearest

/-!
# Which time limits are accepted

The value of `--timeout` is a number of seconds as text.  It is rounded twice, to a binary64 and
then to nanoseconds, and each rounding has its own ends of range.  So the numbers fall into five
bands, with the ends `underflow`, `vanishing`, `unbounded` and `overflow`: from below, those that
are refused because they are nearest to zero or less than it (`Options.durationOf_of_outside`),
those that are accepted as a duration of nothing at all (`Options.durationOf_of_le_vanishing`),
those that are accepted as what they are (`Options.exists_durationOf_of_lt`), those that are too
many seconds for a duration (`Options.durationOf_of_unbounded_le`), and those that are refused
because they are nearest to infinity.

Only what is tested after the first rounding is refused.  The second and the fourth band are the two
gaps between that test and the ends of the second rounding; outside of them every value is refused
or is a duration longer than nothing (`Options.timeout_by_size`).
-/

namespace PipeShell

namespace Decimal

/-- The middle between zero and the least binary64.  A number up to here is nearest to zero. -/
def underflow : ℚ := 2 ^ (-1075 : ℤ)

/-- The middle between the greatest binary64 and the power of two behind it.  A number from here on
is nearest to infinity. -/
def overflow : ℚ := 2 ^ (1024 : ℤ) - 2 ^ (970 : ℤ)

/-- The number that a numeral means, if it means a finite one. -/
def Numeral.value? : Numeral → Option ℚ
  | finite negative digits exponent =>
    some (if negative then -(digits * 10 ^ exponent) else digits * 10 ^ exponent)
  | infinite _ => none
  | notANumber => none

/-- The finite number that a text writes, if it writes one. -/
def numberOf? (text : String) : Option ℚ := (Numeral.ofText? text).bind Numeral.value?

end Decimal

namespace Duration

open Decimal

/-- The middle between the two binary64 next to half a nanosecond.  A number of seconds up to here
is nearer to no nanosecond than to one. -/
def vanishing : ℚ := 9671406556917033 * 2 ^ (-84 : ℤ)

/-- The middle between the greatest number of seconds that a duration can have, as a binary64, and
the next one. -/
def unbounded : ℚ := 2 ^ (64 : ℤ) - 2 ^ (10 : ℤ)

variable {s : Scaled} {x : ℚ}

/-! ## Seconds as nanoseconds -/

/-- The number of seconds as a fraction. -/
lemma fraction_eq_value (s : Scaled) :
    ((scaleBy (-s.exponent) s.significand 1).1 : ℚ) / (scaleBy (-s.exponent) s.significand 1).2 =
      s.value := by
  rw [scaleBy_quotient, Nat.cast_one, div_one, zpow_neg, div_inv_eq_mul, Scaled.value]

/-- The comparison of whole numbers asks whether a number of seconds is at least 2⁶⁴. -/
lemma secondLimit_mul_le_iff (s : Scaled) :
    secondLimit * (scaleBy (-s.exponent) s.significand 1).2 ≤
      (scaleBy (-s.exponent) s.significand 1).1 ↔ 2 ^ (64 : ℤ) ≤ s.value := by
  have hden : (0 : ℚ) < (scaleBy (-s.exponent) s.significand 1).2 :=
    Nat.cast_pos.mpr (scaleBy_pos Nat.one_pos)
  have hlimit : (secondLimit : ℚ) = 2 ^ (64 : ℤ) := by norm_num [secondLimit]
  rw [← fraction_eq_value, le_div_iff₀ hden, ← hlimit]
  exact_mod_cast Iff.rfl

/-- A number of seconds that is too large has no duration. -/
lemma ofSeconds?_of_le (h : 2 ^ (64 : ℤ) ≤ s.value) : ofSeconds? s = none :=
  if_pos ((secondLimit_mul_le_iff s).mpr h)

/-- Any other number of seconds is rounded to the nearest nanosecond. -/
lemma exists_ofSeconds?_of_lt (h : s.value < 2 ^ (64 : ℤ)) :
    ∃ d, ofSeconds? s = some d ∧ |(d.nanos : ℚ) - s.value * 10 ^ 9| ≤ 1 / 2 ∧
      (0 < d.nanos ↔ 1 / 2 < s.value * 10 ^ 9) := by
  have hden : 0 < (scaleBy (-s.exponent) s.significand 1).2 := scaleBy_pos Nat.one_pos
  have hnanos : (((scaleBy (-s.exponent) s.significand 1).1 * perSecond : ℕ) : ℚ) /
      (scaleBy (-s.exponent) s.significand 1).2 = s.value * 10 ^ 9 := by
    rw [← fraction_eq_value, Nat.cast_mul, mul_div_right_comm]
    norm_num [perSecond]
  refine ⟨_, if_neg (mt (secondLimit_mul_le_iff s).mp (not_le.mpr h)), ?_, ?_⟩
  · rw [← hnanos]
    exact abs_roundQuotient_sub_le hden
  · rw [← hnanos, ← roundsBeyond_zero_iff]
    exact lt_roundQuotient_iff hden

/-! ## Both roundings -/

/-- A binary64 number of seconds is too large when the number that it is nearest to is. -/
lemma le_value_iff (h : IsNearest x s) : 2 ^ (64 : ℤ) ≤ s.value ↔ unbounded ≤ x :=
  h.two_zpow_le_value_iff (by norm_num : (-1074 : ℤ) ≤ 11)

/-- A binary64 number of seconds is nearer to one nanosecond than to none when the number that it is
nearest to lies above the middle of the gap around half a nanosecond. -/
lemma half_lt_value_iff (h : IsNearest x s) : 1 / 2 < s.value * 10 ^ 9 ↔ vanishing < x := by
  have hgap : IsGap 4835703278458516 (-83) := ⟨by norm_num, by norm_num, by norm_num⟩
  have hlow : (4835703278458516 : ℕ) * 2 ^ (-83 : ℤ) ≤ (1 / (2 * 10 ^ 9) : ℚ) := by norm_num
  have hhigh : (1 / (2 * 10 ^ 9) : ℚ) < ((4835703278458516 : ℕ) + 1) * 2 ^ (-83 : ℤ) := by norm_num
  have hmiddle : (2 * (4835703278458516 : ℕ) + 1) * 2 ^ (-83 - 1 : ℤ) = vanishing := by
    norm_num [vanishing]
  rw [← hmiddle, ← roundsBeyond_iff_of_even rfl, ← h.lt_value_iff hgap hlow hhigh,
    div_lt_iff₀ (by norm_num)]
  constructor <;> intro hlt <;> linarith

end Duration

namespace Options

open Decimal

variable {raw : String} {v : ℚ}

/-! ## The first rounding -/

/-- Some numbers that are not zero are nearest to zero. -/
lemma underflow_pos : 0 < underflow := zpow_pos two_pos _

/-- A text that writes no finite number is refused. -/
lemma durationOf_of_no_number (h : numberOf? raw = .none) :
    durationOf raw = .error (.flag (.invalidTimeout raw)) := by
  unfold durationOf
  split
  · next digits exponent htext => simp [numberOf?, htext, Numeral.value?] at h
  · rfl

/-- A number is refused where the first rounding gives nothing above zero, or infinity; otherwise
the second rounding decides. -/
lemma durationOf_cases (h : numberOf? raw = some v) :
    (durationOf raw = .error (.flag (.invalidTimeout raw)) ∧ (v ≤ underflow ∨ overflow ≤ v)) ∨
      ∃ s, IsNearest v s ∧ underflow < v ∧ v < overflow ∧
        durationOf raw = match Duration.ofSeconds? s with
          | some d => .ok d
          | .none => .error .tooLong := by
  obtain ⟨numeral, htext, hvalue⟩ := Option.bind_eq_some_iff.mp h
  cases numeral with
  | infinite negative => cases hvalue
  | notANumber => cases hvalue
  | finite negative digits exponent =>
      cases negative with
      | true =>
          -- a negative number lies below the first bound
          left
          obtain rfl : -((digits : ℚ) * 10 ^ exponent) = v := Option.some.inj hvalue
          have hnonneg : 0 ≤ (digits : ℚ) * 10 ^ exponent := by positivity
          refine ⟨by simp only [durationOf, htext], Or.inl ?_⟩
          linarith [underflow_pos]
      | false =>
          obtain rfl : (digits : ℚ) * 10 ^ exponent = v := Option.some.inj hvalue
          have hrounded := rounded_nearestDecimal? digits exponent
          simp only [durationOf, htext]
          generalize nearestDecimal? digits exponent = result at hrounded ⊢
          cases hrounded with
          | infinite hlarge => exact Or.inl ⟨rfl, Or.inr hlarge⟩
          | @finite s hnearest hrange =>
              by_cases hzero : s.significand = 0
              · left
                have hsmall : ¬underflow < digits * 10 ^ exponent := by
                  rw [underflow, ← hnearest.value_pos_iff, Scaled.value_pos_iff]
                  exact not_not.mpr hzero
                exact ⟨if_pos hzero, Or.inl (not_lt.mp hsmall)⟩
              · right
                have hlimit : (-1074 : ℤ) ≤ 971 := by norm_num
                refine ⟨s, hnearest, ?_, ?_, if_neg hzero⟩
                · exact hnearest.value_pos_iff.mp (Scaled.value_pos_iff.mpr hzero)
                · exact not_le.mp
                    (mt (hnearest.two_zpow_le_value_iff hlimit).mpr (not_le.mpr hrange))

/-! ## The five bands -/

/-- There are numbers that are not zero and count as no nanosecond. -/
lemma underflow_lt_vanishing : underflow < Duration.vanishing := by
  have hpow : underflow ≤ 2 ^ (-84 : ℤ) := two_zpow_le (by norm_num)
  have hvanishing : (2 : ℚ) ^ (-84 : ℤ) < Duration.vanishing := by norm_num [Duration.vanishing]
  exact hpow.trans_lt hvanishing

/-- There are numbers that count as durations. -/
lemma vanishing_lt_unbounded : Duration.vanishing < Duration.unbounded := by
  norm_num [Duration.vanishing, Duration.unbounded]

/-- There are finite numbers of seconds that are too large. -/
lemma unbounded_lt_overflow : Duration.unbounded < overflow := by
  have hsum : (2 : ℚ) ^ (64 : ℤ) + 2 ^ (970 : ℤ) ≤ 2 ^ (1024 : ℤ) := by
    calc (2 : ℚ) ^ (64 : ℤ) + 2 ^ (970 : ℤ)
      _ ≤ 2 ^ (970 : ℤ) + 2 ^ (970 : ℤ) := add_le_add_left (two_zpow_le (by norm_num)) _
      _ = 2 ^ (970 + 1 : ℤ) := by rw [zpow_add_one₀ two_ne_zero, mul_two]
      _ ≤ 2 ^ (1024 : ℤ) := two_zpow_le (by norm_num)
  exact (sub_lt_self _ (zpow_pos two_pos _)).trans_le (le_sub_iff_add_le.mpr hsum)

/-- Above the second band, the last unit is small against the number. -/
lemma error_le_of_lt {s : Scaled} (hnearest : IsNearest v s) (hlow : Duration.vanishing < v) :
    |s.value - v| ≤ v / 2 ^ 53 := by
  have hunit : (2 : ℚ) ^ (-1075 : ℤ) ≤ v / 2 ^ 53 := by
    calc (2 : ℚ) ^ (-1075 : ℤ)
      _ ≤ 2 ^ (-137 : ℤ) := two_zpow_le (by norm_num)
      _ ≤ Duration.vanishing / 2 ^ 53 := by norm_num [Duration.vanishing]
      _ ≤ v / 2 ^ 53 := div_le_div_of_nonneg_right hlow.le (by norm_num)
  exact hnearest.error_le.trans (max_le le_rfl hunit)

section Bands

variable (h : numberOf? raw = some v)

include h

/-- A number between the ends of the first rounding gets through to the second. -/
lemma exists_isNearest_of_between (hlow : underflow < v) (hhigh : v < overflow) :
    ∃ s, IsNearest v s ∧ durationOf raw = match Duration.ofSeconds? s with
      | some d => .ok d
      | .none => .error .tooLong := by
  rcases durationOf_cases h with ⟨-, hband⟩ | ⟨s, hnearest, -, -, heq⟩
  · exact absurd hband (not_or.mpr ⟨not_le.mpr hlow, not_le.mpr hhigh⟩)
  · exact ⟨s, hnearest, heq⟩

/-- The first band and the last: the number is nearest to zero, or negative, or nearest to
infinity. -/
lemma durationOf_of_outside (hband : v ≤ underflow ∨ overflow ≤ v) :
    durationOf raw = .error (.flag (.invalidTimeout raw)) := by
  rcases durationOf_cases h with ⟨heq, -⟩ | ⟨s, -, hlow, hhigh, -⟩
  · exact heq
  · exact absurd hband (not_or.mpr ⟨not_le.mpr hlow, not_le.mpr hhigh⟩)

/-- The second band: the number is nearer to no nanosecond than to one. -/
lemma durationOf_of_le_vanishing (hlow : underflow < v) (hhigh : v ≤ Duration.vanishing) :
    durationOf raw = .ok ⟨0⟩ := by
  have hbounded : v < Duration.unbounded := hhigh.trans_lt vanishing_lt_unbounded
  obtain ⟨s, hnearest, heq⟩ :=
    exists_isNearest_of_between h hlow (hbounded.trans unbounded_lt_overflow)
  have hseconds : s.value < 2 ^ (64 : ℤ) :=
    not_le.mp (mt (Duration.le_value_iff hnearest).mp (not_le.mpr hbounded))
  obtain ⟨⟨nanos⟩, hd, -, hpos⟩ := Duration.exists_ofSeconds?_of_lt hseconds
  have hzero : nanos = 0 := by
    rw [Duration.half_lt_value_iff hnearest] at hpos
    exact Nat.eq_zero_of_not_pos (mt hpos.mp (not_lt.mpr hhigh))
  rw [heq, hd, hzero]

/-- The third band: the number is a duration, and it is the one that is meant, up to the two
roundings. -/
lemma exists_durationOf_of_lt (hlow : Duration.vanishing < v) (hhigh : v < Duration.unbounded) :
    ∃ d, durationOf raw = .ok d ∧ 0 < d.nanos ∧
      |(d.nanos : ℚ) - v * 10 ^ 9| ≤ 1 / 2 + v * 10 ^ 9 / 2 ^ 53 := by
  obtain ⟨s, hnearest, heq⟩ := exists_isNearest_of_between h
    (underflow_lt_vanishing.trans hlow) (hhigh.trans unbounded_lt_overflow)
  have hseconds : s.value < 2 ^ (64 : ℤ) :=
    not_le.mp (mt (Duration.le_value_iff hnearest).mp (not_le.mpr hhigh))
  obtain ⟨d, hd, hround, hpos⟩ := Duration.exists_ofSeconds?_of_lt hseconds
  refine ⟨d, by rw [heq, hd], hpos.mpr ((Duration.half_lt_value_iff hnearest).mpr hlow), ?_⟩
  calc |(d.nanos : ℚ) - v * 10 ^ 9|
    _ ≤ |(d.nanos : ℚ) - s.value * 10 ^ 9| + |s.value * 10 ^ 9 - v * 10 ^ 9| := abs_sub_le _ _ _
    _ = |(d.nanos : ℚ) - s.value * 10 ^ 9| + |s.value - v| * 10 ^ 9 := by
      rw [← sub_mul, abs_mul, abs_of_pos (by norm_num : (0 : ℚ) < 10 ^ 9)]
    _ ≤ 1 / 2 + v / 2 ^ 53 * 10 ^ 9 :=
      add_le_add hround (mul_le_mul_of_nonneg_right (error_le_of_lt hnearest hlow) (by norm_num))
    _ = 1 / 2 + v * 10 ^ 9 / 2 ^ 53 := by rw [div_mul_eq_mul_div]

/-- The fourth band: the number is too many seconds. -/
lemma durationOf_of_unbounded_le (hlow : Duration.unbounded ≤ v) (hhigh : v < overflow) :
    durationOf raw = .error .tooLong := by
  have hpositive : underflow < v :=
    (underflow_lt_vanishing.trans vanishing_lt_unbounded).trans_le hlow
  obtain ⟨s, hnearest, heq⟩ := exists_isNearest_of_between h hpositive hhigh
  rw [heq, Duration.ofSeconds?_of_le ((Duration.le_value_iff hnearest).mpr hlow)]

end Bands

/-! ## The time limit -/

/-- The answer to a time limit is an error about the option, or a duration longer than nothing. -/
def IsRefusedOrLasts (result : Except TimeoutError (Option Duration)) : Prop :=
  (∃ e, result = .error (.flag e)) ∨ ∃ d, result = .ok (some d) ∧ 0 < d.nanos

/-- A limit of no time is neither refused nor does it last. -/
lemma not_isRefusedOrLasts_zero : ¬IsRefusedOrLasts (.ok (some ⟨0⟩)) := by
  simp [IsRefusedOrLasts]

/-- A limit that is too long is not refused with an error about the option. -/
lemma not_isRefusedOrLasts_tooLong : ¬IsRefusedOrLasts (.error .tooLong) := by
  simp [IsRefusedOrLasts]

section Given

variable {o : Options} (h : o.value? .timeout = some raw)

include h

/-- A text that is a duration is the time limit. -/
lemma timeout_of_ok {d : Duration} (hd : durationOf raw = .ok d) : o.timeout = .ok (some d) := by
  rw [timeout, h]
  simp [hd, Except.map]

/-- A text that is none gives its error. -/
lemma timeout_of_error {e : TimeoutError} (he : durationOf raw = .error e) :
    o.timeout = .error e := by
  rw [timeout, h]
  simp [he, Except.map]

/-- Only the second band and the fourth are answered in another way. -/
lemma isRefusedOrLasts_iff : IsRefusedOrLasts o.timeout ↔ ∀ v, numberOf? raw = some v →
    ¬(underflow < v ∧ v ≤ Duration.vanishing) ∧ ¬(Duration.unbounded ≤ v ∧ v < overflow) := by
  constructor
  · intro hresult v hv
    constructor
    · rintro ⟨hlow, hhigh⟩
      rw [timeout_of_ok h (durationOf_of_le_vanishing hv hlow hhigh)] at hresult
      exact not_isRefusedOrLasts_zero hresult
    · rintro ⟨hlow, hhigh⟩
      rw [timeout_of_error h (durationOf_of_unbounded_le hv hlow hhigh)] at hresult
      exact not_isRefusedOrLasts_tooLong hresult
  · intro hgaps
    rcases hnumber : numberOf? raw with _ | v
    · exact .inl ⟨_, timeout_of_error h (durationOf_of_no_number hnumber)⟩
    · obtain ⟨hvanishing, hunbounded⟩ := hgaps v hnumber
      by_cases hband : v ≤ underflow ∨ overflow ≤ v
      · exact .inl ⟨_, timeout_of_error h (durationOf_of_outside hnumber hband)⟩
      · -- what is left is the third band
        rw [not_or, not_le, not_le] at hband
        have hlow : Duration.vanishing < v := not_le.mp fun hle => hvanishing ⟨hband.1, hle⟩
        have hhigh : v < Duration.unbounded := not_le.mp fun hle => hunbounded ⟨hle, hband.2⟩
        obtain ⟨d, hd, hpos, -⟩ := exists_durationOf_of_lt hnumber hlow hhigh
        exact .inr ⟨d, timeout_of_ok h hd, hpos⟩

end Given

/-- Every value of `--timeout` is refused or is a duration longer than nothing, but for the numbers
of two bands: those that the test for zero lets through and that are then rounded to no nanosecond,
and those that the test for infinity lets through and that are too many seconds for a duration.
Numbers nearest to zero or infinity, negative ones, and what is no finite number are refused; every
number between the two bands is the duration that it means, up to half a nanosecond and half a unit
of its last bit. -/
theorem timeout_by_size {o : Options} (h : o.value? .timeout = some raw) :
    (IsRefusedOrLasts o.timeout ↔ ∀ v, numberOf? raw = some v →
      ¬(underflow < v ∧ v ≤ Duration.vanishing) ∧ ¬(Duration.unbounded ≤ v ∧ v < overflow)) ∧
    (numberOf? raw = .none → o.timeout = .error (.flag (.invalidTimeout raw))) ∧
    ∀ v, numberOf? raw = some v →
      (v ≤ underflow ∨ overflow ≤ v → o.timeout = .error (.flag (.invalidTimeout raw))) ∧
      (underflow < v → v ≤ Duration.vanishing → o.timeout = .ok (some ⟨0⟩)) ∧
      (Duration.vanishing < v → v < Duration.unbounded → ∃ d, o.timeout = .ok (some d) ∧
        0 < d.nanos ∧ |(d.nanos : ℚ) - v * 10 ^ 9| ≤ 1 / 2 + v * 10 ^ 9 / 2 ^ 53) ∧
      (Duration.unbounded ≤ v → v < overflow → o.timeout = .error .tooLong) := by
  refine ⟨isRefusedOrLasts_iff h, ?_, fun v hv => ⟨?_, ?_, ?_, ?_⟩⟩
  · exact fun hnumber => timeout_of_error h (durationOf_of_no_number hnumber)
  · exact fun hband => timeout_of_error h (durationOf_of_outside hv hband)
  · exact fun hlow hhigh => timeout_of_ok h (durationOf_of_le_vanishing hv hlow hhigh)
  · intro hlow hhigh
    obtain ⟨d, hd, hbounds⟩ := exists_durationOf_of_lt hv hlow hhigh
    exact ⟨d, timeout_of_ok h hd, hbounds⟩
  · exact fun hlow hhigh => timeout_of_error h (durationOf_of_unbounded_le hv hlow hhigh)

/-- Half a nanosecond is a time limit that lasts: it is rounded up to one nanosecond. -/
theorem timeout_by_size_at_half_nanosecond :
    let o := (ofArgs ["-t", "5e-10"]).1
    o.value? .timeout = some "5e-10" ∧ numberOf? "5e-10" = some (5 * 10 ^ (-10 : ℤ)) ∧
      Duration.vanishing < 5 * 10 ^ (-10 : ℤ) ∧ 5 * 10 ^ (-10 : ℤ) < Duration.unbounded ∧
      IsRefusedOrLasts o.timeout ∧ ∃ d, o.timeout = .ok (some d) ∧ 0 < d.nanos := by
  have hvalue : (ofArgs ["-t", "5e-10"]).1.value? .timeout = some "5e-10" := by decide
  have hnumber : numberOf? "5e-10" = some (5 * 10 ^ (-10 : ℤ)) := rfl
  have hlow : Duration.vanishing < 5 * 10 ^ (-10 : ℤ) := by norm_num [Duration.vanishing]
  have hhigh : 5 * 10 ^ (-10 : ℤ) < Duration.unbounded := by norm_num [Duration.unbounded]
  obtain ⟨hiff, -, hbands⟩ := timeout_by_size hvalue
  obtain ⟨d, hd, hpos, -⟩ := (hbands _ hnumber).2.2.1 hlow hhigh
  refine ⟨hvalue, hnumber, hlow, hhigh, hiff.mpr fun v hv => ?_, d, hd, hpos⟩
  obtain rfl : 5 * 10 ^ (-10 : ℤ) = v := Option.some.inj (hnumber.symm.trans hv)
  exact ⟨fun hband => hlow.not_ge hband.2, fun hband => hhigh.not_ge hband.1⟩

/-- Two values of `--timeout` that are no errors about the option and no duration longer than
nothing: one of each of the two bands. -/
theorem timeout_neither_refused_nor_lasting :
    (ofArgs ["--timeout", "1e-10"]).1.timeout = .ok (some ⟨0⟩) ∧
      (ofArgs ["--timeout", "1e20"]).1.timeout = .error .tooLong ∧
      ¬IsRefusedOrLasts (ofArgs ["--timeout", "1e-10"]).1.timeout ∧
      ¬IsRefusedOrLasts (ofArgs ["--timeout", "1e20"]).1.timeout := by
  have hzero : (ofArgs ["--timeout", "1e-10"]).1.timeout = .ok (some ⟨0⟩) := by decide +kernel
  have htooLong : (ofArgs ["--timeout", "1e20"]).1.timeout = .error .tooLong := by decide +kernel
  refine ⟨hzero, htooLong, ?_, ?_⟩
  · rw [hzero]
    exact not_isRefusedOrLasts_zero
  · rw [htooLong]
    exact not_isRefusedOrLasts_tooLong

end Options

end PipeShell
