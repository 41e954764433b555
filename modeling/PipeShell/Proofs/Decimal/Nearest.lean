import PipeShell.Proofs.Decimal.Rounding

/-!
# The nearest binary64

The numbers of 53 bits leave gaps between neighbours (`IsGap`).  To round a number to the nearest of
them is to decide, for every gap, on which side of its middle the number lies; `IsNearest` says that
a result is on that side of every gap, and so tells exactly which numbers are rounded to what.  A
bound on the result becomes a bound on the number by a single gap (`IsNearest.lt_value_iff`,
`IsNearest.le_value_iff`).

`nearest?` rounds in this way, up to the numbers that are infinite (`rounded_nearest?`), and the
numbers whose power of ten is never computed are infinite, or rounded to zero, as they stand
(`rounded_nearestDecimal?`).
-/

namespace PipeShell.Decimal

/-- The number that is meant. -/
def Scaled.value (s : Scaled) : ℚ := s.significand * 2 ^ s.exponent

/-- The numbers `k · 2 ^ e` and `(k + 1) · 2 ^ e` are neighbours: there is no number of 53 bits
between them. -/
structure IsGap (k : ℕ) (e : ℤ) : Prop where
  lowest_le : -1074 ≤ e
  lt_full : k < 2 ^ 53
  half_full : 2 ^ 52 ≤ k ∨ e = -1074

/-- The result of rounding `x`: it lies on the side of each gap on which `x` lies of its middle. -/
structure IsNearest (x : ℚ) (s : Scaled) : Prop where
  above {k : ℕ} {e : ℤ} : IsGap k e → RoundsBeyond k (x / 2 ^ e) → (k + 1) * 2 ^ e ≤ s.value
  below {k : ℕ} {e : ℤ} : IsGap k e → ¬RoundsBeyond k (x / 2 ^ e) → s.value ≤ k * 2 ^ e
  /-- Half a unit in the last place. -/
  error_le : |s.value - x| ≤ max (x / 2 ^ 53) (2 ^ (-1075 : ℤ))

variable {k num den : ℕ} {e : ℤ} {x t : ℚ} {s : Scaled}

/-- Powers of two grow with their exponents. -/
lemma two_zpow_le {a b : ℤ} (h : a ≤ b) : (2 : ℚ) ^ a ≤ 2 ^ b :=
  zpow_le_zpow_right₀ one_le_two h

/-- A numeral that is added to the exponent comes out as a factor. -/
lemma two_zpow_add_ofNat (e : ℤ) (n : ℕ) [n.AtLeastTwo] :
    (2 : ℚ) ^ (e + ofNat(n)) = 2 ^ (ofNat(n) : ℕ) * 2 ^ e := by
  rw [zpow_add₀ two_ne_zero, zpow_ofNat, mul_comm]

/-- With an exponent less by one a power of two is halved. -/
lemma two_zpow_sub_one (e : ℤ) : (2 : ℚ) ^ (e - 1) = 1 / 2 * 2 ^ e := by
  rw [zpow_sub_one₀ two_ne_zero, mul_comm, one_div]

/-! ## Bounds and gaps -/

/-- A number is zero only if its digits are. -/
lemma Scaled.value_pos_iff : 0 < s.value ↔ s.significand ≠ 0 := by
  rw [value, mul_pos_iff_of_pos_right (zpow_pos two_pos _), Nat.cast_pos, Nat.pos_iff_ne_zero]

/-- The result is above a bound inside a gap exactly if `x` lies beyond the middle of the gap, so
all bounds inside it come to the same. -/
lemma IsNearest.lt_value_iff (h : IsNearest x s) (hgap : IsGap k e) (hlow : k * 2 ^ e ≤ t)
    (hhigh : t < (k + 1) * 2 ^ e) : t < s.value ↔ RoundsBeyond k (x / 2 ^ e) :=
  ⟨fun ht => not_not.mp fun hnot => not_lt.mpr ((h.below hgap hnot).trans hlow) ht,
    fun hbeyond => hhigh.trans_le (h.above hgap hbeyond)⟩

/-- The upper end of the gap is such a bound, and the result can be equal to it. -/
lemma IsNearest.le_value_iff (h : IsNearest x s) (hgap : IsGap k e) :
    (k + 1) * 2 ^ e ≤ s.value ↔ RoundsBeyond k (x / 2 ^ e) := by
  have hstep : (k : ℚ) * 2 ^ e < (k + 1) * 2 ^ e :=
    mul_lt_mul_of_pos_right (lt_add_one _) (zpow_pos two_pos _)
  exact ⟨fun ht => (h.lt_value_iff hgap le_rfl hstep).mp (hstep.trans_le ht), h.above hgap⟩

/-- A number that lies above the middle of a gap, or in it. -/
lemma roundsBeyond_iff_of_odd (hodd : k % 2 = 1) :
    RoundsBeyond k (x / 2 ^ e) ↔ (2 * k + 1) * 2 ^ (e - 1) ≤ x := by
  have hpow : (0 : ℚ) < 2 ^ e := zpow_pos two_pos e
  have hbeyond : RoundsBeyond k (x / 2 ^ e) ↔ (k : ℚ) + 1 / 2 ≤ x / 2 ^ e :=
    ⟨RoundsBeyond.half_le, fun h => h.lt_or_eq.imp id fun heq => ⟨heq.symm, hodd⟩⟩
  rw [hbeyond, le_div_iff₀ hpow, two_zpow_sub_one]
  constructor <;> intro h <;> linarith

/-- A number that lies above the middle of a gap. -/
lemma roundsBeyond_iff_of_even (heven : k % 2 = 0) :
    RoundsBeyond k (x / 2 ^ e) ↔ (2 * k + 1) * 2 ^ (e - 1) < x := by
  have hpow : (0 : ℚ) < 2 ^ e := zpow_pos two_pos e
  have hbeyond : RoundsBeyond k (x / 2 ^ e) ↔ (k : ℚ) + 1 / 2 < x / 2 ^ e :=
    or_iff_left fun h => by omega
  rw [hbeyond, lt_div_iff₀ hpow, two_zpow_sub_one]
  constructor <;> intro h <;> linarith

/-- The gap below a power of two. -/
lemma isGap_last (h : -1074 ≤ e) : IsGap (2 ^ 53 - 1) e := ⟨h, by norm_num, by norm_num⟩

/-- The result comes up to a power of two from half a unit below it, a unit being the distance of
the numbers below the power. -/
lemma IsNearest.two_zpow_le_value_iff (h : IsNearest x s) (he : -1074 ≤ e) :
    2 ^ (e + 53) ≤ s.value ↔ 2 ^ (e + 53) - 2 ^ (e - 1) ≤ x := by
  have hpow : (2 : ℚ) ^ (e + 53) = 2 ^ 53 * 2 ^ e := two_zpow_add_ofNat e 53
  have hnext : ((2 ^ 53 - 1 : ℕ) + 1 : ℚ) * 2 ^ e = 2 ^ (e + 53) := by
    rw [hpow]
    norm_num
  have hmiddle : (2 * (2 ^ 53 - 1 : ℕ) + 1 : ℚ) * 2 ^ (e - 1) = 2 ^ (e + 53) - 2 ^ (e - 1) := by
    rw [hpow, two_zpow_sub_one]
    norm_num
    ring
  rw [← hnext, h.le_value_iff (isGap_last he), roundsBeyond_iff_of_odd (by norm_num), hmiddle,
    hnext]

/-- Only what lies above the middle between zero and the least number is not rounded to zero. -/
lemma IsNearest.value_pos_iff (h : IsNearest x s) : 0 < s.value ↔ 2 ^ (-1075 : ℤ) < x := by
  have hgap : IsGap 0 (-1074) := ⟨le_rfl, by norm_num, Or.inr rfl⟩
  rw [h.lt_value_iff hgap (by simp) (by positivity), roundsBeyond_iff_of_even rfl]
  norm_num

/-! ## Rounding -/

/-- The exponent of the result: that of 53 bits, or the least one. -/
def gridExponent (num den : ℕ) : ℤ := max (floorLog2 num den - 52) (-1074)

/-- The result, if no number is too large. -/
def onGrid (num den : ℕ) : Scaled :=
  let scaled := scaleBy (gridExponent num den) num den
  ⟨roundQuotient scaled.1 scaled.2, gridExponent num den⟩

/-- The exponent of the result is never below the least one. -/
lemma lowest_le_gridExponent (num den : ℕ) : -1074 ≤ gridExponent num den := le_max_right _ _

/-- The quotient is less than the first number that the grid has no room for. -/
lemma div_lt_gridExponent (hnum : 0 < num) (hden : 0 < den) :
    (num / den : ℚ) < 2 ^ (gridExponent num den + 53) := by
  refine (floorLog2_spec hnum hden).2.trans_le (two_zpow_le ?_)
  have hle := le_max_left (floorLog2 num den - 52) (-1074)
  rw [← gridExponent] at hle
  omega

/-- All bits are used, unless the grid is the finest. -/
lemma gridExponent_le_div (hnum : 0 < num) (hden : 0 < den)
    (hgrid : gridExponent num den ≠ -1074) :
    (2 : ℚ) ^ (gridExponent num den + 52) ≤ num / den := by
  have heq : gridExponent num den = floorLog2 num den - 52 :=
    (max_choice _ _).resolve_right hgrid
  rw [heq, sub_add_cancel]
  exact (floorLog2_spec hnum hden).1

/-- The digits of the result are those of the quotient, rounded in units of the last place. -/
lemma lt_significand_onGrid_iff (hden : 0 < den) : k < (onGrid num den).significand ↔
    RoundsBeyond k (num / den / 2 ^ gridExponent num den : ℚ) := by
  rw [onGrid, lt_roundQuotient_iff (scaleBy_pos hden), scaleBy_quotient]

/-- A gap of a finer grid lies below the quotient and the result. -/
lemma IsGap.le_of_finer (hgap : IsGap k e) (he : e < gridExponent num den) :
    (k + 1) * 2 ^ e ≤ (2 : ℚ) ^ (gridExponent num den + 52) ∧
      gridExponent num den ≠ -1074 := by
  have hlow := hgap.lowest_le
  refine ⟨?_, by omega⟩
  calc ((k : ℚ) + 1) * 2 ^ e
    _ ≤ 2 ^ 53 * 2 ^ e :=
      mul_le_mul_of_nonneg_right (by exact_mod_cast hgap.lt_full) (zpow_nonneg zero_le_two _)
    _ = 2 ^ (e + 53) := (two_zpow_add_ofNat e 53).symm
    _ ≤ 2 ^ (gridExponent num den + 52) := two_zpow_le (by omega)

/-- A gap of a coarser grid lies above the quotient and the result. -/
lemma IsGap.le_of_coarser (hgap : IsGap k e) (he : gridExponent num den < e) :
    (2 : ℚ) ^ (gridExponent num den + 53) ≤ k * 2 ^ e := by
  have hleast := lowest_le_gridExponent num den
  have hfull : 2 ^ 52 ≤ k := hgap.half_full.resolve_right (by omega)
  calc (2 : ℚ) ^ (gridExponent num den + 53)
    _ ≤ 2 ^ (e + 52) := two_zpow_le (by omega)
    _ = 2 ^ 52 * 2 ^ e := two_zpow_add_ofNat e 52
    _ ≤ k * 2 ^ e :=
      mul_le_mul_of_nonneg_right (by exact_mod_cast hfull) (zpow_nonneg zero_le_two _)

/-- They are off by no more than half a unit. -/
lemma abs_significand_onGrid_sub_le (hden : 0 < den) :
    |((onGrid num den).significand : ℚ) - num / den / 2 ^ gridExponent num den| ≤ 1 / 2 := by
  rw [← scaleBy_quotient]
  exact abs_roundQuotient_sub_le (scaleBy_pos hden)

section Rounding

variable (hnum : 0 < num) (hden : 0 < den)

include hnum hden

/-- The result has not more bits than there is room for. -/
lemma value_onGrid_le :
    (onGrid num den).value ≤ 2 ^ (gridExponent num den + 53) := by
  have hle : (onGrid num den).significand ≤ 2 ^ 53 := by
    refine roundQuotient_le (scaleBy_pos hden) ?_
    rw [scaleBy_quotient, div_le_iff₀ (zpow_pos two_pos _)]
    have hlt := div_lt_gridExponent hnum hden
    rw [two_zpow_add_ofNat] at hlt
    exact_mod_cast hlt.le
  rw [two_zpow_add_ofNat, Scaled.value]
  exact mul_le_mul_of_nonneg_right (by exact_mod_cast hle) (zpow_nonneg zero_le_two _)

/-- The result has all bits, unless the grid is the finest. -/
lemma le_value_onGrid (hgrid : gridExponent num den ≠ -1074) :
    2 ^ (gridExponent num den + 52) ≤ (onGrid num den).value := by
  have hle : 2 ^ 52 ≤ (onGrid num den).significand := by
    refine le_roundQuotient (scaleBy_pos hden) ?_
    rw [scaleBy_quotient, le_div_iff₀ (zpow_pos two_pos _)]
    have hle := gridExponent_le_div hnum hden hgrid
    rw [two_zpow_add_ofNat] at hle
    exact_mod_cast hle
  rw [two_zpow_add_ofNat, Scaled.value]
  exact mul_le_mul_of_nonneg_right (by exact_mod_cast hle) (zpow_nonneg zero_le_two _)

/-- The result lies on the right side of every gap. -/
theorem isNearest_onGrid : IsNearest (num / den) (onGrid num den) where
  above := by
    intro k e hgap hbeyond
    rcases lt_trichotomy e (gridExponent num den) with he | rfl | he
    · obtain ⟨hle, hgrid⟩ := hgap.le_of_finer he
      exact hle.trans (le_value_onGrid hnum hden hgrid)
    · have hlt : k + 1 ≤ (onGrid num den).significand :=
        (lt_significand_onGrid_iff hden).mpr hbeyond
      exact mul_le_mul_of_nonneg_right (by exact_mod_cast hlt) (zpow_nonneg zero_le_two _)
    · -- the quotient lies below the whole gap
      refine absurd hbeyond (not_roundsBeyond_of_le ?_)
      rw [div_le_iff₀ (zpow_pos two_pos e)]
      exact (div_lt_gridExponent hnum hden).le.trans (hgap.le_of_coarser he)
  below := by
    intro k e hgap hbeyond
    rcases lt_trichotomy e (gridExponent num den) with he | rfl | he
    · -- the quotient lies above the whole gap
      obtain ⟨hle, hgrid⟩ := hgap.le_of_finer he
      refine absurd (roundsBeyond_of_succ_le ?_) hbeyond
      rw [le_div_iff₀ (zpow_pos two_pos e)]
      exact hle.trans (gridExponent_le_div hnum hden hgrid)
    · have hle : (onGrid num den).significand ≤ k :=
        not_lt.mp fun hlt => hbeyond ((lt_significand_onGrid_iff hden).mp hlt)
      exact mul_le_mul_of_nonneg_right (by exact_mod_cast hle) (zpow_nonneg zero_le_two _)
    · exact (value_onGrid_le hnum hden).trans (hgap.le_of_coarser he)
  error_le := by
    have hpow : (0 : ℚ) < 2 ^ gridExponent num den := zpow_pos two_pos _
    have herror : |(onGrid num den).value - num / den| ≤ 2 ^ (gridExponent num den - 1) := by
      have hsplit : (onGrid num den).value - num / den =
          ((onGrid num den).significand - num / den / 2 ^ gridExponent num den) *
            2 ^ gridExponent num den := by
        rw [sub_mul, div_mul_cancel₀ _ hpow.ne']
        rfl
      rw [hsplit, abs_mul, abs_of_pos hpow, two_zpow_sub_one]
      exact mul_le_mul_of_nonneg_right (abs_significand_onGrid_sub_le hden) hpow.le
    refine herror.trans ?_
    by_cases hgrid : gridExponent num den = -1074
    · rw [hgrid]
      exact le_max_right _ _
    · refine le_max_of_le_left ?_
      have hle := gridExponent_le_div hnum hden hgrid
      rw [two_zpow_add_ofNat] at hle
      rw [two_zpow_sub_one]
      linarith

end Rounding

/-! ## Range -/

/-- The result of rounding `x` in the range of binary64: the nearest number, or none where that
would be too large. -/
inductive Rounded (x : ℚ) : Option Scaled → Prop
  | finite {s : Scaled} (hnearest : IsNearest x s) (hrange : s.value < 2 ^ (1024 : ℤ)) :
      Rounded x (some s)
  | infinite (hlarge : 2 ^ (1024 : ℤ) - 2 ^ (970 : ℤ) ≤ x) : Rounded x none

/-- A number that is not greater than the middle between zero and the least number is rounded to
zero. -/
lemma isNearest_zero (hnonneg : 0 ≤ x) (hsmall : x ≤ 2 ^ (-1075 : ℤ)) : IsNearest x ⟨0, 0⟩ where
  above := by
    intro k e hgap hbeyond
    have hhalf : x / 2 ^ e ≤ 1 / 2 := by
      rw [div_le_iff₀ (zpow_pos two_pos e)]
      calc x
        _ ≤ 2 ^ (-1074 - 1 : ℤ) := hsmall
        _ = 1 / 2 * 2 ^ (-1074 : ℤ) := two_zpow_sub_one _
        _ ≤ 1 / 2 * 2 ^ e := mul_le_mul_of_nonneg_left (two_zpow_le hgap.lowest_le) (by norm_num)
    -- nothing lies beyond the middle but zero in it, and there the tie goes to zero
    rcases hbeyond with hlt | ⟨heq, hodd⟩
    · have hk : (0 : ℚ) ≤ k := Nat.cast_nonneg k
      linarith
    · have hk : (k : ℚ) ≤ (0 : ℕ) := by
        push_cast
        linarith
      have hzero : k = 0 := Nat.le_zero.mp (Nat.cast_le.mp hk)
      omega
  below := by
    intro k e _ _
    simp only [Scaled.value, Nat.cast_zero, zero_mul]
    positivity
  error_le := by
    have hvalue : (⟨0, 0⟩ : Scaled).value = 0 := by simp [Scaled.value]
    rw [hvalue, zero_sub, abs_neg, abs_of_nonneg hnonneg]
    exact le_max_of_le_right hsmall

/-- A number of at most half the least one is rounded to zero. -/
lemma rounded_zero (hnonneg : 0 ≤ x) (hsmall : x ≤ 2 ^ (-1075 : ℤ)) :
    Rounded x (some ⟨0, 0⟩) := by
  refine .finite (isNearest_zero hnonneg hsmall) ?_
  simp only [Scaled.value, Nat.cast_zero, zero_mul]
  positivity

/-- A quotient that is not zero has its result on the grid, unless that is too large. -/
lemma nearest?_of_ne_zero (hnum : num ≠ 0) : nearest? num den =
    if (onGrid num den).value < 2 ^ (1024 : ℤ) then some (onGrid num den) else none := by
  have hexponent : (0 : ℤ) ≤ gridExponent num den + 1074 := by
    have hle := lowest_le_gridExponent num den
    omega
  have hrange : (onGrid num den).significand * Nat.pow 2 (gridExponent num den + 1074).toNat <
      Nat.pow 2 (1024 + 1074) ↔ (onGrid num den).value < 2 ^ (1024 : ℤ) := by
    have hpow : (0 : ℚ) < 2 ^ (1074 : ℤ) := zpow_pos two_pos _
    have hsplit (a b : ℕ) : ((Nat.pow 2 (a + b) : ℕ) : ℚ) = 2 ^ (a : ℤ) * 2 ^ (b : ℤ) := by
      rw [Nat.pow_eq, Nat.cast_pow, Nat.cast_ofNat, pow_add, zpow_natCast, zpow_natCast]
    have hlimit : ((Nat.pow 2 (1024 + 1074) : ℕ) : ℚ) = 2 ^ (1024 : ℤ) * 2 ^ (1074 : ℤ) :=
      hsplit 1024 1074
    rw [← Nat.cast_lt (α := ℚ), Nat.cast_mul, ← two_zpow_eq_of_nonneg hexponent, hlimit,
      zpow_add₀ two_ne_zero, ← mul_assoc, mul_lt_mul_iff_left₀ hpow]
    rfl
  rw [nearest?, if_neg hnum]
  simp only [← hrange]
  rfl

/-- A quotient is rounded to the nearest number, unless that is too large. -/
theorem rounded_nearest? (hden : 0 < den) : Rounded (num / den) (nearest? num den) := by
  by_cases hnum : num = 0
  · rw [hnum, Nat.cast_zero, zero_div]
    exact rounded_zero le_rfl (zpow_nonneg zero_le_two _)
  · have hnearest := isNearest_onGrid (Nat.pos_of_ne_zero hnum) hden
    have hlimit : (-1074 : ℤ) ≤ 971 := by norm_num
    rw [nearest?_of_ne_zero hnum]
    split_ifs with hrange
    · exact .finite hnearest hrange
    · exact .infinite ((hnearest.two_zpow_le_value_iff hlimit).mp (not_lt.mp hrange))

/-! ## Decimal numbers -/

/-- The number of digits is the least power of ten that is greater. -/
lemma decimalLength_spec {digits : ℕ} (hdigits : digits ≠ 0) :
    (10 : ℚ) ^ ((decimalLength digits : ℤ) - 1) ≤ digits ∧
      (digits : ℚ) < 10 ^ (decimalLength digits : ℤ) := by
  have hbase : 1 < 10 := by norm_num
  have hpos : 0 < decimalLength digits := Nat.length_toDigits_pos
  constructor
  · have hpred : ((decimalLength digits : ℤ) - 1) = (decimalLength digits - 1 : ℕ) := by omega
    rw [hpred, zpow_natCast]
    by_cases hone : decimalLength digits - 1 = 0
    · rw [hone, pow_zero]
      exact_mod_cast Nat.pos_of_ne_zero hdigits
    · have hnot : ¬digits < 10 ^ (decimalLength digits - 1) := by
        rw [← Nat.length_toDigits_le_iff hbase (Nat.pos_of_ne_zero hone)]
        change ¬decimalLength digits ≤ decimalLength digits - 1
        omega
      exact_mod_cast not_lt.mp hnot
  · rw [zpow_natCast]
    exact_mod_cast (Nat.length_toDigits_le_iff hbase hpos).mp le_rfl

section Places

variable {digits : ℕ} (hdigits : digits ≠ 0) (exponent : ℤ)

include hdigits

/-- A number of so many places is infinite. -/
lemma le_of_places (hlarge : 310 < (decimalLength digits : ℤ) + exponent) :
    2 ^ (1024 : ℤ) - 2 ^ (970 : ℤ) ≤ (digits : ℚ) * 10 ^ exponent := by
  have hpow : (2 : ℚ) ^ (1024 : ℤ) ≤ 10 ^ (310 : ℤ) := by
    have hnat : 2 ^ 1024 ≤ 10 ^ 310 := by decide +kernel
    exact_mod_cast hnat
  calc (2 : ℚ) ^ (1024 : ℤ) - 2 ^ (970 : ℤ)
    _ ≤ 2 ^ (1024 : ℤ) := sub_le_self _ (zpow_nonneg zero_le_two _)
    _ ≤ 10 ^ (310 : ℤ) := hpow
    _ ≤ 10 ^ ((decimalLength digits : ℤ) - 1 + exponent) :=
      zpow_le_zpow_right₀ (by norm_num) (by omega)
    _ = 10 ^ ((decimalLength digits : ℤ) - 1) * 10 ^ exponent := zpow_add₀ (by norm_num) _ _
    _ ≤ digits * 10 ^ exponent :=
      mul_le_mul_of_nonneg_right (decimalLength_spec hdigits).1 (by positivity)

/-- A number with so many zeros behind the point is rounded to zero. -/
lemma le_of_zeros (hsmall : (decimalLength digits : ℤ) + exponent < -400) :
    (digits : ℚ) * 10 ^ exponent ≤ 2 ^ (-1075 : ℤ) := by
  have hpow : (10 : ℚ) ^ (-401 : ℤ) ≤ 2 ^ (-1075 : ℤ) := by
    have hnat : 2 ^ 1075 ≤ 10 ^ 401 := by decide +kernel
    rw [zpow_neg, zpow_neg]
    exact inv_anti₀ (zpow_pos two_pos _) (by exact_mod_cast hnat)
  calc (digits : ℚ) * 10 ^ exponent
    _ ≤ 10 ^ (decimalLength digits : ℤ) * 10 ^ exponent :=
      mul_le_mul_of_nonneg_right (decimalLength_spec hdigits).2.le (by positivity)
    _ = 10 ^ ((decimalLength digits : ℤ) + exponent) := (zpow_add₀ (by norm_num) _ _).symm
    _ ≤ 10 ^ (-401 : ℤ) := zpow_le_zpow_right₀ (by norm_num) (by omega)
    _ ≤ 2 ^ (-1075 : ℤ) := hpow

end Places

/-- A decimal number is rounded to the nearest number, unless that is too large. -/
theorem rounded_nearestDecimal? (digits : ℕ) (exponent : ℤ) :
    Rounded (digits * 10 ^ exponent) (nearestDecimal? digits exponent) := by
  by_cases hdigits : digits = 0
  · rw [hdigits, Nat.cast_zero, zero_mul]
    exact rounded_zero le_rfl (zpow_nonneg zero_le_two _)
  · rw [nearestDecimal?, if_neg hdigits]
    dsimp only
    split_ifs with hlarge hsmall hwhole
    · exact .infinite (le_of_places hdigits exponent hlarge)
    · exact rounded_zero (by positivity) (le_of_zeros hdigits exponent hsmall)
    · obtain ⟨n, rfl⟩ := Int.eq_ofNat_of_zero_le hwhole
      have hvalue : (digits : ℚ) * 10 ^ (n : ℤ) = (digits * Nat.pow 10 n : ℕ) / (1 : ℕ) := by
        simp
      rw [Int.toNat_natCast, hvalue]
      exact rounded_nearest? Nat.one_pos
    · obtain ⟨n, hn⟩ := Int.eq_ofNat_of_zero_le (neg_nonneg.mpr (not_le.mp hwhole).le)
      have hvalue : (digits : ℚ) * 10 ^ exponent = digits / (Nat.pow 10 n : ℕ) := by
        rw [← neg_neg exponent, hn, zpow_neg, zpow_natCast, div_eq_mul_inv]
        simp
      rw [hn, Int.toNat_natCast, hvalue]
      exact rounded_nearest? (Nat.pow_pos (by norm_num))

end PipeShell.Decimal
