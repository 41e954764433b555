import PipeShell.Decimal.Binary64
import Mathlib.Algebra.Order.Field.Power
import Mathlib.Data.Rat.Cast.Order
import Mathlib.Tactic.Linarith
import Mathlib.Tactic.NormNum
import Mathlib.Tactic.Positivity
import Mathlib.Tactic.Ring

/-!
# Rounding to a whole number

`RoundsBeyond k x` says on which side of the middle between `k` and `k + 1` the number `x` lies, and
so to which side it is rounded.  It decides everything about `roundQuotient`
(`lt_roundQuotient_iff`): how near the result is to the quotient, and that it does not pass a whole
number that the quotient does not pass.

`scaleBy` divides a quotient by a power of two, and `floorLog2` finds the power of two below it.
-/

namespace PipeShell.Decimal

/-! ## The middle between two whole numbers -/

/-- The nearest whole number to `x` is greater than `k`: `x` lies beyond the middle between `k` and
`k + 1`, or in the middle while `k` is odd. -/
def RoundsBeyond (k : ℕ) (x : ℚ) : Prop := k + 1 / 2 < x ∨ (x = k + 1 / 2 ∧ k % 2 = 1)

variable {k num den : ℕ} {x : ℚ} {e : ℤ}

/-- What is rounded to more than `k` is at least in the middle behind `k`. -/
lemma RoundsBeyond.half_le (h : RoundsBeyond k x) : k + 1 / 2 ≤ x :=
  h.elim le_of_lt fun h => h.1.ge

/-- What is not rounded to more is at most there. -/
lemma le_half_of_not_roundsBeyond (h : ¬RoundsBeyond k x) : x ≤ k + 1 / 2 :=
  not_lt.mp fun hlt => h (Or.inl hlt)

/-- From `k + 1` on everything is rounded to more than `k`. -/
lemma roundsBeyond_of_succ_le (h : (k : ℚ) + 1 ≤ x) : RoundsBeyond k x :=
  Or.inl (by linarith)

/-- Up to `k` nothing is. -/
lemma not_roundsBeyond_of_le (h : x ≤ k) : ¬RoundsBeyond k x := fun hbeyond => by
  have hhalf := hbeyond.half_le
  linarith

/-- Beyond zero there is no tie. -/
lemma roundsBeyond_zero_iff : RoundsBeyond 0 x ↔ 1 / 2 < x := by
  simp [RoundsBeyond]

/-- The middle is compared without fractions. -/
lemma roundsBeyond_div_iff (hden : 0 < den) : RoundsBeyond k (num / den : ℚ) ↔
    (2 * k + 1) * den < 2 * num ∨ (2 * num = (2 * k + 1) * den ∧ k % 2 = 1) := by
  have hden' : (0 : ℚ) < den := Nat.cast_pos.mpr hden
  have hlt : (k : ℚ) + 1 / 2 < num / den ↔ (2 * k + 1) * den < 2 * num := by
    rw [lt_div_iff₀ hden', ← Nat.cast_lt (α := ℚ)]
    push_cast
    constructor <;> intro h <;> linarith
  have heq : (num / den : ℚ) = k + 1 / 2 ↔ 2 * num = (2 * k + 1) * den := by
    rw [div_eq_iff hden'.ne', ← Nat.cast_inj (R := ℚ)]
    push_cast
    constructor <;> intro h <;> linarith
  rw [RoundsBeyond, hlt, heq]

/-! ## The nearest whole number -/

/-- The middles decide what a quotient is rounded to. -/
theorem lt_roundQuotient_iff (hden : 0 < den) :
    k < roundQuotient num den ↔ RoundsBeyond k (num / den : ℚ) := by
  have hnum : num = den * (num / den) + num % den := (Nat.div_add_mod num den).symm
  have hrest : num % den < den := Nat.mod_lt num hden
  have hmiddle : (2 * k + 1) * den = 2 * (den * k) + den := by ring
  rw [roundsBeyond_div_iff hden, hmiddle, roundQuotient]
  generalize num / den = q at *
  generalize num % den = r at *
  rcases lt_trichotomy k q with hlt | rfl | hgt
  · have hmul : den * (k + 1) ≤ den * q := Nat.mul_le_mul_left den hlt
    rw [Nat.mul_succ] at hmul
    split_ifs <;> omega
  · split_ifs <;> omega
  · have hmul : den * (q + 1) ≤ den * k := Nat.mul_le_mul_left den hgt
    rw [Nat.mul_succ] at hmul
    split_ifs <;> omega

/-- The result is at most a half away. -/
theorem abs_roundQuotient_sub_le (hden : 0 < den) :
    |(roundQuotient num den : ℚ) - num / den| ≤ 1 / 2 := by
  have hnonneg : (0 : ℚ) ≤ num / den := by positivity
  have habove : (num / den : ℚ) ≤ roundQuotient num den + 1 / 2 :=
    le_half_of_not_roundsBeyond (mt (lt_roundQuotient_iff hden).mpr (lt_irrefl _))
  have hbelow : (roundQuotient num den : ℚ) ≤ num / den + 1 / 2 := by
    cases hround : roundQuotient num den with
    | zero => push_cast; linarith
    | succ n =>
        have hbeyond : RoundsBeyond n (num / den : ℚ) :=
          (lt_roundQuotient_iff hden).mp (by omega)
        have hhalf := hbeyond.half_le
        push_cast
        linarith
  rw [abs_le]
  constructor <;> linarith

/-- A whole number that is no greater than the quotient is no greater than the rounded one. -/
lemma le_roundQuotient (hden : 0 < den) (h : (k : ℚ) ≤ num / den) : k ≤ roundQuotient num den := by
  cases k with
  | zero => exact Nat.zero_le _
  | succ k =>
      push_cast at h
      exact (lt_roundQuotient_iff hden).mpr (roundsBeyond_of_succ_le h)

/-- A whole number that is no less than the quotient is no less than the rounded one. -/
lemma roundQuotient_le (hden : 0 < den) (h : (num / den : ℚ) ≤ k) : roundQuotient num den ≤ k :=
  not_lt.mp fun hlt => not_roundsBeyond_of_le h ((lt_roundQuotient_iff hden).mp hlt)

/-! ## Powers of two -/

/-- A scaled quotient has a denominator again. -/
lemma scaleBy_pos (hden : 0 < den) : 0 < (scaleBy e num den).2 := by
  unfold scaleBy
  split_ifs
  · exact Nat.mul_pos hden (Nat.pow_pos two_pos)
  · exact hden

/-- A power of two that is a whole number. -/
lemma two_zpow_eq_of_nonneg (h : 0 ≤ e) : (2 : ℚ) ^ e = (Nat.pow 2 e.toNat : ℕ) := by
  conv_lhs => rw [← Int.toNat_of_nonneg h]
  rw [zpow_natCast, Nat.pow_eq, Nat.cast_pow, Nat.cast_ofNat]

/-- Scaling divides the quotient by the power of two. -/
lemma scaleBy_quotient (e : ℤ) (num den : ℕ) :
    ((scaleBy e num den).1 : ℚ) / (scaleBy e num den).2 = num / den / 2 ^ e := by
  unfold scaleBy
  split_ifs with he
  · rw [two_zpow_eq_of_nonneg he, Nat.cast_mul, div_div]
  · have hpow : (2 : ℚ) ^ e = ((Nat.pow 2 (-e).toNat : ℕ) : ℚ)⁻¹ := by
      rw [← two_zpow_eq_of_nonneg (by omega), zpow_neg, inv_inv]
    rw [hpow, div_inv_eq_mul, Nat.cast_mul, mul_div_right_comm]

/-- The power of two is at most the quotient, and twice the power is greater. -/
theorem floorLog2_spec (hnum : 0 < num) (hden : 0 < den) :
    (2 : ℚ) ^ floorLog2 num den ≤ num / den ∧
      (num / den : ℚ) < 2 ^ (floorLog2 num den + 1) := by
  have hden' : (0 : ℚ) < den := Nat.cast_pos.mpr hden
  have hnumlow : (2 : ℚ) ^ (Nat.log2 num : ℤ) ≤ num := by
    exact_mod_cast Nat.log2_self_le hnum.ne'
  have hnumhigh : (num : ℚ) < 2 ^ ((Nat.log2 num : ℤ) + 1) := by
    exact_mod_cast Nat.lt_log2_self
  have hdenlow : (2 : ℚ) ^ (Nat.log2 den : ℤ) ≤ den := by
    exact_mod_cast Nat.log2_self_le hden.ne'
  have hdenhigh : (den : ℚ) < 2 ^ ((Nat.log2 den : ℤ) + 1) := by
    exact_mod_cast Nat.lt_log2_self
  unfold floorLog2
  generalize (Nat.log2 num : ℤ) = a at *
  generalize (Nat.log2 den : ℤ) = b at *
  -- the logarithms leave two powers to choose from, and the comparison picks one of them
  have hlow : (2 : ℚ) ^ (a - b - 1) ≤ num / den := by
    rw [le_div_iff₀ hden']
    calc (2 : ℚ) ^ (a - b - 1) * den
      _ ≤ 2 ^ (a - b - 1) * 2 ^ (b + 1) := by gcongr
      _ = 2 ^ a := by rw [← zpow_add₀ two_ne_zero]; congr 1; ring
      _ ≤ num := hnumlow
  have hhigh : (num / den : ℚ) < 2 ^ (a - b + 1) := by
    rw [div_lt_iff₀ hden']
    calc (num : ℚ)
      _ < 2 ^ (a + 1) := hnumhigh
      _ = 2 ^ (a - b + 1) * 2 ^ b := by rw [← zpow_add₀ two_ne_zero]; congr 1; ring
      _ ≤ 2 ^ (a - b + 1) * den := by gcongr
  have hcompare : (scaleBy (a - b) num den).1 < (scaleBy (a - b) num den).2 ↔
      (num / den : ℚ) < 2 ^ (a - b) := by
    have hscaled : (0 : ℚ) < (scaleBy (a - b) num den).2 := Nat.cast_pos.mpr (scaleBy_pos hden)
    rw [← Nat.cast_lt (α := ℚ), ← div_lt_one hscaled, scaleBy_quotient,
      div_lt_one (zpow_pos two_pos _)]
  dsimp only
  split_ifs with h
  · rw [hcompare] at h
    exact ⟨hlow, by rwa [sub_add_cancel]⟩
  · rw [hcompare, not_lt] at h
    exact ⟨h, hhigh⟩

end PipeShell.Decimal
