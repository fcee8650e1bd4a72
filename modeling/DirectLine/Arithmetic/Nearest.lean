import Mathlib.Algebra.Order.Field.Basic
import Mathlib.Tactic.FieldSimp
import Mathlib.Tactic.Linarith
import Mathlib.Tactic.Ring

/-!
# Nearest quotients and nearest rates

A quotient `num / den` rounded to the nearest integer, and the rates `total / n`
of the integers `n`.  Rounding the quotient `total / rate` compares the wanted
rate with the harmonic mean of its two neighbours; the nearer neighbour is
decided by their arithmetic mean, which is greater.
-/

namespace DirectLine.Arithmetic

/-- The nearest integer to a quotient, the greater of two equally near. -/
def roundDiv (num den : Nat) : Nat := (num + den / 2) / den

section Quotients

variable {num den : Nat}

theorem roundDiv_bounds (num : Nat) (positive : 0 < den) :
    2 * (roundDiv num den * den) ≤ 2 * num + den ∧
      2 * num < 2 * (roundDiv num den * den) + den := by
  have division := Nat.div_add_mod (num + den / 2) den
  have remainder := Nat.mod_lt (num + den / 2) positive
  rw [Nat.mul_comm] at division
  unfold roundDiv
  omega

/-- No multiple of the divisor is nearer, and one that is as near is not greater. -/
theorem roundDiv_nearest (positive : 0 < den) (other : Nat) :
    |(roundDiv num den * den : Int) - num| ≤ |(other * den : Int) - num| ∧
      (|(roundDiv num den * den : Int) - num| = |(other * den : Int) - num| →
        other ≤ roundDiv num den) := by
  obtain ⟨above, below⟩ := roundDiv_bounds num positive
  rw [Int.abs_eq_natAbs, Int.abs_eq_natAbs]
  rcases Nat.lt_trichotomy other (roundDiv num den) with less | same | greater
  · have apart : other * den + den ≤ roundDiv num den * den := by
      rw [← Nat.succ_mul]
      exact Nat.mul_le_mul_right den less
    omega
  · subst same
    exact ⟨le_rfl, fun _ => le_rfl⟩
  · have apart : roundDiv num den * den + den ≤ other * den := by
      rw [← Nat.succ_mul]
      exact Nat.mul_le_mul_right den greater
    omega

theorem roundDiv_cases (num : Nat) (positive : 0 < den) :
    (2 * num < (2 * (num / den) + 1) * den ∧ roundDiv num den = num / den) ∨
      ((2 * (num / den) + 1) * den ≤ 2 * num ∧ roundDiv num den = num / den + 1) := by
  have division := Nat.div_add_mod num den
  have remainder := Nat.mod_lt num positive
  have next : (num / den + 1) * den = den * (num / den) + den := by
    rw [Nat.succ_mul, Nat.mul_comm]
  have middle : (2 * (num / den) + 1) * den = 2 * (den * (num / den)) + den := by
    rw [Nat.succ_mul, Nat.mul_assoc, Nat.mul_comm den]
  rcases Nat.lt_or_ge (2 * num) ((2 * (num / den) + 1) * den) with small | large
  · left
    refine ⟨small, Nat.div_eq_of_lt_le ?_ ?_⟩
    · rw [Nat.mul_comm]
      omega
    · omega
  · right
    refine ⟨large, Nat.div_eq_of_lt_le ?_ ?_⟩
    · omega
    · rw [Nat.succ_mul]
      omega

end Quotients

/-- The rate at which `n` units make up the total. -/
def rate {K : Type} [Field K] (total : K) (n : Nat) : K := total / n

section Rates

variable {K : Type} [Field K] [LinearOrder K] [IsStrictOrderedRing K]
variable {total wanted : K} {n m : Nat}

theorem rate_le_rate (nonneg : 0 ≤ total) (positive : 0 < n) (le : n ≤ m) :
    rate total m ≤ rate total n :=
  div_le_div_of_nonneg_left nonneg (Nat.cast_pos.mpr positive) (Nat.cast_le.mpr le)

/-- The wanted rate lies between the rates of two neighbours. -/
structure Between (total wanted : K) (n : Nat) : Prop where
  positive : 0 < n
  nonneg : 0 ≤ total
  above : wanted ≤ rate total n
  below : rate total (n + 1) ≤ wanted

theorem between_div {num den : Nat} (positive : 0 < den) (le : den ≤ num) :
    Between (num : K) (den : K) (num / den) where
  positive := Nat.div_pos le positive
  nonneg := Nat.cast_nonneg num
  above := by
    rw [rate, le_div_iff₀ (Nat.cast_pos.mpr (Nat.div_pos le positive))]
    exact_mod_cast Nat.mul_div_le num den
  below := by
    rw [rate, div_le_iff₀ (Nat.cast_pos.mpr (Nat.succ_pos _))]
    exact_mod_cast (Nat.lt_mul_div_succ num positive).le

namespace Between

theorem nearest_of_le (between : Between total wanted n) (positive : 0 < m) (le : m ≤ n) :
    |rate total n - wanted| ≤ |rate total m - wanted| := by
  apply abs_le_abs_of_nonneg
  · exact sub_nonneg.mpr between.above
  · exact sub_le_sub_right (rate_le_rate between.nonneg positive le) wanted

theorem nearest_of_lt (between : Between total wanted n) (lt : n < m) :
    |rate total (n + 1) - wanted| ≤ |rate total m - wanted| := by
  apply abs_le_abs_of_nonpos
  · exact sub_nonpos.mpr between.below
  · exact sub_le_sub_right (rate_le_rate between.nonneg (Nat.succ_pos n) lt) wanted

theorem wanted_nonneg (between : Between total wanted n) : 0 ≤ wanted :=
  (div_nonneg between.nonneg (Nat.cast_nonneg _)).trans between.below

theorem rate_add_rate (between : Between total wanted n) :
    rate total n + rate total (n + 1) = (2 * n + 1) * total / (n * (n + 1)) := by
  have lower : (n : K) ≠ 0 := Nat.cast_ne_zero.mpr between.positive.ne'
  have upper : (n : K) + 1 ≠ 0 := Nat.cast_add_one_ne_zero n
  rw [rate, rate]
  push_cast
  field_simp
  ring

/-- The lower neighbour is as near when the wanted rate reaches the arithmetic mean. -/
theorem lower_nearest_iff (between : Between total wanted n) :
    |rate total n - wanted| ≤ |rate total (n + 1) - wanted| ↔
      (2 * n + 1) * total ≤ 2 * n * (n + 1) * wanted := by
  have product : (0 : K) < n * (n + 1) :=
    mul_pos (Nat.cast_pos.mpr between.positive) (Nat.cast_add_one_pos n)
  have mean : (2 * n + 1) * total / (n * (n + 1)) ≤ 2 * wanted ↔
      (2 * n + 1) * total ≤ 2 * n * (n + 1) * wanted := by
    rw [div_le_iff₀ product, mul_mul_mul_comm, mul_comm wanted, ← mul_assoc]
  rw [abs_of_nonneg (sub_nonneg.mpr between.above), abs_of_nonpos (sub_nonpos.mpr between.below),
    ← mean, ← between.rate_add_rate]
  constructor
  · intro near
    linarith
  · intro reached
    linarith

/-- The upper neighbour is as near when the wanted rate does not exceed the harmonic mean. -/
theorem upper_nearest (between : Between total wanted n)
    (within : (2 * n + 1) * wanted ≤ 2 * total) :
    |rate total (n + 1) - wanted| ≤ |rate total n - wanted| := by
  have product : (0 : K) < n * (n + 1) :=
    mul_pos (Nat.cast_pos.mpr between.positive) (Nat.cast_add_one_pos n)
  have scaled : (2 * n + 1) * ((2 * n + 1) * wanted) ≤ (2 * n + 1) * (2 * total) :=
    mul_le_mul_of_nonneg_left within (by positivity)
  have mean : 2 * wanted ≤ rate total n + rate total (n + 1) := by
    rw [between.rate_add_rate, le_div_iff₀ product]
    linarith [between.wanted_nonneg]
  rw [abs_of_nonneg (sub_nonneg.mpr between.above), abs_of_nonpos (sub_nonpos.mpr between.below)]
  linarith

end Between

end Rates

end DirectLine.Arithmetic
