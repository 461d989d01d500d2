import Mathlib.Algebra.Order.Field.Power
import Mathlib.Tactic.Linarith
import Mathlib.Tactic.Positivity
import EventConsistency.Lib.Python

/-!
# Rounding to binary64

`nearest_within` : a quotient below `2 ^ 53` is rounded to a finite float that is off by at most one half.
-/

namespace EventConsistency.Lib.Python

theorem roundHalfEven_bounds {d : Nat} (hd : 0 < d) (n : Nat) :
    2 * (d * roundHalfEven n d) ≤ 2 * n + d ∧ 2 * n ≤ 2 * (d * roundHalfEven n d) + d := by
  have divided : d * (n / d) + n % d = n := Nat.div_add_mod n d
  have below : n % d < d := Nat.mod_lt n hd
  have next : d * (n / d + 1) = d * (n / d) + d := by ring
  unfold roundHalfEven
  dsimp only
  split_ifs
  · omega
  · rw [next]; omega
  · omega
  · rw [next]; omega

theorem exponentOf_le {n d : Nat} (hn : n < d * 2 ^ 53) : exponentOf n d ≤ 52 := by
  have logs : Nat.log2 n ≤ Nat.log2 d + 53 := by
    by_cases zero : n = 0
    · simp [zero]
    · have upper : d < 2 ^ (Nat.log2 d + 1) := Nat.lt_log2_self
      have small : n < 2 ^ (Nat.log2 d + 54) := by
        calc n < d * 2 ^ 53 := hn
          _ ≤ 2 ^ (Nat.log2 d + 1) * 2 ^ 53 := Nat.mul_le_mul_right _ upper.le
          _ = 2 ^ (Nat.log2 d + 54) := by rw [← pow_add]
      have := (Nat.log2_lt zero).mpr small
      omega
  unfold exponentOf
  dsimp only
  split_ifs with positive fits fits
  · -- the power of two that fits below the quotient is below its bound
    have power : d * 2 ^ ((Nat.log2 n : Int) - Nat.log2 d).toNat < d * 2 ^ 53 := lt_of_le_of_lt fits hn
    have := (Nat.pow_lt_pow_iff_right (by norm_num : 1 < 2)).mp (Nat.lt_of_mul_lt_mul_left power)
    omega
  · omega
  · omega
  · omega

/-- A numerator scaled and rounded is off by at most one half of the scale. -/
theorem scaled_within {n d : Nat} (hd : 0 < d) (j : Nat) :
    |(roundHalfEven (n * 2 ^ j) d : Rat) * 2 ^ (-(j : Int)) - n / d| ≤ 1 / 2 := by
  obtain ⟨upper, lower⟩ := roundHalfEven_bounds hd (n * 2 ^ j)
  set m := roundHalfEven (n * 2 ^ j) d with hm
  have hd' : (0 : Rat) < d := by exact_mod_cast hd
  have scale : (1 : Rat) ≤ 2 ^ j := one_le_pow₀ (by norm_num)
  have upper' : 2 * ((d : Rat) * m) ≤ 2 * (n * 2 ^ j) + d := by exact_mod_cast upper
  have lower' : 2 * ((n : Rat) * 2 ^ j) ≤ 2 * (d * m) + d := by exact_mod_cast lower
  have quotient : (m : Rat) * 2 ^ (-(j : Int)) - n / d = (d * m - n * 2 ^ j) / (d * 2 ^ j) := by
    rw [zpow_neg, zpow_natCast]
    field_simp
  rw [quotient, abs_div, abs_of_pos (by positivity : (0 : Rat) < d * 2 ^ j), div_le_iff₀ (by positivity), abs_le]
  have wide : (d : Rat) ≤ d * 2 ^ j := le_mul_of_one_le_right hd'.le scale
  constructor <;> linarith

theorem nearest_within {n d : Nat} (hd : 0 < d) (hn : n < d * 2 ^ 53) (negative : Bool) :
    ∃ x : Rat, nearest negative n d = .finite negative x ∧ 0 ≤ x ∧ |x - n / d| ≤ 1 / 2 := by
  have hd' : (0 : Rat) < d := by exact_mod_cast hd
  unfold nearest
  by_cases zero : n = 0
  · rw [if_pos zero]
    exact ⟨0, rfl, le_rfl, by simp [zero]⟩
  · rw [if_neg zero]
    have bound := exponentOf_le hn
    obtain ⟨j, hj⟩ : ∃ j : Nat, max (exponentOf n d - 52) (-1074) = -(j : Int) :=
      ⟨(-(max (exponentOf n d - 52) (-1074))).toNat, by omega⟩
    have numerator : (if 0 ≤ max (exponentOf n d - 52) (-1074)
        then roundHalfEven n (d * 2 ^ (max (exponentOf n d - 52) (-1074)).toNat)
        else roundHalfEven (n * 2 ^ (-(max (exponentOf n d - 52) (-1074))).toNat) d) =
          roundHalfEven (n * 2 ^ j) d := by
      rw [hj]
      split_ifs with nonneg
      · have : j = 0 := by omega
        simp [this]
      · simp
    dsimp only
    rw [numerator, hj]
    have within := scaled_within (n := n) hd j
    set x : Rat := (roundHalfEven (n * 2 ^ j) d : Rat) * 2 ^ (-(j : Int)) with hx
    have nonneg : 0 ≤ x := by positivity
    have small : (n : Rat) / d < 2 ^ 53 := by
      rw [div_lt_iff₀ hd', mul_comm]
      exact_mod_cast hn
    have finite : x < 2 ^ 1024 := by
      have := (abs_le.mp within).2
      have next : (2 : Rat) ^ 53 + 1 / 2 < 2 ^ 54 := by norm_num
      have big : (2 : Rat) ^ 54 ≤ 2 ^ 1024 := pow_le_pow_right₀ (by norm_num) (by norm_num)
      calc x ≤ n / d + 1 / 2 := by linarith only [this]
        _ < 2 ^ 53 + 1 / 2 := by linarith only [small]
        _ < 2 ^ 54 := next
        _ ≤ 2 ^ 1024 := big
    rw [if_pos finite]
    exact ⟨x, rfl, nonneg, within⟩

end EventConsistency.Lib.Python
