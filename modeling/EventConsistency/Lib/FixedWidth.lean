import Mathlib.Algebra.Group.Nat.Defs
import Mathlib.Data.List.Basic
import Mathlib.Tactic.Common

/-!
# Numerals of a fixed width

Texts of one length are ordered by their first difference, so that numerals with leading zeros, and fields of such
numerals one after the other, are ordered as their numbers.

* `fixedDigits` : the last digits of a number, as characters; `fixedDigits_lt` : they are ordered as the numbers;
* `fixedDigits_append_lt` : a field, and what follows it.
-/

namespace EventConsistency.Lib

section Order

variable {a b x y : List Nat}

/-- Of two texts of one length the order does not depend on what follows. -/
theorem append_lt_append (h : a < b) (length : a.length = b.length) : a ++ x < b ++ y := by
  induction a generalizing b with
  | nil =>
      rw [List.length_nil] at length
      rw [List.eq_nil_of_length_eq_zero length.symm] at h
      exact absurd h (List.not_lt_nil _)
  | cons c a ih =>
      cases b with
      | nil => exact absurd h (List.not_lt_nil _)
      | cons d b =>
          rw [List.cons_append, List.cons_append, List.cons_lt_cons_iff]
          obtain first | ⟨same, rest⟩ := List.cons_lt_cons_iff.mp h
          · exact .inl first
          · exact .inr ⟨same, ih rest (by simpa using length)⟩

end Order

/-- The last `width` digits of a number. -/
def fixedDigits : Nat → Nat → List Nat
  | 0, _ => []
  | width + 1, n => fixedDigits width (n / 10) ++ [0x30 + n % 10]

section Digits

variable {width n m : Nat} {x y : List Nat}

@[simp] theorem length_fixedDigits (width n : Nat) : (fixedDigits width n).length = width := by
  induction width generalizing n with
  | zero => rfl
  | succ width ih => rw [fixedDigits, List.length_append, ih, List.length_singleton]

theorem le_of_mem_fixedDigits {c : Nat} (h : c ∈ fixedDigits width n) : 0x30 ≤ c := by
  induction width generalizing n with
  | zero => cases h
  | succ width ih =>
      obtain front | last := List.mem_append.mp h
      · exact ih front
      · rw [List.mem_singleton] at last
        omega

theorem fixedDigits_lt (h : n < m) (hm : m < 10 ^ width) : fixedDigits width n < fixedDigits width m := by
  induction width generalizing n m with
  | zero =>
      rw [Nat.pow_zero] at hm
      omega
  | succ width ih =>
      rw [fixedDigits, fixedDigits]
      rw [Nat.pow_succ] at hm
      by_cases tens : n / 10 = m / 10
      · -- only the last digits differ
        rw [tens]
        refine List.append_left_lt ?_
        rw [List.cons_lt_cons_iff]
        left
        omega
      · have smaller : n / 10 < m / 10 := by omega
        exact append_lt_append (ih smaller (by omega)) (by simp)

theorem fixedDigits_append_lt (hm : m < 10 ^ width) (h : n < m ∨ (n = m ∧ x < y)) :
    fixedDigits width n ++ x < fixedDigits width m ++ y := by
  obtain less | ⟨rfl, less⟩ := h
  · exact append_lt_append (fixedDigits_lt less hm) (by simp)
  · exact List.append_left_lt less

end Digits

end EventConsistency.Lib
