import Mathlib.Data.List.Dedup
import Mathlib.Algebra.BigOperators.Group.List.Basic
import Mathlib.Algebra.Ring.Int.Defs

/-!
# Joins and groups

* `outerJoin on rows rows'` : every row with each row that matches it, or with none;
* `groupDuplicates column` : the values of a column that occur more than once;
* `sumBy key value rows` : the sum of a value for every key that occurs.

Each of them with what an empty answer means: no row lacks its match, no value is repeated, every sum agrees.
-/

namespace EventConsistency.Lib

section Join

variable {α β : Type} {on : α → β → Bool} {rows : List α} {rows' : List β} {a : α} {b : β}

/-- `LEFT OUTER JOIN`. -/
def outerJoin (on : α → β → Bool) (rows : List α) (rows' : List β) : List (α × Option β) :=
  rows.flatMap fun a => match rows'.filter (on a) with
    | [] => [(a, none)]
    | found => found.map fun b => (a, some b)

theorem mem_outerJoin_none : (a, none) ∈ outerJoin on rows rows' ↔ a ∈ rows ∧ ∀ b ∈ rows', on a b = false := by
  unfold outerJoin
  rw [List.mem_flatMap]
  constructor
  · rintro ⟨a', ha', hmem⟩
    split at hmem
    · rename_i hnone
      cases List.mem_singleton.mp hmem
      refine ⟨ha', fun b hb => ?_⟩
      simpa using List.filter_eq_nil_iff.mp hnone b hb
    · simp at hmem
  · rintro ⟨ha, hnone⟩
    have hnil : rows'.filter (on a) = [] := List.filter_eq_nil_iff.mpr fun b hb => by simp [hnone b hb]
    exact ⟨a, ha, by simp [hnil]⟩

theorem mem_outerJoin_some : (a, some b) ∈ outerJoin on rows rows' ↔ a ∈ rows ∧ b ∈ rows' ∧ on a b = true := by
  unfold outerJoin
  rw [List.mem_flatMap]
  constructor
  · rintro ⟨a', ha', hmem⟩
    split at hmem
    · simp at hmem
    · obtain ⟨b', hb', heq⟩ := List.mem_map.mp hmem
      cases heq
      exact ⟨ha', List.mem_filter.mp hb'⟩
  · rintro ⟨ha, hb⟩
    have hfound : b ∈ rows'.filter (on a) := List.mem_filter.mpr hb
    refine ⟨a, ha, ?_⟩
    split
    · rename_i hnil
      rw [hnil] at hfound
      cases hfound
    · exact List.mem_map.mpr ⟨b, hfound, rfl⟩

/-- Nothing with `p` is left without a match. -/
theorem unmatched_eq_nil {p : α → Bool} :
    (outerJoin on rows rows').filter (fun row => row.2.isNone && p row.1) = [] ↔
      ∀ a ∈ rows, p a = true → ∃ b ∈ rows', on a b = true := by
  rw [List.filter_eq_nil_iff]
  constructor
  · intro h a ha hp
    by_contra hnone
    push Not at hnone
    have hmem : (a, none) ∈ outerJoin on rows rows' :=
      mem_outerJoin_none.mpr ⟨ha, fun b hb => by simpa using hnone b hb⟩
    exact h _ hmem (by simp [hp])
  · rintro h ⟨a, o⟩ hmem
    cases o with
    | none =>
        obtain ⟨ha, hnone⟩ := mem_outerJoin_none.mp hmem
        intro hp
        obtain ⟨b, hb, hon⟩ := h a ha (by simpa using hp)
        rw [hnone b hb] at hon
        cases hon
    | some b => simp

end Join

section Group

variable {κ : Type} [DecidableEq κ]

/-- `GROUP BY column HAVING count(*) > 1`. -/
def groupDuplicates (column : List κ) : List κ := column.dedup.filter fun v => decide (1 < column.count v)

theorem groupDuplicates_eq_nil {column : List κ} : groupDuplicates column = [] ↔ column.Nodup := by
  unfold groupDuplicates
  rw [List.filter_eq_nil_iff, List.nodup_iff_count_le_one]
  constructor
  · intro h v
    by_cases hv : v ∈ column
    · have := h v (List.mem_dedup.mpr hv)
      simp only [decide_eq_true_eq] at this
      omega
    · rw [List.count_eq_zero_of_not_mem hv]
      omega
  · intro h v _
    have := h v
    simp only [decide_eq_true_eq]
    omega

variable {α : Type}

/-- `SELECT key, sum(value) GROUP BY key`. -/
def sumBy (key : α → κ) (value : α → Int) (rows : List α) : List (κ × Int) :=
  (rows.map key).dedup.map fun k => (k, ((rows.filter fun a => key a == k).map value).sum)

theorem mem_sumBy {key : α → κ} {value : α → Int} {rows : List α} {k : κ} {n : Int} :
    (k, n) ∈ sumBy key value rows ↔
      (∃ a ∈ rows, key a = k) ∧ n = ((rows.filter fun a => key a == k).map value).sum := by
  unfold sumBy
  rw [List.mem_map]
  constructor
  · rintro ⟨k', hk', heq⟩
    cases heq
    exact ⟨List.mem_map.mp (List.mem_dedup.mp hk'), rfl⟩
  · rintro ⟨hk, rfl⟩
    exact ⟨k, List.mem_dedup.mpr (List.mem_map.mpr hk), rfl⟩

end Group

end EventConsistency.Lib
