import Mathlib.Data.List.Sort
import Mathlib.Data.Prod.Lex

/-!
# Ordered reads

* `orderBy key rows` : the rows in ascending order of a key, `orderByDesc key rows` in descending order;
* `orderBy_append` : rows added after all others in the order come last, as they were added;
* `orderByDesc_eq` : with distinct keys, the descending order is the reverse of the ascending one, so its first row
  is the last row of the other;
* `stamp time id` : the key of rows that are ordered by a time and then by their id.
-/

namespace EventConsistency.Lib

variable {α κ : Type} [LinearOrder κ] {key : α → κ} {rows new : List α}

/-- `ORDER BY key ASC`. -/
def orderBy (key : α → κ) (rows : List α) : List α := rows.insertionSort (fun a b => key a ≤ key b)

/-- `ORDER BY key DESC`. -/
def orderByDesc (key : α → κ) (rows : List α) : List α := rows.insertionSort (fun a b => key b ≤ key a)

theorem orderBy_perm (key : α → κ) (rows : List α) : (orderBy key rows).Perm rows := List.perm_insertionSort _ _

theorem orderByDesc_perm (key : α → κ) (rows : List α) : (orderByDesc key rows).Perm rows := List.perm_insertionSort _ _

@[simp] theorem mem_orderBy {a : α} : a ∈ orderBy key rows ↔ a ∈ rows := (orderBy_perm key rows).mem_iff

theorem pairwise_orderBy (key : α → κ) (rows : List α) :
    (orderBy key rows).Pairwise (fun a b => key a ≤ key b) := by
  have : IsTrans α (fun a b => key a ≤ key b) := ⟨fun _ _ _ => le_trans⟩
  have : Std.Total (fun a b : α => key a ≤ key b) := ⟨fun a b => le_total (key a) (key b)⟩
  exact List.pairwise_insertionSort _ rows

theorem pairwise_orderByDesc (key : α → κ) (rows : List α) :
    (orderByDesc key rows).Pairwise (fun a b => key b ≤ key a) :=
  pairwise_orderBy (fun a => OrderDual.toDual (key a)) rows

/-- Two orderings of the same rows by distinct keys agree. -/
theorem eq_of_ordered {xs ys : List α} (hp : xs.Perm ys) (hn : (ys.map key).Nodup)
    (hx : xs.Pairwise (fun a b => key a ≤ key b)) (hy : ys.Pairwise (fun a b => key a ≤ key b)) : xs = ys := by
  refine hp.eq_of_pairwise (fun a b ha hb hab hba => ?_) hx hy
  exact List.inj_on_of_nodup_map hn (hp.mem_iff.mp ha) hb (le_antisymm hab hba)

/-- Rows that are added after all others in the order. -/
theorem orderBy_append (hn : ((rows ++ new).map key).Nodup) (hnew : new.Pairwise (fun a b => key a ≤ key b))
    (hafter : ∀ a ∈ rows, ∀ b ∈ new, key a ≤ key b) : orderBy key (rows ++ new) = orderBy key rows ++ new := by
  have hp : (orderBy key rows ++ new).Perm (rows ++ new) := (orderBy_perm key rows).append_right new
  refine eq_of_ordered ((orderBy_perm key _).trans hp.symm) ((hp.map key).nodup_iff.mpr hn) (pairwise_orderBy key _) ?_
  refine List.pairwise_append.mpr ⟨pairwise_orderBy key rows, hnew, fun a ha b hb => ?_⟩
  exact hafter a (mem_orderBy.mp ha) b hb

theorem orderByDesc_eq (hn : (rows.map key).Nodup) : orderByDesc key rows = (orderBy key rows).reverse := by
  have hp : (orderByDesc key rows).reverse.Perm (orderBy key rows) :=
    (List.reverse_perm _).trans ((orderByDesc_perm key rows).trans (orderBy_perm key rows).symm)
  have hd : (orderByDesc key rows).reverse.Pairwise (fun a b => key a ≤ key b) :=
    List.pairwise_reverse.mpr (pairwise_orderByDesc key rows)
  rw [← eq_of_ordered hp (((orderBy_perm key rows).map key).nodup_iff.mpr hn) hd (pairwise_orderBy key rows),
    List.reverse_reverse]

/-- The first row in descending order is the last one in ascending order. -/
theorem head?_orderByDesc (hn : (rows.map key).Nodup) : (orderByDesc key rows).head? = (orderBy key rows).getLast? := by
  rw [orderByDesc_eq hn, List.head?_reverse]

/-- A row that is added after all others in the order is the first in descending order. -/
theorem head?_orderByDesc_append {r : α} (hn : ((rows ++ [r]).map key).Nodup) (hafter : ∀ a ∈ rows, key a ≤ key r) :
    (orderByDesc key (rows ++ [r])).head? = some r := by
  rw [head?_orderByDesc hn, orderBy_append hn (List.pairwise_singleton _ _), List.getLast?_concat]
  intro a ha b hb
  rw [List.mem_singleton.mp hb]
  exact hafter a ha

/-! ## Time stamps -/

section Stamp

variable {time : α → Int} {id : α → Nat}

/-- The time of a row, then its id. -/
def stamp (time : α → Int) (id : α → Nat) (a : α) : Int ×ₗ Nat := toLex (time a, id a)

theorem stamp_le {a b : α} (ht : time a ≤ time b) (hi : id a ≤ id b) : stamp time id a ≤ stamp time id b := by
  rw [stamp, stamp, Prod.Lex.toLex_le_toLex]
  rcases lt_or_eq_of_le ht with hlt | heq
  · exact Or.inl hlt
  · exact Or.inr ⟨heq, hi⟩

theorem stamp_nodup (rows : List α) (h : (rows.map id).Nodup) : (rows.map (stamp time id)).Nodup := by
  have hmap : (rows.map (stamp time id)).map (fun k => (ofLex k).2) = rows.map id := by
    rw [List.map_map]
    rfl
  exact List.Nodup.of_map _ (hmap ▸ h)

end Stamp

end EventConsistency.Lib
