import Mathlib.Data.List.Forall2
import Mathlib.Data.List.Nodup
import EventConsistency.Lib.Table

/-!
# Tables that differ in their ids

* `Renames ids ids'` : an id of the one table and the id at the same place of the other one; where the ids of each table
  are distinct, it is one to one (`Renames.eq_iff`);
* `find?_related` : searches in related tables that judge related rows alike find related rows;
* `Delta.replace_related` : so do updates of related rows;
* `Extended` : two tables that began as one, with related rows behind it;
* `find?_eq_some_iff` : a search for a key that no two rows share.
-/

namespace EventConsistency.Lib

/-- `i` has become `j`: they stand at the same place. -/
def Renames (ids ids' : List Nat) (i j : Nat) : Prop := (i, j) ∈ ids.zip ids'

namespace Renames

variable {ids ids' more more' : List Nat} {i i' j j' : Nat}

theorem append (h : Renames ids ids' i j) : Renames (ids ++ more) (ids' ++ more') i j := by
  obtain ⟨n, hn⟩ := List.mem_iff_getElem?.mp h
  obtain ⟨hi, hj⟩ := List.getElem?_zip_eq_some.mp hn
  refine List.mem_iff_getElem?.mpr ⟨n, List.getElem?_zip_eq_some.mpr ⟨?_, ?_⟩⟩
  · rw [List.getElem?_append_left (List.getElem?_eq_some_iff.mp hi).1, hi]
  · rw [List.getElem?_append_left (List.getElem?_eq_some_iff.mp hj).1, hj]

theorem last (same : ids.length = ids'.length) : Renames (ids ++ [i]) (ids' ++ [j]) i j := by
  unfold Renames
  rw [List.zip_append same]
  exact List.mem_append_right _ List.mem_cons_self

theorem self (h : i ∈ ids) : Renames ids ids i i := by
  obtain ⟨n, hn⟩ := List.mem_iff_getElem?.mp h
  exact List.mem_iff_getElem?.mpr ⟨n, List.getElem?_zip_eq_some.mpr ⟨hn, hn⟩⟩

/-- Distinct ids stay distinct, and equal ones equal. -/
theorem eq_iff (distinct : ids.Nodup) (distinct' : ids'.Nodup) (h : Renames ids ids' i j) (h' : Renames ids ids' i' j') :
    i = i' ↔ j = j' := by
  obtain ⟨n, hn⟩ := List.mem_iff_getElem?.mp h
  obtain ⟨m, hm⟩ := List.mem_iff_getElem?.mp h'
  obtain ⟨hi, hj⟩ := List.getElem?_zip_eq_some.mp hn
  obtain ⟨hi', hj'⟩ := List.getElem?_zip_eq_some.mp hm
  constructor
  · intro same
    have place : n = m := (List.getElem?_inj (List.getElem?_eq_some_iff.mp hi).1 distinct).mp (by rw [hi, hi', same])
    rw [place, hj'] at hj
    exact (Option.some_inj.mp hj).symm
  · intro same
    have place : n = m := (List.getElem?_inj (List.getElem?_eq_some_iff.mp hj).1 distinct').mp (by rw [hj, hj', same])
    rw [place, hi'] at hi
    exact (Option.some_inj.mp hi).symm

end Renames

section Related

variable {α β : Type} {R : α → β → Prop} {rows : List α} {rows' : List β}

theorem exists_related (h : List.Forall₂ R rows rows') {r : α} (mem : r ∈ rows) : ∃ r' ∈ rows', R r r' := by
  induction h with
  | nil => cases mem
  | cons first _ ih =>
      obtain rfl | mem := List.mem_cons.mp mem
      · exact ⟨_, List.mem_cons_self, first⟩
      · obtain ⟨r', mem', rel⟩ := ih mem
        exact ⟨r', List.mem_cons_of_mem _ mem', rel⟩

/-- Related rows stand at the same place. -/
theorem find?_related {p : α → Bool} {q : β → Bool} (h : List.Forall₂ R rows rows')
    (hp : ∀ r r', (r, r') ∈ rows.zip rows' → p r = q r') :
    (rows.find? p = none ∧ rows'.find? q = none) ∨
      ∃ r r', rows.find? p = some r ∧ rows'.find? q = some r' ∧ (r, r') ∈ rows.zip rows' ∧ R r r' := by
  induction h with
  | nil => exact .inl ⟨rfl, rfl⟩
  | @cons r r' rows rows' first _ ih =>
      have same : p r = q r' := hp r r' List.mem_cons_self
      rw [List.find?_cons, List.find?_cons, ← same]
      cases p r with
      | true => exact .inr ⟨r, r', rfl, rfl, List.mem_cons_self, first⟩
      | false =>
          obtain absent | ⟨s, s', found, found', mem, rel⟩ := ih fun s s' hs => hp s s' (List.mem_cons_of_mem _ hs)
          · exact .inl absent
          · exact .inr ⟨s, s', found, found', List.mem_cons_of_mem _ mem, rel⟩

theorem mem_zip_map {γ δ : Type} {f : α → γ} {g : β → δ} {r : α} {r' : β} (h : (r, r') ∈ rows.zip rows') :
    (f r, g r') ∈ (rows.map f).zip (rows'.map g) := by
  rw [List.zip_map]
  exact List.mem_map.mpr ⟨(r, r'), h, rfl⟩

end Related

section Updates

variable {α : Type} [Row α] {R : α → α → Prop} {rows rows' : List α} {u u' : α}

open Row Delta

theorem Delta.map_rowId_replace (u : α) (rows : List α) : (replace u rows).map rowId = rows.map rowId := by
  unfold replace
  rw [List.map_map]
  refine List.map_congr_left fun r _ => ?_
  dsimp only [Function.comp]
  split_ifs with same
  · exact same.symm
  · rfl

/-- A search that does not tell a row from its new version. -/
theorem Delta.find?_replace {p : α → Bool} (alike : ∀ r ∈ rows, rowId r = rowId u → p r = p u) :
    (replace u rows).find? p = (rows.find? p).map fun r => if rowId r = rowId u then u else r := by
  unfold replace
  rw [List.find?_map]
  congr 1
  induction rows with
  | nil => rfl
  | cons r rows ih =>
      have here := alike r List.mem_cons_self
      have rest := ih fun r hr => alike r (List.mem_cons_of_mem _ hr)
      rw [List.find?_cons, List.find?_cons, rest]
      dsimp only [Function.comp]
      by_cases same : rowId r = rowId u
      · rw [if_pos same, here same]
      · rw [if_neg same]

/-- Related rows are replaced by related ones, at the same place. -/
theorem Delta.replace_related (h : List.Forall₂ R rows rows')
    (place : ∀ r r', (r, r') ∈ rows.zip rows' → (rowId r = rowId u ↔ rowId r' = rowId u')) (new : R u u') :
    List.Forall₂ R (replace u rows) (replace u' rows') := by
  induction h with
  | nil => exact .nil
  | @cons r r' rows rows' first _ ih =>
      refine .cons ?_ (ih fun s s' hs => place s s' (List.mem_cons_of_mem _ hs))
      have here := place r r' List.mem_cons_self
      dsimp only
      by_cases same : rowId r = rowId u
      · rw [if_pos same, if_pos (here.mp same)]
        exact new
      · rw [if_neg same, if_neg fun same' => same (here.mpr same')]
        exact first

end Updates

/-- Both tables began as `old`, and what they have besides is related row by row. -/
def Extended {α : Type} (R : α → α → Prop) (old rows rows' : List α) : Prop :=
  ∃ new new', rows = old ++ new ∧ rows' = old ++ new' ∧ List.Forall₂ R new new'

namespace Extended

variable {α : Type} {R R' : α → α → Prop} {old rows rows' more more' : List α}

theorem refl (R : α → α → Prop) (old : List α) : Extended R old old old :=
  ⟨[], [], (List.append_nil old).symm, (List.append_nil old).symm, .nil⟩

theorem mono (h : Extended R old rows rows') (weaker : ∀ r r', R r r' → R' r r') : Extended R' old rows rows' := by
  obtain ⟨new, new', rfl, rfl, rel⟩ := h
  exact ⟨new, new', rfl, rfl, rel.imp weaker⟩

theorem append (h : Extended R old rows rows') (rel : List.Forall₂ R more more') :
    Extended R old (rows ++ more) (rows' ++ more') := by
  obtain ⟨new, new', rfl, rfl, rel₀⟩ := h
  exact ⟨new ++ more, new' ++ more', List.append_assoc .., List.append_assoc .., List.rel_append rel₀ rel⟩

/-- Where the old rows are related to themselves, all rows are related. -/
theorem related (h : Extended R old rows rows') (self : ∀ r ∈ old, R r r) : List.Forall₂ R rows rows' := by
  obtain ⟨new, new', rfl, rfl, rel⟩ := h
  exact List.rel_append (List.forall₂_same.mpr self) rel

end Extended

section Keys

variable {α κ : Type} [DecidableEq κ] {key : α → κ} {rows rows' : List α} {k : κ} {r : α}

/-- No two rows share a key: a search for one finds the row that has it. -/
theorem find?_eq_some_iff (distinct : (rows.map key).Nodup) :
    rows.find? (fun r => key r == k) = some r ↔ r ∈ rows ∧ key r = k := by
  constructor
  · intro found
    have at_key := List.find?_some found
    exact ⟨List.mem_of_find?_eq_some found, eq_of_beq at_key⟩
  · rintro ⟨mem, rfl⟩
    cases found : rows.find? (fun s => key s == key r) with
    | none =>
        have absent := List.find?_eq_none.mp found r mem
        simp at absent
    | some s =>
        have same : key s = key r := by simpa using List.find?_some found
        rw [List.inj_on_of_nodup_map distinct (List.mem_of_find?_eq_some found) mem same]

theorem find?_eq_none_iff : rows.find? (fun r => key r == k) = none ↔ k ∉ rows.map key := by
  rw [List.find?_eq_none, List.mem_map]
  constructor
  · rintro h ⟨r, mem, same⟩
    exact h r mem (by simpa using same)
  · intro h r mem same
    exact h ⟨r, mem, by simpa using same⟩

end Keys

end EventConsistency.Lib
