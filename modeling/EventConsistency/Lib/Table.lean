import Mathlib.Tactic.Common

/-!
# Tables: private changes and growth

* `Row` : rows with a primary key `rowId`;
* `Delta` : the rows a transaction has inserted and the new versions of rows it has updated, with
  `Delta.apply` the table as the transaction sees it, which is also the table after it commits; `Delta.replace`
  is the change of a single row;
* `Grows R N rows rows'` : `rows'` is `rows` with every row taken to an `R`-related one in place, followed
  by new rows that satisfy `N`; a preorder when `R` is one and `N` is closed under `R`.
-/

namespace EventConsistency.Lib

/-- Rows with a primary key. -/
class Row (α : Type) where
  rowId : α → Nat

open Row

/-- The uncommitted changes of one transaction to one table. -/
structure Delta (α : Type) where
  updated : List α := []
  inserted : List α := []
  deriving DecidableEq, Repr

namespace Delta

variable {α : Type} [Row α]

/-- The transaction's version of a committed row: the newest update of its key, else the row. -/
def version (d : Delta α) (r : α) : α := (d.updated.find? (fun u => rowId u == rowId r)).getD r

/-- The table as the transaction sees it. -/
def apply (d : Delta α) (rows : List α) : List α := rows.map d.version ++ d.inserted

def insert (d : Delta α) (r : α) : Delta α := { d with inserted := d.inserted ++ [r] }

/-- A row of the transaction's own is changed in place, a committed one gets a new version. -/
def update (d : Delta α) (r : α) : Delta α :=
  if d.inserted.any (fun u => rowId u == rowId r) then
    { d with inserted := d.inserted.map (fun u => if rowId u == rowId r then r else u) }
  else { d with updated := r :: d.updated }

/-- A version is the row itself or one of the updates of its key. -/
theorem version_cases (d : Delta α) (r : α) :
    d.version r = r ∨ ∃ u ∈ d.updated, rowId u = rowId r ∧ d.version r = u := by
  unfold version
  cases h : d.updated.find? (fun u => rowId u == rowId r) with
  | none => exact Or.inl rfl
  | some u => exact Or.inr ⟨u, List.mem_of_find?_eq_some h, by simpa using List.find?_some h, rfl⟩

theorem version_of_updated_nil {d : Delta α} (h : d.updated = []) (r : α) : d.version r = r := by
  simp [version, h]

/-- What a table holds after a commit. -/
theorem mem_apply {d : Delta α} {rows : List α} {r : α} :
    r ∈ d.apply rows ↔ (∃ r₀ ∈ rows, d.version r₀ = r) ∨ r ∈ d.inserted := by
  simp [apply]

theorem apply_of_updated_nil {d : Delta α} (h : d.updated = []) (rows : List α) :
    d.apply rows = rows ++ d.inserted := by
  have : d.version = id := by funext r; simp [version, h]
  simp [apply, this]

@[simp] theorem apply_empty (rows : List α) : ({} : Delta α).apply rows = rows := by
  simp [apply_of_updated_nil]

@[simp] theorem apply_inserted (rows new : List α) : (⟨[], new⟩ : Delta α).apply rows = rows ++ new := by
  simp [apply_of_updated_nil]

/-- The table with the row of `u`'s key replaced by `u`. -/
def replace (u : α) (rows : List α) : List α := rows.map (fun r => if rowId r = rowId u then u else r)

theorem apply_updated (u : α) (rows new : List α) : (⟨[u], new⟩ : Delta α).apply rows = replace u rows ++ new := by
  simp only [apply, replace]
  congr 2
  funext r
  by_cases h : rowId r = rowId u
  · simp [version, h]
  · simp [version, h, Ne.symm h]

theorem mem_replace {u r : α} {rows : List α} :
    r ∈ replace u rows ↔ (r ∈ rows ∧ rowId r ≠ rowId u) ∨ (r = u ∧ ∃ r₀ ∈ rows, rowId r₀ = rowId u) := by
  constructor
  · intro h
    obtain ⟨r₀, h₀, rfl⟩ := List.mem_map.mp h
    by_cases he : rowId r₀ = rowId u
    · exact Or.inr ⟨if_pos he, r₀, h₀, he⟩
    · rw [if_neg he]; exact Or.inl ⟨h₀, he⟩
  · rintro (⟨h, he⟩ | ⟨rfl, r₀, h₀, he⟩)
    · exact List.mem_map.mpr ⟨r, h, if_neg he⟩
    · exact List.mem_map.mpr ⟨r₀, h₀, if_pos he⟩

theorem replace_cons_pos {u r : α} (rows : List α) (h : rowId r = rowId u) :
    replace u (r :: rows) = u :: replace u rows := by
  simp [replace, h]

theorem replace_cons_neg {u r : α} (rows : List α) (h : rowId r ≠ rowId u) :
    replace u (r :: rows) = r :: replace u rows := by
  simp [replace, h]

theorem replace_of_absent {u : α} {rows : List α} (h : ∀ r ∈ rows, rowId r ≠ rowId u) : replace u rows = rows := by
  induction rows with
  | nil => rfl
  | cons r rows ih =>
      simp only [List.mem_cons, forall_eq_or_imp] at h
      rw [replace_cons_neg rows h.1, ih h.2]

/-- Among the rows with `p`, a row without `p` that gets it in its new version is an addition. -/
theorem filter_replace_perm {u o : α} {rows : List α} {p : α → Bool} (hn : (rows.map rowId).Nodup) (ho : o ∈ rows)
    (hid : rowId u = rowId o) (hp : p o = false) (hu : p u = true) :
    ((replace u rows).filter p).Perm (u :: rows.filter p) := by
  induction rows with
  | nil => cases ho
  | cons r rows ih =>
      obtain ⟨hr, hn⟩ := List.nodup_cons.mp hn
      rcases List.mem_cons.mp ho with rfl | ho
      · have hrest : replace u rows = rows := replace_of_absent fun x hx he =>
          hr (List.mem_map.mpr ⟨x, hx, he.trans hid⟩)
        rw [replace_cons_pos rows hid.symm, hrest, List.filter_cons_of_pos hu, List.filter_cons_of_neg (by simp [hp])]
      · have hne : rowId r ≠ rowId u := fun he => hr (List.mem_map.mpr ⟨o, ho, by rw [← hid, he]⟩)
        rw [replace_cons_neg rows hne]
        cases hpr : p r with
        | true =>
            rw [List.filter_cons_of_pos hpr, List.filter_cons_of_pos hpr]
            exact ((ih hn ho).cons r).trans (List.Perm.swap u r _)
        | false =>
            rw [List.filter_cons_of_neg (by simp [hpr]), List.filter_cons_of_neg (by simp [hpr])]
            exact ih hn ho

/-- Rows with `p` are not affected when neither version of the row has it. -/
theorem filter_replace_eq {u : α} {rows : List α} {p : α → Bool} (ho : ∀ r ∈ rows, rowId r = rowId u → p r = false)
    (hu : p u = false) : (replace u rows).filter p = rows.filter p := by
  induction rows with
  | nil => rfl
  | cons r rows ih =>
      simp only [List.mem_cons, forall_eq_or_imp] at ho
      by_cases he : rowId r = rowId u
      · rw [replace_cons_pos rows he, List.filter_cons_of_neg (by simp [hu]), List.filter_cons_of_neg (by simp [ho.1 he]), ih ho.2]
      · rw [replace_cons_neg rows he, List.filter_cons, List.filter_cons, ih ho.2]

end Delta

/-- In-place change by `R` followed by new rows with `N`. -/
inductive Grows {α : Type} (R : α → α → Prop) (N : α → Prop) : List α → List α → Prop where
  | nil {new : List α} (h : ∀ n ∈ new, N n) : Grows R N [] new
  | cons {a b : α} {as bs : List α} (h : R a b) (hs : Grows R N as bs) : Grows R N (a :: as) (b :: bs)

namespace Grows

variable {α : Type} {R R' : α → α → Prop} {N N' : α → Prop} {rows rows' rows'' : List α}

theorem refl (hR : ∀ a, R a a) : ∀ rows : List α, Grows R N rows rows
  | [] => nil (by simp)
  | a :: as => cons (hR a) (refl hR as)

theorem append (hR : ∀ a, R a a) {new : List α} (hn : ∀ n ∈ new, N n) :
    ∀ rows : List α, Grows R N rows (rows ++ new)
  | [] => nil hn
  | a :: as => cons (hR a) (append hR hn as)

theorem refl_eq (rows : List α) : Grows (fun a b => b = a) N rows rows := by
  apply refl
  exact fun _ => rfl

theorem all_new (hN : ∀ a b, N a → R a b → N b) (h : Grows R N rows rows') (hn : ∀ n ∈ rows, N n) :
    ∀ n ∈ rows', N n := by
  induction h with
  | nil h => exact h
  | cons hab _ ih =>
      simp only [List.mem_cons, forall_eq_or_imp] at hn ⊢
      exact ⟨hN _ _ hn.1 hab, ih hn.2⟩

theorem trans (hR : ∀ a b c, R a b → R b c → R a c) (hN : ∀ a b, N a → R a b → N b)
    (h : Grows R N rows rows') (h' : Grows R N rows' rows'') : Grows R N rows rows'' := by
  induction h generalizing rows'' with
  | nil h => exact nil (h'.all_new hN h)
  | cons hab _ ih =>
      cases h' with
      | cons hbc hs => exact cons (hR _ _ _ hab hbc) (ih hs)

theorem trans_eq (h : Grows (fun a b => b = a) N rows rows') (h' : Grows (fun a b => b = a) N rows' rows'') :
    Grows (fun a b => b = a) N rows rows'' :=
  trans (fun _ _ _ hab hbc => hbc.trans hab) (fun _ _ hn hab => hab ▸ hn) h h'

theorem mono (hR : ∀ a b, R a b → R' a b) (hN : ∀ a, N a → N' a) (h : Grows R N rows rows') :
    Grows R' N' rows rows' := by
  induction h with
  | nil h => exact nil fun n hn => hN n (h n hn)
  | cons hab _ ih => exact cons (hR _ _ hab) ih

/-- A committed change is growth when every new version is `R`-related and every insertion is `N`. -/
theorem of_apply [Row α] {d : Delta α} (hR : ∀ r ∈ rows, R r (d.version r)) (hN : ∀ n ∈ d.inserted, N n) :
    Grows R N rows (d.apply rows) := by
  induction rows with
  | nil => exact nil (by simpa [Delta.apply] using hN)
  | cons a as ih =>
      simp only [List.mem_cons, forall_eq_or_imp] at hR
      exact cons hR.1 (ih hR.2)

theorem mem (h : Grows R N rows rows') {b : α} (hb : b ∈ rows') : (∃ a ∈ rows, R a b) ∨ N b := by
  induction h with
  | nil h => exact Or.inr (h b hb)
  | cons hab _ ih =>
      rcases List.mem_cons.mp hb with rfl | hb
      · exact Or.inl ⟨_, List.mem_cons_self, hab⟩
      · rcases ih hb with ⟨a, ha, hr⟩ | hn
        · exact Or.inl ⟨a, List.mem_cons_of_mem _ ha, hr⟩
        · exact Or.inr hn

theorem mem_left (h : Grows R N rows rows') {a : α} (ha : a ∈ rows) : ∃ b ∈ rows', R a b := by
  induction h with
  | nil _ => cases ha
  | cons hab _ ih =>
      rcases List.mem_cons.mp ha with rfl | ha
      · exact ⟨_, List.mem_cons_self, hab⟩
      · obtain ⟨b, hb, hr⟩ := ih ha
        exact ⟨b, List.mem_cons_of_mem _ hb, hr⟩

/-- A found row is found again, in its new version. -/
theorem find?_some (h : Grows R N rows rows') {p : α → Bool} (hp : ∀ a b, R a b → p a = p b) {a : α}
    (ha : rows.find? p = some a) : ∃ b, R a b ∧ rows'.find? p = some b := by
  induction h with
  | nil _ => cases ha
  | @cons c d _ _ hab _ ih =>
      cases hc : p c with
      | true =>
          rw [List.find?_cons_of_pos hc] at ha
          cases ha
          exact ⟨d, hab, List.find?_cons_of_pos (by rw [← hp _ _ hab, hc])⟩
      | false =>
          rw [List.find?_cons_of_neg (by simp [hc])] at ha
          obtain ⟨b, hr, hb⟩ := ih ha
          exact ⟨b, hr, by rw [List.find?_cons_of_neg (by rw [← hp _ _ hab, hc]; simp)]; exact hb⟩

/-- What was absent stays absent when no new row is it. -/
theorem find?_none (h : Grows R N rows rows') {p : α → Bool} (hp : ∀ a b, R a b → p a = p b)
    (hn : ∀ n, N n → p n = false) (ha : rows.find? p = none) : rows'.find? p = none := by
  rw [List.find?_eq_none] at ha ⊢
  intro b hb
  rcases h.mem hb with ⟨a, ha', hr⟩ | hb'
  · rw [← hp a b hr]; exact ha a ha'
  · simp [hn b hb']

end Grows

/-- A search that goes through all rows and always has one in hand finds nothing only where there are none. -/
theorem foldl_eq_none {α : Type} {f : Option α → α → Option α} (hf : ∀ best r, f best r ≠ none) {rows : List α}
    {best : Option α} : rows.foldl f best = none ↔ best = none ∧ rows = [] := by
  induction rows generalizing best with
  | nil => simp
  | cons r rows ih => simp [ih, hf best r]

section Lookup

variable {β : Type} {k k' : String} {entries : List (String × β)}

/-- An association list without the entries of a key. -/
theorem lookup_filter_self : (entries.filter fun kv => kv.1 != k).lookup k = none := by
  refine List.lookup_eq_none_iff.mpr fun kv hkv => ?_
  have hne := (List.mem_filter.mp hkv).2
  simp only [bne_iff_ne, ne_eq] at hne
  simpa using fun heq : k = kv.1 => hne heq.symm

theorem lookup_filter_ne (h : k' ≠ k) : (entries.filter fun kv => kv.1 != k).lookup k' = entries.lookup k' := by
  induction entries with
  | nil => rfl
  | cons kv rest ih =>
      by_cases hk : kv.1 = k
      · have hk' : (k' == kv.1) = false := by simpa [hk] using h
        rw [List.filter_cons_of_neg (by simp [hk]), ih, List.lookup_cons, hk']
      · rw [List.filter_cons_of_pos (by simp [hk]), List.lookup_cons, List.lookup_cons, ih]

end Lookup

end EventConsistency.Lib
