import Mathlib.Data.List.Nodup
import EventConsistency.Lib.ValuePath
import EventConsistency.Sanitizing

/-!
# What becomes of each leaf

* `redactions_map` : the texts of the removed paths are those of the paths as lists of keys and indices;
* `mem_removedPaths_cons`, `child_clean` : what is removed below a step and what is left there, for members and items
  alike. All that follows goes by induction on a path;
* **`sanitizing_accounts`** : a second pass changes nothing, and every leaf is kept or lies below one removed path.
-/

namespace EventConsistency.ContextSanitizer

open Lib.Python

/-! ## Paths as lists -/

def treePaths : Paths (List Step) where
  root := []
  child path key := path ++ [.key key]
  item path index := path ++ [.index index]

/-- A path of the source made longer by a step. -/
def extend (path : Text) : Step → Text
  | .key key => textPaths.child path key
  | .index index => textPaths.item path index

/-- The text of a path. -/
def render (path : List Step) : Text := path.foldl extend textPaths.root

def RemovedField.map {π ρ : Type} (f : π → ρ) (field : RemovedField π) : RemovedField ρ := ⟨f field.path, field.reason⟩

/-- Two kinds of paths that grow alike. -/
structure Paths.Hom {π ρ : Type} (P : Paths π) (Q : Paths ρ) (f : π → ρ) : Prop where
  child (path : π) (key : Text) : f (P.child path key) = Q.child (f path) key
  item (path : π) (index : Nat) : f (P.item path index) = Q.item (f path) index

theorem render_hom : treePaths.Hom textPaths render where
  child path key := by
    show List.foldl extend textPaths.root (path ++ [.key key]) = _
    rw [List.foldl_append]
    rfl
  item path index := by
    show List.foldl extend textPaths.root (path ++ [.index index]) = _
    rw [List.foldl_append]
    rfl

theorem append_hom (base : List Step) : treePaths.Hom treePaths (base ++ ·) where
  child path key := (List.append_assoc base path [.key key]).symm
  item path index := (List.append_assoc base path [.index index]).symm

section

variable {rt : TextRuntime} {π ρ : Type} {P : Paths π} {Q : Paths ρ} {f : π → ρ}

theorem redactItems_map (hom : P.Hom Q f) {key : Option Text} {items : List Value}
    (h : ∀ v ∈ items, ∀ path, redactions rt Q key (f path) v = (redactions rt P key path v).map (RemovedField.map f))
    (path : π) (index : Nat) :
    redactItems rt Q key (f path) index items = (redactItems rt P key path index items).map (RemovedField.map f) := by
  induction items generalizing index with
  | nil => rfl
  | cons v items ih =>
      simp only [List.forall_mem_cons] at h
      rw [redactItems, redactItems, List.map_append, ← hom.item, h.1, ih h.2]

theorem redactPairs_map (hom : P.Hom Q f) {items : List (Text × Value)}
    (h : ∀ kv ∈ items, ∀ path,
      redactions rt Q (some kv.1) (f path) kv.2 = (redactions rt P (some kv.1) path kv.2).map (RemovedField.map f))
    (path : π) :
    redactPairs rt Q (f path) items = (redactPairs rt P path items).map (RemovedField.map f) := by
  induction items with
  | nil => rfl
  | cons kv items ih =>
      simp only [List.forall_mem_cons] at h
      rw [redactPairs, redactPairs, List.map_append, ih h.2, redactPair, redactPair, ← hom.child, h.1]
      split <;> rfl

/-- The removed fields in one kind of paths give those in the other. -/
theorem redactions_map (hom : P.Hom Q f) (v : Value) : ∀ key path,
    redactions rt Q key (f path) v = (redactions rt P key path v).map (RemovedField.map f) := by
  induction v using Value.induction with
  | scalar v scalar =>
      intro key path
      rw [redactions_scalar scalar, redactions_scalar scalar]
      split <;> rfl
  | list items ih =>
      intro key path
      exact redactItems_map hom (fun v hv path => ih v hv key path) path 0
  | dict items ih =>
      intro key path
      exact redactPairs_map hom (fun kv hkv path => ih kv hkv (some kv.1) path) path

end

/-! ## One step down -/

section

variable (rt : TextRuntime)

/-- The removed paths of a value under a key, from that value. -/
def removedPaths (key : Option Text) (v : Value) : List (List Step) :=
  (redactions rt treePaths key [] v).map RemovedField.path

/-- The key above what lies one step below. -/
def under (key : Option Text) : Step → Option Text
  | .key below => some below
  | .index _ => key

/-- What lies one step below is kept, if not whole. -/
def keepsBelow : Step → Value → Bool
  | .key key, v => keepsMember rt key v
  | .index _, _ => true

end

section

variable {rt : TextRuntime}

theorem map_path_redactions (key : Option Text) (base : List Step) (v : Value) :
    (redactions rt treePaths key base v).map RemovedField.path = (removedPaths rt key v).map (base ++ ·) := by
  have moved := @redactions_map rt _ _ _ _ _ (append_hom base) v key []
  rw [List.append_nil] at moved
  rw [moved, removedPaths, List.map_map, List.map_map]
  rfl

theorem removedPaths_scalar {key : Option Text} {v : Value} (h : v.isScalar = true) :
    removedPaths rt key v = if isSensitive rt key v then [[]] else [] := by
  rw [removedPaths, redactions_scalar h]
  split <;> rfl

theorem mem_redactItems {key : Option Text} {path : List Step} {items : List Value} {base : List Step} {index : Nat} :
    path ∈ (redactItems rt treePaths key base index items).map RemovedField.path ↔
      ∃ i v, items[i]? = some v ∧ ∃ rest ∈ removedPaths rt key v, path = base ++ .index (index + i) :: rest := by
  induction items generalizing index with
  | nil => simp [redactItems]
  | cons v items ih =>
      rw [redactItems, List.map_append, List.mem_append, ih, map_path_redactions, List.mem_map]
      constructor
      · rintro (⟨rest, hrest, rfl⟩ | ⟨i, w, hw, rest, hrest, rfl⟩)
        · exact ⟨0, v, rfl, rest, hrest, by simp [treePaths]⟩
        · exact ⟨i + 1, w, hw, rest, hrest, by rw [Nat.add_assoc, Nat.add_comm 1 i]⟩
      · rintro ⟨i, w, hw, rest, hrest, rfl⟩
        cases i with
        | zero =>
            cases hw
            exact .inl ⟨rest, hrest, by simp [treePaths]⟩
        | succ i => exact .inr ⟨i, w, hw, rest, hrest, by rw [Nat.add_assoc, Nat.add_comm 1 i]⟩

theorem mem_redactPairs {path : List Step} {items : List (Text × Value)} {base : List Step} :
    path ∈ (redactPairs rt treePaths base items).map RemovedField.path ↔
      ∃ kv ∈ items, ∃ rest, (if keepsMember rt kv.1 kv.2 then rest ∈ removedPaths rt (some kv.1) kv.2 else rest = []) ∧
        path = base ++ .key kv.1 :: rest := by
  induction items with
  | nil => simp [redactPairs]
  | cons kv items ih =>
      rw [redactPairs, List.map_append, List.mem_append, ih, redactPair]
      simp only [List.mem_cons, exists_eq_or_imp]
      refine or_congr_left ?_
      by_cases kept : keepsMember rt kv.1 kv.2 = true
      · simp only [kept, if_true, map_path_redactions, List.mem_map]
        refine exists_congr fun rest => and_congr_right fun _ => ?_
        rw [treePaths, List.append_assoc, List.singleton_append, eq_comm]
      · simp only [kept, Bool.false_eq_true, if_false, exists_eq_left]
        simp [treePaths]

/-- What is removed below a step: what is removed from the value there, or that value whole. -/
theorem mem_removedPaths_cons {key : Option Text} {v : Value} (distinct : v.Distinct) {step : Step} {rest : List Step} :
    step :: rest ∈ removedPaths rt key v ↔ ∃ w, v.child step = some w ∧
      if keepsBelow rt step w then rest ∈ removedPaths rt (under key step) w else rest = [] := by
  cases distinct with
  | scalar v scalar =>
      rw [removedPaths_scalar scalar, Value.child_scalar scalar]
      split <;> simp
  | list items h =>
      rw [removedPaths, redactions, mem_redactItems]
      cases step with
      | key k => simp [Value.child]
      | index i => simp [Value.child, keepsBelow, under]
  | dict items keys h =>
      rw [removedPaths, redactions, mem_redactPairs]
      cases step with
      | index i => simp [Value.child]
      | key k =>
          simp only [Value.child, lookup_eq_some_iff keys, keepsBelow, under]
          constructor
          · rintro ⟨kv, hkv, rest', removed, same⟩
            simp only [List.nil_append, List.cons.injEq, Step.key.injEq] at same
            obtain ⟨rfl, rfl⟩ := same
            exact ⟨kv.2, hkv, removed⟩
          · rintro ⟨w, hw, removed⟩
            exact ⟨(k, w), hw, rest, removed, rfl⟩

/-- A value is removed whole from where it stands if it is sensitive there. -/
theorem nil_mem_removedPaths {key : Option Text} {v : Value} :
    [] ∈ removedPaths rt key v ↔ v.isScalar = true ∧ isSensitive rt key v = true := by
  by_cases scalar : v.isScalar = true
  · rw [removedPaths_scalar scalar]
    by_cases sensitive : isSensitive rt key v = true <;> simp [scalar, sensitive]
  · cases v with
    | list items =>
        rw [removedPaths, redactions, mem_redactItems]
        simp [Value.isScalar]
    | dict items =>
        rw [removedPaths, redactions, mem_redactPairs]
        simp [Value.isScalar]
    | _ => exact absurd rfl scalar

theorem lookup_cleanPairs {items : List (Text × Value)} (keys : (items.map Prod.fst).Nodup) (key : Text) :
    (cleanPairs rt items).lookup key = (items.lookup key).bind fun v =>
      if keepsMember rt key v then some (clean rt (some key) v) else none := by
  induction items with
  | nil => rfl
  | cons kv items ih =>
      rw [List.map_cons, List.nodup_cons] at keys
      have absent : key = kv.1 → items.lookup key = none := by
        rintro rfl
        rw [List.lookup_eq_none_iff]
        intro other later
        simp only [bne_iff_ne]
        intro same
        exact keys.1 (same ▸ List.mem_map_of_mem later)
      rw [cleanPairs, cleanPair, lookup_cons_eq kv]
      by_cases same : key = kv.1
      · subst same
        by_cases kept : keepsMember rt kv.1 kv.2 = true
        · simp [kept]
        · simp [kept, ih keys.2, absent]
      · rw [if_neg same, ← ih keys.2]
        by_cases kept : keepsMember rt kv.1 kv.2 = true
        · simp only [kept, if_true, List.singleton_append, lookup_cons_eq, if_neg same]
        · simp only [kept, Bool.false_eq_true, if_false, List.nil_append]

/-- What is left below a step. -/
theorem child_clean {key : Option Text} {v : Value} (distinct : v.Distinct) (step : Step) :
    (clean rt key v).child step = (v.child step).bind fun w =>
      if keepsBelow rt step w then some (clean rt (under key step) w) else none := by
  cases distinct with
  | scalar v scalar =>
      rw [Value.child_scalar scalar, Value.child_scalar (by rw [isScalar_clean, scalar])]
      rfl
  | list items h =>
      rw [clean, cleanItems_eq]
      cases step with
      | key k => rfl
      | index i =>
          simp only [Value.child, List.getElem?_map, keepsBelow, under, if_true]
          cases items[i]? <;> rfl
  | dict items keys h =>
      rw [clean]
      cases step with
      | index i => rfl
      | key k => exact lookup_cleanPairs keys k

/-! ## Leaves -/

/-- No removed path lies below another. -/
theorem removedPaths_apart {a b : List Step} : ∀ {key : Option Text} {v : Value}, v.Distinct →
    a ∈ removedPaths rt key v → b ∈ removedPaths rt key v → a <+: b → a = b := by
  induction a generalizing b with
  | nil =>
      intro key v distinct ha hb _
      obtain ⟨scalar, sensitive⟩ := nil_mem_removedPaths.mp ha
      rw [removedPaths_scalar scalar, if_pos sensitive, List.mem_singleton] at hb
      exact hb.symm
  | cons step a ih =>
      intro key v distinct ha hb below
      obtain ⟨b, rfl, tail⟩ := List.cons_prefix_iff.mp below
      obtain ⟨w, hw, ha⟩ := (mem_removedPaths_cons distinct).mp ha
      obtain ⟨w', hw', hb⟩ := (mem_removedPaths_cons distinct).mp hb
      obtain rfl : w = w' := Option.some.inj (hw.symm.trans hw')
      split at ha
      · rename_i kept
        rw [if_pos kept] at hb
        rw [ih (distinct.child hw) ha hb tail]
      · rename_i gone
        rw [if_neg gone] at hb
        rw [ha, hb]

/-- A leaf stays where it is, or a removed path leads to it. -/
theorem leaf_cases {path : List Step} {leaf : Value} (scalar : leaf.isScalar = true) :
    ∀ {key : Option Text} {v : Value}, v.Distinct → v.get? path = some leaf →
      ((clean rt key v).get? path = some leaf ∧ ∀ r ∈ removedPaths rt key v, ¬r <+: path) ∨
        ((clean rt key v).get? path ≠ some leaf ∧ ∃ r ∈ removedPaths rt key v, r <+: path) := by
  induction path with
  | nil =>
      intro key v distinct found
      obtain rfl : v = leaf := Option.some.inj found
      rw [clean_scalar scalar, removedPaths_scalar scalar]
      by_cases sensitive : isSensitive rt key v = true
      · right
        simp only [sensitive, if_true, List.mem_singleton, exists_eq_left, List.prefix_rfl, and_true]
        intro same
        rw [← Option.some.inj same] at sensitive
        cases sensitive
      · left
        simp only [sensitive, Bool.false_eq_true, if_false, List.not_mem_nil, false_implies, implies_true, and_true]
        rfl
  | cons step path ih =>
      intro key v distinct found
      obtain ⟨w, hw, found⟩ := Option.bind_eq_some_iff.mp found
      have inside : ∀ r, r ∈ removedPaths rt key v → r <+: step :: path →
          ∃ rest, r = step :: rest ∧ rest <+: path ∧
            if keepsBelow rt step w then rest ∈ removedPaths rt (under key step) w else rest = [] := by
        intro r hr below
        obtain rfl | ⟨rest, rfl, tail⟩ := List.prefix_cons_iff.mp below
        · obtain ⟨scalar', -⟩ := nil_mem_removedPaths.mp hr
          rw [Value.child_scalar scalar'] at hw
          cases hw
        · obtain ⟨w', hw', hr⟩ := (mem_removedPaths_cons distinct).mp hr
          obtain rfl : w = w' := Option.some.inj (hw.symm.trans hw')
          exact ⟨rest, rfl, tail, hr⟩
      rw [Value.get?_cons, child_clean distinct, hw, Option.bind_some]
      by_cases kept : keepsBelow rt step w = true
      · simp only [kept, if_true, Option.bind_some] at inside ⊢
        obtain ⟨stays, free⟩ | ⟨changed, r, hr, below⟩ := ih (distinct.child hw) found
        · refine .inl ⟨stays, fun r hr below => ?_⟩
          obtain ⟨rest, rfl, below, hrest⟩ := inside r hr below
          exact free rest hrest below
        · refine .inr ⟨changed, step :: r, ?_, (List.prefix_cons_inj step).mpr below⟩
          exact (mem_removedPaths_cons distinct).mpr ⟨w, hw, by rw [if_pos kept]; exact hr⟩
      · simp only [kept, Bool.false_eq_true, if_false, Option.bind_none] at inside ⊢
        refine .inr ⟨by simp, [step], ?_, by simp⟩
        exact (mem_removedPaths_cons distinct).mpr ⟨w, hw, by rw [if_neg kept]⟩

/-- A leaf that is left was there before, or is the null of a removed path. -/
theorem leaf_sourced {path : List Step} {leaf : Value} (scalar : leaf.isScalar = true) :
    ∀ {key : Option Text} {v : Value}, v.Distinct → (clean rt key v).get? path = some leaf →
      v.get? path = some leaf ∨ leaf = .none ∧ path ∈ removedPaths rt key v := by
  induction path with
  | nil =>
      intro key v distinct found
      obtain same : clean rt key v = leaf := Option.some.inj found
      have scalar' : v.isScalar = true := by rw [← @isScalar_clean rt key, same, scalar]
      rw [clean_scalar scalar'] at same
      by_cases sensitive : isSensitive rt key v = true
      · rw [if_pos sensitive] at same
        exact .inr ⟨same.symm, nil_mem_removedPaths.mpr ⟨scalar', sensitive⟩⟩
      · rw [if_neg sensitive] at same
        exact .inl (congrArg some same)
  | cons step path ih =>
      intro key v distinct found
      rw [Value.get?_cons, child_clean distinct] at found
      cases hw : v.child step with
      | none => rw [hw] at found; cases found
      | some w =>
          rw [hw, Option.bind_some] at found
          by_cases kept : keepsBelow rt step w = true
          · rw [if_pos kept, Option.bind_some] at found
            rw [Value.get?_cons, hw, Option.bind_some, mem_removedPaths_cons distinct]
            refine (ih (distinct.child hw) found).imp_right fun h => ⟨h.1, w, hw, ?_⟩
            rw [if_pos kept]
            exact h.2
          · rw [if_neg kept] at found
            cases found

/-! ## No path twice -/

theorem nodup_redactItems {key : Option Text} {items : List Value} (h : ∀ v ∈ items, (removedPaths rt key v).Nodup)
    (base : List Step) (index : Nat) :
    ((redactItems rt treePaths key base index items).map RemovedField.path).Nodup := by
  induction items generalizing index with
  | nil => exact List.nodup_nil
  | cons v items ih =>
      simp only [List.forall_mem_cons] at h
      rw [redactItems, List.map_append, List.nodup_append]
      refine ⟨?_, ih h.2 (index + 1), ?_⟩
      · rw [map_path_redactions]
        exact List.Nodup.map (List.append_right_injective _) h.1
      · intro a ha b hb same
        rw [map_path_redactions, List.mem_map] at ha
        obtain ⟨rest, -, rfl⟩ := ha
        obtain ⟨i, w, -, rest', -, rfl⟩ := mem_redactItems.mp hb
        simp [treePaths] at same
        omega

theorem nodup_redactPairs {items : List (Text × Value)} (keys : (items.map Prod.fst).Nodup)
    (h : ∀ kv ∈ items, (removedPaths rt (some kv.1) kv.2).Nodup) (base : List Step) :
    ((redactPairs rt treePaths base items).map RemovedField.path).Nodup := by
  induction items with
  | nil => exact List.nodup_nil
  | cons kv items ih =>
      simp only [List.forall_mem_cons] at h
      rw [List.map_cons, List.nodup_cons] at keys
      have own : ∀ a ∈ (redactPair rt treePaths base kv).map RemovedField.path, ∃ rest, a = base ++ .key kv.1 :: rest := by
        intro a ha
        rw [redactPair] at ha
        split at ha
        · rw [map_path_redactions, List.mem_map] at ha
          obtain ⟨rest, -, rfl⟩ := ha
          exact ⟨rest, by simp [treePaths]⟩
        · exact ⟨[], by simpa [treePaths] using ha⟩
      rw [redactPairs, List.map_append, List.nodup_append]
      refine ⟨?_, ih keys.2 h.2, ?_⟩
      · rw [redactPair]
        split
        · rw [map_path_redactions]
          exact List.Nodup.map (List.append_right_injective _) h.1
        · simp
      · intro a ha b hb same
        obtain ⟨rest, rfl⟩ := own a ha
        obtain ⟨other, later, rest', -, rfl⟩ := mem_redactPairs.mp hb
        simp only [List.append_cancel_left_eq, List.cons.injEq, Step.key.injEq] at same
        exact keys.1 (same.1 ▸ List.mem_map_of_mem later)

theorem nodup_removedPaths {v : Value} (distinct : v.Distinct) : ∀ key, (removedPaths rt key v).Nodup := by
  induction distinct with
  | scalar v scalar =>
      intro key
      rw [removedPaths_scalar scalar]
      split <;> simp
  | list items h ih =>
      intro key
      exact nodup_redactItems (fun v hv => ih v hv key) [] 0
  | dict items keys h ih =>
      intro key
      exact nodup_redactPairs keys (fun kv hkv => ih kv hkv (some kv.1)) []

/-! ## The second pass -/

theorem visited_clean (v : Value) : ∀ key, visited key (clean rt key v) ⊆ visited key v := by
  induction v using Value.induction with
  | scalar v scalar =>
      intro key
      rw [clean_scalar scalar]
      split
      · exact List.nil_subset _
      · exact List.Subset.refl _
  | list items ih =>
      intro key leaf hleaf
      rw [clean, visited, visitedItems_eq, cleanItems_eq, List.mem_flatMap] at hleaf
      obtain ⟨w, hw, hleaf⟩ := hleaf
      obtain ⟨v, hv, rfl⟩ := List.mem_map.mp hw
      rw [visited, visitedItems_eq, List.mem_flatMap]
      exact ⟨v, hv, ih v hv key hleaf⟩
  | dict items ih =>
      intro key leaf hleaf
      rw [clean, visited, visitedPairs_eq, List.mem_flatMap] at hleaf
      obtain ⟨kv, hkv, hleaf⟩ := hleaf
      obtain ⟨member, hmember, kept, rfl⟩ := mem_cleanPairs.mp hkv
      have allowed := keepsMember_allowed kept
      rw [visitedPair, if_pos allowed] at hleaf
      rw [visited, visitedPairs_eq, List.mem_flatMap]
      refine ⟨member, hmember, ?_⟩
      rw [visitedPair, if_pos allowed]
      exact ih member hmember (some member.1) hleaf

theorem quiet_clean {key : Option Text} {v : Value} (h : Quiet rt key v) : Quiet rt key (clean rt key v) :=
  fun leaf hleaf => h leaf (visited_clean v key hleaf)

/-- A member that was kept is kept again. -/
theorem keepsMember_clean {key : Text} {v : Value} (h : keepsMember rt key v = true) :
    keepsMember rt key (clean rt (some key) v) = true := by
  by_cases scalar : v.isScalar = true
  · have calm : isSensitive rt (some key) v = false := by
      unfold keepsMember at h
      rw [scalar, Bool.true_and, Bool.and_eq_true, Bool.not_eq_true'] at h
      exact h.2
    rw [clean_scalar scalar, calm]
    exact h
  · rw [Bool.not_eq_true] at scalar
    exact keepsMember_of_container (keepsMember_allowed h) (by rw [isScalar_clean, scalar])

theorem cleanPairs_clean {items : List (Text × Value)}
    (h : ∀ kv ∈ items, clean rt (some kv.1) (clean rt (some kv.1) kv.2) = clean rt (some kv.1) kv.2) :
    cleanPairs rt (cleanPairs rt items) = cleanPairs rt items := by
  induction items with
  | nil => rfl
  | cons kv items ih =>
      simp only [List.forall_mem_cons] at h
      rw [cleanPairs, cleanPair]
      by_cases kept : keepsMember rt kv.1 kv.2 = true
      · rw [if_pos kept, List.singleton_append, cleanPairs, cleanPair, if_pos (keepsMember_clean kept), h.1, ih h.2]
        rfl
      · rw [if_neg kept, List.nil_append, ih h.2]

/-- Nothing is left to clean. -/
theorem clean_clean (v : Value) : ∀ key, clean rt key (clean rt key v) = clean rt key v := by
  induction v using Value.induction with
  | scalar v scalar =>
      intro key
      rw [clean_scalar scalar]
      by_cases sensitive : isSensitive rt key v = true
      · rw [if_pos sensitive]
        rfl
      · rw [if_neg sensitive, clean_scalar scalar, if_neg sensitive]
  | list items ih =>
      intro key
      rw [clean, cleanItems_eq, clean, cleanItems_eq, List.map_map]
      congr 1
      exact List.map_congr_left fun v hv => ih v hv key
  | dict items ih =>
      intro key
      rw [clean, clean, cleanPairs_clean fun kv hkv => ih kv hkv (some kv.1)]

theorem redactItems_clean {π : Type} {P : Paths π} {key : Option Text} {items : List Value}
    (h : ∀ v ∈ items, ∀ path, redactions rt P key path (clean rt key v) = []) (path : π) (index : Nat) :
    redactItems rt P key path index (cleanItems rt key items) = [] := by
  induction items generalizing index with
  | nil => rfl
  | cons v items ih =>
      simp only [List.forall_mem_cons] at h
      rw [cleanItems, redactItems, h.1, ih h.2]
      rfl

theorem redactPairs_clean {π : Type} {P : Paths π} {items : List (Text × Value)}
    (h : ∀ kv ∈ items, ∀ path, redactions rt P (some kv.1) path (clean rt (some kv.1) kv.2) = []) (path : π) :
    redactPairs rt P path (cleanPairs rt items) = [] := by
  induction items with
  | nil => rfl
  | cons kv items ih =>
      simp only [List.forall_mem_cons] at h
      rw [cleanPairs, cleanPair]
      by_cases kept : keepsMember rt kv.1 kv.2 = true
      · rw [if_pos kept, List.singleton_append, redactPairs, redactPair, if_pos (keepsMember_clean kept), h.1, ih h.2]
        rfl
      · rw [if_neg kept, List.nil_append, ih h.2]

/-- Nothing is left to remove. -/
theorem redactions_clean {π : Type} {P : Paths π} (v : Value) : ∀ key path,
    redactions rt P key path (clean rt key v) = [] := by
  induction v using Value.induction with
  | scalar v scalar =>
      intro key path
      rw [clean_scalar scalar]
      by_cases sensitive : isSensitive rt key v = true
      · rw [if_pos sensitive]
        rfl
      · rw [if_neg sensitive, redactions_scalar scalar, if_neg sensitive]
  | list items ih =>
      intro key path
      exact redactItems_clean (fun v hv path => ih v hv key path) path 0
  | dict items ih =>
      intro key path
      exact redactPairs_clean (fun kv hkv path => ih kv hkv (some kv.1) path) path

/-! ## The account -/

/-- Every leaf of the payload is in the context or below one removed path, and every leaf of the context is accounted
for. -/
structure Accounts (payload s : Value) (removed : List (List Step)) : Prop where
  nodup : removed.Nodup
  apart : ∀ a ∈ removed, ∀ b ∈ removed, a <+: b → a = b
  leaf : ∀ path leaf, payload.get? path = some leaf → leaf.isScalar = true →
    (s.get? path = some leaf ∧ ∀ r ∈ removed, ¬r <+: path) ∨
      (s.get? path ≠ some leaf ∧ ∃! r, r ∈ removed ∧ r <+: path)
  sourced : ∀ path leaf, s.get? path = some leaf → leaf.isScalar = true →
    payload.get? path = some leaf ∨ leaf = .none ∧ path ∈ removed

theorem accounts_clean {payload : Value} (distinct : payload.Distinct) (key : Option Text) :
    Accounts payload (clean rt key payload) (removedPaths rt key payload) where
  nodup := nodup_removedPaths distinct key
  apart a ha b hb below := removedPaths_apart distinct ha hb below
  leaf path leaf found scalar := by
    refine (leaf_cases scalar distinct found).imp_right fun h => ⟨h.1, ?_⟩
    obtain ⟨r, hr, below⟩ := h.2
    refine ⟨r, ⟨hr, below⟩, ?_⟩
    rintro r' ⟨hr', below'⟩
    -- two removed paths to one leaf are comparable
    obtain le | le := List.prefix_or_prefix_of_prefix below' below
    · exact removedPaths_apart distinct hr' hr le
    · exact (removedPaths_apart distinct hr hr' le).symm
  sourced path leaf found scalar := leaf_sourced scalar distinct found

end

/-- **Nothing is lost unaccounted.** A second pass returns the context with nothing removed; with the removed paths as
lists of keys and indices, every leaf of the payload is in the context or below exactly one of them, none of them lies
below another, and every leaf of the context is one of the payload or the null of a removed path. -/
theorem sanitizing_accounts (rt : TextRuntime) (payload s : Value) (removed : List (RemovedField Text))
    (distinct : payload.Distinct) (returned : sanitizeContext rt payload = .ok (s, removed)) :
    sanitizeContext rt s = .ok (s, []) ∧
      ∃ fields, sanitizeContextWith rt treePaths payload = .ok (s, fields) ∧
        removed = fields.map (RemovedField.map render) ∧ Accounts payload s (fields.map RemovedField.path) := by
  obtain ⟨quiet, same⟩ := sanitizeContextWith_eq_ok_iff.mp returned
  obtain ⟨rfl, rfl⟩ := Prod.mk.injEq .. ▸ same
  constructor
  · refine sanitizeContextWith_eq_ok_iff.mpr ⟨quiet_clean quiet, ?_⟩
    rw [clean_clean, redactions_clean]
  · refine ⟨_, sanitizeContextWith_eq_ok_iff.mpr ⟨quiet, rfl⟩, ?_, accounts_clean distinct none⟩
    exact redactions_map render_hom payload none []

/-- A payload with a member and an item to remove, and a null that stays. -/
def mixedPayload : Value := .dict [
  (text "account_token", .str (text "HMAC x")), (text "case_id", .list [.none, .str (text "HMAC x")])]

theorem mixedPayload_distinct : mixedPayload.Distinct := by
  refine .dict _ (by decide) ?_
  simp only [List.forall_mem_cons, List.not_mem_nil, false_implies, implies_true, and_true]
  refine ⟨.scalar _ rfl, .list _ ?_⟩
  simp only [List.forall_mem_cons, List.not_mem_nil, false_implies, implies_true, and_true]
  exact ⟨.scalar _ rfl, .scalar _ rfl⟩

def mixedContext : Value := .dict [(text "case_id", .list [.none, .none])]

def mixedRemoved : List (RemovedField Text) := [
  ⟨text "$.account_token", .sensitiveValuePattern⟩, ⟨text "$.case_id[1]", .sensitiveValuePattern⟩]

theorem sanitizing_accounts_mixed :
    sanitizeContext asciiWords mixedContext = .ok (mixedContext, []) ∧
      ∃ fields, sanitizeContextWith asciiWords treePaths mixedPayload = .ok (mixedContext, fields) ∧
        mixedRemoved = fields.map (RemovedField.map render) ∧
        Accounts mixedPayload mixedContext (fields.map RemovedField.path) :=
  sanitizing_accounts asciiWords mixedPayload mixedContext mixedRemoved mixedPayload_distinct rfl

end EventConsistency.ContextSanitizer
