import EventConsistency.Lib.Python

/-!
# Paths in values

A `Step` goes to a member or an item, `Value.child` takes one step and `Value.get?` a path of them. `Distinct` says of a
value what every dictionary ensures, that no two members have one key; then a member is found under its key.
-/

namespace EventConsistency.Lib.Python

inductive Step where
  | key (key : Text)
  | index (index : Nat)
  deriving DecidableEq, Repr

/-- The value one step below. -/
def Value.child : Step → Value → Option Value
  | .key key, .dict items => items.lookup key
  | .index index, .list items => items[index]?
  | _, _ => Option.none

/-- The value at a path. -/
def Value.get? : List Step → Value → Option Value
  | [], v => some v
  | step :: path, v => (v.child step).bind (Value.get? path)

/-- Every dictionary has distinct keys. -/
inductive Value.Distinct : Value → Prop where
  | scalar (v : Value) (h : v.isScalar = true) : v.Distinct
  | list (items : List Value) (h : ∀ v ∈ items, v.Distinct) : (Value.list items).Distinct
  | dict (items : List (Text × Value)) (keys : (items.map Prod.fst).Nodup) (h : ∀ kv ∈ items, kv.2.Distinct) :
      (Value.dict items).Distinct

theorem Value.get?_cons (step : Step) (path : List Step) (v : Value) :
    Value.get? (step :: path) v = (v.child step).bind (Value.get? path) := rfl

theorem Value.child_scalar {v : Value} (h : v.isScalar = true) (step : Step) : v.child step = Option.none := by
  cases v with
  | list items => cases h
  | dict items => cases h
  | _ => cases step <;> rfl

/-! ## Members of dictionaries -/

theorem lookup_cons_eq {α : Type} (kv : Text × α) (items : List (Text × α)) (key : Text) :
    (kv :: items).lookup key = if key = kv.1 then some kv.2 else items.lookup key := by
  rw [List.lookup_cons]
  by_cases same : key = kv.1
  · simp [same]
  · rw [beq_false_of_ne same, if_neg same]

theorem mem_of_lookup {α : Type} {items : List (Text × α)} {key : Text} {v : α} (h : items.lookup key = some v) :
    (key, v) ∈ items := by
  induction items with
  | nil => cases h
  | cons kv items ih =>
      rw [lookup_cons_eq] at h
      by_cases same : key = kv.1
      · rw [if_pos same] at h
        cases h
        simp [same]
      · rw [if_neg same] at h
        exact List.mem_cons_of_mem _ (ih h)

theorem lookup_of_mem {α : Type} {items : List (Text × α)} (keys : (items.map Prod.fst).Nodup) {kv : Text × α}
    (h : kv ∈ items) : items.lookup kv.1 = some kv.2 := by
  induction items with
  | nil => cases h
  | cons first items ih =>
      rw [List.map_cons, List.nodup_cons] at keys
      rw [lookup_cons_eq]
      obtain rfl | later := List.mem_cons.mp h
      · rw [if_pos rfl]
      · have other : kv.1 ≠ first.1 := by
          intro same
          exact keys.1 (same ▸ List.mem_map_of_mem later)
        rw [if_neg other]
        exact ih keys.2 later

theorem lookup_eq_some_iff {α : Type} {items : List (Text × α)} (keys : (items.map Prod.fst).Nodup) {key : Text} {v : α} :
    items.lookup key = some v ↔ (key, v) ∈ items := ⟨mem_of_lookup, lookup_of_mem keys⟩

/-- A step in a value with distinct keys leads to one. -/
theorem Value.Distinct.child {v w : Value} {step : Step} (h : v.Distinct) (hw : v.child step = some w) : w.Distinct := by
  cases h with
  | scalar v scalar => rw [Value.child_scalar scalar] at hw; cases hw
  | list items h =>
      cases step with
      | key key => cases hw
      | index index => exact h w (List.mem_of_getElem? hw)
  | dict items keys h =>
      cases step with
      | key key => exact h (key, w) (mem_of_lookup hw)
      | index index => cases hw

end EventConsistency.Lib.Python
