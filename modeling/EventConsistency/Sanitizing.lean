import EventConsistency.FailClosed
import EventConsistency.Security.ContextSanitizer

/-!
# What the sanitizer of AI context keeps

* `Quiet` : no text that is looked at makes `json.loads` raise; the sanitizer then returns `clean` with the fields of
  `redactions`;
* **`sanitizer_agrees_iff`** : for which payloads the validator accepts what the sanitizer lets through. The validator
  forgets the key above a list.
-/

namespace EventConsistency.ContextSanitizer

open Lib.Python

section

variable (rt : TextRuntime)

/-! ## The result -/

/-- The value is a sensitive text under this key. -/
def isSensitive (key : Option Text) : Value → Bool
  | .str s => decide (sensitiveLeaf rt key s = .ok true)
  | _ => false

/-- The member is kept: its key is on the list, and its value is a container or not sensitive. -/
def keepsMember (key : Text) (v : Value) : Bool :=
  allowedKeys.contains key && !(v.isScalar && isSensitive rt (some key) v)

mutual

/-- What is left of a value under a key. -/
def clean (key : Option Text) : Value → Value
  | .dict items => .dict (cleanPairs items)
  | .list items => .list (cleanItems key items)
  | v => if isSensitive rt key v then .none else v

def cleanItems (key : Option Text) : List Value → List Value
  | [] => []
  | v :: items => clean key v :: cleanItems key items

def cleanPairs : List (Text × Value) → List (Text × Value)
  | [] => []
  | kv :: items => cleanPair kv ++ cleanPairs items

def cleanPair : Text × Value → List (Text × Value)
  | (key, v) => if keepsMember rt key v then [(key, clean (some key) v)] else []

end

/-- Why a member that is not kept is removed. -/
def reasonFor (key : Text) : Reason :=
  match removalReasonForKey rt key with
  | some reason => reason
  | none => if allowedKeys.contains key then .sensitiveValuePattern else .notInAllowlist

variable {π : Type} (P : Paths π)

mutual

/-- What is removed from a value under a key. -/
def redactions (key : Option Text) (path : π) : Value → List (RemovedField π)
  | .dict items => redactPairs path items
  | .list items => redactItems key path 0 items
  | v => if isSensitive rt key v then [⟨path, .sensitiveValuePattern⟩] else []

def redactItems (key : Option Text) (path : π) (index : Nat) : List Value → List (RemovedField π)
  | [] => []
  | v :: items => redactions key (P.item path index) v ++ redactItems key path (index + 1) items

def redactPairs (path : π) : List (Text × Value) → List (RemovedField π)
  | [] => []
  | kv :: items => redactPair path kv ++ redactPairs path items

def redactPair (path : π) : Text × Value → List (RemovedField π)
  | (key, v) =>
      if keepsMember rt key v then redactions (some key) (P.child path key) v
      else [⟨P.child path key, reasonFor rt key⟩]

end

mutual

/-- The texts that are looked at, each with the key above it. -/
def visited (key : Option Text) : Value → List (Option Text × Text)
  | .str s => [(key, s)]
  | .dict items => visitedPairs items
  | .list items => visitedItems key items
  | _ => []

def visitedItems (key : Option Text) : List Value → List (Option Text × Text)
  | [] => []
  | v :: items => visited key v ++ visitedItems key items

def visitedPairs : List (Text × Value) → List (Option Text × Text)
  | [] => []
  | kv :: items => visitedPair kv ++ visitedPairs items

def visitedPair : Text × Value → List (Option Text × Text)
  | (key, v) => if allowedKeys.contains key then visited (some key) v else []

end

end

section

variable {rt : TextRuntime} {π : Type} {P : Paths π}

/-- No text that is looked at makes the test of a leaf raise. -/
def Quiet (rt : TextRuntime) (key : Option Text) (v : Value) : Prop :=
  ∀ leaf ∈ visited key v, ∃ b, sensitiveLeaf rt leaf.1 leaf.2 = .ok b

/-! ## The members and items of containers -/

theorem cleanItems_eq (key : Option Text) (items : List Value) :
    cleanItems rt key items = items.map (clean rt key) := by
  induction items with
  | nil => rfl
  | cons v items ih => rw [cleanItems, ih, List.map_cons]

theorem cleanPairs_eq (items : List (Text × Value)) : cleanPairs rt items = items.flatMap (cleanPair rt) := by
  induction items with
  | nil => rfl
  | cons kv items ih => rw [cleanPairs, ih, List.flatMap_cons]

theorem visitedItems_eq (key : Option Text) (items : List Value) :
    visitedItems key items = items.flatMap (visited key) := by
  induction items with
  | nil => rfl
  | cons v items ih => rw [visitedItems, ih, List.flatMap_cons]

theorem visitedPairs_eq (items : List (Text × Value)) : visitedPairs items = items.flatMap visitedPair := by
  induction items with
  | nil => rfl
  | cons kv items ih => rw [visitedPairs, ih, List.flatMap_cons]

theorem removalReasonForKey_allowed {key : Text} (h : allowedKeys.contains key = true) :
    removalReasonForKey rt key = none := by
  unfold removalReasonForKey
  rw [if_pos h]

/-- The test of a scalar, which is the test of its text. -/
theorem containsSensitiveValue_scalar {key : Option Text} {v : Value} (h : v.isScalar = true)
    (quiet : Quiet rt key v) : containsSensitiveValue rt key v = .ok (isSensitive rt key v) := by
  cases v with
  | str s =>
      obtain ⟨b, tested⟩ := quiet (key, s) (by simp [visited])
      rw [containsSensitiveValue, tested, isSensitive, tested]
      cases b <;> rfl
  | list items => cases h
  | dict items => cases h
  | _ => rfl

/-- A loud text raises. -/
theorem containsSensitiveValue_loud {key : Option Text} {v : Value} (h : v.isScalar = true)
    (loud : ¬Quiet rt key v) : ∀ b, containsSensitiveValue rt key v ≠ .ok b := by
  cases v with
  | str s =>
      intro b tested
      exact loud fun leaf hleaf => by
        have same : leaf = (key, s) := by simpa [visited] using hleaf
        rw [same]
        exact ⟨b, tested⟩
  | list items => cases h
  | dict items => cases h
  | _ => exact absurd (fun leaf hleaf => by simp [visited] at hleaf) loud

theorem removalReason_allowed {key : Text} {v : Value} (h : allowedKeys.contains key = true)
    (quiet : Quiet rt (some key) v) :
    removalReason rt key v = .ok (if keepsMember rt key v then none else some .sensitiveValuePattern) := by
  unfold removalReason keepsMember
  rw [removalReasonForKey_allowed h]
  by_cases scalar : v.isScalar = true
  · simp only [h, scalar, containsSensitiveValue_scalar scalar quiet]
    cases isSensitive rt (some key) v <;> rfl
  · simp only [h, scalar]
    rfl

theorem removalReason_other {key : Text} {v : Value} (h : allowedKeys.contains key = false) :
    removalReason rt key v = .ok (some (reasonFor rt key)) := by
  unfold removalReason reasonFor
  cases removalReasonForKey rt key with
  | none => simp only [h]; rfl
  | some reason => rfl

theorem quiet_list {key : Option Text} {items : List Value} :
    Quiet rt key (.list items) ↔ ∀ v ∈ items, Quiet rt key v := by
  unfold Quiet
  rw [visited, visitedItems_eq]
  simp only [List.mem_flatMap]
  constructor
  · intro quiet v hv leaf hleaf
    exact quiet leaf ⟨v, hv, hleaf⟩
  · rintro quiet leaf ⟨v, hv, hleaf⟩
    exact quiet v hv leaf hleaf

theorem quiet_dict {key : Option Text} {items : List (Text × Value)} :
    Quiet rt key (.dict items) ↔ ∀ kv ∈ items, allowedKeys.contains kv.1 = true → Quiet rt (some kv.1) kv.2 := by
  unfold Quiet
  rw [visited, visitedPairs_eq]
  simp only [List.mem_flatMap]
  constructor
  · intro quiet kv hkv allowed leaf hleaf
    exact quiet leaf ⟨kv, hkv, by rw [visitedPair, if_pos allowed]; exact hleaf⟩
  · rintro quiet leaf ⟨kv, hkv, hleaf⟩
    rw [visitedPair] at hleaf
    by_cases allowed : allowedKeys.contains kv.1 = true
    · rw [if_pos allowed] at hleaf
      exact quiet kv hkv allowed leaf hleaf
    · rw [if_neg allowed] at hleaf
      cases hleaf

/-! ## What the sanitizer returns -/

theorem sanitizeItems_eq {key : Option Text} {items : List Value}
    (h : ∀ v ∈ items, ∀ path, sanitizeValue rt P key path v = .ok (clean rt key v, redactions rt P key path v))
    (path : π) (index : Nat) :
    sanitizeItems rt P key path index items = .ok (cleanItems rt key items, redactItems rt P key path index items) := by
  induction items generalizing index with
  | nil => rfl
  | cons v items ih =>
      simp only [List.forall_mem_cons] at h
      rw [sanitizeItems, h.1, ih h.2]
      rfl

theorem sanitizePair_other {path : π} {key : Text} {v : Value} (h : allowedKeys.contains key = false) :
    sanitizePair rt P path (key, v) = .ok (cleanPair rt (key, v), redactPair rt P path (key, v)) := by
  have dropped : keepsMember rt key v = false := by simp only [keepsMember, h, Bool.false_and]
  rw [sanitizePair, removalReason_other h, cleanPair, redactPair, dropped]
  rfl

theorem sanitizePair_allowed {path : π} {key : Text} {v : Value} (h : allowedKeys.contains key = true)
    (quiet : Quiet rt (some key) v)
    (hv : ∀ path, sanitizeValue rt P (some key) path v = .ok (clean rt (some key) v, redactions rt P (some key) path v)) :
    sanitizePair rt P path (key, v) = .ok (cleanPair rt (key, v), redactPair rt P path (key, v)) := by
  have reason : reasonFor rt key = .sensitiveValuePattern := by
    unfold reasonFor
    rw [removalReasonForKey_allowed h]
    simp only [h, if_true]
  rw [sanitizePair, removalReason_allowed h quiet, cleanPair, redactPair, hv, reason]
  cases keepsMember rt key v <;> rfl

theorem sanitizePairs_eq {path : π} {items : List (Text × Value)}
    (h : ∀ kv ∈ items, sanitizePair rt P path kv = .ok (cleanPair rt kv, redactPair rt P path kv)) :
    sanitizePairs rt P path items = .ok (cleanPairs rt items, redactPairs rt P path items) := by
  induction items with
  | nil => rfl
  | cons kv items ih =>
      simp only [List.forall_mem_cons] at h
      rw [sanitizePairs, h.1, ih h.2]
      rfl

theorem clean_scalar {key : Option Text} {v : Value} (h : v.isScalar = true) :
    clean rt key v = if isSensitive rt key v then .none else v := by
  cases v with
  | list items => cases h
  | dict items => cases h
  | _ => rfl

theorem redactions_scalar {key : Option Text} {path : π} {v : Value} (h : v.isScalar = true) :
    redactions rt P key path v = if isSensitive rt key v then [⟨path, .sensitiveValuePattern⟩] else [] := by
  cases v with
  | list items => cases h
  | dict items => cases h
  | _ => rfl

theorem sanitizeValue_scalar {key : Option Text} {path : π} {v : Value} (h : v.isScalar = true) :
    sanitizeValue rt P key path v = (containsSensitiveValue rt key v).map fun sensitive =>
      if sensitive then (.none, [⟨path, .sensitiveValuePattern⟩]) else (v, []) := by
  cases v with
  | list items => cases h
  | dict items => cases h
  | str s =>
      simp only [sanitizeValue]
      cases containsSensitiveValue rt key (.str s) with
      | error e => rfl
      | ok b => cases b <;> rfl
  | _ => rfl

/-- A quiet value is cleaned. -/
theorem sanitizeValue_eq (v : Value) : ∀ key path, Quiet rt key v →
    sanitizeValue rt P key path v = .ok (clean rt key v, redactions rt P key path v) := by
  induction v using Value.induction with
  | scalar v scalar =>
      intro key path quiet
      rw [sanitizeValue_scalar scalar, containsSensitiveValue_scalar scalar quiet, clean_scalar scalar,
        redactions_scalar scalar]
      cases isSensitive rt key v <;> rfl
  | list items ih =>
      intro key path quiet
      rw [sanitizeValue, sanitizeItems_eq (fun v hv path => ih v hv key path (quiet_list.mp quiet v hv))]
      rfl
  | dict items ih =>
      intro key path quiet
      rw [sanitizeValue, sanitizePairs_eq]
      · rfl
      · intro kv hkv
        by_cases allowed : allowedKeys.contains kv.1 = true
        · have quiet' := quiet_dict.mp quiet kv hkv allowed
          exact sanitizePair_allowed allowed quiet' fun path => ih kv hkv (some kv.1) path quiet'
        · exact sanitizePair_other (by simpa only [Bool.not_eq_true] using allowed)

theorem sanitizeItems_ok {key : Option Text} {path : π} {index : Nat} {items : List Value}
    {r : List Value × List (RemovedField π)} (h : sanitizeItems rt P key path index items = .ok r) :
    ∀ v ∈ items, ∃ place out, sanitizeValue rt P key place v = .ok out := by
  induction items generalizing index r with
  | nil => simp
  | cons v items ih =>
      simp only [sanitizeItems, bind_eq_ok_iff] at h
      obtain ⟨out, head, others, tail, -⟩ := h
      exact List.forall_mem_cons.mpr ⟨⟨_, out, head⟩, ih tail⟩

theorem sanitizePairs_ok {path : π} {items : List (Text × Value)} {r : List (Text × Value) × List (RemovedField π)}
    (h : sanitizePairs rt P path items = .ok r) :
    ∀ kv ∈ items, ∃ out, sanitizePair rt P path kv = .ok out := by
  induction items generalizing r with
  | nil => simp
  | cons kv items ih =>
      simp only [sanitizePairs, bind_eq_ok_iff] at h
      obtain ⟨out, head, others, tail, -⟩ := h
      exact List.forall_mem_cons.mpr ⟨⟨out, head⟩, ih tail⟩

theorem quiet_of_scalar {key : Option Text} {v : Value} {b : Bool} (scalar : v.isScalar = true)
    (h : containsSensitiveValue rt key v = .ok b) : Quiet rt key v := by
  by_contra loud
  exact containsSensitiveValue_loud scalar loud b h

/-- A member that goes through has a scalar that was tested, or a container that went through. -/
theorem sanitizePair_ok {path : π} {key : Text} {v : Value} {out : List (Text × Value) × List (RemovedField π)}
    (allowed : allowedKeys.contains key = true) (h : sanitizePair rt P path (key, v) = .ok out) :
    Quiet rt (some key) v ∨ ∃ place r, sanitizeValue rt P (some key) place v = .ok r := by
  rw [sanitizePair] at h
  obtain ⟨reason, found, after⟩ := (bind_eq_ok_iff _ _ _).mp h
  unfold removalReason at found
  rw [removalReasonForKey_allowed allowed] at found
  by_cases scalar : v.isScalar = true
  · left
    simp only [allowed, scalar, Bool.not_true, Bool.false_eq_true, if_false] at found
    obtain ⟨b, tested, -⟩ := (bind_eq_ok_iff _ _ _).mp found
    exact quiet_of_scalar scalar tested
  · right
    simp only [allowed, scalar, Bool.not_true, Bool.not_false, Bool.false_eq_true, if_false, if_true] at found
    cases found
    obtain ⟨r, inner, -⟩ := (bind_eq_ok_iff _ _ _).mp after
    exact ⟨_, r, inner⟩

/-- A value that goes through is quiet. -/
theorem sanitizeValue_quiet (v : Value) : ∀ key path r, sanitizeValue rt P key path v = .ok r → Quiet rt key v := by
  induction v using Value.induction with
  | scalar v scalar =>
      intro key path r h
      rw [sanitizeValue_scalar scalar] at h
      cases tested : containsSensitiveValue rt key v with
      | error e => rw [tested] at h; cases h
      | ok b => exact quiet_of_scalar scalar tested
  | list items ih =>
      intro key path r h
      simp only [sanitizeValue, bind_eq_ok_iff] at h
      obtain ⟨out, inner, -⟩ := h
      refine quiet_list.mpr fun v hv => ?_
      obtain ⟨place, out', hout⟩ := sanitizeItems_ok inner v hv
      exact ih v hv key place out' hout
  | dict items ih =>
      intro key path r h
      simp only [sanitizeValue, bind_eq_ok_iff] at h
      obtain ⟨out, inner, -⟩ := h
      refine quiet_dict.mpr fun kv hkv allowed => ?_
      obtain ⟨out', hout⟩ := sanitizePairs_ok inner kv hkv
      obtain quiet | ⟨place, r', hr⟩ := sanitizePair_ok allowed hout
      · exact quiet
      · exact ih kv hkv (some kv.1) place r' hr

/-- The sanitizer returns for quiet payloads only, and then the cleaned payload with what is removed from it. -/
theorem sanitizeContextWith_eq_ok_iff {payload : Value} {r : Value × List (RemovedField π)} :
    sanitizeContextWith rt P payload = .ok r ↔
      Quiet rt none payload ∧ r = (clean rt none payload, redactions rt P none P.root payload) := by
  constructor
  · intro h
    have quiet := sanitizeValue_quiet payload none P.root r h
    refine ⟨quiet, ?_⟩
    have made := sanitizeValue_eq (P := P) payload none P.root quiet
    rw [sanitizeContextWith, made] at h
    exact (Except.ok.inj h).symm
  · rintro ⟨quiet, rfl⟩
    exact sanitizeValue_eq payload none P.root quiet

/-! ## What the validator says of it -/

theorem isScalar_clean (key : Option Text) (v : Value) : (clean rt key v).isScalar = v.isScalar := by
  by_cases scalar : v.isScalar = true
  · rw [clean_scalar scalar, scalar]
    split
    · rfl
    · exact scalar
  · cases v <;> first | rfl | exact absurd rfl scalar

theorem anySensitiveItem_none {key : Option Text} {items : List Value}
    (h : ∀ v ∈ items, containsSensitiveValue rt key v = .ok false) : anySensitiveItem rt key items = .ok false := by
  induction items with
  | nil => rfl
  | cons v items ih =>
      simp only [List.forall_mem_cons] at h
      rw [anySensitiveItem, h.1]
      exact ih h.2

theorem anySensitivePair_none {items : List (Text × Value)}
    (h : ∀ kv ∈ items, sensitivePair rt kv = .ok false) : anySensitivePair rt items = .ok false := by
  induction items with
  | nil => rfl
  | cons kv items ih =>
      simp only [List.forall_mem_cons] at h
      rw [anySensitivePair, h.1]
      exact ih h.2

/-- The members that are left of a dictionary. -/
theorem mem_cleanPairs {kv : Text × Value} {items : List (Text × Value)} :
    kv ∈ cleanPairs rt items ↔
      ∃ member ∈ items, keepsMember rt member.1 member.2 = true ∧ kv = (member.1, clean rt (some member.1) member.2) := by
  rw [cleanPairs_eq, List.mem_flatMap]
  refine exists_congr fun member => and_congr_right fun _ => ?_
  rw [cleanPair]
  by_cases kept : keepsMember rt member.1 member.2 = true
  · simp only [kept, if_true, List.mem_singleton, true_and]
  · simp only [kept, Bool.false_eq_true, if_false, List.not_mem_nil, false_and]

theorem keepsMember_allowed {key : Text} {v : Value} (h : keepsMember rt key v = true) :
    allowedKeys.contains key = true := by
  unfold keepsMember at h
  rw [Bool.and_eq_true] at h
  exact h.1

/-- What is left under a key shows nothing sensitive under that key. -/
theorem containsSensitiveValue_clean (v : Value) : ∀ key, Quiet rt key v →
    containsSensitiveValue rt key (clean rt key v) = .ok false := by
  induction v using Value.induction with
  | scalar v scalar =>
      intro key quiet
      rw [clean_scalar scalar]
      by_cases sensitive : isSensitive rt key v = true
      · rw [if_pos sensitive]
        rfl
      · rw [if_neg sensitive, containsSensitiveValue_scalar scalar quiet]
        simp only [sensitive]
  | list items ih =>
      intro key quiet
      rw [clean, containsSensitiveValue, cleanItems_eq]
      refine anySensitiveItem_none fun v hv => ?_
      obtain ⟨w, hw, rfl⟩ := List.mem_map.mp hv
      exact ih w hw key (quiet_list.mp quiet w hw)
  | dict items ih =>
      intro key quiet
      rw [clean, containsSensitiveValue]
      refine anySensitivePair_none fun kv hkv => ?_
      obtain ⟨member, hmember, kept, rfl⟩ := mem_cleanPairs.mp hkv
      have allowed := keepsMember_allowed kept
      rw [sensitivePair, removalReasonForKey_allowed allowed]
      exact ih member hmember (some member.1) (quiet_dict.mp quiet member hmember allowed)

mutual

/-- The texts that the validator tests without a key, each with the key that the sanitizer tests it under. -/
def exposed (key : Option Text) : Value → List (Option Text × Text)
  | .str s => [(key, s)]
  | .dict items => exposedPairs items
  | .list items => exposedItems key items
  | _ => []

def exposedItems (key : Option Text) : List Value → List (Option Text × Text)
  | [] => []
  | v :: items => exposed key v ++ exposedItems key items

def exposedPairs : List (Text × Value) → List (Option Text × Text)
  | [] => []
  | kv :: items => exposedPair kv ++ exposedPairs items

def exposedPair : Text × Value → List (Option Text × Text)
  | (key, v) => if allowedKeys.contains key && !v.isScalar then exposed (some key) v else []

end

/-- The text looks like a long secret and is spared for the hash or token key above it alone. -/
def spared (rt : TextRuntime) (leaf : Option Text × Text) : Bool :=
  leaf.1.any hashOrTokenKeys.contains && longSecret (rt.strip leaf.2) &&
    decide (sensitiveLeaf rt leaf.1 leaf.2 = .ok false)

theorem exposedItems_eq (key : Option Text) (items : List Value) :
    exposedItems key items = items.flatMap (exposed key) := by
  induction items with
  | nil => rfl
  | cons v items ih => rw [exposedItems, ih, List.flatMap_cons]

theorem exposedPairs_eq (items : List (Text × Value)) : exposedPairs items = items.flatMap exposedPair := by
  induction items with
  | nil => rfl
  | cons kv items ih => rw [exposedPairs, ih, List.flatMap_cons]

/-- A text that its key lets through is sensitive without the key only for its length. -/
theorem sensitiveLeaf_none {key : Option Text} {s : Text} (h : sensitiveLeaf rt key s = .ok false) :
    sensitiveLeaf rt none s = .ok (key.any hashOrTokenKeys.contains && longSecret (rt.strip s)) := by
  unfold sensitiveLeaf at h ⊢
  by_cases pattern : sensitiveValue rt (rt.strip s) = true
  · simp only [pattern, if_true] at h
    cases h
  · simp only [pattern, Bool.false_eq_true, if_false] at h ⊢
    obtain ⟨body, looked, rest⟩ := (bind_eq_ok_iff _ _ _).mp h
    rw [looked]
    cases body with
    | true => cases rest
    | false =>
        have left : (!(key.any hashOrTokenKeys.contains) && longSecret (rt.strip s)) = false := Except.ok.inj rest
        show Except.ok (!false && longSecret (rt.strip s)) = _
        revert left
        cases key.any hashOrTokenKeys.contains <;> cases longSecret (rt.strip s) <;> simp

theorem append_nil_iff {α : Type} (x y : Except PyError (List α)) :
    (do return (← x) ++ (← y)) = Except.ok ([] : List α) ↔ x = .ok [] ∧ y = .ok [] := by
  cases x with
  | error e => simp [bind, Except.bind]
  | ok as =>
      cases y with
      | error e => simp [bind, Except.bind]
      | ok bs => simp [bind, Except.bind, pure, Except.pure]

theorem validateItems_nil_iff {Q : Value → Prop} {key : Option Text} {items : List Value}
    (h : ∀ v ∈ items, ∀ path, validatePayload rt path (clean rt key v) = .ok [] ↔ Q v) (path : Text) (index : Nat) :
    validateItems rt path index (cleanItems rt key items) = .ok [] ↔ ∀ v ∈ items, Q v := by
  induction items generalizing index with
  | nil => simp [cleanItems, validateItems]
  | cons v items ih =>
      simp only [List.forall_mem_cons] at h ⊢
      rw [cleanItems, validateItems, append_nil_iff, h.1, ih h.2]

/-- The members that were removed say nothing of the others. -/
theorem validatePairs_nil_iff {Q : Text × Value → Prop} {path : Text} {items : List (Text × Value)}
    (h : ∀ kv ∈ items, keepsMember rt kv.1 kv.2 = true →
      (validatePair rt path (kv.1, clean rt (some kv.1) kv.2) = .ok [] ↔ Q kv))
    (dropped : ∀ kv ∈ items, keepsMember rt kv.1 kv.2 = false → Q kv) :
    validatePairs rt path (cleanPairs rt items) = .ok [] ↔ ∀ kv ∈ items, Q kv := by
  induction items with
  | nil => simp [cleanPairs, validatePairs]
  | cons kv items ih =>
      simp only [List.forall_mem_cons] at h dropped ⊢
      rw [cleanPairs, cleanPair]
      by_cases kept : keepsMember rt kv.1 kv.2 = true
      · rw [if_pos kept, List.singleton_append, validatePairs, append_nil_iff, h.1 kept, ih h.2 dropped.2]
      · rw [if_neg kept, List.nil_append, ih h.2 dropped.2]
        exact (and_iff_right (dropped.1 (by simpa only [Bool.not_eq_true] using kept))).symm

/-- Of a member that was kept the validator can only object to what lies in its container. -/
theorem validatePair_clean {path key : Text} {v : Value} (allowed : allowedKeys.contains key = true)
    (quiet : Quiet rt (some key) v) :
    validatePair rt path (key, clean rt (some key) v) = .ok [] ↔
      (v.isScalar = false → validatePayload rt (textPaths.child path key) (clean rt (some key) v) = .ok []) := by
  rw [validatePair, removalReasonForKey_allowed allowed, containsSensitiveValue_clean v (some key) quiet, isScalar_clean,
    allowed]
  by_cases scalar : v.isScalar = true
  · simp only [scalar, Bool.true_eq_false, false_implies, iff_true]
    rfl
  · simp only [scalar, forall_const]
    show (validatePayload rt (textPaths.child path key) (clean rt (some key) v) >>= fun nested =>
      Except.ok ([] ++ [] ++ [] ++ nested)) = .ok [] ↔ _
    rw [bind_eq_ok_iff]
    simp

theorem keepsMember_of_container {key : Text} {v : Value} (allowed : allowedKeys.contains key = true)
    (container : v.isScalar = false) : keepsMember rt key v = true := by
  simp only [keepsMember, allowed, container, Bool.false_and, Bool.not_false, Bool.and_self]

theorem validatePayload_scalar {path : Text} {v : Value} (h : v.isScalar = true) :
    validatePayload rt path v = .ok [] ↔ containsSensitiveValue rt none v = .ok false := by
  have tested : validatePayload rt path v = (do
      return if ← containsSensitiveValue rt none v then [Finding.sensitiveValue.message path] else []) := by
    cases v with
    | list items => cases h
    | dict items => cases h
    | _ => simp only [validatePayload]
  rw [tested, bind_eq_ok_iff]
  constructor
  · rintro ⟨b, found, empty⟩
    cases b with
    | false => exact found
    | true => cases empty
  · intro found
    exact ⟨false, found, rfl⟩

/-- A scalar that is left is a text that the validator tests again, or nothing to it. -/
theorem validate_clean_scalar {key : Option Text} {v : Value} (scalar : v.isScalar = true) (quiet : Quiet rt key v) :
    containsSensitiveValue rt none (clean rt key v) = .ok false ↔ ∀ leaf ∈ exposed key v, spared rt leaf = false := by
  cases v with
  | list items => cases scalar
  | dict items => cases scalar
  | str s =>
      obtain ⟨b, tested⟩ := quiet (key, s) (by simp [visited])
      rw [exposed, List.forall_mem_singleton, clean_scalar scalar, isSensitive, spared, tested]
      cases b with
      | true => simp [containsSensitiveValue]
      | false =>
          simp only [Except.ok.injEq, Bool.false_eq_true, decide_false, if_false, containsSensitiveValue,
            sensitiveLeaf_none tested, decide_true, Bool.and_true]
  | _ => simp [exposed, clean, isSensitive, containsSensitiveValue]

/-- The validator accepts what is left of a quiet value where its key has spared no text that it forgets. -/
theorem validatePayload_clean (v : Value) : ∀ key path, Quiet rt key v →
    (validatePayload rt path (clean rt key v) = .ok [] ↔ ∀ leaf ∈ exposed key v, spared rt leaf = false) := by
  induction v using Value.induction with
  | scalar v scalar =>
      intro key path quiet
      rw [validatePayload_scalar (by rw [isScalar_clean, scalar])]
      exact validate_clean_scalar scalar quiet
  | list items ih =>
      intro key path quiet
      rw [clean, validatePayload, exposed, exposedItems_eq, List.forall_mem_flatMap]
      exact validateItems_nil_iff (fun v hv path => ih v hv key path (quiet_list.mp quiet v hv)) path 0
  | dict items ih =>
      intro key path quiet
      rw [clean, validatePayload, exposed, exposedPairs_eq, List.forall_mem_flatMap]
      refine validatePairs_nil_iff (fun kv hkv kept => ?_) (fun kv hkv gone => ?_)
      · have allowed := keepsMember_allowed kept
        have inside := quiet_dict.mp quiet kv hkv allowed
        rw [validatePair_clean allowed inside, ih kv hkv (some kv.1) _ inside, exposedPair, allowed]
        cases kv.2.isScalar <;> simp
      · have closed : (allowedKeys.contains kv.1 && !kv.2.isScalar) = false := by
          by_contra opened
          simp only [Bool.not_eq_false, Bool.and_eq_true, Bool.not_eq_true'] at opened
          rw [keepsMember_of_container opened.1 opened.2] at gone
          cases gone
        rw [exposedPair, closed]
        simp

/-- **The sanitizer and the validator.** The validator accepts what the sanitizer makes of a payload exactly where no
text that it looks at makes `json.loads` raise, and no long text in a list is spared for the hash or token key above. -/
theorem sanitizer_agrees_iff (rt : TextRuntime) (payload : Value) :
    (∃ s removed, sanitizeContext rt payload = .ok (s, removed) ∧ validateSanitizedContext rt s = .ok []) ↔
      Quiet rt none payload ∧ ∀ leaf ∈ exposed none payload, spared rt leaf = false := by
  unfold sanitizeContext validateSanitizedContext
  simp only [sanitizeContextWith_eq_ok_iff, Prod.mk.injEq]
  constructor
  · rintro ⟨s, removed, ⟨quiet, rfl, -⟩, accepted⟩
    exact ⟨quiet, (validatePayload_clean payload none _ quiet).mp accepted⟩
  · rintro ⟨quiet, unspared⟩
    exact ⟨_, _, ⟨quiet, rfl, rfl⟩, (validatePayload_clean payload none _ quiet).mpr unspared⟩

/-- CPython with the word characters of ASCII. -/
def asciiWords : TextRuntime where
  toRuntime := cpython
  isWord c := decide (0x30 ≤ c ∧ c ≤ 0x39) || decide (0x41 ≤ c ∧ c ≤ 0x5A) || decide (0x61 ≤ c ∧ c ≤ 0x7A) || c == 0x5F
  space_ascii := cpython_space_ascii
  word_ascii _ _ := rfl

/-- A list of one long token under `account_token` is let through, and the validator objects. -/
theorem token_list_rejected :
    let payload := Value.dict [(text "account_token", .list [.str (List.replicate 40 0x61)])]
    ¬∃ s removed, sanitizeContext asciiWords payload = .ok (s, removed) ∧
      validateSanitizedContext asciiWords s = .ok [] := by
  rintro payload ⟨s, removed, returned, accepted⟩
  obtain ⟨quiet, same⟩ := sanitizeContextWith_eq_ok_iff.mp returned
  obtain ⟨rfl, -⟩ := Prod.mk.injEq .. ▸ same
  have unspared := (validatePayload_clean payload none _ quiet).mp accepted
    (some (text "account_token"), List.replicate 40 0x61) (by decide +kernel)
  have passes : spared asciiWords (some (text "account_token"), List.replicate 40 0x61) = true := by decide +kernel
  rw [passes] at unspared
  cases unspared

end

end EventConsistency.ContextSanitizer
