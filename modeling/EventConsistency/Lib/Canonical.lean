import Mathlib
import EventConsistency.Lib.Json

/-!
# The canonical text of a JSON value

* `Json.Plain` : no number but integers, and distinct keys in every object; `Json.Same` : equality with the members of
  objects in any order;
* `escapeChar_inj`, `quote_inj`, `int_inj` : the pieces of a text are read back in one way, an integer up to what ends it;
* `block_inj` : so are pieces with commas between them;
* **`dumps_eq_iff`** : plain values have one text exactly where they are the same.
-/

namespace EventConsistency.Lib

namespace Json

/-! ## Values -/

/-- A value without numbers other than integers, whose objects have distinct keys. -/
inductive Plain : Json → Prop where
  | null : Plain .null
  | bool (b : Bool) : Plain (.bool b)
  | int (n : Int) : Plain (.int n)
  | str (s : String) : Plain (.str s)
  | arr (xs : List Json) (h : ∀ x ∈ xs, Plain x) : Plain (.arr xs)
  | obj (kvs : List (String × Json)) (keys : (kvs.map Prod.fst).Nodup) (h : ∀ kv ∈ kvs, Plain kv.2) : Plain (.obj kvs)

mutual

/-- Equality of values, with the members of an object in any order. -/
def Same : Json → Json → Prop
  | null, b => b = null
  | bool x, b => b = bool x
  | int n, b => b = int n
  | num s, b => b = num s
  | str s, b => b = str s
  | arr xs, b => ∃ ys, b = arr ys ∧ SameItems xs ys
  | obj as, b => ∃ bs, b = obj bs ∧ as.length = bs.length ∧ SameMembers as bs

def SameItems : List Json → List Json → Prop
  | [], ys => ys = []
  | x :: xs, ys => ∃ y rest, ys = y :: rest ∧ Same x y ∧ SameItems xs rest

/-- Every member of the first object has an equal one in the second. -/
def SameMembers : List (String × Json) → List (String × Json) → Prop
  | [], _ => True
  | (k, x) :: as, bs => (∃ y, (k, y) ∈ bs ∧ Same x y) ∧ SameMembers as bs

end

theorem sameItems_iff {xs ys : List Json} : SameItems xs ys ↔ List.Forall₂ Same xs ys := by
  induction xs generalizing ys with
  | nil => simp [SameItems]
  | cons x xs ih =>
      rw [SameItems, List.forall₂_cons_left_iff]
      constructor
      · rintro ⟨y, rest, rfl, hxy, hrest⟩
        exact ⟨y, rest, hxy, ih.mp hrest, rfl⟩
      · rintro ⟨y, rest, hxy, hrest, rfl⟩
        exact ⟨y, rest, rfl, hxy, ih.mpr hrest⟩

theorem sameMembers_iff {as bs : List (String × Json)} :
    SameMembers as bs ↔ ∀ kv ∈ as, ∃ y, (kv.1, y) ∈ bs ∧ Same kv.2 y := by
  induction as with
  | nil => simp [SameMembers]
  | cons kv as ih => rw [SameMembers, ih, List.forall_mem_cons]

theorem dumpsArr_eq (xs : List Json) : dumpsArr xs = xs.map dumps := by
  induction xs with
  | nil => rfl
  | cons x xs ih => rw [dumpsArr, ih, List.map_cons]

theorem dumpsObj_eq (kvs : List (String × Json)) : dumpsObj kvs = kvs.map fun kv => (kv.1, dumps kv.2) := by
  induction kvs with
  | nil => rfl
  | cons kv kvs ih => rw [dumpsObj, ih, List.map_cons]

/-! ## Sorted members -/

section Sorting

variable {α β : Type}

theorem insertMember_perm (kv : String × α) (kvs : List (String × α)) : (insertMember kv kvs).Perm (kv :: kvs) := by
  induction kvs with
  | nil => exact .refl _
  | cons first kvs ih =>
      rw [insertMember]
      split
      · exact .refl _
      · exact (ih.cons first).trans (.swap kv first kvs)

theorem sortMembers_perm (kvs : List (String × α)) : (sortMembers kvs).Perm kvs := by
  induction kvs with
  | nil => exact .refl _
  | cons kv kvs ih => exact (insertMember_perm kv _).trans (ih.cons kv)

/-- No later key is smaller. -/
def Ascending (kvs : List (String × α)) : Prop := kvs.Pairwise fun a b => a.1 ≤ b.1

theorem Ascending.insertMember {kv : String × α} {kvs : List (String × α)} (h : Ascending kvs) :
    Ascending (insertMember kv kvs) := by
  induction kvs with
  | nil => exact List.pairwise_singleton _ _
  | cons first kvs ih =>
      have hfirst := List.pairwise_cons.mp h
      rw [Json.insertMember]
      split
      · rename_i less
        have smaller : kv.1 ≤ first.1 := String.not_lt.mp (String.lt_asymm less)
        refine List.pairwise_cons.mpr ⟨?_, h⟩
        intro other hother
        rcases List.mem_cons.mp hother with rfl | later
        · exact smaller
        · exact String.le_trans smaller (hfirst.1 other later)
      · rename_i notLess
        refine List.pairwise_cons.mpr ⟨?_, ih hfirst.2⟩
        intro other hother
        rcases List.mem_cons.mp ((insertMember_perm kv kvs).subset hother) with rfl | later
        · exact String.not_lt.mp notLess
        · exact hfirst.1 other later

theorem ascending_sortMembers (kvs : List (String × α)) : Ascending (sortMembers kvs) := by
  induction kvs with
  | nil => exact List.Pairwise.nil
  | cons kv kvs ih => exact Ascending.insertMember ih

/-- The order of distinct keys does not matter to the sorted members. -/
theorem sortMembers_eq_of_perm {as bs : List (String × α)} (h : as.Perm bs) (keys : (as.map Prod.fst).Nodup) :
    sortMembers as = sortMembers bs := by
  have hperm : (sortMembers as).Perm (sortMembers bs) :=
    (sortMembers_perm as).trans (h.trans (sortMembers_perm bs).symm)
  refine hperm.eq_of_pairwise ?_ (ascending_sortMembers as) (ascending_sortMembers bs)
  intro a b ha hb hab hba
  have inA : a ∈ as := (sortMembers_perm as).subset ha
  have inB : b ∈ as := h.symm.subset ((sortMembers_perm bs).subset hb)
  exact List.inj_on_of_nodup_map keys inA inB (String.le_antisymm hab hba)

theorem insertMember_map (f : α → β) (kv : String × α) (kvs : List (String × α)) :
    insertMember (kv.1, f kv.2) (kvs.map fun kv => (kv.1, f kv.2)) =
      (insertMember kv kvs).map fun kv => (kv.1, f kv.2) := by
  induction kvs with
  | nil => rfl
  | cons first kvs ih =>
      rw [List.map_cons, insertMember, insertMember, ih]
      split <;> rfl

theorem sortMembers_map (f : α → β) (kvs : List (String × α)) :
    sortMembers (kvs.map fun kv => (kv.1, f kv.2)) = (sortMembers kvs).map fun kv => (kv.1, f kv.2) := by
  induction kvs with
  | nil => rfl
  | cons kv kvs ih =>
      show insertMember (kv.1, f kv.2) (sortMembers (kvs.map fun kv => (kv.1, f kv.2))) = _
      rw [ih, insertMember_map]
      rfl

end Sorting

/-! ## Strings -/

/-- The character of a short escape. -/
def shortEscape (c : Char) : Char :=
  if c = 'n' then '\n' else if c = 'r' then '\r' else if c = 't' then '\t'
  else if c = 'b' then Char.ofNat 8 else if c = 'f' then Char.ofNat 12 else c

def hexValue (c : Char) : Nat := if c.isDigit then c.toNat - 0x30 else c.toNat - 0x57

/-- The first character of an escaped text. -/
def unescape : List Char → Option (Char × List Char)
  | [] => none
  | c :: rest =>
      if c ≠ '\\' then some (c, rest)
      else match rest with
        | [] => none
        | d :: rest =>
            if d ≠ 'u' then some (shortEscape d, rest)
            else match rest with
              | _ :: _ :: high :: low :: rest => some (Char.ofNat (16 * hexValue high + hexValue low), rest)
              | _ => none

theorem hexValue_digits : ∀ n < 32,
    let hex := "0123456789abcdef".toList
    16 * hexValue (hex.getD (n / 16) '0') + hexValue (hex.getD (n % 16) '0') = n := by
  decide +kernel

theorem unescape_escapeChar (c : Char) (rest : List Char) : unescape (escapeChar c ++ rest) = some (c, rest) := by
  unfold escapeChar
  split_ifs with quote backslash newline ret tab eight twelve control
  · rw [quote]; rfl
  · rw [backslash]; rfl
  · rw [newline]; rfl
  · rw [ret]; rfl
  · rw [tab]; rfl
  · rw [← Char.ofNat_toNat c, eight]; rfl
  · rw [← Char.ofNat_toNat c, twelve]; rfl
  · have value := hexValue_digits c.toNat control
    show some (Char.ofNat _, rest) = _
    rw [value, Char.ofNat_toNat]
  · show (if c ≠ '\\' then some (c, rest) else _) = _
    rw [if_pos backslash]

theorem escapeChar_inj {c d : Char} {s t : List Char} (h : escapeChar c ++ s = escapeChar d ++ t) : c = d ∧ s = t := by
  have read := congrArg unescape h
  rw [unescape_escapeChar, unescape_escapeChar] at read
  simpa using read

/-- An escaped character does not begin with a quotation mark. -/
theorem escapeChar_append_ne (c : Char) (s t : List Char) : escapeChar c ++ s ≠ '"' :: t := by
  intro same
  have read := congrArg unescape same
  rw [unescape_escapeChar] at read
  have quoted : c = '"' := by
    cases read
    rfl
  subst quoted
  cases same

theorem escaped_inj {s t : List Char} {r u : List Char}
    (h : s.flatMap escapeChar ++ '"' :: r = t.flatMap escapeChar ++ '"' :: u) : s = t ∧ r = u := by
  induction s generalizing t with
  | nil =>
      cases t with
      | nil => exact ⟨rfl, (List.cons.inj h).2⟩
      | cons d t =>
          rw [List.flatMap_cons, List.append_assoc] at h
          exact absurd h.symm (escapeChar_append_ne d _ _)
  | cons c s ih =>
      rw [List.flatMap_cons, List.append_assoc] at h
      cases t with
      | nil => exact absurd h (escapeChar_append_ne c _ _)
      | cons d t =>
          rw [List.flatMap_cons, List.append_assoc] at h
          obtain ⟨rfl, rest⟩ := escapeChar_inj h
          obtain ⟨rfl, same⟩ := ih rest
          exact ⟨rfl, same⟩

theorem quote_inj {s t : String} {r u : List Char} (h : quote s ++ r = quote t ++ u) : s = t ∧ r = u := by
  simp only [quote, List.cons_append, List.append_assoc, List.cons.injEq, true_and] at h
  obtain ⟨same, rest⟩ := escaped_inj h
  exact ⟨String.toList_inj.mp same, rest⟩

/-! ## Integers -/

/-- What may come after a value. -/
def Ends (s : List Char) : Prop := ∀ c ∈ s.head?, c = ',' ∨ c = ']' ∨ c = '\x7d'

def numeric (c : Char) : Bool := c.isDigit || c == '-'

theorem numeric_int (n : Int) : ∀ c ∈ (toString n).toList, numeric c = true := by
  have digits : ∀ (m : Nat), ∀ c ∈ (Nat.repr m).toList, numeric c = true := by
    intro m c hc
    rw [Nat.repr, String.toList_ofList] at hc
    simp [numeric, Nat.isDigit_of_mem_toDigits (by decide) (by decide) hc]
  intro c hc
  cases n with
  | ofNat m => exact digits m c hc
  | negSucc m =>
      have signed : c ∈ ("-" ++ Nat.repr (m + 1)).toList := hc
      rw [String.toList_append, List.mem_append] at signed
      rcases signed with minus | later
      · obtain rfl : c = '-' := by simpa using minus
        rfl
      · exact digits (m + 1) c later

theorem takeWhile_numeric {l s : List Char} (hl : ∀ c ∈ l, numeric c = true) (hs : Ends s) :
    (l ++ s).takeWhile numeric = l := by
  rw [List.takeWhile_append_of_pos hl]
  cases s with
  | nil => simp
  | cons c s =>
      have stop : numeric c = false := by
        rcases hs c rfl with rfl | rfl | rfl <;> decide
      rw [List.takeWhile_cons_of_neg (by simp [stop]), List.append_nil]

theorem int_inj {m n : Int} {s t : List Char} (hs : Ends s) (ht : Ends t)
    (h : (toString m).toList ++ s = (toString n).toList ++ t) : m = n ∧ s = t := by
  have digits := congrArg (List.takeWhile numeric) h
  rw [takeWhile_numeric (numeric_int m) hs, takeWhile_numeric (numeric_int n) ht] at digits
  refine ⟨Int.repr_injective (String.toList_inj.mp digits), ?_⟩
  rw [digits] at h
  exact List.append_cancel_left h

/-! ## Pieces with commas between them -/

section Blocks

variable {α : Type} {e : α → List Char} {R : α → α → Prop} {z : Char} {xs ys : List α} {s t : List Char}

/-- The pieces can be told apart: what is read where one stands is equal, and so is what follows. -/
def ReadsAs (e : α → List Char) (R : α → α → Prop) (x y : α) : Prop :=
  ∀ s t, Ends s → Ends t → e x ++ s = e y ++ t → R x y ∧ s = t

theorem intercalate_cons (x : List Char) (xs : List (List Char)) :
    [','].intercalate (x :: xs) = x ++ xs.flatMap fun y => ',' :: y := by
  induction xs generalizing x with
  | nil => simp [List.intercalate]
  | cons y ys ih =>
      have step : [','].intercalate (x :: y :: ys) = x ++ ',' :: [','].intercalate (y :: ys) := by
        simp [List.intercalate]
      rw [step, ih, List.flatMap_cons]
      rfl

theorem ends_rest (hz : z = ']' ∨ z = '\x7d') : Ends ((xs.flatMap fun x => ',' :: e x) ++ z :: s) := by
  intro c hc
  cases xs with
  | nil =>
      obtain rfl : z = c := by simpa using hc
      exact .inr hz
  | cons x xs =>
      obtain rfl : ',' = c := by simpa using hc
      exact .inl rfl

theorem rest_inj (hz : z = ']' ∨ z = '\x7d') (h : ∀ x ∈ xs, ∀ y ∈ ys, ReadsAs e R x y)
    (same : (xs.flatMap fun x => ',' :: e x) ++ z :: s = (ys.flatMap fun x => ',' :: e x) ++ z :: t) :
    List.Forall₂ R xs ys ∧ s = t := by
  have comma : ',' ≠ z := by rcases hz with rfl | rfl <;> decide
  induction xs generalizing ys with
  | nil =>
      cases ys with
      | nil => exact ⟨.nil, (List.cons.inj same).2⟩
      | cons y ys => exact absurd (List.cons.inj same).1.symm comma
  | cons x xs ih =>
      cases ys with
      | nil => exact absurd (List.cons.inj same).1 comma
      | cons y ys =>
          simp only [List.flatMap_cons, List.cons_append, List.append_assoc, List.cons.injEq, true_and] at same
          obtain ⟨hxy, rest⟩ := h x (by simp) y (by simp) _ _ (ends_rest hz) (ends_rest hz) same
          have later : ∀ x ∈ xs, ∀ y ∈ ys, ReadsAs e R x y := fun x hx y hy =>
            h x (List.mem_cons_of_mem _ hx) y (List.mem_cons_of_mem _ hy)
          obtain ⟨hrest, tail⟩ := ih later rest
          exact ⟨.cons hxy hrest, tail⟩

theorem block_inj (hz : z = ']' ∨ z = '\x7d') (h : ∀ x ∈ xs, ∀ y ∈ ys, ReadsAs e R x y)
    (hx : ∀ x ∈ xs, ∀ r, e x ++ r ≠ z :: t) (hy : ∀ y ∈ ys, ∀ r, e y ++ r ≠ z :: s)
    (same : [','].intercalate (xs.map e) ++ z :: s = [','].intercalate (ys.map e) ++ z :: t) :
    List.Forall₂ R xs ys ∧ s = t := by
  cases xs with
  | nil =>
      cases ys with
      | nil => exact ⟨.nil, by simpa [List.intercalate] using same⟩
      | cons y ys =>
          rw [List.map_cons, intercalate_cons, List.append_assoc] at same
          exact absurd same.symm (hy y (by simp) _)
  | cons x xs =>
      cases ys with
      | nil =>
          rw [List.map_cons, intercalate_cons, List.append_assoc] at same
          exact absurd same (hx x (by simp) _)
      | cons y ys =>
          simp only [List.map_cons, intercalate_cons, List.append_assoc, List.flatMap_map] at same
          obtain ⟨hxy, rest⟩ := h x (by simp) y (by simp) _ _ (ends_rest hz) (ends_rest hz) same
          have later : ∀ x ∈ xs, ∀ y ∈ ys, ReadsAs e R x y := fun x hx y hy =>
            h x (List.mem_cons_of_mem _ hx) y (List.mem_cons_of_mem _ hy)
          obtain ⟨hrest, tail⟩ := rest_inj hz later rest
          exact ⟨.cons hxy hrest, tail⟩

end Blocks

/-! ## Texts of values -/

/-- The kind of a value, which the first character of its text shows. -/
def kind : Json → Nat
  | null => 0
  | bool b => if b then 1 else 2
  | int _ => 3
  | num _ => 3
  | str _ => 4
  | arr _ => 5
  | obj _ => 6

def kindOf (c : Char) : Nat :=
  if c = 'n' then 0 else if c = 't' then 1 else if c = 'f' then 2 else if numeric c then 3
  else if c = '"' then 4 else if c = '[' then 5 else if c = '\x7b' then 6 else 7

theorem numeric_kind {c : Char} (h : numeric c = true) : kindOf c = 3 := by
  have letters : c ≠ 'n' ∧ c ≠ 't' ∧ c ≠ 'f' := by
    refine ⟨?_, ?_, ?_⟩ <;> rintro rfl <;> cases h
  simp only [kindOf, letters, if_false, h, if_true]

theorem int_ne_nil (n : Int) : (toString n).toList ≠ [] := by
  have digits : ∀ (m : Nat), (Nat.repr m).toList ≠ [] := by
    intro m
    rw [Nat.repr, String.toList_ofList]
    exact Nat.toDigits_ne_nil
  cases n with
  | ofNat m => exact digits m
  | negSucc m =>
      show ("-" ++ Nat.repr (m + 1)).toList ≠ []
      rw [String.toList_append]
      exact List.append_ne_nil_of_right_ne_nil _ (digits (m + 1))

theorem dumps_head {v : Json} (h : Plain v) : ∃ c rest, dumps v = c :: rest ∧ kindOf c = kind v := by
  cases h with
  | null => exact ⟨_, _, rfl, by decide⟩
  | bool b => cases b <;> exact ⟨_, _, rfl, by decide⟩
  | int n =>
      obtain ⟨c, rest, hl⟩ := List.exists_cons_of_ne_nil (int_ne_nil n)
      refine ⟨c, rest, hl, numeric_kind (numeric_int n c ?_)⟩
      rw [hl]
      exact List.mem_cons_self
  | str s => exact ⟨_, _, rfl, rfl⟩
  | arr xs h => exact ⟨_, _, rfl, rfl⟩
  | obj kvs keys h => exact ⟨_, _, rfl, rfl⟩

/-- No text of a value begins like what ends a block. -/
theorem dumps_append_ne {v : Json} (h : Plain v) {z : Char} (hz : z = ']' ∨ z = '\x7d') (r s : List Char) :
    dumps v ++ r ≠ z :: s := by
  intro same
  obtain ⟨c, rest, hc, hkind⟩ := dumps_head h
  rw [hc, List.cons_append] at same
  obtain rfl := (List.cons.inj same).1
  have seven : kindOf c = 7 := by rcases hz with rfl | rfl <;> decide
  have small : kind v < 7 := by cases v <;> simp only [kind] <;> first | omega | (split <;> omega)
  omega

theorem kind_eq {a b : Json} (ha : Plain a) (hb : Plain b) {s t : List Char} (h : dumps a ++ s = dumps b ++ t) :
    kind a = kind b := by
  obtain ⟨c, rest, hc, hkind⟩ := dumps_head ha
  obtain ⟨d, rest', hd, hkind'⟩ := dumps_head hb
  rw [hc, hd, List.cons_append, List.cons_append] at h
  rw [← hkind, ← hkind', (List.cons.inj h).1]

theorem forall₂_exists {α : Type} {R : α → α → Prop} {xs ys : List α} (h : List.Forall₂ R xs ys) {x : α} (hx : x ∈ xs) :
    ∃ y ∈ ys, R x y := by
  induction h with
  | nil => cases hx
  | cons hxy _ ih =>
      rcases List.mem_cons.mp hx with rfl | later
      · exact ⟨_, List.mem_cons_self, hxy⟩
      · obtain ⟨y, hy, related⟩ := ih later
        exact ⟨y, List.mem_cons_of_mem _ hy, related⟩

/-- The text of a member. -/
def dumpsMember (kv : String × Json) : List Char := quote kv.1 ++ ':' :: dumps kv.2

theorem dumps_obj (kvs : List (String × Json)) :
    dumps (.obj kvs) = '\x7b' :: [','].intercalate ((sortMembers kvs).map dumpsMember) ++ ['\x7d'] := by
  rw [dumps, dumpsObj_eq, sortMembers_map, List.map_map]
  rfl

theorem readsAs_member {p q : String × Json} (h : ReadsAs dumps Same p.2 q.2) :
    ReadsAs dumpsMember (fun p q => p.1 = q.1 ∧ Same p.2 q.2) p q := by
  intro s t hs ht same
  simp only [dumpsMember, List.append_assoc, List.cons_append] at same
  obtain ⟨keys, rest⟩ := quote_inj same
  obtain ⟨values, tail⟩ := h s t hs ht (List.cons.inj rest).2
  exact ⟨⟨keys, values⟩, tail⟩

theorem dumpsMember_append_ne {z : Char} (hz : z = ']' ∨ z = '\x7d') (kv : String × Json) (r s : List Char) :
    dumpsMember kv ++ r ≠ z :: s := by
  intro same
  have quoted : '"' = z := (List.cons.inj same).1
  rcases hz with rfl | rfl <;> cases quoted

/-- Sorted members that are pairwise the same are those of the same objects. -/
theorem same_of_sorted {as bs : List (String × Json)}
    (h : List.Forall₂ (fun p q : String × Json => p.1 = q.1 ∧ Same p.2 q.2) (sortMembers as) (sortMembers bs)) :
    Same (.obj as) (.obj bs) := by
  refine ⟨bs, rfl, ?_, sameMembers_iff.mpr fun kv hkv => ?_⟩
  · rw [← (sortMembers_perm as).length_eq, ← (sortMembers_perm bs).length_eq]
    exact h.length_eq
  · obtain ⟨other, hother, keys, values⟩ := forall₂_exists h ((sortMembers_perm as).symm.subset hkv)
    exact ⟨other.2, keys ▸ (sortMembers_perm bs).subset hother, values⟩

/-- A text is read back as the value it was written for, whatever ends it. -/
theorem readsAs_dumps {a : Json} (ha : Plain a) : ∀ b, Plain b → ReadsAs dumps Same a b := by
  induction ha with
  | null =>
      intro b hb s t hs ht same
      have alike := kind_eq .null hb same
      cases hb with
      | null => exact ⟨rfl, List.append_cancel_left same⟩
      | bool y => cases y <;> simp [kind] at alike
      | _ => simp [kind] at alike
  | bool x =>
      intro b hb s t hs ht same
      have alike := kind_eq (.bool x) hb same
      cases hb with
      | bool y =>
          obtain rfl : x = y := by cases x <;> cases y <;> simp [kind] at alike ⊢
          exact ⟨rfl, List.append_cancel_left same⟩
      | _ => cases x <;> simp [kind] at alike
  | int n =>
      intro b hb s t hs ht same
      have alike := kind_eq (.int n) hb same
      cases hb with
      | int m =>
          obtain ⟨rfl, rest⟩ := int_inj hs ht same
          exact ⟨rfl, rest⟩
      | bool y => cases y <;> simp [kind] at alike
      | _ => simp [kind] at alike
  | str x =>
      intro b hb s t hs ht same
      have alike := kind_eq (.str x) hb same
      cases hb with
      | str y =>
          obtain ⟨rfl, rest⟩ := quote_inj same
          exact ⟨rfl, rest⟩
      | bool y => cases y <;> simp [kind] at alike
      | _ => simp [kind] at alike
  | arr xs h ih =>
      intro b hb s t hs ht same
      have alike := kind_eq (.arr xs h) hb same
      cases hb with
      | arr ys h' =>
          simp only [dumps, dumpsArr_eq, List.cons_append, List.append_assoc, List.cons.injEq, true_and,
            List.nil_append] at same
          obtain ⟨items, rest⟩ := block_inj (.inl rfl) (fun x hx y hy => ih x hx y (h' y hy))
            (fun x hx r => dumps_append_ne (h x hx) (.inl rfl) r _)
            (fun y hy r => dumps_append_ne (h' y hy) (.inl rfl) r _) same
          exact ⟨⟨ys, rfl, sameItems_iff.mpr items⟩, rest⟩
      | bool y => cases y <;> simp [kind] at alike
      | _ => simp [kind] at alike
  | obj as keys h ih =>
      intro b hb s t hs ht same
      have alike := kind_eq (.obj as keys h) hb same
      cases hb with
      | obj bs keys' h' =>
          simp only [dumps_obj, List.cons_append, List.append_assoc, List.cons.injEq, true_and, List.nil_append] at same
          obtain ⟨members, rest⟩ := block_inj (.inr rfl)
            (fun p hp q hq => readsAs_member (ih p ((sortMembers_perm as).subset hp) q.2
              (h' q ((sortMembers_perm bs).subset hq))))
            (fun p _ r => dumpsMember_append_ne (.inr rfl) p r _)
            (fun q _ r => dumpsMember_append_ne (.inr rfl) q r _) same
          exact ⟨same_of_sorted members, rest⟩
      | bool y => cases y <;> simp [kind] at alike
      | _ => simp [kind] at alike

/-! ## The other way -/

theorem dumpsObj_perm {as bs : List (String × Json)} (keys : (as.map Prod.fst).Nodup) (length : as.length = bs.length)
    (h : ∀ kv ∈ as, ∃ y, (kv.1, y) ∈ bs ∧ dumps kv.2 = dumps y) : (dumpsObj as).Perm (dumpsObj bs) := by
  have nodup : (dumpsObj as).Nodup := by
    refine List.Nodup.of_map Prod.fst ?_
    rw [dumpsObj_eq, List.map_map]
    exact keys
  have subset : dumpsObj as ⊆ dumpsObj bs := by
    intro piece hpiece
    rw [dumpsObj_eq, List.mem_map] at hpiece
    obtain ⟨kv, hkv, rfl⟩ := hpiece
    obtain ⟨y, hy, same⟩ := h kv hkv
    rw [dumpsObj_eq, List.mem_map]
    exact ⟨(kv.1, y), hy, by rw [same]⟩
  refine (nodup.subperm subset).perm_of_length_le ?_
  rw [dumpsObj_eq, dumpsObj_eq, List.length_map, List.length_map, length]

theorem map_dumps_eq {xs ys : List Json} (items : List.Forall₂ Same xs ys)
    (h : ∀ x ∈ xs, ∀ b, Plain b → Same x b → dumps x = dumps b) (plain : ∀ y ∈ ys, Plain y) :
    xs.map dumps = ys.map dumps := by
  induction items with
  | nil => rfl
  | cons hxy _ ih =>
      rw [List.forall_mem_cons] at h plain
      rw [List.map_cons, List.map_cons, h.1 _ plain.1 hxy, ih h.2 plain.2]

/-- The same values have one text. -/
theorem dumps_eq_of_same {a : Json} (ha : Plain a) : ∀ b, Plain b → Same a b → dumps a = dumps b := by
  induction ha with
  | null =>
      rintro b - rfl
      rfl
  | bool x =>
      rintro b - rfl
      rfl
  | int n =>
      rintro b - rfl
      rfl
  | str x =>
      rintro b - rfl
      rfl
  | arr xs h ih =>
      rintro b hb ⟨ys, rfl, items⟩
      cases hb with
      | arr ys h' =>
          rw [dumps, dumps, dumpsArr_eq, dumpsArr_eq, map_dumps_eq (sameItems_iff.mp items) ih h']
  | obj as keys h ih =>
      rintro b hb ⟨bs, rfl, length, members⟩
      cases hb with
      | obj bs keys' h' =>
          have matched : ∀ kv ∈ as, ∃ y, (kv.1, y) ∈ bs ∧ dumps kv.2 = dumps y := by
            intro kv hkv
            obtain ⟨y, hy, same⟩ := sameMembers_iff.mp members kv hkv
            exact ⟨y, hy, ih kv hkv y (h' _ hy) same⟩
          have nodup : ((dumpsObj as).map Prod.fst).Nodup := by
            rw [dumpsObj_eq, List.map_map]
            exact keys
          rw [dumps, dumps, sortMembers_eq_of_perm (dumpsObj_perm keys length matched) nodup]

/-- **One text.** Plain values have the same text exactly where they are the same. -/
theorem dumps_eq_iff {a b : Json} (ha : Plain a) (hb : Plain b) : dumps a = dumps b ↔ Same a b := by
  constructor
  · intro same
    have ends : Ends [] := by simp [Ends]
    exact (readsAs_dumps ha b hb [] [] ends ends (by rw [same])).1
  · exact dumps_eq_of_same ha b hb

end Json

end EventConsistency.Lib
