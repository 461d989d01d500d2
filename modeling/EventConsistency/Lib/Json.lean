import Mathlib.Tactic.Common

/-!
# JSON values

`Json` with integers and, by their text, other numbers, and objects as association lists; equality is decidable.
`dumps` is the compact text with the keys of every object in ascending order.
-/

namespace EventConsistency.Lib

inductive Json where
  | null
  | bool (b : Bool)
  | int (n : Int)
  /-- A number with a fraction or an exponent, as it is written. -/
  | num (text : String)
  | str (s : String)
  | arr (xs : List Json)
  | obj (kvs : List (String × Json))
  deriving Repr, Inhabited

namespace Json

mutual

/-- Equality test of JSON values. -/
def beq : Json → Json → Bool
  | null, null => true
  | bool a, bool b => a == b
  | int a, int b => a == b
  | num a, num b => a == b
  | str a, str b => a == b
  | arr a, arr b => beqArr a b
  | obj a, obj b => beqObj a b
  | _, _ => false

def beqArr : List Json → List Json → Bool
  | [], [] => true
  | a :: as, b :: bs => beq a b && beqArr as bs
  | _, _ => false

def beqObj : List (String × Json) → List (String × Json) → Bool
  | [], [] => true
  | (k, a) :: as, (m, b) :: bs => k == m && beq a b && beqObj as bs
  | _, _ => false

end

mutual

theorem eq_of_beq : ∀ (a b : Json), beq a b = true → a = b
  | null, b, h => by cases b <;> simp_all [beq]
  | bool a, b, h => by cases b <;> simp_all [beq]
  | int a, b, h => by cases b <;> simp_all [beq]
  | num a, b, h => by cases b <;> simp_all [beq]
  | str a, b, h => by cases b <;> simp_all [beq]
  | arr a, b, h => by
      cases b with
      | arr b => rw [eq_of_beqArr a b (by simpa [beq] using h)]
      | _ => simp [beq] at h
  | obj a, b, h => by
      cases b with
      | obj b => rw [eq_of_beqObj a b (by simpa [beq] using h)]
      | _ => simp [beq] at h

theorem eq_of_beqArr : ∀ (a b : List Json), beqArr a b = true → a = b
  | [], [], _ => rfl
  | [], _ :: _, h => by simp [beqArr] at h
  | _ :: _, [], h => by simp [beqArr] at h
  | a :: as, b :: bs, h => by
      simp only [beqArr, Bool.and_eq_true] at h
      rw [eq_of_beq a b h.1, eq_of_beqArr as bs h.2]

theorem eq_of_beqObj : ∀ (a b : List (String × Json)), beqObj a b = true → a = b
  | [], [], _ => rfl
  | [], _ :: _, h => by simp [beqObj] at h
  | _ :: _, [], h => by simp [beqObj] at h
  | (k, a) :: as, (m, b) :: bs, h => by
      simp only [beqObj, Bool.and_eq_true, beq_iff_eq] at h
      rw [h.1.1, eq_of_beq a b h.1.2, eq_of_beqObj as bs h.2]

end

mutual

theorem beq_refl : ∀ a : Json, beq a a = true
  | null => rfl
  | bool _ => by simp [beq]
  | int _ => by simp [beq]
  | num _ => by simp [beq]
  | str _ => by simp [beq]
  | arr a => by rw [beq]; exact beqArr_refl a
  | obj a => by rw [beq]; exact beqObj_refl a

theorem beqArr_refl : ∀ a : List Json, beqArr a a = true
  | [] => rfl
  | a :: as => by simp [beqArr, beq_refl a, beqArr_refl as]

theorem beqObj_refl : ∀ a : List (String × Json), beqObj a a = true
  | [] => rfl
  | (k, a) :: as => by simp [beqObj, beq_refl a, beqObj_refl as]

end

instance : DecidableEq Json := fun a b =>
  if h : beq a b = true then isTrue (eq_of_beq a b h)
  else isFalse fun e => h (e ▸ beq_refl a)

/-- The value of a key of an object. -/
def get? (kvs : List (String × Json)) (key : String) : Option Json :=
  (kvs.find? (fun kv => kv.1 == key)).map Prod.snd

/-- Insertion of a member in ascending order of keys. -/
def insertMember {α : Type} (kv : String × α) : List (String × α) → List (String × α)
  | [] => [kv]
  | kv' :: rest => if kv.1 < kv'.1 then kv :: kv' :: rest else kv' :: insertMember kv rest

def sortMembers {α : Type} (kvs : List (String × α)) : List (String × α) := kvs.foldr insertMember []

/-- A character of a string literal: `json.dumps` with `ensure_ascii=False` escapes quotes, backslashes
and control characters only. -/
def escapeChar (c : Char) : List Char :=
  if c = '"' then ['\\', '"'] else if c = '\\' then ['\\', '\\']
  else if c = '\n' then ['\\', 'n'] else if c = '\r' then ['\\', 'r'] else if c = '\t' then ['\\', 't']
  else if c.toNat = 8 then ['\\', 'b'] else if c.toNat = 12 then ['\\', 'f']
  else if c.toNat < 32 then
    let hex := "0123456789abcdef".toList
    ['\\', 'u', '0', '0', hex.getD (c.toNat / 16) '0', hex.getD (c.toNat % 16) '0']
  else [c]

def quote (s : String) : List Char := '"' :: s.toList.flatMap escapeChar ++ ['"']

mutual

/-- The text of `json.dumps(value, sort_keys=True, separators=(",", ":"), ensure_ascii=False)`. -/
def dumps : Json → List Char
  | null => "null".toList
  | bool b => if b then "true".toList else "false".toList
  | int n => (toString n).toList
  | num text => text.toList
  | str s => quote s
  | arr xs => '[' :: [','].intercalate (dumpsArr xs) ++ [']']
  | obj kvs => '\x7b' :: [','].intercalate ((sortMembers (dumpsObj kvs)).map fun kv => quote kv.1 ++ ':' :: kv.2)
      ++ ['\x7d']

def dumpsArr : List Json → List (List Char)
  | [] => []
  | x :: xs => dumps x :: dumpsArr xs

def dumpsObj : List (String × Json) → List (String × List Char)
  | [] => []
  | (k, x) :: kvs => (k, dumps x) :: dumpsObj kvs

end

end Json

end EventConsistency.Lib
