import Mathlib.Data.Rat.Floor

/-!
# Texts and values of Python

* `Text` : a `str`, as its code points, lone surrogates among them; `readText` : the text of a file, by `decodeUtf8` and
  the translation of line ends;
* `Value` : what a JSON text is read as, with `PyFloat` for `float`; `Value.truthy` is `bool(v)` and `Runtime.toInt` is
  `int(v)`;
* `Runtime` : what differs between interpreters: the limit on the digits of an integer, the depth of the stack, the
  decimal digits and blanks of the Unicode database, and the texts of floats.
-/

namespace EventConsistency.Lib.Python

/-- A `str`: its code points. -/
abbrev Text := List Nat

def text (s : String) : Text := s.toList.map Char.toNat

/-! ## Files -/

/-- A character of which some bytes are still to come; the next one has to be in `[low, high]`. -/
structure Pending where
  left : Nat
  code : Nat
  low : Nat
  high : Nat

/-- The first byte of a character of more than one byte. -/
def leadByte (b : Nat) : Option Pending :=
  if 0xC2 ≤ b ∧ b ≤ 0xDF then some ⟨1, b - 0xC0, 0x80, 0xBF⟩
  else if b = 0xE0 then some ⟨2, 0, 0xA0, 0xBF⟩
  else if b = 0xED then some ⟨2, 0xD, 0x80, 0x9F⟩
  else if 0xE1 ≤ b ∧ b ≤ 0xEF then some ⟨2, b - 0xE0, 0x80, 0xBF⟩
  else if b = 0xF0 then some ⟨3, 0, 0x90, 0xBF⟩
  else if 0xF1 ≤ b ∧ b ≤ 0xF3 then some ⟨3, b - 0xF0, 0x80, 0xBF⟩
  else if b = 0xF4 then some ⟨3, 4, 0x80, 0x8F⟩
  else none

def decodeFrom : Option Pending → List UInt8 → Option Text
  | none, [] => some []
  | some _, [] => none
  | none, b :: bytes =>
      if b.toNat < 0x80 then (decodeFrom none bytes).map (b.toNat :: ·)
      else match leadByte b.toNat with
        | none => none
        | some p => decodeFrom (some p) bytes
  | some p, b :: bytes =>
      if p.low ≤ b.toNat ∧ b.toNat ≤ p.high then
        let code := p.code * 64 + b.toNat % 64
        if p.left = 1 then (decodeFrom none bytes).map (code :: ·)
        else decodeFrom (some ⟨p.left - 1, code, 0x80, 0xBF⟩) bytes
      else none

/-- `bytes.decode("utf-8")`; `none` is a `UnicodeDecodeError`. -/
def decodeUtf8 (bytes : List UInt8) : Option Text := decodeFrom none bytes

/-- Text files are read with `\r\n` and `\r` as `\n`. -/
def universalNewlines : Text → Text
  | [] => []
  | 13 :: 10 :: rest => 10 :: universalNewlines rest
  | 13 :: rest => 10 :: universalNewlines rest
  | c :: rest => c :: universalNewlines rest

/-- `path.read_text(encoding="utf-8")` of a file with these bytes. -/
def readText (bytes : List UInt8) : Option Text := (decodeUtf8 bytes).map universalNewlines

/-! ## Floats -/

/-- A `float`: a binary64 number, with the sign of its zero. -/
inductive PyFloat where
  | finite (negative : Bool) (magnitude : Rat)
  | inf (negative : Bool)
  | nan
  deriving DecidableEq

/-- Division of naturals rounded half to even. -/
def roundHalfEven (n d : Nat) : Nat :=
  let q := n / d
  let r := n % d
  if 2 * r < d then q else if d < 2 * r then q + 1 else if q % 2 = 0 then q else q + 1

/-- The exponent of the leading binary digit of `n / d`. -/
def exponentOf (n d : Nat) : Int :=
  let k : Int := (Nat.log2 n : Int) - Nat.log2 d
  if 0 ≤ k then (if d * 2 ^ k.toNat ≤ n then k else k - 1)
  else if d ≤ n * 2 ^ (-k).toNat then k else k - 1

/-- The binary64 number nearest to `n / d`, ties to even; from `2 ^ 1024` on it is infinite. -/
def nearest (negative : Bool) (n d : Nat) : PyFloat :=
  if n = 0 then .finite negative 0
  else
    let k := max (exponentOf n d - 52) (-1074)
    let m := if 0 ≤ k then roundHalfEven n (d * 2 ^ k.toNat) else roundHalfEven (n * 2 ^ (-k).toNat) d
    let x : Rat := (m : Rat) * (2 : Rat) ^ k
    if x < 2 ^ 1024 then .finite negative x else .inf negative

/-- The float of a decimal numeral `mantissa * 10 ^ exponent`. -/
def PyFloat.ofDecimal (negative : Bool) (mantissa : Nat) (exponent : Int) : PyFloat :=
  -- an exponent out of all range is not computed
  if mantissa = 0 ∨ exponent + Nat.log2 mantissa < -400 then .finite negative 0
  else if 400 < exponent then .inf negative
  else if 0 ≤ exponent then nearest negative (mantissa * 10 ^ exponent.toNat) 1
  else nearest negative mantissa (10 ^ (-exponent).toNat)

/-! ## Values -/

/-- A value of `json.loads`. The keys of a `dict` are distinct and in the order of their first assignment. -/
inductive Value where
  | none
  | bool (b : Bool)
  | int (n : Int)
  | float (x : PyFloat)
  | str (s : Text)
  | list (items : List Value)
  | dict (items : List (Text × Value))
  deriving Inhabited

/-- `d[key] = value`. -/
def dictSet (items : List (Text × Value)) (key : Text) (value : Value) : List (Text × Value) :=
  if items.any (fun kv => kv.1 == key) then items.map (fun kv => if kv.1 == key then (key, value) else kv)
  else items ++ [(key, value)]

/-- `d.get(key)`. -/
def dictGet (items : List (Text × Value)) (key : String) : Option Value := items.lookup (text key)

/-- `d.get(key, default)`. -/
def getOr (items : List (Text × Value)) (key : String) (default : Value) : Value := (dictGet items key).getD default

/-- `bool(v)`. -/
def Value.truthy : Value → Bool
  | .none => false
  | .bool b => b
  | .int n => n != 0
  | .float (.finite _ x) => x != 0
  | .float _ => true
  | .str s => !s.isEmpty
  | .list items => !items.isEmpty
  | .dict items => !items.isEmpty

/-- The exceptions of files, of `json.loads` and of the conversions. -/
inductive PyError where
  | osError
  | unicodeDecodeError
  | unicodeEncodeError
  | jsonDecodeError
  | valueError
  | typeError
  | overflowError
  | attributeError
  | recursionError
  deriving DecidableEq, Repr

/-- What differs between interpreters and processes. -/
structure Runtime where
  /-- `sys.get_int_max_str_digits()`; `none` is no limit. -/
  maxStrDigits : Option Nat
  /-- How many containers may be open at once while a JSON text is read, and while one is written. -/
  loadsDepth : Nat
  dumpsDepth : Nat
  /-- How many containers may be nested in an argument of `str`. -/
  reprDepth : Nat
  /-- How many calls of a function may be nested, and the calls that a list comprehension counts for. -/
  callDepth : Nat
  comprehension : Nat
  /-- The Unicode database: the value of a decimal digit, the blanks, the printable characters, `str.lower`. -/
  decimal : Nat → Option Nat
  isSpace : Nat → Bool
  isPrintable : Nat → Bool
  lower : Text → Text
  /-- `float.__repr__` of a finite float. -/
  floatRepr : Bool → Rat → Text

/-! ## Texts of values -/

/-- The `width` last digits of `n` in base 16. -/
def hexText (n : Nat) : Nat → Text
  | 0 => []
  | width + 1 =>
      let d := n % 16
      hexText (n / 16) width ++ [if d < 10 then 0x30 + d else 0x57 + d]

/-- `int.__repr__`. -/
def intText : Int → Text
  | .ofNat n => (Nat.toDigits 10 n).map Char.toNat
  | .negSucc n => 0x2D :: (Nat.toDigits 10 (n + 1)).map Char.toNat

/-- `sep.join(parts)`. -/
def joinText (sep : Text) : List Text → Text
  | [] => []
  | [s] => s
  | s :: parts => s ++ sep ++ joinText sep parts

theorem joinText_cons_cons (sep s next : Text) (parts : List Text) :
    joinText sep (s :: next :: parts) = s ++ sep ++ joinText sep (next :: parts) := by
  rw [joinText]
  simp

theorem mem_joinText {sep : Text} {parts : List Text} {c : Nat} (h : c ∈ joinText sep parts) :
    c ∈ sep ∨ ∃ part ∈ parts, c ∈ part := by
  induction parts with
  | nil => cases h
  | cons s rest ih =>
      cases rest with
      | nil => exact .inr ⟨s, by simp, h⟩
      | cons next rest =>
          rw [joinText_cons_cons, List.mem_append, List.mem_append] at h
          rcases h with (h | h) | h
          · exact .inr ⟨s, by simp, h⟩
          · exact .inl h
          · obtain between | ⟨part, hpart, h⟩ := ih h
            · exact .inl between
            · exact .inr ⟨part, List.mem_cons_of_mem s hpart, h⟩

mutual

/-- How many containers are nested in a value. -/
def Value.nesting : Value → Nat
  | .list items => 1 + nestingItems items
  | .dict items => 1 + nestingPairs items
  | _ => 0

def nestingItems : List Value → Nat
  | [] => 0
  | v :: items => max v.nesting (nestingItems items)

def nestingPairs : List (Text × Value) → Nat
  | [] => 0
  | kv :: items => max (nestingPair kv) (nestingPairs items)

def nestingPair : Text × Value → Nat
  | (_, v) => v.nesting

end

namespace Runtime

variable (rt : Runtime)

/-- A character between quotes in `str.__repr__`. -/
def reprChar (quote c : Nat) : Text :=
  if c = quote ∨ c = 0x5C then [0x5C, c]
  else if c = 9 then text "\\t"
  else if c = 10 then text "\\n"
  else if c = 13 then text "\\r"
  else if 0x20 ≤ c ∧ c < 0x7F then [c]
  else if 0x7F < c ∧ rt.isPrintable c = true then [c]
  else if c ≤ 0xFF then text "\\x" ++ hexText c 2
  else if c ≤ 0xFFFF then text "\\u" ++ hexText c 4
  else text "\\U" ++ hexText c 8

/-- `str.__repr__`: in single quotes, unless there are single and no double ones inside. -/
def reprStr (s : Text) : Text :=
  let quote := if s.contains 0x27 && !s.contains 0x22 then 0x22 else 0x27
  quote :: s.flatMap (rt.reprChar quote) ++ [quote]

def floatText : PyFloat → Text
  | .finite negative x => rt.floatRepr negative x
  | .inf negative => text (if negative then "-inf" else "inf")
  | .nan => text "nan"

mutual

/-- `repr(v)`. -/
def repr : Value → Text
  | .none => text "None"
  | .bool b => text (if b then "True" else "False")
  | .int n => intText n
  | .float x => rt.floatText x
  | .str s => rt.reprStr s
  | .list items => text "[" ++ joinText (text ", ") (reprItems items) ++ text "]"
  | .dict items => text "\x7b" ++ joinText (text ", ") (reprPairs items) ++ text "\x7d"

def reprItems : List Value → List Text
  | [] => []
  | v :: items => repr v :: reprItems items

def reprPairs : List (Text × Value) → List Text
  | [] => []
  | kv :: items => reprPair kv :: reprPairs items

def reprPair : Text × Value → Text
  | (k, v) => rt.reprStr k ++ text ": " ++ repr v

end

/-- `str(v)`. -/
def str : Value → Except PyError Text
  | .str s => .ok s
  | v => if v.nesting ≤ rt.reprDepth then .ok (rt.repr v) else .error .recursionError

/-! ## Integers -/

/-- An integer of this many decimal digits is refused. -/
def tooLong (digits : Nat) : Bool :=
  match rt.maxStrDigits with
  | none => false
  | some limit => limit < digits

/-- The digits and the blanks of `int(s)`: those of ASCII, and the others by the Unicode database. -/
def digit (c : Nat) : Option Nat :=
  if c < 127 then (if 0x30 ≤ c ∧ c ≤ 0x39 then some (c - 0x30) else none) else rt.decimal c

def blank (c : Nat) : Bool :=
  if c < 127 then decide (9 ≤ c ∧ c ≤ 13) || c == 0x20 else rt.isSpace c

/-- The digits of an integer, with single underscores between digits; `fresh` is before the first one. -/
def digitsFrom (fresh : Bool) (value count : Nat) : Text → Option (Nat × Nat × Text)
  | [] => if fresh then none else some (value, count, [])
  | c :: rest => match rt.digit c with
    | some d => digitsFrom false (value * 10 + d) (count + 1) rest
    | none =>
        if c = 0x5F ∧ fresh = false then
          match rest with
          | [] => none
          | c' :: _ => if (rt.digit c').isSome then digitsFrom false value count rest else none
        else if fresh then none
        else some (value, count, c :: rest)

/-- `int(s)` of a text: blanks around, a sign, and digits. -/
def intOfText (s : Text) : Option Int :=
  let s := s.dropWhile rt.blank
  let (negative, s) := match s with
    | 0x2D :: rest => (true, rest)
    | 0x2B :: rest => (false, rest)
    | _ => (false, s)
  match rt.digitsFrom true 0 0 s with
  | none => none
  | some (value, count, rest) =>
      if rest.all rt.blank && !rt.tooLong count then some (if negative then -(value : Int) else value) else none

/-- `int(v)`. -/
def toInt : Value → Except PyError Int
  | .none => .error .typeError
  | .bool b => .ok (if b then 1 else 0)
  | .int n => .ok n
  | .float (.finite negative x) => .ok (if negative then -⌊x⌋ else ⌊x⌋)
  | .float (.inf _) => .error .overflowError
  | .float .nan => .error .valueError
  | .str s => match rt.intOfText s with
    | none => .error .valueError
    | some n => .ok n
  | .list _ => .error .typeError
  | .dict _ => .error .typeError

/-! ## When the conversions go through -/

/-- What `int(v)` takes: booleans, integers, finite floats, and the texts of integers. -/
def Integral : Value → Prop
  | .bool _ => True
  | .int _ => True
  | .float (.finite _ _) => True
  | .str s => (rt.intOfText s).isSome = true
  | _ => False

theorem toInt_ok_iff (v : Value) : (∃ n, rt.toInt v = .ok n) ↔ rt.Integral v := by
  cases v with
  | none => simp [toInt, Integral]
  | bool b => simp [toInt, Integral]
  | int n => simp [toInt, Integral]
  | float x => cases x <;> simp [toInt, Integral]
  | str s => cases h : rt.intOfText s <;> simp [toInt, Integral, h]
  | list items => simp [toInt, Integral]
  | dict items => simp [toInt, Integral]

theorem str_ok_iff (v : Value) : (∃ s, rt.str v = .ok s) ↔ v.nesting ≤ rt.reprDepth := by
  have text_fits : ∀ s, (Value.str s).nesting ≤ rt.reprDepth := fun s => by simp [Value.nesting]
  unfold str
  split
  · simp [text_fits]
  · by_cases h : v.nesting ≤ rt.reprDepth <;> simp [h]

end Runtime

/-! ## Lookups -/

theorem dictGet_cons (kv : Text × Value) (items : List (Text × Value)) (key : String) :
    dictGet (kv :: items) key = if kv.1 = text key then some kv.2 else dictGet items key := by
  unfold dictGet
  by_cases h : kv.1 = text key
  · rw [if_pos h, ← h, List.lookup_cons_self]
  · rw [if_neg h, List.lookup_cons]
    have hb : (text key == kv.1) = false := beq_eq_false_iff_ne.mpr (Ne.symm h)
    rw [hb]

theorem dictGet_append (items others : List (Text × Value)) (key : String) :
    dictGet (items ++ others) key = (dictGet items key).or (dictGet others key) := by
  induction items with
  | nil => rfl
  | cons kv items ih =>
      rw [List.cons_append, dictGet_cons, dictGet_cons, ih]
      by_cases h : kv.1 = text key <;> simp [h]

theorem dictGet_map {k : Text} {key : String} (hk : k ≠ text key) (items : List (Text × Value)) (v : Value) :
    dictGet (items.map fun kv => if kv.1 == k then (k, v) else kv) key = dictGet items key := by
  induction items with
  | nil => rfl
  | cons kv items ih =>
      rw [List.map_cons, dictGet_cons, dictGet_cons, ih]
      by_cases h : kv.1 = k
      · simp [h, hk]
      · simp [h]

/-- An assignment to another key. -/
theorem dictGet_dictSet {k : Text} {key : String} (hk : k ≠ text key) (items : List (Text × Value)) (v : Value) :
    dictGet (dictSet items k v) key = dictGet items key := by
  unfold dictSet
  split
  · exact dictGet_map hk items v
  · rw [dictGet_append, dictGet_cons, if_neg hk]
    simp [dictGet]

section Assignments

variable {α β : Type} [BEq α] [LawfulBEq α] [DecidableEq α] {key : α} {value : β} {entries : List (α × β)}

theorem lookup_append_entry (h : ∀ entry ∈ entries, entry.1 ≠ key) (k : α) :
    (entries ++ [(key, value)]).lookup k = if key = k then some value else entries.lookup k := by
  rw [List.lookup_append, List.lookup_cons, List.lookup_nil]
  by_cases same : key = k
  · rw [if_pos same, ← same, beq_self_eq_true, List.lookup_eq_none_iff.mpr, Option.none_or]
    intro entry hentry
    simpa using (h entry hentry).symm
  · have other : (k == key) = false := beq_eq_false_iff_ne.mpr (Ne.symm same)
    rw [if_neg same, other, Option.or_none]

theorem lookup_map_self (h : ∃ entry ∈ entries, entry.1 = key) :
    (entries.map fun entry => if entry.1 == key then (key, value) else entry).lookup key = some value := by
  induction entries with
  | nil => simp at h
  | cons entry entries ih =>
      rw [List.map_cons, List.lookup_cons]
      by_cases first : entry.1 = key
      · simp [first]
      · have other : (key == entry.1) = false := beq_eq_false_iff_ne.mpr (Ne.symm first)
        have later : ∃ entry ∈ entries, entry.1 = key := by
          simpa [first] using h
        rw [if_neg (by simpa using first), other]
        exact ih later

theorem lookup_map_other {k : α} (h : key ≠ k) :
    (entries.map fun entry => if entry.1 == key then (key, value) else entry).lookup k = entries.lookup k := by
  induction entries with
  | nil => rfl
  | cons entry entries ih =>
      rw [List.map_cons, List.lookup_cons, List.lookup_cons, ih]
      by_cases first : entry.1 = key
      · have other : (k == key) = false := beq_eq_false_iff_ne.mpr (Ne.symm h)
        simp [first, other]
      · rw [if_neg (by simpa using first)]

end Assignments

/-! ## Computations that may raise -/

section Raising

variable {α β : Type} (x : Except PyError α) (f : α → Except PyError β)

theorem bind_eq_ok_iff (b : β) : (x >>= f) = .ok b ↔ ∃ a, x = .ok a ∧ f a = .ok b := by
  cases x with
  | error e => simp [bind, Except.bind]
  | ok a => simp [bind, Except.bind]

theorem bind_eq_error_iff (e : PyError) :
    (x >>= f) = .error e ↔ x = .error e ∨ ∃ a, x = .ok a ∧ f a = .error e := by
  cases x with
  | error e' => simp [bind, Except.bind]
  | ok a => simp [bind, Except.bind]

/-- A computation that goes on after `x` goes through where `x` and the rest do. -/
theorem bind_ok_iff : (∃ b, (x >>= f) = .ok b) ↔ ∃ a, x = .ok a ∧ ∃ b, f a = .ok b := by
  simp only [bind_eq_ok_iff]
  constructor
  · rintro ⟨b, a, hx, hf⟩
    exact ⟨a, hx, b, hf⟩
  · rintro ⟨a, hx, b, hf⟩
    exact ⟨b, a, hx, hf⟩

end Raising

/-! ## Induction over values -/

/-- A value that is neither a list nor a dictionary. -/
def Value.isScalar : Value → Bool
  | .list _ => false
  | .dict _ => false
  | _ => true

theorem Value.induction {P : Value → Prop} (scalar : ∀ v, v.isScalar = true → P v)
    (list : ∀ items, (∀ v ∈ items, P v) → P (.list items))
    (dict : ∀ items, (∀ kv ∈ items, P kv.2) → P (.dict items)) (v : Value) : P v :=
  @Value.rec P (fun items => ∀ v ∈ items, P v) (fun items => ∀ kv ∈ items, P kv.2) (fun kv => P kv.2)
    (scalar _ rfl) (fun _ => scalar _ rfl) (fun _ => scalar _ rfl) (fun _ => scalar _ rfl) (fun _ => scalar _ rfl)
    list dict (by simp) (fun _ _ head tail => List.forall_mem_cons.mpr ⟨head, tail⟩) (by simp)
    (fun _ _ head tail => List.forall_mem_cons.mpr ⟨head, tail⟩) (fun _ _ h => h) v

end EventConsistency.Lib.Python
