import EventConsistency.Lib.Python

/-!
# JSON texts

* `loads` : `json.loads` of a text, as a machine that takes one character at a time; `State` holds the containers that
  are still open and what may come next. It raises where the C scanner of CPython does: `json.JSONDecodeError` at a
  character the grammar does not allow, `ValueError` at the end of an integer of too many digits, `RecursionError` where
  one container too many is opened;
* `dumps` : `json.dumps(v, indent=2, sort_keys=True)`.
-/

namespace EventConsistency.Lib.Python

/-! ## Reading -/

/-- A container that is still open; of a `dict`, `key` is the last key that was read. -/
inductive Frame where
  | list (items : List Value)
  | dict (items : List (Text × Value)) (key : Text)

/-- What has been read of a string, its last character first; `high` is after the escape of a high surrogate. -/
structure Chars where
  read : Text
  high : Bool

/-- What has been read of a number: its digits so far and, from the point on, how many of them are decimals. -/
structure Number where
  negative : Bool
  mantissa : Nat
  digits : Nat
  decimals : Nat

/-- What may come next. A string is a key or a value; of an escape, the digits still to come and their value so far. -/
inductive Mode where
  | value
  | firstItem
  | firstKey
  | nextKey
  | colon
  | more
  | done (v : Value)
  | string (key : Bool) (chars : Chars)
  | escape (key : Bool) (chars : Chars)
  | unicode (key : Bool) (chars : Chars) (left code : Nat)
  | literal (rest : Text) (v : Value)
  | minus
  | zero (negative : Bool)
  | integer (n : Number)
  | point (n : Number)
  | fraction (n : Number)
  | exponent (n : Number)
  | exponentSign (n : Number) (negative : Bool)
  | exponentDigits (n : Number) (negative : Bool) (e : Nat)

structure State where
  stack : List Frame
  mode : Mode

def isBlank (c : Nat) : Bool := c == 0x20 || c == 0x09 || c == 0x0A || c == 0x0D

def isDigit (c : Nat) : Bool := decide (0x30 ≤ c) && decide (c ≤ 0x39)

def hexDigit (c : Nat) : Option Nat :=
  if 0x30 ≤ c ∧ c ≤ 0x39 then some (c - 0x30)
  else if 0x61 ≤ c ∧ c ≤ 0x66 then some (c - 0x57)
  else if 0x41 ≤ c ∧ c ≤ 0x46 then some (c - 0x37)
  else none

def isHigh (c : Nat) : Bool := decide (0xD800 ≤ c) && decide (c ≤ 0xDBFF)

def isLow (c : Nat) : Bool := decide (0xDC00 ≤ c) && decide (c ≤ 0xDFFF)

/-- The character of an escape of one letter. -/
def shortEscape (c : Nat) : Option Nat :=
  [(0x22, 0x22), (0x5C, 0x5C), (0x2F, 0x2F), (0x62, 0x08), (0x66, 0x0C), (0x6E, 0x0A), (0x72, 0x0D), (0x74, 0x09)].lookup c

namespace Chars

def push (s : Chars) (c : Nat) : Chars := ⟨c :: s.read, false⟩

/-- The escapes of a high and a low surrogate, one right after the other, are one character. -/
def pushEscape (s : Chars) (c : Nat) : Chars :=
  match s.read with
  | [] => ⟨[c], isHigh c⟩
  | h :: rest =>
      if s.high && isLow c then ⟨(0x10000 + (h - 0xD800) * 0x400 + (c - 0xDC00)) :: rest, false⟩
      else ⟨c :: h :: rest, isHigh c⟩

end Chars

namespace Number

def next (n : Number) (c : Nat) : Number :=
  { n with mantissa := n.mantissa * 10 + (c - 0x30), digits := n.digits + 1 }

def nextDecimal (n : Number) (c : Nat) : Number := { n.next c with decimals := n.decimals + 1 }

def toInt (n : Number) : Int := if n.negative then -(n.mantissa : Int) else n.mantissa

def toFloat (n : Number) (e : Int) : PyFloat := .ofDecimal n.negative n.mantissa (e - n.decimals)

/-- The value of a number that has no exponent. -/
def plain (rt : Runtime) (n : Number) : Except PyError Value :=
  if n.decimals = 0 then
    if rt.tooLong n.digits then .error .valueError else .ok (.int n.toInt)
  else .ok (.float (n.toFloat 0))

end Number

/-- A value is complete: it goes to the container that is open, or the text is done. -/
def put (v : Value) : List Frame → State
  | [] => ⟨[], .done v⟩
  | .list items :: stack => ⟨.list (items ++ [v]) :: stack, .more⟩
  | .dict items key :: stack => ⟨.dict (dictSet items key v) key :: stack, .more⟩

/-- A string is complete: a key is kept in its `dict`. -/
def putString (key : Bool) (s : Text) (stack : List Frame) : Except PyError State :=
  if key then
    match stack with
    | .dict items _ :: stack => .ok ⟨.dict items s :: stack, .colon⟩
    | _ => .error .jsonDecodeError
  else .ok (put (.str s) stack)

/-- A container is opened. -/
def openFrame (rt : Runtime) (frame : Frame) (mode : Mode) (stack : List Frame) : Except PyError State :=
  if stack.length < rt.loadsDepth then .ok ⟨frame :: stack, mode⟩ else .error .recursionError

/-- The first character of a value. -/
def startValue (rt : Runtime) (stack : List Frame) (c : Nat) : Except PyError State :=
  if c = 0x22 then .ok ⟨stack, .string false ⟨[], false⟩⟩
  else if c = 0x7B then openFrame rt (.dict [] []) .firstKey stack
  else if c = 0x5B then openFrame rt (.list []) .firstItem stack
  else if c = 0x6E then .ok ⟨stack, .literal (text "ull") .none⟩
  else if c = 0x74 then .ok ⟨stack, .literal (text "rue") (.bool true)⟩
  else if c = 0x66 then .ok ⟨stack, .literal (text "alse") (.bool false)⟩
  else if c = 0x4E then .ok ⟨stack, .literal (text "aN") (.float .nan)⟩
  else if c = 0x49 then .ok ⟨stack, .literal (text "nfinity") (.float (.inf false))⟩
  else if c = 0x2D then .ok ⟨stack, .minus⟩
  else if c = 0x30 then .ok ⟨stack, .zero false⟩
  else if isDigit c then .ok ⟨stack, .integer ⟨false, c - 0x30, 1, 0⟩⟩
  else .error .jsonDecodeError

/-- The character after a complete value. -/
def afterValue (st : State) (c : Nat) : Except PyError State :=
  if isBlank c then .ok st
  else match st.stack with
    | .list items :: stack =>
        if c = 0x2C then .ok ⟨.list items :: stack, .value⟩
        else if c = 0x5D then .ok (put (.list items) stack)
        else .error .jsonDecodeError
    | .dict items key :: stack =>
        if c = 0x2C then .ok ⟨.dict items key :: stack, .nextKey⟩
        else if c = 0x7D then .ok (put (.dict items) stack)
        else .error .jsonDecodeError
    | [] => .error .jsonDecodeError

/-- A number ends before `c`. -/
def endNumber (rt : Runtime) (stack : List Frame) (n : Number) (c : Nat) : Except PyError State := do
  afterValue (put (← n.plain rt) stack) c

/-- A number ends before a point or an exponent that has no digits, which nothing can follow. -/
def badNumber (rt : Runtime) (n : Number) : Except PyError State := do
  let _ ← n.plain rt
  .error .jsonDecodeError

/-- One character. -/
def step (rt : Runtime) (st : State) (c : Nat) : Except PyError State :=
  let stack := st.stack
  match st.mode with
  | .value => if isBlank c then .ok st else startValue rt stack c
  | .firstItem =>
      if isBlank c then .ok st
      else if c = 0x5D then
        match stack with
        | _ :: stack => .ok (put (.list []) stack)
        | [] => .error .jsonDecodeError
      else startValue rt stack c
  | .firstKey =>
      if isBlank c then .ok st
      else if c = 0x22 then .ok ⟨stack, .string true ⟨[], false⟩⟩
      else if c = 0x7D then
        match stack with
        | _ :: stack => .ok (put (.dict []) stack)
        | [] => .error .jsonDecodeError
      else .error .jsonDecodeError
  | .nextKey =>
      if isBlank c then .ok st
      else if c = 0x22 then .ok ⟨stack, .string true ⟨[], false⟩⟩
      else .error .jsonDecodeError
  | .colon =>
      if isBlank c then .ok st
      else if c = 0x3A then .ok ⟨stack, .value⟩
      else .error .jsonDecodeError
  | .more => afterValue st c
  | .done _ => afterValue st c
  | .string key chars =>
      if c = 0x22 then putString key chars.read.reverse stack
      else if c = 0x5C then .ok ⟨stack, .escape key chars⟩
      else if c < 0x20 then .error .jsonDecodeError
      else .ok ⟨stack, .string key (chars.push c)⟩
  | .escape key chars =>
      if c = 0x75 then .ok ⟨stack, .unicode key chars 4 0⟩
      else match shortEscape c with
        | some c => .ok ⟨stack, .string key (chars.push c)⟩
        | none => .error .jsonDecodeError
  | .unicode key chars left code => match hexDigit c with
      | some d =>
          if left = 1 then .ok ⟨stack, .string key (chars.pushEscape (code * 16 + d))⟩
          else .ok ⟨stack, .unicode key chars (left - 1) (code * 16 + d)⟩
      | none => .error .jsonDecodeError
  | .literal rest v => match rest with
      | [] => .error .jsonDecodeError
      | [last] => if c = last then .ok (put v stack) else .error .jsonDecodeError
      | first :: rest => if c = first then .ok ⟨stack, .literal rest v⟩ else .error .jsonDecodeError
  | .minus =>
      if c = 0x49 then .ok ⟨stack, .literal (text "nfinity") (.float (.inf true))⟩
      else if c = 0x30 then .ok ⟨stack, .zero true⟩
      else if isDigit c then .ok ⟨stack, .integer ⟨true, c - 0x30, 1, 0⟩⟩
      else .error .jsonDecodeError
  | .zero negative =>
      if c = 0x2E then .ok ⟨stack, .point ⟨negative, 0, 1, 0⟩⟩
      else if c = 0x65 ∨ c = 0x45 then .ok ⟨stack, .exponent ⟨negative, 0, 1, 0⟩⟩
      else endNumber rt stack ⟨negative, 0, 1, 0⟩ c
  | .integer n =>
      if isDigit c then .ok ⟨stack, .integer (n.next c)⟩
      else if c = 0x2E then .ok ⟨stack, .point n⟩
      else if c = 0x65 ∨ c = 0x45 then .ok ⟨stack, .exponent n⟩
      else endNumber rt stack n c
  | .point n => if isDigit c then .ok ⟨stack, .fraction (n.nextDecimal c)⟩ else badNumber rt n
  | .fraction n =>
      if isDigit c then .ok ⟨stack, .fraction (n.nextDecimal c)⟩
      else if c = 0x65 ∨ c = 0x45 then .ok ⟨stack, .exponent n⟩
      else endNumber rt stack n c
  | .exponent n =>
      if isDigit c then .ok ⟨stack, .exponentDigits n false (c - 0x30)⟩
      else if c = 0x2B ∨ c = 0x2D then .ok ⟨stack, .exponentSign n (c == 0x2D)⟩
      else badNumber rt n
  | .exponentSign n negative =>
      if isDigit c then .ok ⟨stack, .exponentDigits n negative (c - 0x30)⟩ else badNumber rt n
  | .exponentDigits n negative e =>
      if isDigit c then .ok ⟨stack, .exponentDigits n negative (e * 10 + (c - 0x30))⟩
      else afterValue (put (.float (n.toFloat (if negative then -(e : Int) else e))) stack) c

/-- The value of a complete text. -/
def result (st : State) : Except PyError Value :=
  match st.mode with
  | .done v => .ok v
  | _ => .error .jsonDecodeError

/-- The end of the text, which ends a number too. -/
def finish (rt : Runtime) (st : State) : Except PyError Value :=
  match st.mode with
  | .zero negative => do result (put (← Number.plain rt ⟨negative, 0, 1, 0⟩) st.stack)
  | .integer n => do result (put (← n.plain rt) st.stack)
  | .fraction n => do result (put (← n.plain rt) st.stack)
  | .exponentDigits n negative e => result (put (.float (n.toFloat (if negative then -(e : Int) else e))) st.stack)
  | .point n => do result (← badNumber rt n)
  | .exponent n => do result (← badNumber rt n)
  | .exponentSign n _ => do result (← badNumber rt n)
  | _ => result st

def run (rt : Runtime) : State → Text → Except PyError Value
  | st, [] => finish rt st
  | st, c :: s => do run rt (← step rt st c) s

/-- `json.loads(s)`. -/
def loads (rt : Runtime) (s : Text) : Except PyError Value := run rt ⟨[], .value⟩ s

/-- `json.loads(path.read_text(encoding="utf-8"))` of a file with these bytes. -/
def loadsFile (rt : Runtime) (bytes : List UInt8) : Except PyError Value :=
  match readText bytes with
  | none => .error .unicodeDecodeError
  | some s => loads rt s

/-! ## Two interpreters

Where one interpreter reads a text, another one reads the same value or meets one of its own limits. -/

/-- `y` gives what `x` does, or is stopped by a limit. -/
def UpToLimits {α : Type} (x y : Except PyError α) : Prop :=
  ∀ a, x = .ok a → y = .ok a ∨ y = .error .valueError ∨ y = .error .recursionError

namespace UpToLimits

variable {α β : Type}

theorem refl (x : Except PyError α) : UpToLimits x x := fun _ h => .inl h

theorem bind {x y : Except PyError α} {f g : α → Except PyError β} (hxy : UpToLimits x y)
    (hfg : ∀ a, UpToLimits (f a) (g a)) : UpToLimits (x >>= f) (y >>= g) := by
  intro b h
  cases x with
  | error e => cases h
  | ok a =>
      obtain hy | hy | hy := hxy a rfl
      · rw [hy]
        exact hfg a b h
      · exact .inr (.inl (by rw [hy]; rfl))
      · exact .inr (.inr (by rw [hy]; rfl))

end UpToLimits

section Limits

variable (rt rt' : Runtime)

theorem openFrame_upToLimits (frame : Frame) (mode : Mode) (stack : List Frame) :
    UpToLimits (openFrame rt frame mode stack) (openFrame rt' frame mode stack) := by
  intro st h
  unfold openFrame at h ⊢
  split at h
  · cases h
    by_cases hd : stack.length < rt'.loadsDepth
    · exact .inl (if_pos hd)
    · exact .inr (.inr (if_neg hd))
  · cases h

theorem plain_upToLimits (n : Number) : UpToLimits (n.plain rt) (n.plain rt') := by
  intro v h
  unfold Number.plain at h ⊢
  split at h
  · rename_i hd
    rw [if_pos hd]
    split at h
    · cases h
    · cases h
      by_cases ht : rt'.tooLong n.digits = true
      · exact .inr (.inl (if_pos ht))
      · exact .inl (if_neg ht)
  · rename_i hd
    exact .inl ((if_neg hd).trans h)

theorem startValue_upToLimits (stack : List Frame) (c : Nat) :
    UpToLimits (startValue rt stack c) (startValue rt' stack c) := by
  unfold startValue
  by_cases hq : c = 0x22
  · simp only [if_pos hq]
    exact .refl _
  by_cases hb : c = 0x7B
  · simp only [if_neg hq, if_pos hb]
    exact openFrame_upToLimits rt rt' _ _ _
  by_cases hs : c = 0x5B
  · simp only [if_neg hq, if_neg hb, if_pos hs]
    exact openFrame_upToLimits rt rt' _ _ _
  · simp only [if_neg hq, if_neg hb, if_neg hs]
    exact .refl _

theorem endNumber_upToLimits (stack : List Frame) (n : Number) (c : Nat) :
    UpToLimits (endNumber rt stack n c) (endNumber rt' stack n c) :=
  .bind (plain_upToLimits rt rt' n) fun _ => .refl _

theorem badNumber_upToLimits (n : Number) : UpToLimits (badNumber rt n) (badNumber rt' n) :=
  .bind (plain_upToLimits rt rt' n) fun _ => .refl _

theorem step_upToLimits (st : State) (c : Nat) : UpToLimits (step rt st c) (step rt' st c) := by
  obtain ⟨stack, mode⟩ := st
  cases mode with
  | value =>
      simp only [step]
      split
      · exact .refl _
      · exact startValue_upToLimits rt rt' stack c
  | firstItem =>
      simp only [step]
      split
      · exact .refl _
      split
      · exact .refl _
      · exact startValue_upToLimits rt rt' stack c
  | zero negative =>
      simp only [step]
      split
      · exact .refl _
      split
      · exact .refl _
      · exact endNumber_upToLimits rt rt' stack _ c
  | integer n =>
      simp only [step]
      split
      · exact .refl _
      split
      · exact .refl _
      split
      · exact .refl _
      · exact endNumber_upToLimits rt rt' stack n c
  | point n =>
      simp only [step]
      split
      · exact .refl _
      · exact badNumber_upToLimits rt rt' n
  | fraction n =>
      simp only [step]
      split
      · exact .refl _
      split
      · exact .refl _
      · exact endNumber_upToLimits rt rt' stack n c
  | exponent n =>
      simp only [step]
      split
      · exact .refl _
      split
      · exact .refl _
      · exact badNumber_upToLimits rt rt' n
  | exponentSign n negative =>
      simp only [step]
      split
      · exact .refl _
      · exact badNumber_upToLimits rt rt' n
  | _ => exact .refl _

theorem finish_upToLimits (st : State) : UpToLimits (finish rt st) (finish rt' st) := by
  obtain ⟨stack, mode⟩ := st
  cases mode with
  | zero negative => exact .bind (plain_upToLimits rt rt' _) fun _ => .refl _
  | integer n => exact .bind (plain_upToLimits rt rt' n) fun _ => .refl _
  | fraction n => exact .bind (plain_upToLimits rt rt' n) fun _ => .refl _
  | point n => exact .bind (badNumber_upToLimits rt rt' n) fun _ => .refl _
  | exponent n => exact .bind (badNumber_upToLimits rt rt' n) fun _ => .refl _
  | exponentSign n negative => exact .bind (badNumber_upToLimits rt rt' n) fun _ => .refl _
  | _ => exact .refl _

theorem run_upToLimits (s : Text) (st : State) : UpToLimits (run rt st s) (run rt' st s) := by
  induction s generalizing st with
  | nil => exact finish_upToLimits rt rt' st
  | cons c s ih => exact .bind (step_upToLimits rt rt' st c) fun st => ih st

theorem loads_upToLimits (s : Text) : UpToLimits (loads rt s) (loads rt' s) := run_upToLimits rt rt' s _

theorem loadsFile_upToLimits (bytes : List UInt8) : UpToLimits (loadsFile rt bytes) (loadsFile rt' bytes) := by
  unfold loadsFile
  split
  · exact .refl _
  · exact loads_upToLimits rt rt' _

end Limits

/-! ## Writing -/

/-- A character of a string, in ASCII. -/
def escapeChar (c : Nat) : Text :=
  if c = 0x22 ∨ c = 0x5C then [0x5C, c]
  else if c = 0x08 then text "\\b"
  else if c = 0x0C then text "\\f"
  else if c = 0x0A then text "\\n"
  else if c = 0x0D then text "\\r"
  else if c = 0x09 then text "\\t"
  else if 0x20 ≤ c ∧ c ≤ 0x7E then [c]
  else if c ≤ 0xFFFF then text "\\u" ++ hexText c 4
  else text "\\u" ++ hexText (0xD800 + (c - 0x10000) / 0x400) 4 ++ text "\\u" ++ hexText (0xDC00 + (c - 0x10000) % 0x400) 4

def encodeString (s : Text) : Text := 0x22 :: s.flatMap escapeChar ++ [0x22]

def encodeFloat (rt : Runtime) : PyFloat → Text
  | .finite negative x => rt.floatRepr negative x
  | .inf negative => text (if negative then "-Infinity" else "Infinity")
  | .nan => text "NaN"

/-- The order of texts by their code points. -/
def leText : Text → Text → Bool
  | [], _ => true
  | _ :: _, [] => false
  | a :: s, b :: t => decide (a < b) || (a == b && leText s t)

/-- `sorted(items)` of pairs with distinct keys. -/
def sortPairs {α : Type} : List (Text × α) → List (Text × α)
  | [] => []
  | kv :: items => insertPair kv (sortPairs items)
where
  insertPair (kv : Text × α) : List (Text × α) → List (Text × α)
    | [] => [kv]
    | other :: items => if leText kv.1 other.1 then kv :: other :: items else other :: insertPair kv items

/-- A line end and the indentation of a level. -/
def newline (level : Nat) : Text := 0x0A :: List.replicate (2 * level) 0x20

/-- The parts of a container, one to a line. -/
def block (opening closing : String) (level : Nat) (parts : List Text) : Text :=
  if parts.isEmpty then text opening ++ text closing
  else text opening ++ newline (level + 1) ++ joinText (text "," ++ newline (level + 1)) parts ++ newline level ++ text closing

mutual

def encode (rt : Runtime) (level : Nat) : Value → Text
  | .none => text "null"
  | .bool b => text (if b then "true" else "false")
  | .int n => intText n
  | .float x => encodeFloat rt x
  | .str s => encodeString s
  | .list items => block "[" "]" level (encodeItems rt (level + 1) items)
  | .dict items =>
      block "\x7b" "\x7d" level
        ((sortPairs (encodePairs rt (level + 1) items)).map fun kv => encodeString kv.1 ++ text ": " ++ kv.2)

def encodeItems (rt : Runtime) (level : Nat) : List Value → List Text
  | [] => []
  | v :: items => encode rt level v :: encodeItems rt level items

def encodePairs (rt : Runtime) (level : Nat) : List (Text × Value) → List (Text × Text)
  | [] => []
  | kv :: items => encodePair rt level kv :: encodePairs rt level items

def encodePair (rt : Runtime) (level : Nat) : Text × Value → Text × Text
  | (k, v) => (k, encode rt level v)

end

/-- `json.dumps(v, indent=2, sort_keys=True)`. -/
def dumps (rt : Runtime) (v : Value) : Except PyError Text :=
  if v.nesting ≤ rt.dumpsDepth then .ok (encode rt 0 v) else .error .recursionError

end EventConsistency.Lib.Python
