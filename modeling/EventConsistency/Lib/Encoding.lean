import Mathlib.Data.List.DropRight
import EventConsistency.Lib.Python

/-!
# Texts as bytes, lines and hexadecimal digits

* `encodeUtf8` : `s.encode("utf-8")`; a lone surrogate has no bytes (`encodeUtf8_inj` : the bytes give the text);
* `hexdigest` : the digits of a digest (`hexdigest_inj`);
* `Runtime.strip`, `Runtime.isHexInt` : `str.strip` and whether `int(s, 16)` goes through; it does for the numerals of a
  grammar (`Runtime.HexNumeral`, `Runtime.isHexInt_iff`);
* `joinText_inj` : lines without newlines are determined by the text they are joined to.
-/

namespace EventConsistency.Lib.Python

/-! ## Bytes -/

/-- A code point that is no surrogate. -/
def isScalar (c : Nat) : Bool := decide (c < 0xD800) || (decide (0xDFFF < c) && decide (c < 0x110000))

/-- `s.encode("utf-8")`. -/
def encodeUtf8 (s : Text) : Except PyError (List UInt8) :=
  if s.all isScalar then .ok ((s.map Char.ofNat).flatMap String.utf8EncodeChar) else .error .unicodeEncodeError

theorem flatMap_utf8EncodeChar_inj {s t : List Char}
    (h : s.flatMap String.utf8EncodeChar = t.flatMap String.utf8EncodeChar) : s = t := by
  have bytes : s.utf8Encode = t.utf8Encode := by
    unfold List.utf8Encode
    rw [h]
  have decoded := congrArg ByteArray.utf8Decode? bytes
  rw [List.utf8Decode?_utf8Encode, List.utf8Decode?_utf8Encode] at decoded
  simpa using decoded

theorem toNat_ofNat_of_isScalar {c : Nat} (h : isScalar c = true) : (Char.ofNat c).toNat = c := by
  have valid : c.isValidChar := by
    simpa [isScalar, Nat.isValidChar] using h
  unfold Char.ofNat
  rw [dif_pos valid]
  rfl

theorem map_toNat_ofNat {s : Text} (h : s.all isScalar = true) : (s.map Char.ofNat).map Char.toNat = s := by
  rw [List.map_map]
  conv_rhs => rw [← List.map_id s]
  refine List.map_congr_left fun c hc => ?_
  exact toNat_ofNat_of_isScalar (List.all_eq_true.mp h c hc)

theorem encodeUtf8_inj {s t : Text} {bytes : List UInt8} (hs : encodeUtf8 s = .ok bytes) (ht : encodeUtf8 t = .ok bytes) :
    s = t := by
  unfold encodeUtf8 at hs ht
  by_cases scalars : s.all isScalar = true
  · by_cases scalars' : t.all isScalar = true
    · rw [if_pos scalars, Except.ok.injEq] at hs
      rw [if_pos scalars', Except.ok.injEq] at ht
      have chars := flatMap_utf8EncodeChar_inj (hs.trans ht.symm)
      rw [← map_toNat_ofNat scalars, chars, map_toNat_ofNat scalars']
    · rw [if_neg scalars'] at ht
      cases ht
  · rw [if_neg scalars] at hs
    cases hs

/-! ## Digests -/

/-- `digest.hex()`, as `hexdigest` gives it. -/
def hexdigest (digest : List UInt8) : Text := digest.flatMap fun b => hexText b.toNat 2

/-- A lower-case hexadecimal digit. -/
def isLowerHex (c : Nat) : Bool := (decide (0x30 ≤ c) && decide (c ≤ 0x39)) || (decide (0x61 ≤ c) && decide (c ≤ 0x66))

theorem hexText_two (n : Nat) :
    hexText n 2 = [if n / 16 % 16 < 10 then 0x30 + n / 16 % 16 else 0x57 + n / 16 % 16,
      if n % 16 < 10 then 0x30 + n % 16 else 0x57 + n % 16] := rfl

theorem hexText_two_inj {n m : Nat} (hn : n < 256) (hm : m < 256) (h : hexText n 2 = hexText m 2) : n = m := by
  rw [hexText_two, hexText_two, List.cons.injEq, List.cons.injEq] at h
  obtain ⟨high, low, -⟩ := h
  split_ifs at high low <;> omega

theorem hexdigest_inj {d d' : List UInt8} (h : hexdigest d = hexdigest d') : d = d' := by
  induction d generalizing d' with
  | nil =>
      cases d' with
      | nil => rfl
      | cons b rest => simp [hexdigest, hexText_two] at h
  | cons b rest ih =>
      cases d' with
      | nil => simp [hexdigest, hexText_two] at h
      | cons b' rest' =>
          simp only [hexdigest, List.flatMap_cons] at h
          obtain ⟨first, others⟩ := List.append_inj h (by simp [hexText_two])
          have same := hexText_two_inj b.toNat_lt b'.toNat_lt first
          rw [UInt8.toNat_inj.mp same, ih others]

theorem isLowerHex_hexdigest (digest : List UInt8) : (hexdigest digest).all isLowerHex = true := by
  simp only [hexdigest, List.all_flatMap, List.all_eq_true]
  intro b _
  rw [hexText_two]
  simp only [List.mem_cons, List.not_mem_nil, or_false, isLowerHex]
  rintro c (rfl | rfl) <;> split_ifs <;> simp <;> omega

/-! ## Lines -/

theorem append_newline_inj {s s' t t' : Text} (hs : 10 ∉ s) (hs' : 10 ∉ s') (h : s ++ 10 :: t = s' ++ 10 :: t') :
    s = s' ∧ t = t' := by
  induction s generalizing s' with
  | nil =>
      cases s' with
      | nil => exact ⟨rfl, List.tail_eq_of_cons_eq h⟩
      | cons c rest => exact absurd (List.head_eq_of_cons_eq h) fun same => hs' (same ▸ List.mem_cons_self)
  | cons c rest ih =>
      cases s' with
      | nil => exact absurd (List.head_eq_of_cons_eq h) fun same => hs (same ▸ List.mem_cons_self)
      | cons c' rest' =>
          simp only [List.cons_append, List.cons.injEq] at h
          simp only [List.mem_cons, not_or] at hs hs'
          obtain ⟨same, others⟩ := ih hs.2 hs'.2 h.2
          exact ⟨by rw [h.1, same], others⟩

theorem joinText_cons (line next : Text) (rest : List Text) :
    joinText [10] (line :: next :: rest) = line ++ 10 :: joinText [10] (next :: rest) := by
  rw [joinText_cons_cons, List.append_assoc, List.singleton_append]

/-- Lines that are joined to one text are the same. -/
theorem joinText_inj {lines lines' : List Text} (hne : lines ≠ []) (hne' : lines' ≠ []) (hl : ∀ line ∈ lines, 10 ∉ line)
    (hl' : ∀ line ∈ lines', 10 ∉ line) (h : joinText [10] lines = joinText [10] lines') : lines = lines' := by
  induction lines generalizing lines' with
  | nil => exact absurd rfl hne
  | cons line rest ih =>
      cases lines' with
      | nil => exact absurd rfl hne'
      | cons line' rest' =>
          simp only [List.forall_mem_cons] at hl hl'
          cases rest with
          | nil =>
              cases rest' with
              | nil => simpa [joinText] using h
              | cons next' more' =>
                  -- a newline on one side only
                  rw [joinText_cons] at h
                  have newline : 10 ∈ joinText [10] [line] := by simp [h]
                  exact absurd newline hl.1
          | cons next more =>
              cases rest' with
              | nil =>
                  rw [joinText_cons] at h
                  have newline : 10 ∈ joinText [10] [line'] := by simp [← h]
                  exact absurd newline hl'.1
              | cons next' more' =>
                  rw [joinText_cons, joinText_cons] at h
                  obtain ⟨same, others⟩ := append_newline_inj hl.1 hl'.1 h
                  rw [same, ih (by simp) (by simp) hl.2 hl'.2 others]

/-! ## Blanks and numerals -/

/-- An ASCII hexadecimal digit. -/
def isHex (c : Nat) : Bool :=
  (decide (0x30 ≤ c) && decide (c ≤ 0x39)) || (decide (0x41 ≤ c) && decide (c ≤ 0x46)) ||
    (decide (0x61 ≤ c) && decide (c ≤ 0x66))

namespace Runtime

variable (rt : Runtime)

/-- `s.strip()`. -/
def strip (s : Text) : Text := (s.dropWhile rt.isSpace).rdropWhile rt.isSpace

theorem strip_ne_nil_iff (s : Text) : rt.strip s ≠ [] ↔ ∃ c ∈ s, rt.isSpace c = false := by
  have all_iff : rt.strip s = [] ↔ ∀ c ∈ s, rt.isSpace c = true := by
    unfold strip
    rw [List.rdropWhile_eq_nil_iff]
    constructor
    · intro blank c hc
      rw [← List.takeWhile_append_dropWhile (p := rt.isSpace) (l := s), List.mem_append] at hc
      rcases hc with hc | hc
      · exact List.mem_takeWhile_imp hc
      · exact blank c hc
    · intro blank c hc
      exact blank c ((List.dropWhile_sublist _).mem hc)
  rw [Ne, all_iff]
  simp

theorem strip_of_forall {s : Text} (h : ∀ c ∈ s, rt.isSpace c = false) : rt.strip s = s := by
  have first : s.dropWhile rt.isSpace = s := by
    cases s with
    | nil => rfl
    | cons c rest => simp [h c (by simp)]
  unfold strip
  rw [first, List.rdropWhile_eq_self_iff]
  intro hne
  simp [h _ (List.getLast_mem hne)]

/-- After a text without blanks only the end is trimmed. -/
theorem strip_append {a : Text} (h : ∀ c ∈ a, rt.isSpace c = false) (ha : a ≠ []) (b : Text) :
    rt.strip (a ++ b) = a ++ b.rdropWhile rt.isSpace := by
  have first : ∀ {l r : Text}, (∀ c ∈ l, rt.isSpace c = false) → l ≠ [] → (l ++ r).dropWhile rt.isSpace = l ++ r := by
    intro l r hl ne
    cases l with
    | nil => exact absurd rfl ne
    | cons c l => simp [hl c (by simp)]
  have last : a.reverse.dropWhile rt.isSpace = a.reverse := by
    have kept := first (l := a.reverse) (r := []) (fun c hc => h c (List.mem_reverse.mp hc)) (by simpa using ha)
    rwa [List.append_nil] at kept
  rw [strip, first h ha, List.rdropWhile, List.rdropWhile, List.reverse_append, List.dropWhile_append]
  split
  · rename_i blank
    rw [List.isEmpty_iff] at blank
    rw [last, List.reverse_reverse, blank, List.reverse_nil, List.append_nil]
  · rw [List.reverse_append, List.reverse_reverse]

/-- A text that neither begins nor ends with a blank is not trimmed. -/
theorem strip_eq_self_iff (s : Text) :
    rt.strip s = s ↔ (∀ c ∈ s.head?, rt.isSpace c = false) ∧ ∀ c ∈ s.getLast?, rt.isSpace c = false := by
  unfold strip
  constructor
  · intro same
    have shorter : (s.dropWhile rt.isSpace).length ≤ s.length := (List.dropWhile_suffix _).length_le
    have trimmed : s.dropWhile rt.isSpace = s := by
      have lengths := congrArg List.length same
      have last : ((s.dropWhile rt.isSpace).rdropWhile rt.isSpace).length ≤ (s.dropWhile rt.isSpace).length :=
        (List.rdropWhile_prefix _ _).length_le
      exact (List.dropWhile_suffix _).eq_of_length (by omega)
    rw [trimmed] at same
    constructor
    · intro c hc
      cases s with
      | nil => cases hc
      | cons d rest =>
          cases hc
          by_contra blank
          rw [Bool.not_eq_false] at blank
          rw [List.dropWhile_cons_of_pos blank] at trimmed
          have longer := (List.dropWhile_suffix (l := rest) rt.isSpace).length_le
          rw [trimmed, List.length_cons] at longer
          omega
    · intro c hc
      have ne : s ≠ [] := by
        rintro rfl
        cases hc
      rw [List.getLast?_eq_some_getLast ne] at hc
      cases hc
      simpa using List.rdropWhile_eq_self_iff.mp same ne
  · rintro ⟨first, last⟩
    have kept : s.dropWhile rt.isSpace = s := by
      cases s with
      | nil => rfl
      | cons d rest => simp [first d rfl]
    rw [kept, List.rdropWhile_eq_self_iff]
    intro ne
    simpa using last _ (List.getLast?_eq_some_getLast ne)

/-- Two texts that are not trimmed, with a character between them that is no blank. -/
theorem strip_join {a b : Text} {c : Nat} (ha : rt.strip a = a) (hb : rt.strip b = b) (hc : rt.isSpace c = false) :
    rt.strip (a ++ [c] ++ b) = a ++ [c] ++ b := by
  rw [strip_eq_self_iff] at ha hb ⊢
  constructor
  · cases a with
    | nil => simpa using hc
    | cons d rest => simpa using ha.1
  · cases hlast : b.getLast? with
    | none =>
        rw [List.getLast?_eq_none_iff] at hlast
        subst hlast
        simpa using hc
    | some d =>
        rw [List.getLast?_append, hlast]
        intro e he
        exact hb.2 e (hlast ▸ he)

/-- A digit of `int(s, 16)`. -/
def hexDigit (c : Nat) : Bool :=
  (rt.digit c).isSome || (decide (0x41 ≤ c) && decide (c ≤ 0x46)) || (decide (0x61 ≤ c) && decide (c ≤ 0x66))

/-- What follows the digits of a hexadecimal numeral; an underscore stands between two digits. -/
def hexRest (underscore : Bool) : Text → Option Text
  | [] => if underscore then none else some []
  | c :: rest =>
      if rt.hexDigit c then hexRest false rest
      else if c = 0x5F then (if underscore then none else hexRest true rest)
      else if underscore then none
      else some (c :: rest)

/-- After the sign of a numeral. -/
def dropSign : Text → Text
  | 0x2D :: rest => rest
  | 0x2B :: rest => rest
  | s => s

/-- After the `0x` of a hexadecimal numeral, with one underscore. -/
def dropBase : Text → Text
  | 0x30 :: x :: rest =>
      if x = 0x78 ∨ x = 0x58 then (match rest with | 0x5F :: more => more | _ => rest) else 0x30 :: x :: rest
  | s => s

/-- `int(s, 16)` goes through: blanks around, a sign, `0x`, and digits. -/
def isHexInt (s : Text) : Bool :=
  let s := dropBase (dropSign (s.dropWhile rt.blank))
  match s with
  | 0x5F :: _ => false
  | _ => match rt.hexRest false s with
    | none => false
    | some rest => decide (rest.length < s.length) && rest.all rt.blank

theorem hexDigit_of_isHex {c : Nat} (h : isHex c = true) : rt.hexDigit c = true := by
  simp only [isHex, Bool.or_eq_true, Bool.and_eq_true, decide_eq_true_eq] at h
  unfold hexDigit digit
  rcases h with (h | h) | h
  · have small : c < 127 := by omega
    simp [small, h]
  · simp [h]
  · simp [h]

theorem hexRest_of_forall {s : Text} (h : ∀ c ∈ s, isHex c = true) : rt.hexRest false s = some [] := by
  induction s with
  | nil => rfl
  | cons c rest ih =>
      simp only [List.forall_mem_cons] at h
      rw [hexRest, if_pos (rt.hexDigit_of_isHex h.1)]
      exact ih h.2

theorem dropBase_of_forall {s : Text} (h : ∀ c ∈ s, isHex c = true) : dropBase s = s := by
  unfold dropBase
  split
  · rename_i x rest
    have digit : isHex x = true := h x (by simp)
    have other : ¬(x = 0x78 ∨ x = 0x58) := by
      rintro (rfl | rfl)
      · exact absurd digit (by decide)
      · exact absurd digit (by decide)
    rw [if_neg other]
  · rfl

/-- Hexadecimal digits of ASCII are a numeral. -/
theorem isHexInt_of_forall {s : Text} (hne : s ≠ []) (h : ∀ c ∈ s, isHex c = true) : rt.isHexInt s = true := by
  obtain ⟨c, rest, rfl⟩ := List.exists_cons_of_ne_nil hne
  have first : isHex c = true := h c (by simp)
  have range : (0x30 ≤ c ∧ c ≤ 0x39) ∨ (0x41 ≤ c ∧ c ≤ 0x46) ∨ (0x61 ≤ c ∧ c ≤ 0x66) := by
    simpa [isHex, or_assoc] using first
  have unblank : (c :: rest).dropWhile rt.blank = c :: rest := by
    have visible : rt.blank c = false := by
      have small : c < 127 := by omega
      simp only [blank, small, if_true, Bool.or_eq_false_iff, decide_eq_false_iff_not, beq_eq_false_iff_ne]
      omega
    simp [visible]
  have unsigned : dropSign (c :: rest) = c :: rest := by
    unfold dropSign
    split
    · rename_i same; simp only [List.cons.injEq] at same; omega
    · rename_i same; simp only [List.cons.injEq] at same; omega
    · rfl
  unfold isHexInt
  simp only [unblank]
  rw [unsigned, dropBase_of_forall h]
  split
  · rename_i same; simp only [List.cons.injEq] at same; omega
  · simp [rt.hexRest_of_forall h]

/-! ### The grammar of hexadecimal numerals -/

/-- Digits, at most one underscore between two of them. -/
inductive HexDigits : Text → Prop where
  | one {c : Nat} (digit : rt.hexDigit c = true) : HexDigits [c]
  | cons {c : Nat} {s : Text} (digit : rt.hexDigit c = true) (more : HexDigits s) : HexDigits (c :: s)
  | underscore {c : Nat} {s : Text} (digit : rt.hexDigit c = true) (more : HexDigits s) : HexDigits (c :: 0x5F :: s)

/-- What `int(s, 16)` documents: blanks, a sign, `0x` with an underscore, the digits, blanks. -/
structure HexNumeral (s : Text) : Prop where
  parts : ∃ before sign base digits after, s = before ++ (sign ++ (base ++ (digits ++ after))) ∧
    sign ∈ [[], [0x2D], [0x2B]] ∧ base ∈ [[], [0x30, 0x78], [0x30, 0x58], [0x30, 0x78, 0x5F], [0x30, 0x58, 0x5F]] ∧
    rt.HexDigits digits ∧ (∀ c ∈ before, rt.blank c = true) ∧ (∀ c ∈ after, rt.blank c = true) ∧
    ∀ c ∈ (sign ++ (base ++ digits)).head?, rt.blank c = false

variable {rt} {s digits after : Text}

theorem hexDigit_ascii {c : Nat} (h : rt.hexDigit c = true) (small : c < 127) : isHex c = true := by
  unfold hexDigit digit at h
  unfold isHex
  rw [if_pos small] at h
  split_ifs at h with decimal
  · simp [decimal]
  · have letter : (0x41 ≤ c ∧ c ≤ 0x46) ∨ 0x61 ≤ c ∧ c ≤ 0x66 := by simpa using h
    simp [or_assoc, letter]

theorem hexDigit_ne {c d : Nat} (h : rt.hexDigit c = true) (small : d < 127) (hd : isHex d = false) : c ≠ d := by
  rintro rfl
  rw [hexDigit_ascii h small] at hd
  cases hd

theorem HexDigits.ne_nil (h : rt.HexDigits s) : s ≠ [] := by
  cases h <;> simp

theorem HexDigits.head (h : rt.HexDigits s) : ∃ c rest, s = c :: rest ∧ rt.hexDigit c = true := by
  cases h with
  | one digit => exact ⟨_, _, rfl, digit⟩
  | cons digit _ => exact ⟨_, _, rfl, digit⟩
  | underscore digit _ => exact ⟨_, _, rfl, digit⟩

/-- The digits and their underscores are read as far as they go. -/
theorem hexRest_eq_some {rest : Text} : ∀ {underscore : Bool} {s : Text}, rt.hexRest underscore s = some rest →
    (underscore = false ∧ rest = s) ∨ (underscore = false ∧ ∃ digits, rt.HexDigits digits ∧ s = 0x5F :: digits ++ rest) ∨
      ∃ digits, rt.HexDigits digits ∧ s = digits ++ rest := by
  intro underscore s
  induction s generalizing underscore with
  | nil =>
      intro h
      unfold hexRest at h
      split_ifs at h with last
      cases h
      exact .inl ⟨by simpa using last, rfl⟩
  | cons c s ih =>
      intro h
      unfold hexRest at h
      split_ifs at h with digit low last last'
      · obtain ⟨-, rfl⟩ | ⟨-, digits, more, rfl⟩ | ⟨digits, more, rfl⟩ := ih h
        · exact .inr (.inr ⟨[c], .one digit, rfl⟩)
        · exact .inr (.inr ⟨_, .underscore digit more, rfl⟩)
        · exact .inr (.inr ⟨_, .cons digit more, rfl⟩)
      · rw [Bool.not_eq_true] at last
        obtain ⟨impossible, -⟩ | ⟨impossible, -⟩ | ⟨digits, more, rfl⟩ := ih h
        · cases impossible
        · cases impossible
        · exact .inr (.inl ⟨last, digits, more, by rw [low]; rfl⟩)
      · cases h
        exact .inl ⟨by simpa using last', rfl⟩

theorem blank_ascii {c : Nat} (h : rt.blank c = true) (small : c < 127) : (9 ≤ c ∧ c ≤ 13) ∨ c = 32 := by
  unfold blank at h
  rw [if_pos small] at h
  simpa using h

/-- Blanks after the digits are left. -/
theorem hexRest_blank (h : ∀ c ∈ after, rt.blank c = true) :
    ∃ rest, rt.hexRest false after = some rest ∧ rest <:+ after := by
  induction after with
  | nil => exact ⟨[], rfl, List.suffix_rfl⟩
  | cons c after ih =>
      rw [List.forall_mem_cons] at h
      obtain ⟨rest, read, suffix⟩ := ih h.2
      unfold hexRest
      by_cases digit : rt.hexDigit c = true
      · exact ⟨rest, by rw [if_pos digit, read], suffix.trans (List.suffix_cons c after)⟩
      · have low : c ≠ 0x5F := by
          rintro rfl
          have := blank_ascii h.1 (by decide)
          omega
        exact ⟨c :: after, by rw [if_neg digit, if_neg low, if_neg (by simp)], List.suffix_rfl⟩

theorem HexDigits.hexRest (h : rt.HexDigits digits) (blanks : ∀ c ∈ after, rt.blank c = true) :
    ∃ rest, rt.hexRest false (digits ++ after) = some rest ∧ rest <:+ after := by
  have low : rt.hexDigit 0x5F ≠ true := fun digit => hexDigit_ne digit (by decide) rfl rfl
  have read : ∀ {c : Nat} {s : Text}, rt.hexDigit c = true → rt.hexRest false (c :: s) = rt.hexRest false s := by
    intro c s digit
    rw [Runtime.hexRest, if_pos digit]
  induction h with
  | one digit =>
      rw [List.singleton_append, read digit]
      exact hexRest_blank blanks
  | cons digit more ih =>
      rw [List.cons_append, read digit]
      exact ih
  | underscore digit more ih =>
      obtain ⟨d, rest, rfl, next⟩ := more.head
      rw [List.cons_append, read digit, List.cons_append, Runtime.hexRest, if_neg low, if_pos rfl, if_neg (by simp),
        List.cons_append, Runtime.hexRest, if_pos next, ← read next]
      exact ih

theorem isHexInt_iff_rest : rt.isHexInt s = true ↔
    (∀ c ∈ (dropBase (dropSign (s.dropWhile rt.blank))).head?, c ≠ 0x5F) ∧
      ∃ rest, rt.hexRest false (dropBase (dropSign (s.dropWhile rt.blank))) = some rest ∧
        rest.length < (dropBase (dropSign (s.dropWhile rt.blank))).length ∧ ∀ c ∈ rest, rt.blank c = true := by
  unfold isHexInt
  simp only
  split
  · rename_i same
    simp [same]
  · rename_i other
    have first : ∀ c ∈ (dropBase (dropSign (s.dropWhile rt.blank))).head?, c ≠ 0x5F := by
      intro c hc low
      obtain ⟨tail, same⟩ := List.head?_eq_some_iff.mp hc
      exact other tail (low ▸ same)
    rw [and_iff_right first]
    cases rt.hexRest false (dropBase (dropSign (s.dropWhile rt.blank))) with
    | none => simp
    | some rest => simp

theorem dropSign_eq (s : Text) : ∃ sign ∈ [[], [0x2D], [0x2B]], s = sign ++ dropSign s := by
  unfold dropSign
  split
  · exact ⟨[0x2D], by simp, rfl⟩
  · exact ⟨[0x2B], by simp, rfl⟩
  · exact ⟨[], by simp, rfl⟩

theorem dropBase_eq (s : Text) :
    ∃ base ∈ [[], [0x30, 0x78], [0x30, 0x58], [0x30, 0x78, 0x5F], [0x30, 0x58, 0x5F]], s = base ++ dropBase s := by
  unfold dropBase
  split
  · rename_i x rest
    split_ifs with marked
    · split
      · rcases marked with rfl | rfl
        · exact ⟨[0x30, 0x78, 0x5F], by simp, rfl⟩
        · exact ⟨[0x30, 0x58, 0x5F], by simp, rfl⟩
      · rcases marked with rfl | rfl
        · exact ⟨[0x30, 0x78], by simp, rfl⟩
        · exact ⟨[0x30, 0x58], by simp, rfl⟩
    · exact ⟨[], by simp, rfl⟩
  · exact ⟨[], by simp, rfl⟩

theorem dropSign_of_head (h : ∀ c ∈ s.head?, c ≠ 0x2D ∧ c ≠ 0x2B) : dropSign s = s := by
  unfold dropSign
  split
  · exact absurd rfl (h 0x2D rfl).1
  · exact absurd rfl (h 0x2B rfl).2
  · rfl

/-- The character after the first digit is no `x`. -/
theorem HexDigits.second (h : rt.HexDigits digits) (blanks : ∀ c ∈ after, rt.blank c = true) {c x : Nat} {rest : Text}
    (same : digits ++ after = c :: x :: rest) : ¬(x = 0x78 ∨ x = 0x58) := by
  have undigit : rt.hexDigit x = true → ¬(x = 0x78 ∨ x = 0x58) := by
    rintro digit (marked | marked)
    · exact hexDigit_ne digit (by decide) rfl marked
    · exact hexDigit_ne digit (by decide) rfl marked
  cases h with
  | one digit =>
      rw [List.singleton_append, List.cons.injEq] at same
      have blank := blanks x (same.2 ▸ List.mem_cons_self)
      rintro (rfl | rfl)
      · have := blank_ascii blank (by decide)
        omega
      · have := blank_ascii blank (by decide)
        omega
  | cons digit more =>
      obtain ⟨d, more, rfl, next⟩ := more.head
      simp only [List.cons_append, List.cons.injEq] at same
      exact undigit (same.2.1 ▸ next)
  | underscore digit more =>
      simp only [List.cons_append, List.cons.injEq] at same
      omega

theorem HexDigits.dropBase {base : Text} (h : rt.HexDigits digits) (blanks : ∀ c ∈ after, rt.blank c = true)
    (hb : base ∈ [[], [0x30, 0x78], [0x30, 0x58], [0x30, 0x78, 0x5F], [0x30, 0x58, 0x5F]]) :
    dropBase (base ++ (digits ++ after)) = digits ++ after := by
  have plain : Runtime.dropBase (digits ++ after) = digits ++ after := by
    unfold Runtime.dropBase
    split
    · rename_i x rest same
      rw [if_neg (h.second blanks same), same]
    · rfl
  obtain ⟨d, more, rfl, next⟩ := h.head
  have low : d ≠ 0x5F := hexDigit_ne next (by decide) rfl
  have marked : ∀ x, x = 0x78 ∨ x = 0x58 →
      Runtime.dropBase (0x30 :: x :: (d :: more ++ after)) = d :: more ++ after := by
    intro x hx
    unfold Runtime.dropBase
    simp only [if_pos hx]
    split
    · rename_i same
      rw [List.cons_append, List.cons.injEq] at same
      exact absurd same.1 low
    · rfl
  have underscored : ∀ x, x = 0x78 ∨ x = 0x58 →
      Runtime.dropBase (0x30 :: x :: 0x5F :: (d :: more ++ after)) = d :: more ++ after := by
    intro x hx
    unfold Runtime.dropBase
    simp only [if_pos hx]
  simp only [List.mem_cons, List.not_mem_nil, or_false] at hb
  rcases hb with rfl | rfl | rfl | rfl | rfl
  · exact plain
  · exact marked _ (.inl rfl)
  · exact marked _ (.inr rfl)
  · exact underscored _ (.inl rfl)
  · exact underscored _ (.inr rfl)

/-- `int(s, 16)` goes through for the numerals of its grammar. -/
theorem isHexInt_iff : rt.isHexInt s = true ↔ rt.HexNumeral s := by
  rw [isHexInt_iff_rest]
  constructor
  · rintro ⟨first, rest, read, shorter, blanks⟩
    obtain ⟨sign, hsign, signed⟩ := dropSign_eq (s.dropWhile rt.blank)
    obtain ⟨base, hbase, based⟩ := dropBase_eq (dropSign (s.dropWhile rt.blank))
    obtain ⟨-, unread⟩ | ⟨-, digits, -, low⟩ | ⟨digits, hdigits, split⟩ := hexRest_eq_some read
    · rw [unread] at shorter
      exact absurd shorter (lt_irrefl _)
    · exact absurd rfl (first 0x5F (by rw [low]; rfl))
    · have whole : s.dropWhile rt.blank = sign ++ (base ++ (digits ++ rest)) := by
        rw [← split, ← based, ← signed]
      refine ⟨s.takeWhile rt.blank, sign, base, digits, rest, ?_, hsign, hbase, hdigits, ?_, blanks, ?_⟩
      · rw [← whole, List.takeWhile_append_dropWhile]
      · intro c hc
        exact List.mem_takeWhile_imp hc
      · intro c hc
        obtain ⟨tail, front⟩ := List.head?_eq_some_iff.mp hc
        have starts : s.dropWhile rt.blank = c :: (tail ++ rest) := by
          rw [whole, ← List.append_assoc base, ← List.append_assoc sign, front]
          rfl
        have unblank := List.head?_dropWhile_not rt.blank s
        rw [starts] at unblank
        simpa using unblank
  · rintro ⟨before, sign, base, digits, after, rfl, hsign, hbase, hdigits, hbefore, hafter, unblank⟩
    have trimmed : (before ++ (sign ++ (base ++ (digits ++ after)))).dropWhile rt.blank =
        sign ++ (base ++ (digits ++ after)) := by
      have front : sign ++ (base ++ digits) ≠ [] := by
        simp [hdigits.ne_nil]
      obtain ⟨c, tail, starts⟩ := List.exists_cons_of_ne_nil front
      have visible := unblank c (by rw [starts]; rfl)
      rw [List.dropWhile_append_of_pos hbefore, ← List.append_assoc base, ← List.append_assoc sign, starts,
        List.cons_append, List.dropWhile_cons_of_neg (by simp [visible])]
    obtain ⟨d, more, rfl, digit⟩ := hdigits.head
    have other : ∀ c < 127, isHex c = false → d ≠ c := fun c small hc => hexDigit_ne digit small hc
    have unsigned : dropSign (sign ++ (base ++ (d :: more ++ after))) = base ++ (d :: more ++ after) := by
      simp only [List.mem_cons, List.not_mem_nil, or_false] at hsign
      rcases hsign with rfl | rfl | rfl
      · refine dropSign_of_head ?_
        simp only [List.mem_cons, List.not_mem_nil, or_false] at hbase
        rcases hbase with rfl | rfl | rfl | rfl | rfl
        · simpa using ⟨other 0x2D (by decide) rfl, other 0x2B (by decide) rfl⟩
        · simp
        · simp
        · simp
        · simp
      · rfl
      · rfl
    rw [trimmed, unsigned, hdigits.dropBase hafter hbase]
    obtain ⟨rest, read, suffix⟩ := hdigits.hexRest hafter
    refine ⟨?_, rest, read, ?_, fun c hc => hafter c (suffix.mem hc)⟩
    · simpa using other 0x5F (by decide) rfl
    · have longer := List.length_pos_iff.mpr hdigits.ne_nil
      have shorter := suffix.length_le
      rw [List.length_append]
      omega

end Runtime

end EventConsistency.Lib.Python
