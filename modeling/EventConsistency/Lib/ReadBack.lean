import EventConsistency.Lib.JsonText

/-!
# Reading back what was written

Whatever `loads` makes of a text that `dumps` has written, the keys of it are among those that were written
(`loads_keysIn`). It may raise: a text can be nested too deep to be read, or have a number with too many digits.

* `Leads` : the reader comes from a state to one of some states over a text, or raises; the rules are those of sequences;
* `Complete` : a value was read whole, or a number that the next character ends;
* `Unescaped`, `unescaped_cut` : a piece of an encoded string without a backslash is a piece of the string;
* `Printed` : printable ASCII characters and line breaks, of which every written text consists (`printed_encode`).
-/

namespace EventConsistency.Lib.Python

/-- Every key of the value is one of these. -/
inductive Value.KeysIn (good : Text → Prop) : Value → Prop where
  | scalar (v : Value) (h : v.isScalar = true) : v.KeysIn good
  | list (items : List Value) (h : ∀ v ∈ items, v.KeysIn good) : (Value.list items).KeysIn good
  | dict (items : List (Text × Value)) (keys : ∀ kv ∈ items, good kv.1) (h : ∀ kv ∈ items, kv.2.KeysIn good) :
      (Value.dict items).KeysIn good

/-! ## Runs of the reader -/

section Leads

variable {rt : Runtime} {st : State} {a b : Text} {c : Nat} {Q R : State → Prop}

/-- Over the text the reader raises, or comes to one of the states. -/
def Leads (rt : Runtime) (st : State) (t : Text) (Q : State → Prop) : Prop :=
  ∀ rest, (∃ e, run rt st (t ++ rest) = .error e) ∨ ∃ st', Q st' ∧ run rt st (t ++ rest) = run rt st' rest

theorem Leads.here (h : Q st) : Leads rt st [] Q := fun _ => .inr ⟨st, h, rfl⟩

theorem Leads.append (h : Leads rt st a Q) (h' : ∀ st', Q st' → Leads rt st' b R) : Leads rt st (a ++ b) R := by
  intro rest
  rw [List.append_assoc]
  obtain raises | ⟨st', hst', same⟩ := h (b ++ rest)
  · exact .inl raises
  · rw [same]
    exact h' st' hst' rest

theorem Leads.step (h : ∀ st', step rt st c = .ok st' → Leads rt st' a Q) : Leads rt st (c :: a) Q := by
  intro rest
  rw [List.cons_append, run]
  cases taken : Python.step rt st c with
  | error e => exact .inl ⟨e, rfl⟩
  | ok st' => exact h st' taken rest

/-- A step that is known. -/
theorem Leads.next (st' : State) (taken : Python.step rt st c = .ok st') (h : Leads rt st' a Q) :
    Leads rt st (c :: a) Q := by
  refine Leads.step fun st'' taken' => ?_
  rw [taken] at taken'
  cases taken'
  exact h

theorem Leads.mono (h : Leads rt st a Q) (imp : ∀ st', Q st' → R st') : Leads rt st a R := by
  intro rest
  obtain raises | ⟨st', hst', same⟩ := h rest
  · exact .inl raises
  · exact .inr ⟨st', imp st' hst', same⟩

/-- A text of which every character keeps a set of states. -/
theorem Leads.loop (h : ∀ c ∈ a, ∀ st st', Q st → Python.step rt st c = .ok st' → Q st') (hst : Q st) : Leads rt st a Q := by
  induction a generalizing st with
  | nil => exact Leads.here hst
  | cons c a ih =>
      rw [List.forall_mem_cons] at h
      exact Leads.step fun st' taken => ih h.2 (h.1 st st' hst taken)

end Leads

/-! ## Numbers -/

/-- A character of a number. -/
def numeral (c : Nat) : Bool := isDigit c || c == 0x2D || c == 0x2B || c == 0x2E || c == 0x65

def Mode.isNumber : Mode → Bool
  | .minus => true
  | .zero _ => true
  | .integer _ => true
  | .point _ => true
  | .fraction _ => true
  | .exponent _ => true
  | .exponentSign _ _ => true
  | .exponentDigits _ _ _ => true
  | _ => false

/-- The reader is in a number. -/
structure InNumber (stack : List Frame) (st : State) : Prop where
  stack : st.stack = stack
  mode : st.mode.isNumber = true

/-- A value was read whole, with keys among these, or a number that the next character ends. -/
def Complete (good : Text → Prop) (stack : List Frame) (st : State) : Prop :=
  (∃ w : Value, w.KeysIn good ∧ st = put w stack) ∨ InNumber stack st

/-- A value may come next. -/
def Mode.opens : Mode → Bool
  | .value => true
  | .firstItem => true
  | _ => false

section Numbers

variable {rt : Runtime} {good : Text → Prop} {stack : List Frame} {st st' : State} {mode : Mode} {c : Nat} {t : Text}

theorem numeral_cases (h : numeral c = true) :
    0x30 ≤ c ∧ c ≤ 0x39 ∨ c = 0x2D ∨ c = 0x2B ∨ c = 0x2E ∨ c = 0x65 := by
  simpa [numeral, isDigit, or_assoc] using h

theorem isBlank_numeral (hc : numeral c = true) : isBlank c = false := by
  have cases := numeral_cases hc
  simp only [isBlank, Bool.or_eq_false_iff, beq_eq_false_iff_ne]
  omega

/-- A number is not followed by one of its characters. -/
theorem afterValue_numeral (h : numeral c = true) : afterValue st c = .error .jsonDecodeError := by
  have cases := numeral_cases h
  have comma : c ≠ 0x2C := by omega
  have bracket : c ≠ 0x5D := by omega
  have brace : c ≠ 0x7D := by omega
  unfold afterValue
  rw [isBlank_numeral h]
  split
  · contradiction
  · split <;> rfl

theorem bind_afterValue_numeral (h : numeral c = true) (x : Except PyError Value) :
    (x >>= fun v => afterValue (put v stack) c) ≠ .ok st' := by
  intro taken
  cases x with
  | error e => cases taken
  | ok v =>
      have raised : afterValue (put v stack) c = .ok st' := taken
      rw [afterValue_numeral h] at raised
      cases raised

theorem badNumber_ne_ok (n : Number) : badNumber rt n ≠ .ok st' := by
  unfold badNumber
  intro taken
  cases h : n.plain rt with
  | error e =>
      rw [h] at taken
      cases taken
  | ok v =>
      rw [h] at taken
      cases taken

/-- The reader stays in a number. -/
theorem InNumber.step (h : InNumber stack st) (hc : numeral c = true) (taken : Python.step rt st c = .ok st') :
    InNumber stack st' := by
  have infinity : c ≠ 0x49 := by
    have cases := numeral_cases hc
    omega
  obtain ⟨stack', mode⟩ := st
  obtain ⟨rfl, number⟩ := h
  cases mode with
  | minus =>
      simp only [Python.step, infinity, if_false] at taken
      split_ifs at taken <;> cases taken <;> exact ⟨rfl, rfl⟩
  | zero negative =>
      simp only [Python.step] at taken
      split_ifs at taken
      · cases taken
        exact ⟨rfl, rfl⟩
      · cases taken
        exact ⟨rfl, rfl⟩
      · exact absurd taken (bind_afterValue_numeral hc _)
  | integer n =>
      simp only [Python.step] at taken
      split_ifs at taken
      · cases taken
        exact ⟨rfl, rfl⟩
      · cases taken
        exact ⟨rfl, rfl⟩
      · cases taken
        exact ⟨rfl, rfl⟩
      · exact absurd taken (bind_afterValue_numeral hc _)
  | point n =>
      simp only [Python.step] at taken
      split_ifs at taken
      · cases taken
        exact ⟨rfl, rfl⟩
      · exact absurd taken (badNumber_ne_ok n)
  | fraction n =>
      simp only [Python.step] at taken
      split_ifs at taken
      · cases taken
        exact ⟨rfl, rfl⟩
      · cases taken
        exact ⟨rfl, rfl⟩
      · exact absurd taken (bind_afterValue_numeral hc _)
  | exponent n =>
      simp only [Python.step] at taken
      split_ifs at taken
      · cases taken
        exact ⟨rfl, rfl⟩
      · cases taken
        exact ⟨rfl, rfl⟩
      · exact absurd taken (badNumber_ne_ok n)
  | exponentSign n negative =>
      simp only [Python.step] at taken
      split_ifs at taken
      · cases taken
        exact ⟨rfl, rfl⟩
      · exact absurd taken (badNumber_ne_ok n)
  | exponentDigits n negative e =>
      simp only [Python.step, afterValue_numeral hc] at taken
      by_cases digit : isDigit c = true
      · rw [if_pos digit] at taken
        cases taken
        exact ⟨rfl, rfl⟩
      · rw [if_neg digit] at taken
        cases taken
  | _ => cases number

/-- The first character of a value, apart from the blanks and an end. -/
theorem step_opens (hmode : mode.opens = true) (blank : isBlank c = false) (bracket : c ≠ 0x5D) :
    Python.step rt ⟨stack, mode⟩ c = startValue rt stack c := by
  cases mode with
  | value => simp [Python.step, blank]
  | firstItem => simp [Python.step, blank, bracket]
  | _ => cases hmode

theorem startValue_numeral (hc : numeral c = true) (taken : startValue rt stack c = .ok st') : InNumber stack st' := by
  have cases := numeral_cases hc
  have other : ∀ d, d = 0x22 ∨ d = 0x7B ∨ d = 0x5B ∨ d = 0x6E ∨ d = 0x74 ∨ d = 0x66 ∨ d = 0x4E ∨ d = 0x49 → c ≠ d := by
    intro d hd
    omega
  unfold startValue at taken
  rw [if_neg (other _ (by simp)), if_neg (other _ (by simp)), if_neg (other _ (by simp)), if_neg (other _ (by simp)),
    if_neg (other _ (by simp)), if_neg (other _ (by simp)), if_neg (other _ (by simp)), if_neg (other _ (by simp))] at taken
  split_ifs at taken <;> cases taken <;> exact ⟨rfl, rfl⟩

/-- A text of numerals is read as a number. -/
theorem numeral_leads (hmode : mode.opens = true) (ne : t ≠ []) (h : ∀ c ∈ t, numeral c = true) :
    Leads rt ⟨stack, mode⟩ t (Complete good stack) := by
  cases t with
  | nil => exact absurd rfl ne
  | cons c t =>
      rw [List.forall_mem_cons] at h
      refine Leads.step fun st' taken => ?_
      have bracket : c ≠ 0x5D := by
        have cases := numeral_cases h.1
        omega
      rw [step_opens hmode (isBlank_numeral h.1) bracket] at taken
      have inside := startValue_numeral h.1 taken
      exact (Leads.loop (fun c hc st st' hst taken => hst.step (h.2 c hc) taken) inside).mono fun st' hst' => .inr hst'

/-- A comma or a line end ends a number. -/
theorem InNumber.ends (h : InNumber stack st) (hc : c = 0x2C ∨ c = 0x0A) (taken : Python.step rt st c = .ok st') :
    ∃ w : Value, w.isScalar = true ∧ afterValue (put w stack) c = .ok st' := by
  have ended : ∀ n : Number, endNumber rt stack n c = .ok st' →
      ∃ w : Value, w.isScalar = true ∧ afterValue (put w stack) c = .ok st' := by
    intro n taken
    unfold endNumber Number.plain at taken
    split_ifs at taken
    · cases taken
    · exact ⟨_, rfl, taken⟩
    · exact ⟨_, rfl, taken⟩
  have digit : isDigit c = false := by
    rcases hc with rfl | rfl <;> rfl
  obtain ⟨stack', mode⟩ := st
  obtain ⟨rfl, number⟩ := h
  have point : c ≠ 0x2E := by omega
  have exponent : ¬(c = 0x65 ∨ c = 0x45) := by omega
  have sign : ¬(c = 0x2B ∨ c = 0x2D) := by omega
  cases mode with
  | minus =>
      have infinity : c ≠ 0x49 := by omega
      have zero : c ≠ 0x30 := by omega
      simp [Python.step, digit, infinity, zero] at taken
  | zero negative =>
      simp only [Python.step, if_neg point, if_neg exponent] at taken
      exact ended _ taken
  | integer n =>
      simp only [Python.step, digit, if_neg point, if_neg exponent] at taken
      exact ended _ taken
  | point n =>
      simp only [Python.step, digit] at taken
      exact absurd taken (badNumber_ne_ok n)
  | fraction n =>
      simp only [Python.step, digit, if_neg exponent] at taken
      exact ended _ taken
  | exponent n =>
      simp only [Python.step, digit, if_neg sign] at taken
      exact absurd taken (badNumber_ne_ok n)
  | exponentSign n negative =>
      simp only [Python.step, digit] at taken
      exact absurd taken (badNumber_ne_ok n)
  | exponentDigits n negative e =>
      simp only [Python.step, digit] at taken
      exact ⟨_, rfl, taken⟩
  | _ => cases number

theorem step_put (w : Value) : Python.step rt (put w stack) c = afterValue (put w stack) c := by
  cases stack with
  | nil => rfl
  | cons frame stack =>
      cases frame with
      | list items => rfl
      | dict items key => rfl

/-- A comma or a line end comes after a value that is whole. -/
theorem Complete.ends (h : Complete good stack st) (hc : c = 0x2C ∨ c = 0x0A) (taken : Python.step rt st c = .ok st') :
    ∃ w : Value, w.KeysIn good ∧ afterValue (put w stack) c = .ok st' := by
  rcases h with ⟨w, hw, rfl⟩ | inside
  · rw [step_put] at taken
    exact ⟨w, hw, taken⟩
  · obtain ⟨w, scalar, taken⟩ := inside.ends hc taken
    exact ⟨w, .scalar w scalar, taken⟩

end Numbers

/-! ## Words and strings -/

/-- The reader is in a string. -/
structure InString (stack : List Frame) (key : Bool) (st : State) : Prop where
  stack : st.stack = stack
  mode : ∃ chars, st.mode = .string key chars

/-- Where a value may come, the text is read as one with keys among these. -/
def Reads (rt : Runtime) (good : Text → Prop) (t : Text) : Prop :=
  ∀ stack mode, mode.opens = true → Leads rt ⟨stack, mode⟩ t (Complete good stack)

section Strings

variable {rt : Runtime} {good : Text → Prop} {stack : List Frame} {key : Bool} {chars : Chars} {c : Nat} {t : Text}

/-- The rest of a word. -/
theorem literal_leads (ne : t ≠ []) (v : Value) : Leads rt ⟨stack, .literal t v⟩ t fun st => st = put v stack := by
  induction t with
  | nil => exact absurd rfl ne
  | cons c t ih =>
      cases t with
      | nil => exact Leads.next _ (if_pos rfl) (Leads.here rfl)
      | cons d t => exact Leads.next _ (if_pos rfl) (ih (by simp))

theorem reads_word {v : Value} (start : ∀ stack, startValue rt stack c = .ok ⟨stack, .literal t v⟩) (ne : t ≠ [])
    (blank : isBlank c = false) (bracket : c ≠ 0x5D) (scalar : v.isScalar = true) : Reads rt good (c :: t) := by
  intro stack mode hmode
  refine Leads.next ⟨stack, .literal t v⟩ ?_ ?_
  · rw [step_opens hmode blank bracket, start]
  · refine (literal_leads ne v).mono fun st' hst' => ?_
    exact .inl ⟨v, .scalar v scalar, hst'⟩

theorem length_hexText (n width : Nat) : (hexText n width).length = width := by
  induction width generalizing n with
  | zero => rfl
  | succ width ih => simp [hexText, ih]

/-- The digits of an escape. -/
theorem unicode_leads {left code : Nat} (hleft : t.length = left) (ne : t ≠ []) :
    Leads rt ⟨stack, .unicode key chars left code⟩ t (InString stack key) := by
  induction t generalizing left code with
  | nil => exact absurd rfl ne
  | cons c t ih =>
      refine Leads.step fun st' taken => ?_
      rw [List.length_cons] at hleft
      simp only [Python.step] at taken
      cases hd : hexDigit c with
      | none =>
          rw [hd] at taken
          cases taken
      | some d =>
          rw [hd] at taken
          by_cases last : left = 1
          · have rest : t = [] := List.eq_nil_of_length_eq_zero (by omega)
            simp only [if_pos last] at taken
            cases taken
            rw [rest]
            exact Leads.here ⟨rfl, _, rfl⟩
          · simp only [if_neg last] at taken
            cases taken
            refine ih (by omega) fun rest => ?_
            rw [rest, List.length_nil] at hleft
            omega

theorem escape_leads (c : Nat) (hc : c ≠ 0x75) :
    Leads rt ⟨stack, .string key chars⟩ [0x5C, c] (InString stack key) := by
  refine Leads.next ⟨stack, .escape key chars⟩ rfl (Leads.step fun st' taken => ?_)
  simp only [Python.step, if_neg hc] at taken
  cases h : shortEscape c with
  | none =>
      rw [h] at taken
      cases taken
  | some d =>
      rw [h] at taken
      cases taken
      exact Leads.here ⟨rfl, _, rfl⟩

theorem unicode_escape_leads (n : Nat) :
    Leads rt ⟨stack, .string key chars⟩ (text "\\u" ++ hexText n 4) (InString stack key) := by
  refine Leads.next ⟨stack, .escape key chars⟩ rfl ?_
  refine Leads.next ⟨stack, .unicode key chars 4 0⟩ rfl ?_
  refine unicode_leads (length_hexText n 4) fun empty => ?_
  have length : (hexText n 4).length = 4 := length_hexText n 4
  have none_left : (hexText n 4).length = 0 := congrArg List.length empty
  omega

/-- A character that stands for itself. -/
theorem plain_step (quote : c ≠ 0x22) (backslash : c ≠ 0x5C) (printed : 0x20 ≤ c) :
    Python.step rt ⟨stack, .string key chars⟩ c = .ok ⟨stack, .string key (chars.push c)⟩ := by
  have control : ¬c < 0x20 := by omega
  simp only [Python.step, if_neg quote, if_neg backslash, if_neg control]

theorem escapeChar_leads (c : Nat) : Leads rt ⟨stack, .string key chars⟩ (escapeChar c) (InString stack key) := by
  unfold escapeChar
  split_ifs with special backspace feed line carriage tab printed short
  · exact escape_leads c (by omega)
  · exact escape_leads 0x62 (by decide)
  · exact escape_leads 0x66 (by decide)
  · exact escape_leads 0x6E (by decide)
  · exact escape_leads 0x72 (by decide)
  · exact escape_leads 0x74 (by decide)
  · exact Leads.next _ (plain_step (by omega) (by omega) printed.1) (Leads.here ⟨rfl, _, rfl⟩)
  · exact unicode_escape_leads c
  · rw [List.append_assoc]
    refine (unicode_escape_leads _).append fun st' hst' => ?_
    obtain ⟨stack', mode'⟩ := st'
    obtain ⟨rfl, chars', rfl⟩ := hst'
    exact unicode_escape_leads _

theorem escapeChars_leads (s : Text) :
    Leads rt ⟨stack, .string key chars⟩ (s.flatMap escapeChar) (InString stack key) := by
  induction s generalizing chars with
  | nil => exact Leads.here ⟨rfl, _, rfl⟩
  | cons c s ih =>
      rw [List.flatMap_cons]
      refine (escapeChar_leads c).append fun st' hst' => ?_
      obtain ⟨stack', mode'⟩ := st'
      obtain ⟨rfl, chars', rfl⟩ := hst'
      exact ih

theorem reads_encodeString (s : Text) : Reads rt good (encodeString s) := by
  intro stack mode hmode
  refine Leads.next ⟨stack, .string false ⟨[], false⟩⟩ ?_ ?_
  · rw [step_opens hmode (by decide) (by decide)]
    rfl
  · refine (escapeChars_leads s).append fun st' hst' => ?_
    obtain ⟨stack', mode'⟩ := st'
    obtain ⟨rfl, chars, rfl⟩ := hst'
    refine Leads.next (put (.str chars.read.reverse) stack') rfl (Leads.here ?_)
    exact .inl ⟨_, .scalar _ rfl, rfl⟩

end Strings

/-! ## Escapes -/

/-- A character that stands for itself in a string. -/
def plainChar (c : Nat) : Prop := 0x20 ≤ c ∧ c ≤ 0x7E ∧ c ≠ 0x22 ∧ c ≠ 0x5C

/-- Every character stands for itself. -/
def Unescaped (s : Text) : Prop := ∀ c ∈ s, plainChar c

/-- The characters that escapes are made of. -/
def spells (x : Nat) : Prop :=
  x = 0x5C ∨ x = 0x22 ∨ 0x30 ≤ x ∧ x ≤ 0x39 ∨ 0x61 ≤ x ∧ x ≤ 0x66 ∨ x = 0x6E ∨ x = 0x72 ∨ x = 0x74 ∨ x = 0x75

section Escapes

variable {s t m v : Text} {c : Nat}

theorem escapeChar_of_plain (h : plainChar c) : escapeChar c = [c] := by
  unfold plainChar at h
  unfold escapeChar
  rw [if_neg (by omega), if_neg (by omega), if_neg (by omega), if_neg (by omega), if_neg (by omega),
    if_neg (by omega), if_pos (by omega)]

theorem spells_hexText (n width : Nat) : ∀ x ∈ hexText n width, spells x := by
  induction width generalizing n with
  | zero => simp [hexText]
  | succ width ih =>
      intro x hx
      rcases List.mem_append.mp hx with early | last
      · exact ih (n / 16) x early
      · have digit := Nat.mod_lt n (show 0 < 16 by decide)
        rw [List.mem_singleton.mp last, spells]
        split_ifs <;> omega

/-- A character is written as it is or as an escape. -/
theorem escapeChar_cases (c : Nat) :
    plainChar c ∨ ∃ t, escapeChar c = 0x5C :: t ∧ ∀ x ∈ escapeChar c, spells x := by
  have short : ∀ d, spells d → escapeChar c = [0x5C, d] → ∃ t, escapeChar c = 0x5C :: t ∧ ∀ x ∈ escapeChar c, spells x := by
    intro d hd same
    refine ⟨[d], same, fun x hx => ?_⟩
    rw [same] at hx
    rcases List.mem_cons.mp hx with rfl | last
    · exact .inl rfl
    · rw [List.mem_singleton.mp last]
      exact hd
  have long : ∀ n, ∀ x ∈ text "\\u" ++ hexText n 4, spells x := by
    intro n x hx
    rcases List.mem_append.mp hx with opening | digits
    · have letters : x = 0x5C ∨ x = 0x75 := by simpa [text] using opening
      unfold spells
      omega
    · exact spells_hexText n 4 x digits
  by_cases plain : plainChar c
  · exact .inl plain
  · refine .inr ?_
    by_cases special : c = 0x22 ∨ c = 0x5C
    · exact short c (by unfold spells; omega) (if_pos special)
    by_cases backspace : c = 0x08
    · exact short 0x62 (by unfold spells; omega) (by subst backspace; rfl)
    by_cases feed : c = 0x0C
    · exact short 0x66 (by unfold spells; omega) (by subst feed; rfl)
    by_cases line : c = 0x0A
    · exact short 0x6E (by unfold spells; omega) (by subst line; rfl)
    by_cases carriage : c = 0x0D
    · exact short 0x72 (by unfold spells; omega) (by subst carriage; rfl)
    by_cases tab : c = 0x09
    · exact short 0x74 (by unfold spells; omega) (by subst tab; rfl)
    have unprinted : ¬(0x20 ≤ c ∧ c ≤ 0x7E) := by
      unfold plainChar at plain
      omega
    have spelled : escapeChar c = if c ≤ 0xFFFF then text "\\u" ++ hexText c 4
        else text "\\u" ++ hexText (0xD800 + (c - 0x10000) / 0x400) 4 ++
          text "\\u" ++ hexText (0xDC00 + (c - 0x10000) % 0x400) 4 := by
      unfold escapeChar
      rw [if_neg special, if_neg backspace, if_neg feed, if_neg line, if_neg carriage, if_neg tab, if_neg unprinted]
    rw [spelled]
    split_ifs
    · exact ⟨_, rfl, long c⟩
    · refine ⟨_, rfl, fun x hx => ?_⟩
      rw [List.append_assoc] at hx
      rcases List.mem_append.mp hx with high | low
      · exact long _ x high
      · exact long _ x low

theorem flatMap_escapeChar_of_unescaped (h : Unescaped s) : s.flatMap escapeChar = s :=
  calc s.flatMap escapeChar = s.flatMap fun c => [c] := List.flatMap_congr fun c hc => escapeChar_of_plain (h c hc)
    _ = s := by simp

theorem escapeChar_ne_nil (c : Nat) : escapeChar c ≠ [] := by
  obtain plain | ⟨t, escaped, -⟩ := escapeChar_cases c
  · rw [escapeChar_of_plain plain]
    exact List.cons_ne_nil c []
  · rw [escaped]
    exact List.cons_ne_nil 0x5C t

/-- Where a text that is put together of pieces is cut. -/
theorem flatMap_cut {f : Nat → Text} {u : Text} (h : s.flatMap f = u ++ m) (ne : m ≠ []) :
    ∃ a c rest x w, s = a ++ c :: rest ∧ f c = x ++ w ∧ w ≠ [] ∧ m = w ++ rest.flatMap f := by
  induction s generalizing u with
  | nil =>
      have empty := (List.append_eq_nil_iff.mp h.symm).2
      exact absurd empty ne
  | cons c s ih =>
      rw [List.flatMap_cons] at h
      obtain ⟨y, rfl, rest⟩ | ⟨y, same, rest⟩ := List.append_eq_append_iff.mp h
      · obtain ⟨a, c', tail, x, w, rfl, split, hw, later⟩ := ih rest
        exact ⟨c :: a, c', tail, x, w, rfl, split, hw, later⟩
      · by_cases hy : y = []
        · subst hy
          obtain ⟨a, c', tail, x, w, rfl, split, hw, later⟩ := ih (u := []) rest.symm
          exact ⟨c :: a, c', tail, x, w, rfl, split, hw, later⟩
        · exact ⟨[], c, s, u, y, rfl, same, hy, rest⟩

/-- What is written without a backslash stands for itself. -/
theorem unescaped_cut (h : s.flatMap escapeChar = m ++ v) (hm : 0x5C ∉ m) :
    ∃ rest, s = m ++ rest ∧ Unescaped m ∧ v = rest.flatMap escapeChar := by
  induction m generalizing s with
  | nil => exact ⟨s, rfl, by simp [Unescaped], h.symm⟩
  | cons d m ih =>
      rw [List.mem_cons, not_or] at hm
      cases s with
      | nil => cases h
      | cons c s =>
          rw [List.flatMap_cons] at h
          obtain plain | ⟨t, escaped, -⟩ := escapeChar_cases c
          · rw [escapeChar_of_plain plain] at h
            obtain ⟨rfl, same⟩ := List.cons.inj h
            obtain ⟨rest, rfl, unescaped, hv⟩ := ih same hm.2
            exact ⟨rest, rfl, List.forall_mem_cons.mpr ⟨plain, unescaped⟩, hv⟩
          · rw [escaped] at h
            exact absurd (List.cons.inj h).1 hm.1

end Escapes

/-! ## Containers -/

/-- Blanks are skipped. -/
def Mode.skips : Mode → Bool
  | .value => true
  | .firstItem => true
  | .firstKey => true
  | .nextKey => true
  | .more => true
  | _ => false

/-- A key may come next. -/
def Mode.opensKey : Mode → Bool
  | .firstKey => true
  | .nextKey => true
  | _ => false

section Containers

variable {rt : Runtime} {good : Text → Prop} {stack : List Frame} {st : State} {mode : Mode} {level level' : Nat}
  {parts : List Text}

theorem blank_step {c : Nat} (h : st.mode.skips = true) (blank : isBlank c = true) : Python.step rt st c = .ok st := by
  obtain ⟨stack, mode⟩ := st
  cases mode with
  | value => simp [Python.step, blank]
  | firstItem => simp [Python.step, blank]
  | firstKey => simp [Python.step, blank]
  | nextKey => simp [Python.step, blank]
  | more => simp [Python.step, afterValue, blank]
  | _ => cases h

theorem blanks_lead {t : Text} (h : st.mode.skips = true) (blank : ∀ c ∈ t, isBlank c = true) :
    Leads rt st t fun st' => st' = st := by
  refine Leads.loop (fun c hc st₁ st₂ same taken => ?_) rfl
  rw [same, blank_step h (blank c hc)] at taken
  cases taken
  rfl

theorem isBlank_newline (level : Nat) : ∀ c ∈ newline level, isBlank c = true := by
  intro c hc
  rcases List.mem_cons.mp hc with rfl | indent
  · rfl
  · rw [List.eq_of_mem_replicate indent]
    rfl

theorem newline_leads (h : st.mode.skips = true) : Leads rt st (newline level) fun st' => st' = st :=
  blanks_lead h (isBlank_newline level)

/-- The line end after the last value of a container. -/
theorem Complete.closes {frame : Frame} (h : Complete good (frame :: stack) st) :
    Leads rt st (newline level) fun st' => ∃ w : Value, w.KeysIn good ∧ st' = put w (frame :: stack) := by
  refine Leads.step fun st' taken => ?_
  obtain ⟨w, hw, taken⟩ := h.ends (.inr rfl) taken
  cases taken
  have more : (put w (frame :: stack)).mode.skips = true := by
    cases frame with
    | list items => rfl
    | dict items key => rfl
  refine (blanks_lead more fun c hc => ?_).mono fun st' hst' => ⟨w, hw, hst'⟩
  exact isBlank_newline level c (List.mem_cons_of_mem _ hc)

/-- The items of a list, up to its end. -/
theorem items_lead {items : List Value} (hparts : ∀ t ∈ parts, Reads rt good t) (ne : parts ≠ [])
    (hitems : ∀ v ∈ items, v.KeysIn good) (hmode : mode.opens = true) :
    Leads rt ⟨.list items :: stack, mode⟩ (joinText (text "," ++ newline level) parts ++ newline level') fun st =>
      ∃ items', (∀ v ∈ items', Value.KeysIn good v) ∧ st = ⟨.list items' :: stack, .more⟩ := by
  induction parts generalizing items mode with
  | nil => exact absurd rfl ne
  | cons t parts ih =>
      rw [List.forall_mem_cons] at hparts
      have added : ∀ w : Value, w.KeysIn good → ∀ v ∈ items ++ [w], v.KeysIn good := by
        intro w hw v hv
        rcases List.mem_append.mp hv with early | last
        · exact hitems v early
        · rw [List.mem_singleton.mp last]
          exact hw
      cases parts with
      | nil =>
          refine (hparts.1 _ mode hmode).append fun st' complete => ?_
          refine complete.closes.mono fun st'' h => ?_
          obtain ⟨w, hw, rfl⟩ := h
          exact ⟨items ++ [w], added w hw, rfl⟩
      | cons t' parts =>
          rw [joinText_cons_cons, List.append_assoc, List.append_assoc]
          refine (hparts.1 _ mode hmode).append fun st' complete => ?_
          refine Leads.step fun st'' taken => ?_
          obtain ⟨w, hw, taken⟩ := complete.ends (.inl rfl) taken
          cases taken
          refine Leads.append (newline_leads rfl) fun st' same => ?_
          rw [same]
          exact ih hparts.2 (by simp) (added w hw) rfl

theorem block_eq {opening closing : String} {c : Nat} (hc : text opening = [c]) (ne : parts ≠ []) :
    block opening closing level parts = c :: (newline (level + 1) ++
      ((joinText (text "," ++ newline (level + 1)) parts ++ newline level) ++ text closing)) := by
  rw [block, if_neg (by simpa using ne), hc]
  simp only [List.append_assoc, List.cons_append, List.nil_append]

/-- A container is opened, or it is one too many. -/
theorem openFrame_ok {frame : Frame} {st' : State} (taken : openFrame rt frame mode stack = .ok st') :
    st' = ⟨frame :: stack, mode⟩ := by
  unfold openFrame at taken
  split_ifs at taken
  cases taken
  rfl

theorem reads_list (hparts : ∀ t ∈ parts, Reads rt good t) : Reads rt good (block "[" "]" level parts) := by
  intro stack mode hmode
  have opened : ∀ st', Python.step rt ⟨stack, mode⟩ 0x5B = .ok st' → st' = ⟨.list [] :: stack, .firstItem⟩ := by
    intro st' taken
    rw [step_opens hmode (by decide) (by decide)] at taken
    exact openFrame_ok taken
  by_cases empty : parts = []
  · subst empty
    refine Leads.step fun st' taken => ?_
    rw [opened st' taken]
    refine Leads.next (put (.list []) stack) rfl (Leads.here ?_)
    exact .inl ⟨.list [], .list [] (by simp), rfl⟩
  · rw [block_eq rfl empty]
    refine Leads.step fun st' taken => ?_
    rw [opened st' taken]
    refine Leads.append (newline_leads rfl) fun st' same => ?_
    rw [same]
    refine Leads.append (items_lead hparts empty (by simp) rfl) fun st' read => ?_
    obtain ⟨items, hitems, rfl⟩ := read
    refine Leads.next (put (.list items) stack) rfl (Leads.here ?_)
    exact .inl ⟨.list items, .list items hitems, rfl⟩

/-! Members. -/

theorem unescaped_leads {key : Bool} {chars : Chars} {s : Text} (h : Unescaped s) :
    Leads rt ⟨stack, .string key chars⟩ s fun st => ∃ high, st = ⟨stack, .string key ⟨s.reverse ++ chars.read, high⟩⟩ := by
  induction s generalizing chars with
  | nil => exact Leads.here ⟨chars.high, rfl⟩
  | cons c s ih =>
      obtain ⟨plain, rest⟩ := List.forall_mem_cons.mp h
      refine Leads.next _ (plain_step plain.2.2.1 plain.2.2.2 plain.1) ?_
      refine (ih rest).mono fun st' read => ?_
      obtain ⟨high, rfl⟩ := read
      exact ⟨high, by simp [Chars.push]⟩

/-- A key is read as it was written. -/
theorem key_leads {items : List (Text × Value)} {last key : Text} (h : Unescaped key) (hmode : mode.opensKey = true) :
    Leads rt ⟨.dict items last :: stack, mode⟩ (encodeString key ++ text ": ") fun st =>
      st = ⟨.dict items key :: stack, .value⟩ := by
  have quoted : Python.step rt ⟨.dict items last :: stack, mode⟩ 0x22 =
      .ok ⟨.dict items last :: stack, .string true ⟨[], false⟩⟩ := by
    cases mode with
    | firstKey => rfl
    | nextKey => rfl
    | _ => cases hmode
  rw [encodeString, flatMap_escapeChar_of_unescaped h, List.cons_append, List.cons_append, List.append_assoc]
  refine Leads.next _ quoted ?_
  refine Leads.append (unescaped_leads h) fun st' read => ?_
  obtain ⟨high, rfl⟩ := read
  refine Leads.next ⟨.dict items key :: stack, .colon⟩ ?_ ?_
  · simp [Python.step, putString]
  · refine Leads.next ⟨.dict items key :: stack, .value⟩ rfl ?_
    exact Leads.next ⟨.dict items key :: stack, .value⟩ rfl (Leads.here rfl)

theorem mem_dictSet {items : List (Text × Value)} {key : Text} {v : Value} {kv : Text × Value}
    (h : kv ∈ dictSet items key v) : kv ∈ items ∨ kv = (key, v) := by
  unfold dictSet at h
  split_ifs at h
  · obtain ⟨kv', hkv', rfl⟩ := List.mem_map.mp h
    split_ifs
    · exact .inr rfl
    · exact .inl hkv'
  · simpa using h

/-- The members of an object, up to its end. -/
theorem members_lead {pairs : List (Text × Text)} {items : List (Text × Value)} {last : Text}
    (hgood : ∀ key, good key → Unescaped key) (hpairs : ∀ kt ∈ pairs, good kt.1 ∧ Reads rt good kt.2) (ne : pairs ≠ [])
    (hitems : ∀ kv ∈ items, good kv.1 ∧ kv.2.KeysIn good) (hmode : mode.opensKey = true) :
    Leads rt ⟨.dict items last :: stack, mode⟩
      (joinText (text "," ++ newline level) (pairs.map fun kt => encodeString kt.1 ++ text ": " ++ kt.2) ++ newline level')
      fun st => ∃ items' last', (∀ kv ∈ items', good kv.1 ∧ Value.KeysIn good kv.2) ∧
        st = ⟨.dict items' last' :: stack, .more⟩ := by
  induction pairs generalizing items last mode with
  | nil => exact absurd rfl ne
  | cons kt pairs ih =>
      rw [List.forall_mem_cons] at hpairs
      have added : ∀ w : Value, w.KeysIn good → ∀ kv ∈ dictSet items kt.1 w, good kv.1 ∧ kv.2.KeysIn good := by
        intro w hw kv hkv
        rcases mem_dictSet hkv with early | rfl
        · exact hitems kv early
        · exact ⟨hpairs.1.1, hw⟩
      have member : Leads rt ⟨.dict items last :: stack, mode⟩ (encodeString kt.1 ++ text ": " ++ kt.2)
          (Complete good (.dict items kt.1 :: stack)) := by
        refine Leads.append (key_leads (hgood _ hpairs.1.1) hmode) fun st' read => ?_
        rw [read]
        exact hpairs.1.2 _ _ rfl
      cases pairs with
      | nil =>
          refine member.append fun st' complete => ?_
          refine complete.closes.mono fun st'' h => ?_
          obtain ⟨w, hw, rfl⟩ := h
          exact ⟨dictSet items kt.1 w, kt.1, added w hw, rfl⟩
      | cons kt' pairs =>
          rw [List.map_cons, List.map_cons, joinText_cons_cons, List.append_assoc, List.append_assoc]
          refine member.append fun st' complete => ?_
          refine Leads.step fun st'' taken => ?_
          obtain ⟨w, hw, taken⟩ := complete.ends (.inl rfl) taken
          cases taken
          refine Leads.append (newline_leads rfl) fun st' same => ?_
          rw [same]
          exact ih hpairs.2 (by simp) (added w hw) rfl

theorem reads_dict {pairs : List (Text × Text)} (hgood : ∀ key, good key → Unescaped key)
    (hpairs : ∀ kt ∈ pairs, good kt.1 ∧ Reads rt good kt.2) :
    Reads rt good (block "\x7b" "\x7d" level (pairs.map fun kt => encodeString kt.1 ++ text ": " ++ kt.2)) := by
  intro stack mode hmode
  have opened : ∀ st', Python.step rt ⟨stack, mode⟩ 0x7B = .ok st' → st' = ⟨.dict [] [] :: stack, .firstKey⟩ := by
    intro st' taken
    rw [step_opens hmode (by decide) (by decide)] at taken
    exact openFrame_ok taken
  by_cases empty : pairs = []
  · subst empty
    refine Leads.step fun st' taken => ?_
    rw [opened st' taken]
    refine Leads.next (put (.dict []) stack) rfl (Leads.here ?_)
    exact .inl ⟨.dict [], .dict [] (by simp) (by simp), rfl⟩
  · rw [block_eq rfl (by simpa using empty)]
    refine Leads.step fun st' taken => ?_
    rw [opened st' taken]
    refine Leads.append (newline_leads rfl) fun st' same => ?_
    rw [same]
    refine Leads.append (members_lead hgood hpairs empty (by simp) rfl) fun st' read => ?_
    obtain ⟨items, last, hitems, rfl⟩ := read
    refine Leads.next (put (.dict items) stack) rfl (Leads.here ?_)
    exact .inl ⟨.dict items, .dict items (fun kv hkv => (hitems kv hkv).1) fun kv hkv => (hitems kv hkv).2, rfl⟩

end Containers

/-! ## Values -/

section Values

variable {rt : Runtime} {good : Text → Prop} {v : Value}

theorem sortPairs_perm {α : Type} (pairs : List (Text × α)) : (sortPairs pairs).Perm pairs := by
  have inserted : ∀ (kv : Text × α) (pairs : List (Text × α)), (sortPairs.insertPair kv pairs).Perm (kv :: pairs) := by
    intro kv pairs
    induction pairs with
    | nil => exact List.Perm.refl _
    | cons other pairs ih =>
        rw [sortPairs.insertPair]
        split_ifs
        · exact List.Perm.refl _
        · exact (ih.cons other).trans (List.Perm.swap kv other pairs)
  induction pairs with
  | nil => exact List.Perm.refl _
  | cons kv pairs ih => exact (inserted kv (sortPairs pairs)).trans (ih.cons kv)

theorem encodeItems_eq_map (level : Nat) (items : List Value) : encodeItems rt level items = items.map (encode rt level) := by
  induction items with
  | nil => rfl
  | cons v items ih => rw [encodeItems, ih, List.map_cons]

theorem encodePairs_eq_map (level : Nat) (items : List (Text × Value)) :
    encodePairs rt level items = items.map fun kv => (kv.1, encode rt level kv.2) := by
  induction items with
  | nil => rfl
  | cons kv items ih => rw [encodePairs, ih, List.map_cons, encodePair]

theorem toDigits_numeral (n : Nat) :
    (Nat.toDigits 10 n).map Char.toNat ≠ [] ∧ ∀ c ∈ (Nat.toDigits 10 n).map Char.toNat, numeral c = true := by
  refine ⟨?_, fun c hc => ?_⟩
  · rw [ne_eq, List.map_eq_nil_iff]
    exact Nat.toDigits_ne_nil
  · obtain ⟨d, hd, rfl⟩ := List.mem_map.mp hc
    have digit := Nat.isDigit_of_mem_toDigits (by decide) (by decide) hd
    simp only [Char.isDigit, Bool.and_eq_true, decide_eq_true_eq] at digit
    have range : isDigit d.toNat = true := by
      simp only [isDigit, Bool.and_eq_true, decide_eq_true_eq]
      exact ⟨digit.1, digit.2⟩
    simp [numeral, range]

theorem intText_numeral (n : Int) : intText n ≠ [] ∧ ∀ c ∈ intText n, numeral c = true := by
  cases n with
  | ofNat n => exact toDigits_numeral n
  | negSucc n =>
      refine ⟨by simp [intText], fun c hc => ?_⟩
      rcases List.mem_cons.mp hc with rfl | digit
      · rfl
      · exact (toDigits_numeral (n + 1)).2 c digit

/-- `float.__repr__` writes digits, signs, a point and an exponent. -/
def FloatsNumeral (rt : Runtime) : Prop :=
  ∀ negative x, rt.floatRepr negative x ≠ [] ∧ ∀ c ∈ rt.floatRepr negative x, numeral c = true

theorem reads_infinity : Reads rt good (text "-Infinity") := by
  intro stack mode hmode
  refine Leads.next ⟨stack, .minus⟩ ?_ ?_
  · rw [step_opens hmode (by decide) (by decide)]
    rfl
  · refine Leads.next ⟨stack, .literal (text "nfinity") (.float (.inf true))⟩ rfl ?_
    refine (literal_leads (by decide) _).mono fun st' read => ?_
    exact .inl ⟨.float (.inf true), .scalar _ rfl, read⟩

theorem reads_scalar (floats : FloatsNumeral rt) (scalar : v.isScalar = true) (level : Nat) :
    Reads rt good (encode rt level v) := by
  cases v with
  | none => exact reads_word (fun _ => rfl) (by decide) (by decide) (by decide) (v := .none) rfl
  | bool b =>
      cases b with
      | false => exact reads_word (fun _ => rfl) (by decide) (by decide) (by decide) (v := .bool false) rfl
      | true => exact reads_word (fun _ => rfl) (by decide) (by decide) (by decide) (v := .bool true) rfl
  | int n =>
      intro stack mode hmode
      exact numeral_leads hmode (intText_numeral n).1 (intText_numeral n).2
  | float x =>
      cases x with
      | finite negative x =>
          intro stack mode hmode
          exact numeral_leads hmode (floats negative x).1 (floats negative x).2
      | inf negative =>
          cases negative with
          | false => exact reads_word (fun _ => rfl) (by decide) (by decide) (by decide) (v := .float (.inf false)) rfl
          | true => exact reads_infinity
      | nan => exact reads_word (fun _ => rfl) (by decide) (by decide) (by decide) (v := .float .nan) rfl
  | str s => exact reads_encodeString s
  | list items => cases scalar
  | dict items => cases scalar

theorem reads_encode (floats : FloatsNumeral rt) (hgood : ∀ key, good key → Unescaped key) (h : v.KeysIn good) (level : Nat) :
    Reads rt good (encode rt level v) := by
  induction h generalizing level with
  | scalar v scalar => exact reads_scalar floats scalar level
  | list items _ ih =>
      rw [encode, encodeItems_eq_map]
      refine reads_list fun t ht => ?_
      obtain ⟨v, hv, rfl⟩ := List.mem_map.mp ht
      exact ih v hv (level + 1)
  | dict items keys _ ih =>
      rw [encode, encodePairs_eq_map]
      refine reads_dict hgood fun kt hkt => ?_
      rw [(sortPairs_perm _).mem_iff] at hkt
      obtain ⟨kv, hkv, rfl⟩ := List.mem_map.mp hkt
      exact ⟨keys kv hkv, ih kv hkv (level + 1)⟩

/-- What is read of a text that was written has no other keys. -/
theorem loads_keysIn (floats : FloatsNumeral rt) (hgood : ∀ key, good key → Unescaped key) (h : v.KeysIn good) {w : Value}
    (read : loads rt (encode rt 0 v ++ [0x0A]) = .ok w) : w.KeysIn good := by
  obtain ⟨e, raised⟩ | ⟨st, complete, same⟩ := reads_encode floats hgood h 0 [] .value rfl [0x0A]
  · rw [loads, raised] at read
    cases read
  · rw [loads, same, run] at read
    cases taken : Python.step rt st 0x0A with
    | error e =>
        rw [taken] at read
        cases read
    | ok st' =>
        rw [taken] at read
        obtain ⟨u, hu, ended⟩ := complete.ends (.inr rfl) taken
        cases ended
        cases read
        exact hu

/-! What is written is ASCII, with no line ends but `\n`. -/

/-- A printed character of ASCII, or a line end. -/
def Printed (t : Text) : Prop := ∀ c ∈ t, 0x20 ≤ c ∧ c ≤ 0x7E ∨ c = 0x0A

theorem Printed.append {a b : Text} (ha : Printed a) (hb : Printed b) : Printed (a ++ b) := by
  intro c hc
  rcases List.mem_append.mp hc with left | right
  · exact ha c left
  · exact hb c right

theorem printed_text {l : List Char} (h : (l.all fun c => decide (0x20 ≤ c.toNat) && decide (c.toNat ≤ 0x7E)) = true) :
    Printed (text (String.ofList l)) := by
  intro c hc
  rw [text, String.toList_ofList, List.mem_map] at hc
  obtain ⟨d, hd, rfl⟩ := hc
  have range := List.all_eq_true.mp h d hd
  simp only [Bool.and_eq_true, decide_eq_true_eq] at range
  exact .inl range

theorem printed_numeral {t : Text} (h : ∀ c ∈ t, numeral c = true) : Printed t := by
  intro c hc
  have cases := numeral_cases (h c hc)
  omega

theorem printed_newline (level : Nat) : Printed (newline level) := by
  intro c hc
  rcases List.mem_cons.mp hc with rfl | indent
  · exact .inr rfl
  · rw [List.eq_of_mem_replicate indent]
    exact .inl (by decide)

theorem printed_encodeString (s : Text) : Printed (encodeString s) := by
  have quote : Printed [0x22] := by
    intro c hc
    rw [List.mem_singleton.mp hc]
    exact .inl (by decide)
  refine (quote.append (b := s.flatMap escapeChar) fun c hc => ?_).append quote
  obtain ⟨d, -, hd⟩ := List.mem_flatMap.mp hc
  obtain plain | ⟨t, -, spelled⟩ := escapeChar_cases d
  · rw [escapeChar_of_plain plain] at hd
    rw [List.mem_singleton.mp hd]
    exact .inl ⟨plain.1, plain.2.1⟩
  · have letter := spelled c hd
    unfold spells at letter
    omega

theorem printed_joinText {sep : Text} {parts : List Text} (hsep : Printed sep) (hparts : ∀ t ∈ parts, Printed t) :
    Printed (joinText sep parts) := by
  intro c hc
  obtain between | ⟨t, ht, hc⟩ := mem_joinText hc
  · exact hsep c between
  · exact hparts t ht c hc

theorem printed_block {opening closing : String} {level : Nat} {parts : List Text} (ho : Printed (text opening))
    (hc : Printed (text closing)) (hparts : ∀ t ∈ parts, Printed t) : Printed (block opening closing level parts) := by
  unfold block
  split_ifs
  · exact ho.append hc
  · have sep : Printed (text "," ++ newline (level + 1)) := Printed.append (printed_text (by decide)) (printed_newline _)
    exact (((ho.append (printed_newline _)).append (printed_joinText sep hparts)).append (printed_newline _)).append hc

theorem printed_scalar (floats : FloatsNumeral rt) (scalar : v.isScalar = true) (level : Nat) : Printed (encode rt level v) := by
  cases v with
  | none => exact printed_text (by decide)
  | bool b =>
      cases b with
      | false => exact printed_text (by decide)
      | true => exact printed_text (by decide)
  | int n => exact printed_numeral (intText_numeral n).2
  | float x =>
      cases x with
      | finite negative x => exact printed_numeral (floats negative x).2
      | inf negative =>
          cases negative with
          | false => exact printed_text (by decide)
          | true => exact printed_text (by decide)
      | nan => exact printed_text (by decide)
  | str s => exact printed_encodeString s
  | list items => cases scalar
  | dict items => cases scalar

theorem printed_encode (floats : FloatsNumeral rt) (v : Value) (level : Nat) : Printed (encode rt level v) := by
  induction v using Value.induction generalizing level with
  | scalar v scalar => exact printed_scalar floats scalar level
  | list items ih =>
      rw [encode, encodeItems_eq_map]
      refine printed_block (printed_text (by decide)) (printed_text (by decide)) fun t ht => ?_
      obtain ⟨v, hv, rfl⟩ := List.mem_map.mp ht
      exact ih v hv (level + 1)
  | dict items ih =>
      rw [encode, encodePairs_eq_map]
      refine printed_block (printed_text (by decide)) (printed_text (by decide)) fun t ht => ?_
      obtain ⟨kt, hkt, rfl⟩ := List.mem_map.mp ht
      rw [(sortPairs_perm _).mem_iff] at hkt
      obtain ⟨kv, hkv, rfl⟩ := List.mem_map.mp hkt
      exact ((printed_encodeString kv.1).append (printed_text (by decide))).append (ih kv hkv (level + 1))

theorem universalNewlines_of_printed {t : Text} (h : Printed t) : universalNewlines t = t := by
  induction t with
  | nil => rfl
  | cons c t ih =>
      obtain ⟨printed, rest⟩ := List.forall_mem_cons.mp h
      rw [universalNewlines, ih rest]
      · rintro tail rfl
        omega
      · rintro rfl
        omega

end Values

end EventConsistency.Lib.Python
