import EventConsistency.Lib.Regex

/-!
# What a pattern matches

* `Regex.Matches` : the texts of a pattern; `matchesStart_iff` and `search_iff` find the derivatives in agreement with it;
* `Regex.Marked` : every match comes to a marked character before any barrier. No match then begins in a text without
  marks that a barrier ends (`Marked.search_append`).
* `Regex.Begins` and `calm` : every match begins with one of these pairs of characters, and a text has none of them;
* `Regex.Excludes` and `Regex.Final` : no match has the character, or every match can end at it;
* `Regex.Closed` and `Regex.Quiet` : no match goes from the text into what follows; `search_joinText`.
-/

namespace EventConsistency.Lib.Python

namespace Regex

/-! ## Matches -/

inductive Matches : Regex → Text → Prop where
  | eps : Matches .eps []
  | char {p : Nat → Bool} {c : Nat} (h : p c = true) : Matches (.char p) [c]
  | seq {r s : Regex} {a b : Text} (ha : Matches r a) (hb : Matches s b) : Matches (.seq r s) (a ++ b)
  | left {r s : Regex} {a : Text} (ha : Matches r a) : Matches (.alt r s) a
  | right {r s : Regex} {b : Text} (hb : Matches s b) : Matches (.alt r s) b
  | starNil {r : Regex} : Matches (.star r) []
  | starCons {r : Regex} {a b : Text} (ha : Matches r a) (hb : Matches (.star r) b) : Matches (.star r) (a ++ b)

variable {r s : Regex} {c : Nat} {t : Text}

theorem matches_fail : ¬Matches .fail t := by
  intro h
  cases h

theorem matches_eps : Matches .eps t ↔ t = [] := by
  constructor
  · intro h
    cases h
    rfl
  · rintro rfl
    exact .eps

theorem matches_char {p : Nat → Bool} : Matches (.char p) t ↔ ∃ c, p c = true ∧ t = [c] := by
  constructor
  · intro h
    cases h with
    | char h => exact ⟨_, h, rfl⟩
  · rintro ⟨c, h, rfl⟩
    exact .char h

theorem matches_seq : Matches (.seq r s) t ↔ ∃ a b, t = a ++ b ∧ Matches r a ∧ Matches s b := by
  constructor
  · intro h
    cases h with
    | seq ha hb => exact ⟨_, _, rfl, ha, hb⟩
  · rintro ⟨a, b, rfl, ha, hb⟩
    exact .seq ha hb

theorem matches_alt : Matches (.alt r s) t ↔ Matches r t ∨ Matches s t := by
  constructor
  · intro h
    cases h with
    | left ha => exact .inl ha
    | right hb => exact .inr hb
  · rintro (h | h)
    · exact .left h
    · exact .right h

theorem nullable_iff : r.nullable = true ↔ Matches r [] := by
  induction r with
  | fail => simp [nullable, matches_fail]
  | eps => simp [nullable, matches_eps]
  | char p => simp [nullable, matches_char]
  | seq r s hr hs => simp [nullable, matches_seq, hr, hs]
  | alt r s hr hs => simp [nullable, matches_alt, hr, hs]
  | star r _ => simp [nullable, Matches.starNil]

theorem matches_mkSeq : Matches (mkSeq r s) t ↔ Matches (.seq r s) t := by
  cases r with
  | fail => simp [mkSeq, matches_seq, matches_fail]
  | eps => simp [mkSeq, matches_seq, matches_eps]
  | _ => rfl

theorem matches_mkAlt : Matches (mkAlt r s) t ↔ Matches r t ∨ Matches s t := by
  rw [← matches_alt]
  cases r with
  | fail => simp [mkAlt, matches_alt, matches_fail]
  | _ =>
      cases s with
      | fail => simp [mkAlt, matches_alt, matches_fail]
      | _ => rfl

/-- A match of a repetition that is not empty starts with one of its pattern that is not empty. -/
theorem matches_star_cons (h : Matches (.star r) (c :: t)) :
    ∃ a b, t = a ++ b ∧ Matches r (c :: a) ∧ Matches (.star r) b := by
  generalize hs : Regex.star r = s at h
  generalize ht : c :: t = u at h
  induction h with
  | starNil => cases ht
  | @starCons r' a b ha hb _ ih =>
      cases hs
      cases a with
      | nil => exact ih rfl ht
      | cons d a =>
          cases ht
          exact ⟨a, b, rfl, ha, hb⟩
  | _ => cases hs

theorem matches_deriv : Matches (r.deriv c) t ↔ Matches r (c :: t) := by
  induction r generalizing t with
  | fail => simp [deriv, matches_fail]
  | eps => simp [deriv, matches_eps, matches_fail]
  | char p =>
      rw [deriv, matches_char]
      by_cases h : p c = true
      · simp only [h, if_true, matches_eps, List.cons.injEq]
        constructor
        · intro ht
          exact ⟨c, h, rfl, ht⟩
        · rintro ⟨d, -, -, ht⟩
          exact ht
      · rw [if_neg h]
        refine iff_of_false matches_fail ?_
        rintro ⟨d, hd, same⟩
        cases same
        exact h hd
  | seq r s hr hs =>
      have split : Matches (.seq r s) (c :: t) ↔
          (∃ a b, t = a ++ b ∧ Matches r (c :: a) ∧ Matches s b) ∨ (Matches r [] ∧ Matches s (c :: t)) := by
        rw [matches_seq]
        constructor
        · rintro ⟨a, b, same, ha, hb⟩
          cases a with
          | nil =>
              cases same
              exact .inr ⟨ha, hb⟩
          | cons d a =>
              cases same
              exact .inl ⟨a, b, rfl, ha, hb⟩
        · rintro (⟨a, b, rfl, ha, hb⟩ | ⟨ha, hb⟩)
          · exact ⟨c :: a, b, rfl, ha, hb⟩
          · exact ⟨[], c :: t, rfl, ha, hb⟩
      rw [split, deriv]
      by_cases h : r.nullable = true
      · rw [if_pos h, matches_mkAlt, matches_mkSeq, matches_seq, hs]
        simp only [hr, nullable_iff.mp h, true_and]
      · rw [if_neg h, matches_mkSeq, matches_seq]
        have unmatched : ¬Matches r [] := fun empty => h (nullable_iff.mpr empty)
        simp only [hr, unmatched, false_and, or_false]
  | alt r s hr hs => rw [deriv, matches_mkAlt, matches_alt, hr, hs]
  | star r hr =>
      rw [deriv, matches_mkSeq, matches_seq]
      constructor
      · rintro ⟨a, b, rfl, ha, hb⟩
        exact .starCons (a := c :: a) (hr.mp ha) hb
      · intro h
        obtain ⟨a, b, rfl, ha, hb⟩ := matches_star_cons h
        exact ⟨a, b, rfl, hr.mpr ha, hb⟩

/-- A match at the start of a text is a match of a beginning of it. -/
theorem matchesStart_iff : r.matchesStart t = true ↔ ∃ m, m <+: t ∧ Matches r m := by
  induction t generalizing r with
  | nil =>
      rw [matchesStart, nullable_iff]
      simp
  | cons c t ih =>
      rw [matchesStart, Bool.or_eq_true, nullable_iff, ih]
      constructor
      · rintro (h | ⟨m, hm, h⟩)
        · exact ⟨[], List.nil_prefix, h⟩
        · exact ⟨c :: m, (List.prefix_cons_inj c).mpr hm, matches_deriv.mp h⟩
      · rintro ⟨m, hm, h⟩
        cases m with
        | nil => exact .inl h
        | cons d m =>
            obtain ⟨rfl, tail⟩ := List.cons_prefix_cons.mp hm
            exact .inr ⟨m, tail, matches_deriv.mpr h⟩

/-- A search finds the match of a piece of the text. -/
theorem search_iff : r.search t = true ↔ ∃ m, m <:+: t ∧ Matches r m := by
  induction t with
  | nil =>
      rw [search, nullable_iff]
      simp
  | cons c t ih =>
      rw [search, Bool.or_eq_true, matchesStart_iff, ih, ← exists_or]
      refine exists_congr fun m => ?_
      rw [List.infix_cons_iff, or_and_right]

/-- Nothing is found where a text begins with another in which no match begins. -/
theorem search_append {a b : Text} (h : ∀ x, x ≠ [] → x <:+ a → ∀ m, m <+: x ++ b → ¬Matches r m) :
    r.search (a ++ b) = r.search b := by
  induction a with
  | nil => rfl
  | cons c a ih =>
      have here : r.matchesStart (c :: (a ++ b)) = false := by
        rw [← Bool.not_eq_true, matchesStart_iff]
        rintro ⟨m, hm, matched⟩
        exact h (c :: a) (by simp) List.suffix_rfl m hm matched
      rw [List.cons_append, search, here, Bool.false_or]
      exact ih fun x hx hs => h x hx (hs.trans (List.suffix_cons c a))

/-! ## The patterns of the sources -/

theorem matches_concat_cons {rs : List Regex} :
    Matches (concat (r :: rs)) t ↔ ∃ a b, t = a ++ b ∧ Matches r a ∧ Matches (concat rs) b := matches_seq

theorem matches_anyOf {rs : List Regex} : Matches (anyOf rs) t ↔ ∃ r ∈ rs, Matches r t := by
  induction rs with
  | nil => simp [anyOf, matches_fail]
  | cons r rs ih =>
      rw [show anyOf (r :: rs) = .alt r (anyOf rs) from rfl, matches_alt, ih]
      simp

theorem matches_literal {l : String} : Matches (literal l) t ↔ t.map foldCase = (text l).map foldCase := by
  unfold literal
  induction text l generalizing t with
  | nil => simp [matches_eps]
  | cons d l ih =>
      rw [List.foldr_cons, matches_seq]
      constructor
      · rintro ⟨a, b, rfl, ha, hb⟩
        obtain ⟨c, hc, rfl⟩ := matches_char.mp ha
        rw [List.singleton_append, List.map_cons, List.map_cons, ih.mp hb, beq_iff_eq.mp hc]
      · intro same
        cases t with
        | nil => cases same
        | cons c t =>
            rw [List.map_cons, List.map_cons, List.cons.injEq] at same
            exact ⟨[c], t, rfl, .char (beq_iff_eq.mpr same.1), ih.mpr same.2⟩

theorem matches_star_char {p : Nat → Bool} : Matches (.star (.char p)) t ↔ ∀ c ∈ t, p c = true := by
  induction t with
  | nil => simp [Matches.starNil]
  | cons c t ih =>
      rw [List.forall_mem_cons, ← ih]
      constructor
      · intro h
        obtain ⟨a, b, rfl, ha, hb⟩ := matches_star_cons h
        obtain ⟨d, hd, same⟩ := matches_char.mp ha
        cases same
        exact ⟨hd, hb⟩
      · rintro ⟨hc, h⟩
        exact .starCons (a := [c]) (.char hc) h

theorem foldCase_eq_iff {d : Nat} (h : d < 0x41 ∨ 0x5A < d ∧ d < 0x61) : foldCase c = d ↔ c = d := by
  unfold foldCase
  split_ifs <;> omega

/-- A name of small letters and underscores. -/
theorem snakeCase_text {l : List Char} (h : (l.all fun c => c.isLower || c == '_') = true) :
    ∀ c ∈ text (String.ofList l), 0x5F ≤ c ∧ c ≤ 0x7A := by
  intro c hc
  rw [text, String.toList_ofList, List.mem_map] at hc
  obtain ⟨letter, hletter, rfl⟩ := hc
  have shape := List.all_eq_true.mp h letter hletter
  rw [Bool.or_eq_true, beq_iff_eq] at shape
  rcases shape with small | rfl
  · change (letter.val ≥ 'a'.val && letter.val ≤ 'z'.val) = true at small
    rw [Bool.and_eq_true, decide_eq_true_eq, decide_eq_true_eq] at small
    have low : (97 : Nat) ≤ letter.toNat := UInt32.le_iff_toNat_le.mp small.1
    have high : letter.toNat ≤ 122 := UInt32.le_iff_toNat_le.mp small.2
    omega
  · decide

/-! ## Marks -/

section Marks

variable {mark bar : Nat → Prop} {l : String} {rs : List Regex}

/-- Every match comes to a marked character, and to no barrier before it. -/
def Marked (mark bar : Nat → Prop) (r : Regex) : Prop :=
  ∀ m, Matches r m → ∃ h c b, m = h ++ c :: b ∧ mark c ∧ ∀ x ∈ h, ¬bar x

/-- Every match begins with a marked character. -/
def Opens (mark : Nat → Prop) (r : Regex) : Prop := ∀ m, Matches r m → ∃ c b, m = c :: b ∧ mark c

/-- Every match begins with the literal. -/
def Headed (l : String) (r : Regex) : Prop := ∀ m, Matches r m → ∃ a b, m = a ++ b ∧ Matches (literal l) a

theorem headed_literal : Headed l (literal l) := fun m h => ⟨m, [], (List.append_nil m).symm, h⟩

theorem headed_concat : Headed l (concat (literal l :: rs)) := by
  intro m h
  obtain ⟨a, b, rfl, ha, -⟩ := matches_concat_cons.mp h
  exact ⟨a, b, rfl, ha⟩

theorem opens_char {p : Nat → Bool} (h : ∀ c, p c = true → mark c) : Opens mark (.char p) := by
  intro m matched
  obtain ⟨c, hc, rfl⟩ := matches_char.mp matched
  exact ⟨c, [], rfl, h c hc⟩

theorem opens_literal {d : Nat} {rest : Text} (hl : (text l).map foldCase = d :: rest)
    (h : ∀ c, foldCase c = d → mark c) : Opens mark (literal l) := by
  intro m matched
  rw [matches_literal, hl] at matched
  obtain ⟨c, b, rfl, hc, -⟩ := List.map_eq_cons_iff.mp matched
  exact ⟨c, b, rfl, h c hc⟩

theorem Opens.seq (h : Opens mark r) : Opens mark (.seq r s) := by
  intro m matched
  obtain ⟨a, b, rfl, ha, -⟩ := matches_seq.mp matched
  obtain ⟨c, a, rfl, hc⟩ := h a ha
  exact ⟨c, a ++ b, rfl, hc⟩

/-- A repetition of marks before what opens with a mark. -/
theorem Opens.star {p : Nat → Bool} (hp : ∀ c, p c = true → mark c) (h : Opens mark r) :
    Opens mark (.seq (.star (.char p)) r) := by
  intro m matched
  obtain ⟨a, b, rfl, ha, hb⟩ := matches_seq.mp matched
  cases a with
  | nil => exact h b hb
  | cons c a => exact ⟨c, a ++ b, rfl, hp c (matches_star_char.mp ha c (by simp))⟩

/-- The characters of a literal are no barriers. -/
theorem literal_unbarred (hbar : ∀ c, bar c → foldCase c ∉ (text l).map foldCase) (h : Matches (literal l) t) :
    ∀ x ∈ t, ¬bar x := by
  intro x hx barred
  refine hbar x barred ?_
  rw [← matches_literal.mp h]
  exact List.mem_map_of_mem hx

theorem marked_concat (hbar : ∀ c, bar c → foldCase c ∉ (text l).map foldCase) (h : Opens mark (concat rs)) :
    Marked mark bar (concat (literal l :: rs)) := by
  intro m matched
  obtain ⟨a, b, rfl, ha, hb⟩ := matches_concat_cons.mp matched
  obtain ⟨c, b, rfl, hc⟩ := h b hb
  exact ⟨a, c, b, rfl, hc, literal_unbarred hbar ha⟩

/-- The mark may be in the literal. -/
theorem marked_headed {d : Nat} (hbar : ∀ c, bar c → foldCase c ∉ (text l).map foldCase)
    (hd : d ∈ (text l).map foldCase) (hmark : ∀ c, foldCase c = d → mark c) (h : Headed l r) : Marked mark bar r := by
  intro m matched
  obtain ⟨a, b, rfl, ha⟩ := h m matched
  rw [← matches_literal.mp ha] at hd
  obtain ⟨c, hc, rfl⟩ := List.mem_map.mp hd
  obtain ⟨before, after, rfl⟩ := List.append_of_mem hc
  refine ⟨before, c, after ++ b, by simp, hmark c rfl, fun x hx => ?_⟩
  exact literal_unbarred hbar ha x (List.mem_append_left _ hx)

theorem marked_anyOf (h : ∀ r ∈ rs, Marked mark bar r) : Marked mark bar (anyOf rs) := by
  intro m matched
  obtain ⟨r, hr, matched⟩ := matches_anyOf.mp matched
  exact h r hr m matched

/-- No match begins in a text without marks that ends with a barrier. -/
theorem Marked.no_start (marked : Marked mark bar r) {a : Text} (plain : ∀ c ∈ a, ¬mark c) {d : Nat} (hd : bar d)
    (ha : a.getLast? = some d) {x m b : Text} (hx : x ≠ []) (hs : x <:+ a) (hm : m <+: x ++ b) : ¬Matches r m := by
  intro matched
  obtain ⟨h, c, after, rfl, hc, unbarred⟩ := marked m matched
  obtain ⟨rest, hrest⟩ := hm
  have last : d ∈ x := by
    obtain ⟨before, rfl⟩ := hs
    rw [List.getLast?_append_of_ne_nil before hx] at ha
    exact List.mem_of_getLast? ha
  rw [List.append_assoc] at hrest
  obtain ⟨y, rfl, hy⟩ | ⟨y, rfl, -⟩ := List.append_eq_append_iff.mp hrest
  · cases y with
    | nil =>
        rw [List.append_nil] at last
        exact unbarred d last hd
    | cons e y =>
        obtain rfl : c = e := (List.cons.inj hy).1
        exact plain c (hs.subset (by simp)) hc
  · exact unbarred d (List.mem_append_left _ last) hd

theorem Marked.search_append (marked : Marked mark bar r) {a : Text} (plain : ∀ c ∈ a, ¬mark c) {d : Nat} (hd : bar d)
    (ha : a.getLast? = some d) (b : Text) : r.search (a ++ b) = r.search b :=
  Regex.search_append fun _ hx hs _ hm => marked.no_start plain hd ha hx hs hm

theorem Marked.search_eq_false (marked : Marked mark bar r) (plain : ∀ c ∈ t, ¬mark c) : r.search t = false := by
  rw [← Bool.not_eq_true, search_iff]
  rintro ⟨m, hm, matched⟩
  obtain ⟨h, c, b, rfl, hc, -⟩ := marked m matched
  exact plain c (hm.subset (by simp)) hc

end Marks

/-! ## First letters -/

section Letters

variable {pairs : List (Nat × Nat)} {l : String}

/-- Every match begins with one of these pairs of letters. -/
def Begins (pairs : List (Nat × Nat)) (r : Regex) : Prop :=
  ∀ m, Matches r m → ∃ c d b, m = c :: d :: b ∧ (foldCase c, foldCase d) ∈ pairs

/-- No match begins in the text, whatever follows. -/
def calm (pairs : List (Nat × Nat)) : Text → Bool
  | [] => true
  | [c] => pairs.all fun p => p.1 != foldCase c
  | c :: d :: s => !pairs.contains (foldCase c, foldCase d) && calm pairs (d :: s)

theorem Headed.begins {c d : Nat} (h : Headed l r) (hl : ((text l).map foldCase).take 2 = [c, d])
    (hp : (c, d) ∈ pairs) : Begins pairs r := by
  intro m matched
  obtain ⟨a, b, rfl, ha⟩ := h m matched
  rw [← matches_literal.mp ha] at hl
  cases a with
  | nil => cases hl
  | cons x a =>
      cases a with
      | nil => cases hl
      | cons y a =>
          cases hl
          exact ⟨x, y, a ++ b, rfl, hp⟩

theorem begins_anyOf {rs : List Regex} (h : ∀ r ∈ rs, Begins pairs r) : Begins pairs (anyOf rs) := by
  intro m matched
  obtain ⟨r, hr, matched⟩ := matches_anyOf.mp matched
  exact h r hr m matched

theorem calm_suffix {a x : Text} (h : calm pairs a = true) (hs : x <:+ a) : calm pairs x = true := by
  induction a with
  | nil =>
      rw [List.suffix_nil] at hs
      rw [hs]
      rfl
  | cons c a ih =>
      rcases List.suffix_cons_iff.mp hs with rfl | later
      · exact h
      · refine ih ?_ later
        cases a with
        | nil => rfl
        | cons d a =>
            rw [calm, Bool.and_eq_true] at h
            exact h.2

theorem Begins.search_append (begins : Begins pairs r) {a : Text} (h : calm pairs a = true) (b : Text) :
    r.search (a ++ b) = r.search b := by
  refine Regex.search_append fun x hx hs m hm matched => ?_
  have quiet := calm_suffix h hs
  obtain ⟨c, d, rest, rfl, hp⟩ := begins m matched
  cases x with
  | nil => exact hx rfl
  | cons e x =>
      obtain ⟨rfl, tail⟩ := List.cons_prefix_cons.mp hm
      cases x with
      | nil =>
          have unlisted := List.all_eq_true.mp quiet _ hp
          simp at unlisted
      | cons f x =>
          obtain ⟨rfl, -⟩ := List.cons_prefix_cons.mp tail
          rw [calm, Bool.and_eq_true, Bool.not_eq_true', ← Bool.not_eq_true, List.contains_iff_mem] at quiet
          exact quiet.1 hp

theorem calm_of_forall {a : Text} (h : ∀ c ∈ a, ∀ p ∈ pairs, p.1 ≠ foldCase c) : calm pairs a = true := by
  induction a with
  | nil => rfl
  | cons c a ih =>
      rw [List.forall_mem_cons] at h
      cases a with
      | nil =>
          rw [calm, List.all_eq_true]
          intro p hp
          exact bne_iff_ne.mpr (h.1 p hp)
      | cons d a =>
          rw [calm, ih h.2, Bool.and_true, Bool.not_eq_true', ← Bool.not_eq_true, List.contains_iff_mem]
          intro listed
          exact h.1 _ listed rfl

end Letters

/-! ## Texts that a character ends -/

section Ends

variable {q : Nat} {l : String} {rs : List Regex}

/-- No match has the character in it. -/
def Excludes (q : Nat) (r : Regex) : Prop := ∀ m, Matches r m → q ∉ m

/-- A match may end where it has the character. -/
def Final (q : Nat) (r : Regex) : Prop := ∀ a b, Matches r (a ++ q :: b) → Matches r (a ++ [q])

theorem Excludes.final (h : Excludes q r) : Final q r := fun a b matched => absurd (by simp) (h _ matched)

theorem excludes_literal (h : foldCase q ∉ (text l).map foldCase) : Excludes q (literal l) := by
  intro m matched hq
  rw [matches_literal] at matched
  exact h (matched ▸ List.mem_map_of_mem hq)

theorem excludes_char {p : Nat → Bool} (h : p q = false) : Excludes q (.char p) := by
  intro m matched hq
  obtain ⟨c, hc, rfl⟩ := matches_char.mp matched
  obtain rfl := List.mem_singleton.mp hq
  rw [h] at hc
  cases hc

theorem excludes_star_char {p : Nat → Bool} (h : p q = false) : Excludes q (.star (.char p)) := by
  intro m matched hq
  have hc := matches_star_char.mp matched q hq
  rw [h] at hc
  cases hc

theorem Excludes.seq (hr : Excludes q r) (hs : Excludes q s) : Excludes q (.seq r s) := by
  intro m matched hq
  obtain ⟨a, b, rfl, ha, hb⟩ := matches_seq.mp matched
  rcases List.mem_append.mp hq with left | right
  · exact hr a ha left
  · exact hs b hb right

theorem Excludes.concat_nil : Excludes q (concat []) := by
  intro m matched
  rw [matches_eps.mp matched]
  exact List.not_mem_nil

theorem excludes_anyOf (h : ∀ r ∈ rs, Excludes q r) : Excludes q (anyOf rs) := by
  intro m matched
  obtain ⟨r, hr, matched⟩ := matches_anyOf.mp matched
  exact h r hr m matched

theorem Final.seq (hr : Excludes q r) (hs : Final q s) : Final q (.seq r s) := by
  intro a b matched
  obtain ⟨x, y, same, hx, hy⟩ := matches_seq.mp matched
  obtain ⟨z, rfl, rest⟩ | ⟨z, rfl, rest⟩ := List.append_eq_append_iff.mp same
  · cases z with
    | nil =>
        rw [List.append_nil] at hx
        rw [List.nil_append] at rest
        exact .seq hx (hs [] b (rest ▸ hy))
    | cons c z =>
        obtain rfl : q = c := (List.cons.inj rest).1
        exact absurd (by simp) (hr _ hx)
  · rw [List.append_assoc]
    exact .seq hx (hs z b (rest ▸ hy))

theorem final_plus_char {p : Nat → Bool} (h : p q = true) : Final q (concat [plus (.char p)]) := by
  have all : ∀ m, Matches (concat [plus (.char p)]) m ↔ m ≠ [] ∧ ∀ c ∈ m, p c = true := by
    intro m
    simp only [concat, List.foldr_cons, List.foldr_nil, plus, matches_seq, matches_eps, matches_char, matches_star_char]
    constructor
    · rintro ⟨a, b, rfl, ⟨x, y, rfl, ⟨c, hc, rfl⟩, hy⟩, rfl⟩
      simp only [List.singleton_append, List.append_nil, ne_eq, reduceCtorEq, not_false_eq_true, true_and]
      exact List.forall_mem_cons.mpr ⟨hc, hy⟩
    · rintro ⟨ne, hall⟩
      cases m with
      | nil => exact absurd rfl ne
      | cons c m =>
          rw [List.forall_mem_cons] at hall
          exact ⟨c :: m, [], (List.append_nil _).symm, ⟨[c], m, rfl, ⟨c, hall.1, rfl⟩, hall.2⟩, rfl⟩
  intro a b matched
  rw [all] at matched ⊢
  refine ⟨by simp, fun c hc => ?_⟩
  rcases List.mem_append.mp hc with early | last
  · exact matched.2 c (List.mem_append_left _ early)
  · rw [List.mem_singleton.mp last]
    exact h

theorem final_anyOf (h : ∀ r ∈ rs, Final q r) : Final q (anyOf rs) := by
  intro a b matched
  obtain ⟨r, hr, matched⟩ := matches_anyOf.mp matched
  exact matches_anyOf.mpr ⟨r, hr, h r hr a b matched⟩

/-- A match that begins before the character and goes on after it may end with it. -/
theorem Final.cut (final : Final q r) {a b m : Text} (ha : a ≠ []) (last : a.getLast? = some q) (hm : m <+: a ++ b)
    (matched : Matches r m) : ∃ m', m' <+: a ∧ Matches r m' := by
  obtain ⟨rest, same⟩ := hm
  obtain ⟨z, rfl, -⟩ | ⟨z, rfl, -⟩ := List.append_eq_append_iff.mp same
  · exact ⟨m, List.prefix_append m z, matched⟩
  · have split : a = a.dropLast ++ [q] := by
      rw [List.getLast?_eq_some_getLast ha] at last
      have rejoined := List.dropLast_append_getLast ha
      rw [Option.some.inj last] at rejoined
      exact rejoined.symm
    rw [split, List.append_assoc] at matched
    refine ⟨a, List.prefix_rfl, ?_⟩
    rw [split]
    exact final _ z matched

/-- After a text that ends with the character a search begins anew. -/
theorem Final.search_append (final : Final q r) {a : Text} (last : a.getLast? = some q) (b : Text) :
    r.search (a ++ b) = (r.search a || r.search b) := by
  rw [Bool.eq_iff_iff, Bool.or_eq_true, search_iff, search_iff, search_iff]
  constructor
  · rintro ⟨m, ⟨u, v, same⟩, matched⟩
    rw [List.append_assoc] at same
    obtain ⟨z, rfl, rest⟩ | ⟨z, rfl, rest⟩ := List.append_eq_append_iff.mp same
    · by_cases hz : z = []
      · subst hz
        exact .inr ⟨m, ⟨[], v, rest⟩, matched⟩
      · rw [List.getLast?_append_of_ne_nil u hz] at last
        obtain ⟨m', hm', matched'⟩ := final.cut hz last ⟨v, rest⟩ matched
        exact .inl ⟨m', hm'.isInfix.trans (List.suffix_append u z).isInfix, matched'⟩
    · exact .inr ⟨m, ⟨z, v, by rw [rest, List.append_assoc]⟩, matched⟩
  · rintro (⟨m, hm, matched⟩ | ⟨m, hm, matched⟩)
    · exact ⟨m, hm.trans (List.prefix_append a b).isInfix, matched⟩
    · exact ⟨m, hm.trans (List.suffix_append a b).isInfix, matched⟩

end Ends

/-! ## Texts put together -/

section Parts

variable {sep : Text} {parts : List Text}

/-- After the text a search begins anew. -/
def Closed (r : Regex) (t : Text) : Prop := ∀ rest, r.search (t ++ rest) = (r.search t || r.search rest)

/-- A text that no match begins in. -/
structure Quiet (r : Regex) (t : Text) : Prop where
  closed : Closed r t
  search : r.search t = false

theorem quiet_of_search_append (empty : r.search [] = false) (h : ∀ rest, r.search (t ++ rest) = r.search rest) :
    Quiet r t := by
  have nothing : r.search t = false := by
    rw [← List.append_nil t, h, empty]
  exact ⟨fun rest => by rw [h, nothing, Bool.false_or], nothing⟩

theorem closed_nil (empty : r.search [] = false) : Closed r [] := by
  intro rest
  rw [empty, Bool.false_or, List.nil_append]

theorem Closed.append {a b : Text} (ha : Closed r a) (hb : Closed r b) : Closed r (a ++ b) := by
  intro rest
  rw [List.append_assoc, ha, hb, ha b, Bool.or_assoc]

theorem Closed.join (empty : r.search [] = false) (hsep : Closed r sep) (hparts : ∀ t ∈ parts, Closed r t) :
    Closed r (joinText sep parts) := by
  induction parts with
  | nil => exact closed_nil empty
  | cons t parts ih =>
      rw [List.forall_mem_cons] at hparts
      cases parts with
      | nil => exact hparts.1
      | cons t' parts =>
          rw [joinText_cons_cons]
          exact (hparts.1.append hsep).append (ih hparts.2)

theorem search_joinText (empty : r.search [] = false) (hsep : Quiet r sep) (hparts : ∀ t ∈ parts, Closed r t) :
    r.search (joinText sep parts) = parts.any r.search := by
  induction parts with
  | nil => exact empty
  | cons t parts ih =>
      rw [List.forall_mem_cons] at hparts
      cases parts with
      | nil => simp [joinText]
      | cons t' parts =>
          rw [joinText_cons_cons, List.append_assoc, hparts.1, hsep.closed, hsep.search, Bool.false_or, ih hparts.2,
            List.any_cons, List.any_cons, List.any_cons]

end Parts

/-! ## A last character -/

section Last

variable {q : Nat} {rs rs' : List Regex}

theorem search_anyOf : (anyOf rs).search t = rs.any fun r => r.search t := by
  rw [Bool.eq_iff_iff, search_iff, List.any_eq_true]
  constructor
  · rintro ⟨m, hm, matched⟩
    obtain ⟨r, hr, matched⟩ := matches_anyOf.mp matched
    exact ⟨r, hr, search_iff.mpr ⟨m, hm, matched⟩⟩
  · rintro ⟨r, hr, found⟩
    obtain ⟨m, hm, matched⟩ := search_iff.mp found
    exact ⟨m, hm, matches_anyOf.mpr ⟨r, hr, matched⟩⟩

theorem matches_concat_append :
    Matches (concat (rs ++ rs')) t ↔ ∃ a b, t = a ++ b ∧ Matches (concat rs) a ∧ Matches (concat rs') b := by
  induction rs generalizing t with
  | nil =>
      constructor
      · intro h
        exact ⟨[], t, rfl, .eps, h⟩
      · rintro ⟨a, b, rfl, ha, hb⟩
        rw [matches_eps.mp ha]
        exact hb
  | cons r rs ih =>
      rw [List.cons_append, matches_concat_cons]
      constructor
      · rintro ⟨a, b, rfl, ha, hb⟩
        obtain ⟨c, d, rfl, hc, hd⟩ := ih.mp hb
        exact ⟨a ++ c, d, (List.append_assoc _ _ _).symm, .seq ha hc, hd⟩
      · rintro ⟨a, b, rfl, ha, hb⟩
        obtain ⟨c, d, rfl, hc, hd⟩ := matches_concat_cons.mp ha
        exact ⟨c, d ++ b, List.append_assoc _ _ _, hc, ih.mpr ⟨d, b, rfl, hd, hb⟩⟩

theorem matches_seq_assoc {u : Regex} : Matches (.seq (.seq r s) u) t ↔ Matches (.seq r (.seq s u)) t := by
  constructor
  · intro h
    obtain ⟨x, c, rfl, hx, hc⟩ := matches_seq.mp h
    obtain ⟨a, b, rfl, ha, hb⟩ := matches_seq.mp hx
    rw [List.append_assoc]
    exact .seq ha (.seq hb hc)
  · intro h
    obtain ⟨a, x, rfl, ha, hx⟩ := matches_seq.mp h
    obtain ⟨b, c, rfl, hb, hc⟩ := matches_seq.mp hx
    rw [← List.append_assoc]
    exact .seq (.seq ha hb) hc

theorem search_congr (h : ∀ m, Matches r m ↔ Matches s m) (t : Text) : r.search t = s.search t := by
  rw [Bool.eq_iff_iff, search_iff, search_iff]
  exact exists_congr fun m => and_congr_right fun _ => h m

/-- A piece lies before the last character or ends with it. -/
theorem infix_concat {m : Text} {c : Nat} (hm : m ++ [c] <:+: t ++ [q]) : m ++ [c] <:+: t ∨ c = q ∧ m <:+ t := by
  obtain ⟨u, v, same⟩ := hm
  rcases List.eq_nil_or_concat v with rfl | ⟨v, d, rfl⟩
  · rw [List.append_nil, ← List.append_assoc] at same
    obtain ⟨before, last⟩ := List.append_inj' same rfl
    exact .inr ⟨(List.cons.inj last).1, u, before⟩
  · rw [List.concat_eq_append, ← List.append_assoc] at same
    exact .inl ⟨u, v, (List.append_inj' same rfl).1⟩

/-- A piece that does not have the last character. -/
theorem infix_of_notMem_last {m : Text} (hm : m <:+: t ++ [q]) (hq : q ∉ m) : m <:+: t := by
  rcases List.eq_nil_or_concat m with rfl | ⟨m, d, rfl⟩
  · exact List.nil_infix
  · rw [List.concat_eq_append] at hm hq ⊢
    rcases infix_concat hm with before | ⟨rfl, -⟩
    · exact before
    · exact absurd (by simp) hq

theorem Excludes.search_last (h : Excludes q r) : r.search (t ++ [q]) = r.search t := by
  rw [Bool.eq_iff_iff, search_iff, search_iff]
  constructor
  · rintro ⟨m, hm, matched⟩
    exact ⟨m, infix_of_notMem_last hm (h m matched), matched⟩
  · rintro ⟨m, hm, matched⟩
    exact ⟨m, hm.trans (List.prefix_append t [q]).isInfix, matched⟩

/-- Blanks and something else are found before a last character that is no blank. -/
theorem search_rest {blank : Nat → Bool} (hq : blank q = false) (excludes : Excludes q (concat rs)) :
    (concat (rs ++ [.star (.char blank), plus (.char fun c => !blank c)])).search (t ++ [q]) = (concat rs).search t := by
  rw [Bool.eq_iff_iff, search_iff, search_iff]
  constructor
  · rintro ⟨m, hm, matched⟩
    obtain ⟨a, b, rfl, ha, -⟩ := matches_concat_append.mp matched
    exact ⟨a, infix_of_notMem_last ((List.prefix_append a b).isInfix.trans hm) (excludes a ha), ha⟩
  · rintro ⟨m, ⟨u, v, rfl⟩, matched⟩
    -- the blanks that follow, and the character after them
    have found : ∃ c rest, (v ++ [q]).dropWhile blank = c :: rest ∧ blank c = false := by
      induction v with
      | nil => exact ⟨q, [], by simp [hq], hq⟩
      | cons c v ih =>
          by_cases hc : blank c = true
          · rw [List.cons_append, List.dropWhile_cons_of_pos hc]
            exact ih
          · rw [List.cons_append, List.dropWhile_cons_of_neg hc]
            exact ⟨c, v ++ [q], rfl, by simpa using hc⟩
    obtain ⟨c, rest, dropped, hc⟩ := found
    have parts := List.takeWhile_append_dropWhile (p := blank) (l := v ++ [q])
    rw [dropped] at parts
    refine ⟨m ++ ((v ++ [q]).takeWhile blank ++ [c]), ⟨u, rest, ?_⟩, matches_concat_append.mpr ⟨m, _, rfl, matched, ?_⟩⟩
    · rw [List.append_assoc, List.append_assoc, List.append_assoc, List.append_assoc, List.append_assoc,
        List.singleton_append, parts]
    · refine .seq (matches_star_char.mpr fun d hd => List.all_eq_true.mp List.all_takeWhile d hd) ?_
      have single : Matches (plus (.char fun c => !blank c)) [c] := .seq (a := [c]) (.char (by simp [hc])) .starNil
      exact .seq (a := [c]) single .eps

/-- A literal and some characters, one of which may be the last one. -/
theorem search_literal_plus {l : String} {p : Nat → Bool} (hq : p q = true) :
    (concat [literal l, plus (.char p)]).search (t ++ [q]) = true ↔
      (concat [literal l, .char p]).search t = true ∨ ∃ m, m <:+ t ∧ Matches (literal l) m := by
  have single : ∀ c, p c = true → Matches (concat [.char p]) [c] :=
    fun c hc => .seq (a := [c]) (.char hc) .eps
  have several : ∀ c, p c = true → Matches (concat [plus (.char p)]) [c] :=
    fun c hc => .seq (a := [c]) (.seq (a := [c]) (.char hc) .starNil) .eps
  rw [search_iff, search_iff]
  constructor
  · rintro ⟨m, hm, matched⟩
    obtain ⟨a, b, rfl, ha, hb⟩ := matches_concat_cons.mp matched
    obtain ⟨x, y, rfl, hx, -⟩ := matches_concat_cons.mp hb
    obtain ⟨d, z, rfl, hd, -⟩ := matches_seq.mp hx
    obtain ⟨c, hc, rfl⟩ := matches_char.mp hd
    have cut : a ++ [c] <:+: t ++ [q] := by
      refine List.IsInfix.trans ⟨[], z ++ y, ?_⟩ hm
      simp
    rcases infix_concat cut with inside | ⟨-, last⟩
    · exact .inl ⟨a ++ [c], inside, .seq ha (single c hc)⟩
    · exact .inr ⟨a, last, ha⟩
  · rintro (⟨m, hm, matched⟩ | ⟨m, ⟨u, rfl⟩, matched⟩)
    · obtain ⟨a, b, rfl, ha, hb⟩ := matches_concat_cons.mp matched
      obtain ⟨x, y, rfl, hx, hy⟩ := matches_concat_cons.mp hb
      obtain ⟨c, hc, rfl⟩ := matches_char.mp hx
      rw [matches_eps.mp hy, List.append_nil] at hm
      exact ⟨a ++ [c], hm.trans (List.prefix_append t [q]).isInfix, .seq ha (several c hc)⟩
    · exact ⟨m ++ [q], ⟨u, [], by simp⟩, .seq matched (several q hq)⟩

end Last

end Regex

end EventConsistency.Lib.Python
