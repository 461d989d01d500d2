import Mathlib.Data.List.Nodup
import EventConsistency.FailClosed
import EventConsistency.Lib.Matching
import EventConsistency.Lib.ReadBack
import EventConsistency.Scripts.IncidentArtifact

/-!
# The check of an artifact on its own output

* `opening` : the patterns of `sensitiveText` without what may be any text, so that the quote at the end of a string
  completes them (`search_encodeString_iff`);
* `search_encode` : of a value that was written only the strings can have a match. Keys, numbers and separators neither
  have one nor take part in one;
* **`artifact_passes_iff`** : which payloads the validator passes after the sanitizer.
-/

namespace EventConsistency.IncidentArtifact

open Lib.Python

/-- An interpreter with the blanks of ASCII as they are, and floats written in numerals. -/
structure JsonRuntime extends Runtime where
  space_ascii : ∀ c < 128, isSpace c = (decide (9 ≤ c ∧ c ≤ 13) || decide (28 ≤ c ∧ c ≤ 32))
  floats : FloatsNumeral toRuntime

section

variable {rt : JsonRuntime}

/-! ## The patterns -/

/-- `name\s*[marks]`. -/
def named (rt : Runtime) (name marks : String) : Regex :=
  .concat [.literal name, .star (.space rt), .oneOf marks]

def scheme : String := "postgresql://"

/-- The patterns of `sensitiveText` up to where any text may follow. -/
def openings (rt : Runtime) : List Regex := [
  named rt "Authorization" ":=", named rt "X-Signature" ":=", named rt "x_signature" "=",
  named rt "Idempotency-Key" ":=", named rt "idempotency_key" "=", named rt "account_no" "=",
  named rt "account_number" "=", .concat [.literal "DATABASE_URL", .star (.space rt), .literal "="],
  .concat [.literal "Bearer", .space rt], .concat [.literal "Basic", .space rt],
  .concat [.literal scheme, .noneOf "\\s)"], .literal "synthetic-authorization-token",
  .literal "synthetic-signature-value", .literal "synthetic-account-number-1234",
  .literal "synthetic-idempotency-key"]

def opening (rt : Runtime) : Regex := .anyOf (openings rt)

/-- The first two letters of the patterns: au, x-, x_, id, ac, da, be, ba, po, sy. -/
def firstLetters : List (Nat × Nat) := [
  (0x61, 0x75), (0x78, 0x2D), (0x78, 0x5F), (0x69, 0x64), (0x61, 0x63), (0x64, 0x61), (0x62, 0x65), (0x62, 0x61),
  (0x70, 0x6F), (0x73, 0x79)]

/-- A blank, a colon, an equals sign or a hyphen. -/
def mark (rt : Runtime) (c : Nat) : Prop := rt.isSpace c = true ∨ c = 0x3A ∨ c = 0x3D ∨ c = 0x2D

theorem isSpace_quote : rt.isSpace 0x22 = false := by
  rw [rt.space_ascii 0x22 (by decide)]
  rfl

theorem sensitiveText_begins : (sensitiveText rt.toRuntime).Begins firstLetters := by
  refine Regex.begins_anyOf ?_
  simp only [List.forall_mem_cons, List.not_mem_nil, false_implies, implies_true, and_true]
  have headed : ∀ {l : String} {rs : List Regex} {c d : Nat}, ((text l).map Regex.foldCase).take 2 = [c, d] →
      (c, d) ∈ firstLetters → (Regex.concat (.literal l :: rs)).Begins firstLetters :=
    fun hl hp => Regex.headed_concat.begins hl hp
  have literal : ∀ {l : String} {c d : Nat}, ((text l).map Regex.foldCase).take 2 = [c, d] →
      (c, d) ∈ firstLetters → (Regex.literal l).Begins firstLetters :=
    fun hl hp => Regex.headed_literal.begins hl hp
  refine ⟨headed (c := 0x61) (d := 0x75) ?_ ?_, headed (c := 0x78) (d := 0x2D) ?_ ?_,
    headed (c := 0x78) (d := 0x5F) ?_ ?_, headed (c := 0x69) (d := 0x64) ?_ ?_, headed (c := 0x69) (d := 0x64) ?_ ?_,
    headed (c := 0x61) (d := 0x63) ?_ ?_, headed (c := 0x61) (d := 0x63) ?_ ?_, headed (c := 0x64) (d := 0x61) ?_ ?_,
    headed (c := 0x62) (d := 0x65) ?_ ?_, headed (c := 0x62) (d := 0x61) ?_ ?_, headed (c := 0x70) (d := 0x6F) ?_ ?_,
    literal (c := 0x73) (d := 0x79) ?_ ?_, literal (c := 0x73) (d := 0x79) ?_ ?_, literal (c := 0x73) (d := 0x79) ?_ ?_,
    literal (c := 0x73) (d := 0x79) ?_ ?_⟩
  all_goals decide

section

variable {q : Nat} {name marks : String}

theorem excludes_named (blank : rt.isSpace q = false) (hname : Regex.foldCase q ∉ (text name).map Regex.foldCase)
    (hmarks : ((text marks).any fun d => Regex.foldCase q == Regex.foldCase d) = false) :
    (named rt.toRuntime name marks).Excludes q := by
  refine Regex.Excludes.seq (Regex.excludes_literal hname) ?_
  refine Regex.Excludes.seq (Regex.excludes_star_char blank) ?_
  exact Regex.Excludes.seq (Regex.excludes_char hmarks) Regex.Excludes.concat_nil

theorem excludes_url (blank : rt.isSpace q = false) (hname : Regex.foldCase q ∉ (text "DATABASE_URL").map Regex.foldCase)
    (hmark : Regex.foldCase q ∉ (text "=").map Regex.foldCase) :
    (Regex.concat [.literal "DATABASE_URL", .star (.space rt.toRuntime), .literal "="]).Excludes q := by
  refine Regex.Excludes.seq (Regex.excludes_literal hname) ?_
  refine Regex.Excludes.seq (Regex.excludes_star_char blank) ?_
  exact Regex.Excludes.seq (Regex.excludes_literal hmark) Regex.Excludes.concat_nil

theorem excludes_scheme (blank : rt.isSpace q = false) (hname : Regex.foldCase q ∉ (text name).map Regex.foldCase) :
    (Regex.concat [.literal name, .space rt.toRuntime]).Excludes q :=
  Regex.Excludes.seq (Regex.excludes_literal hname)
    (Regex.Excludes.seq (Regex.excludes_char blank) Regex.Excludes.concat_nil)

end

/-- No character between the literal and the last part is a quote. -/
theorem final_assigned {name marks : String} (hname : 0x22 ∉ (text name).map Regex.foldCase)
    (hmarks : ((text marks).any fun d => Regex.foldCase 0x22 == Regex.foldCase d) = false) :
    (assigned rt.toRuntime name marks).Final 0x22 := by
  have other : (!rt.isSpace 0x22) = true := by
    rw [isSpace_quote]
    rfl
  refine Regex.Final.seq (Regex.excludes_literal hname) ?_
  refine Regex.Final.seq (Regex.excludes_star_char isSpace_quote) ?_
  refine Regex.Final.seq (Regex.excludes_char hmarks) ?_
  refine Regex.Final.seq (Regex.excludes_star_char isSpace_quote) ?_
  exact Regex.final_plus_char other

theorem excludes_plus_space : (Regex.plus (.space rt.toRuntime)).Excludes 0x22 :=
  Regex.Excludes.seq (Regex.excludes_char isSpace_quote) (Regex.excludes_star_char isSpace_quote)

theorem final_scheme {name : String} (hname : 0x22 ∉ (text name).map Regex.foldCase) :
    (Regex.concat [.literal name, .plus (.space rt.toRuntime), .plus (.nonSpace rt.toRuntime)]).Final 0x22 := by
  have other : (!rt.isSpace 0x22) = true := by
    rw [isSpace_quote]
    rfl
  refine Regex.Final.seq (Regex.excludes_literal hname) ?_
  refine Regex.Final.seq excludes_plus_space ?_
  exact Regex.final_plus_char other

theorem sensitiveText_final : (sensitiveText rt.toRuntime).Final 0x22 := by
  refine Regex.final_anyOf ?_
  simp only [List.forall_mem_cons, List.not_mem_nil, false_implies, implies_true, and_true]
  have literal : ∀ {l : String}, 0x22 ∉ (text l).map Regex.foldCase → (Regex.literal l).Final 0x22 :=
    fun h => (Regex.excludes_literal h).final
  have url : (Regex.concat [.literal "DATABASE_URL", .star (.space rt.toRuntime), .literal "="]).Excludes 0x22 :=
    excludes_url isSpace_quote (by decide) (by decide)
  have postgres : (Regex.concat [.literal "postgresql://", .plus (.noneOf "\\s)")]).Final 0x22 :=
    Regex.Final.seq (Regex.excludes_literal (by decide)) (Regex.final_plus_char (by decide))
  refine ⟨final_assigned ?_ ?_, final_assigned ?_ ?_, final_assigned ?_ ?_, final_assigned ?_ ?_, final_assigned ?_ ?_,
    final_assigned ?_ ?_, final_assigned ?_ ?_, url.final, final_scheme ?_, final_scheme ?_, postgres, literal ?_,
    literal ?_, literal ?_, literal ?_⟩
  all_goals decide

/-! ## Marks -/

theorem mark_space : ∀ c, rt.isSpace c = true → mark rt.toRuntime c := fun _ h => .inl h

theorem mark_oneOf {marks : String} (h : ∀ d ∈ text marks, d = 0x3A ∨ d = 0x3D) :
    ∀ c, ((text marks).any fun d => Regex.foldCase c == Regex.foldCase d) = true → mark rt.toRuntime c := by
  intro c found
  obtain ⟨d, hd, same⟩ := List.any_eq_true.mp found
  rcases h d hd with rfl | rfl
  · exact .inr (.inl ((Regex.foldCase_eq_iff (by decide)).mp (beq_iff_eq.mp same)))
  · exact .inr (.inr (.inl ((Regex.foldCase_eq_iff (by decide)).mp (beq_iff_eq.mp same))))

theorem marked_assigned (name : String) {marks : String} (h : ∀ d ∈ text marks, d = 0x3A ∨ d = 0x3D) :
    (assigned rt.toRuntime name marks).Marked (mark rt.toRuntime) fun _ => False :=
  Regex.marked_concat (fun _ h => h.elim) (Regex.Opens.star mark_space (Regex.Opens.seq (Regex.opens_char (mark_oneOf h))))

theorem marked_scheme (name : String) :
    (Regex.concat [.literal name, .plus (.space rt.toRuntime), .plus (.nonSpace rt.toRuntime)]).Marked
      (mark rt.toRuntime) fun _ => False :=
  Regex.marked_concat (fun _ h => h.elim) (Regex.Opens.seq (Regex.Opens.seq (Regex.opens_char mark_space)))

/-- Every match has a mark in it. -/
theorem sensitiveText_marked : (sensitiveText rt.toRuntime).Marked (mark rt.toRuntime) fun _ => False := by
  refine Regex.marked_anyOf ?_
  simp only [List.forall_mem_cons, List.not_mem_nil, false_implies, implies_true, and_true]
  have equals : ∀ c, Regex.foldCase c = 0x3D → mark rt.toRuntime c := by
    intro c h
    exact .inr (.inr (.inl ((Regex.foldCase_eq_iff (by decide)).mp h)))
  have colon : ∀ c, Regex.foldCase c = 0x3A → mark rt.toRuntime c := by
    intro c h
    exact .inr (.inl ((Regex.foldCase_eq_iff (by decide)).mp h))
  have hyphen : ∀ c, Regex.foldCase c = 0x2D → mark rt.toRuntime c := by
    intro c h
    exact .inr (.inr (.inr ((Regex.foldCase_eq_iff (by decide)).mp h)))
  have hyphenated : ∀ l : String, 0x2D ∈ (text l).map Regex.foldCase →
      (Regex.literal l).Marked (mark rt.toRuntime) fun _ => False :=
    fun l h => Regex.marked_headed (fun _ h => h.elim) h hyphen Regex.headed_literal
  refine ⟨marked_assigned _ ?_, marked_assigned _ ?_, marked_assigned _ ?_, marked_assigned _ ?_, marked_assigned _ ?_,
    marked_assigned _ ?_, marked_assigned _ ?_, ?_, marked_scheme _, marked_scheme _,
    Regex.marked_headed (fun _ h => h.elim) (d := 0x3A) ?_ colon Regex.headed_concat, hyphenated _ ?_, hyphenated _ ?_,
    hyphenated _ ?_, hyphenated _ ?_⟩
  case refine_8 =>
    refine Regex.marked_concat (fun _ h => h.elim) (Regex.Opens.star mark_space (Regex.Opens.seq ?_))
    have spelled : (text "=").map Regex.foldCase = [0x3D] := by decide
    exact Regex.opens_literal spelled equals
  all_goals decide

/-! ## The end of a string -/

theorem search_assigned (name marks : String) (hname : 0x22 ∉ (text name).map Regex.foldCase)
    (hmarks : ((text marks).any fun d => Regex.foldCase 0x22 == Regex.foldCase d) = false) (t : Text) :
    (assigned rt.toRuntime name marks).search (t ++ [0x22]) = (named rt.toRuntime name marks).search t :=
  Regex.search_rest isSpace_quote (excludes_named isSpace_quote hname hmarks)

theorem search_scheme (name : String) (hname : 0x22 ∉ (text name).map Regex.foldCase) (t : Text) :
    (Regex.concat [.literal name, .plus (.space rt.toRuntime), .plus (.nonSpace rt.toRuntime)]).search (t ++ [0x22]) =
      (Regex.concat [.literal name, .space rt.toRuntime]).search t := by
  rw [← Regex.search_rest isSpace_quote (excludes_scheme isSpace_quote hname)]
  refine Regex.search_congr (fun m => ?_) _
  -- one blank, and then any number of them
  rw [List.cons_append, Regex.matches_concat_cons, Regex.matches_concat_cons]
  refine exists_congr fun a => exists_congr fun b => and_congr_right fun _ => and_congr_right fun _ => ?_
  exact Regex.matches_seq_assoc

/-- Where the quote at the end of a text completes a match. -/
theorem search_quote (t : Text) :
    (sensitiveText rt.toRuntime).search (t ++ [0x22]) = true ↔
      (opening rt.toRuntime).search t = true ∨ ∃ m, m <:+ t ∧ (Regex.literal scheme).Matches m := by
  have literal : ∀ l : String, 0x22 ∉ (text l).map Regex.foldCase →
      (Regex.literal l).search (t ++ [0x22]) = (Regex.literal l).search t :=
    fun _ h => (Regex.excludes_literal h).search_last
  have url : (Regex.concat [.literal "DATABASE_URL", .star (.space rt.toRuntime), .literal "="]).Excludes 0x22 :=
    excludes_url isSpace_quote (by decide) (by decide)
  have postgres : (Regex.concat [.literal "postgresql://", .plus (.noneOf "\\s)")]).search (t ++ [0x22]) = true ↔
      (Regex.concat [.literal scheme, .noneOf "\\s)"]).search t = true ∨ ∃ m, m <:+ t ∧ (Regex.literal scheme).Matches m :=
    Regex.search_literal_plus (by decide)
  unfold sensitiveText opening openings
  rw [Regex.search_anyOf, Regex.search_anyOf]
  simp only [List.any_cons, List.any_nil, Bool.or_false, Bool.or_eq_true]
  rw [search_assigned "Authorization" ":=", search_assigned "X-Signature" ":=", search_assigned "x_signature" "=",
    search_assigned "Idempotency-Key" ":=", search_assigned "idempotency_key" "=", search_assigned "account_no" "=",
    search_assigned "account_number" "=", url.search_last, search_scheme "Bearer", search_scheme "Basic", postgres,
    literal "synthetic-authorization-token", literal "synthetic-signature-value",
    literal "synthetic-account-number-1234", literal "synthetic-idempotency-key"]
  · have past : ∀ {a x y e : Prop}, (x ↔ y ∨ e) → (a ∨ x ↔ (a ∨ y) ∨ e) := fun h => (or_congr_right h).trans or_assoc.symm
    iterate 10 refine past ?_
    exact or_right_comm
  all_goals decide

theorem opening_excludes_backslash : (opening rt.toRuntime).Excludes 0x5C := by
  have blank : rt.isSpace 0x5C = false := by
    rw [rt.space_ascii 0x5C (by decide)]
    rfl
  refine Regex.excludes_anyOf ?_
  unfold openings
  simp only [List.forall_mem_cons, List.not_mem_nil, false_implies, implies_true, and_true]
  have postgres : (Regex.concat [.literal scheme, .noneOf "\\s)"]).Excludes 0x5C :=
    Regex.Excludes.seq (Regex.excludes_literal (by decide))
      (Regex.Excludes.seq (Regex.excludes_char (by decide)) Regex.Excludes.concat_nil)
  refine ⟨excludes_named blank ?_ ?_, excludes_named blank ?_ ?_, excludes_named blank ?_ ?_, excludes_named blank ?_ ?_,
    excludes_named blank ?_ ?_, excludes_named blank ?_ ?_, excludes_named blank ?_ ?_, excludes_url blank ?_ ?_,
    excludes_scheme blank ?_, excludes_scheme blank ?_, postgres, Regex.excludes_literal ?_, Regex.excludes_literal ?_,
    Regex.excludes_literal ?_, Regex.excludes_literal ?_⟩
  all_goals decide

/-! ## Strings -/

/-- In the text is what the quote at its end completes to a match: a piece of printed characters of ASCII, of which the
first letters may be the last ones of the escape of a character, or the scheme of a URL at the end. -/
def Opened (rt : Runtime) (s : Text) : Prop :=
  (∃ c b w, c :: b <:+: s ∧ Unescaped b ∧ w ≠ [] ∧ w <:+ escapeChar c ∧ (opening rt).Matches (w ++ b)) ∨
    ∃ m, m <:+ s ∧ Unescaped m ∧ (Regex.literal scheme).Matches m

/-- Escapes have no marks. -/
theorem not_mark_of_spells {x : Nat} (h : spells x) : ¬mark rt.toRuntime x := by
  unfold spells at h
  unfold mark
  rw [rt.space_ascii x (by omega)]
  simp only [Bool.or_eq_true, decide_eq_true_eq]
  omega

theorem not_mark_quote : ¬mark rt.toRuntime 0x22 := not_mark_of_spells (.inr (.inl rfl))

/-- What a quote completes has a mark. -/
theorem marked_of_completed {m : Text} (h : (sensitiveText rt.toRuntime).search (m ++ [0x22]) = true) :
    ∃ c ∈ m, mark rt.toRuntime c := by
  by_contra plain
  push Not at plain
  have unmarked : ∀ c ∈ m ++ [0x22], ¬mark rt.toRuntime c := by
    intro c hc
    rcases List.mem_append.mp hc with early | last
    · exact plain c early
    · rw [List.mem_singleton.mp last]
      exact not_mark_quote
  rw [sensitiveText_marked.search_eq_false unmarked] at h
  cases h

theorem marked_of_opening {m : Text} (h : (opening rt.toRuntime).Matches m) : ∃ c ∈ m, mark rt.toRuntime c :=
  marked_of_completed ((search_quote m).mpr (.inl (Regex.search_iff.mpr ⟨m, List.infix_rfl, h⟩)))

/-- An opening in the escaped text. -/
theorem search_escaped_iff {s : Text} : (opening rt.toRuntime).search (s.flatMap escapeChar) = true ↔
    ∃ c b w, c :: b <:+: s ∧ Unescaped b ∧ w ≠ [] ∧ w <:+ escapeChar c ∧ (opening rt.toRuntime).Matches (w ++ b) := by
  rw [Regex.search_iff]
  constructor
  · rintro ⟨m, ⟨u, v, same⟩, matched⟩
    obtain ⟨d, hd, marked⟩ := marked_of_opening matched
    rw [List.append_assoc] at same
    have started : m ++ v ≠ [] := by
      intro empty
      rw [(List.append_eq_nil_iff.mp empty).1] at hd
      cases hd
    obtain ⟨a, c, rest, x, w, rfl, escaped, hw, cut⟩ := flatMap_cut same.symm started
    obtain ⟨z, rfl, later⟩ | ⟨z, rfl, later⟩ := List.append_eq_append_iff.mp cut
    · -- all of it is in one character, which is no escape
      have within : d ∈ escapeChar c := by
        rw [escaped]
        simp [hd]
      obtain plain | ⟨t, -, spelled⟩ := escapeChar_cases c
      · rw [escapeChar_of_plain plain] at escaped within
        have whole : m = [c] := by
          have length := congrArg List.length escaped
          have nonempty := List.length_pos_of_mem hd
          simp only [List.length_append, List.length_cons, List.length_nil] at length
          obtain ⟨e, rfl⟩ := List.length_eq_one_iff.mp (show m.length = 1 by omega)
          rw [List.mem_singleton] at hd within
          rw [← hd, within]
        refine ⟨c, [], [c], ⟨a, rest, by simp⟩, by simp [Unescaped], by simp, ?_, ?_⟩
        · exact (escapeChar_of_plain plain).symm ▸ List.suffix_rfl
        · rw [whole] at matched
          exact matched
      · exact absurd marked (not_mark_of_spells (spelled d within))
    · have unescaped : 0x5C ∉ z := fun hz => opening_excludes_backslash _ matched (List.mem_append_right w hz)
      obtain ⟨rest', rfl, hz, -⟩ := unescaped_cut later unescaped
      refine ⟨c, z, w, ⟨a, rest', by simp⟩, hz, hw, ⟨x, escaped.symm⟩, matched⟩
  · rintro ⟨c, b, w, ⟨a, rest, rfl⟩, hb, -, ⟨x, escaped⟩, matched⟩
    refine ⟨w ++ b, ⟨a.flatMap escapeChar ++ x, rest.flatMap escapeChar, ?_⟩, matched⟩
    rw [List.flatMap_append, List.flatMap_append, List.flatMap_cons, flatMap_escapeChar_of_unescaped hb, ← escaped]
    simp only [List.append_assoc]

/-- The scheme at the end of the escaped text. -/
theorem scheme_escaped_iff {s : Text} : (∃ m, m <:+ s.flatMap escapeChar ∧ (Regex.literal scheme).Matches m) ↔
    ∃ m, m <:+ s ∧ Unescaped m ∧ (Regex.literal scheme).Matches m := by
  constructor
  · rintro ⟨m, ⟨u, same⟩, matched⟩
    have spelled : (text scheme).map Regex.foldCase = 0x70 :: (text "ostgresql://").map Regex.foldCase := by decide +kernel
    have folded := Regex.matches_literal.mp matched
    rw [spelled] at folded
    obtain ⟨first, tail, rfl, hfirst, -⟩ := List.map_eq_cons_iff.mp folded
    obtain ⟨a, c, rest, x, w, rfl, escaped, hw, cut⟩ := flatMap_cut same.symm (by simp)
    obtain plain | ⟨t, -, spelled⟩ := escapeChar_cases c
    · have whole : w = [c] := by
        rw [escapeChar_of_plain plain] at escaped
        have length := congrArg List.length escaped
        have nonempty := List.length_pos_iff.mpr hw
        simp only [List.length_append, List.length_cons, List.length_nil] at length
        have before : x = [] := List.eq_nil_of_length_eq_zero (by omega)
        rw [escaped, before, List.nil_append]
      rw [whole, List.singleton_append] at cut
      obtain ⟨rfl, tails⟩ := List.cons.inj cut
      have rest_eq : rest.flatMap escapeChar = tail ++ [] := by
        rw [List.append_nil]
        exact tails.symm
      have unescaped : 0x5C ∉ tail := by
        intro hslash
        have folded := Regex.matches_literal.mp matched
        have listed : Regex.foldCase 0x5C ∈ (text scheme).map Regex.foldCase := by
          rw [← folded]
          exact List.mem_map_of_mem (List.mem_cons_of_mem first hslash)
        exact absurd listed (by decide +kernel)
      obtain ⟨rest', rfl, htail, nothing⟩ := unescaped_cut rest_eq unescaped
      have ended : rest' = [] := by
        cases rest' with
        | nil => rfl
        | cons d rest' =>
            rw [List.flatMap_cons] at nothing
            exact absurd (List.append_eq_nil_iff.mp nothing.symm).1 (escapeChar_ne_nil d)
      rw [ended, List.append_nil]
      exact ⟨first :: tail, ⟨a, rfl⟩, List.forall_mem_cons.mpr ⟨plain, htail⟩, matched⟩
    · -- an escape does not have the first letter
      cases w with
      | nil => exact absurd rfl hw
      | cons d w =>
          obtain ⟨rfl, -⟩ := List.cons.inj cut
          have letter := spelled first (by rw [escaped]; simp)
          unfold spells at letter
          unfold Regex.foldCase at hfirst
          split_ifs at hfirst <;> omega
  · rintro ⟨m, ⟨u, rfl⟩, hm, matched⟩
    refine ⟨m, ⟨u.flatMap escapeChar, ?_⟩, matched⟩
    rw [List.flatMap_append, flatMap_escapeChar_of_unescaped hm]

/-- Which strings have a match when they are written. -/
theorem search_encodeString_iff (s : Text) :
    (sensitiveText rt.toRuntime).search (encodeString s) = true ↔ Opened rt.toRuntime s := by
  have opened : (sensitiveText rt.toRuntime).search (encodeString s) =
      (sensitiveText rt.toRuntime).search (s.flatMap escapeChar ++ [0x22]) :=
    sensitiveText_begins.search_append (a := [0x22]) (by decide) _
  rw [opened, search_quote, search_escaped_iff, scheme_escaped_iff]
  rfl

/-! ## Values -/

theorem quiet_of_calm {t : Text} (h : Regex.calm firstLetters t = true) : (sensitiveText rt.toRuntime).Quiet t :=
  Regex.quiet_of_search_append rfl (sensitiveText_begins.search_append h)

theorem calm_numeral {t : Text} (h : ∀ c ∈ t, numeral c = true) : Regex.calm firstLetters t = true := by
  refine Regex.calm_of_forall fun c hc => ?_
  have letters : ∀ p ∈ firstLetters, p.1 ∈ [0x61, 0x62, 0x64, 0x69, 0x70, 0x73, 0x78] := by decide
  have cases := numeral_cases (h c hc)
  have other : Regex.foldCase c = c := by
    unfold Regex.foldCase
    split_ifs <;> omega
  intro p hp same
  have letter := letters p hp
  rw [same, other] at letter
  simp only [List.mem_cons, List.not_mem_nil, or_false] at letter
  omega

theorem calm_newline (level : Nat) : Regex.calm firstLetters (newline level) = true := by
  refine Regex.calm_of_forall fun c hc => ?_
  have blank : c = 0x0A ∨ c = 0x20 := by
    rcases List.mem_cons.mp hc with rfl | indent
    · exact .inl rfl
    · exact .inr (List.eq_of_mem_replicate indent)
  have letters : ∀ p ∈ firstLetters, p.1 ≠ Regex.foldCase 0x0A ∧ p.1 ≠ Regex.foldCase 0x20 := by decide
  intro p hp
  rcases blank with rfl | rfl
  · exact (letters p hp).1
  · exact (letters p hp).2

theorem closed_encodeString (s : Text) : (sensitiveText rt.toRuntime).Closed (encodeString s) :=
  fun rest => sensitiveText_final.search_append List.getLast?_concat rest

/-- A text without marks, in quotes. -/
theorem search_encodeString_unmarked {s : Text} (h : Unescaped s) (unmarked : ∀ c ∈ s, ¬mark rt.toRuntime c) :
    (sensitiveText rt.toRuntime).search (encodeString s) = false := by
  refine sensitiveText_marked.search_eq_false fun c hc => ?_
  rw [encodeString, flatMap_escapeChar_of_unescaped h, List.cons_append, List.mem_cons, List.mem_append,
    List.mem_singleton] at hc
  rcases hc with rfl | inside | rfl
  · exact not_mark_quote
  · exact unmarked c inside
  · exact not_mark_quote

theorem allowedKeys_range : ∀ key ∈ allowedKeys, ∀ c ∈ key, 0x5F ≤ c ∧ c ≤ 0x7A := by
  unfold allowedKeys
  simp only [List.map_cons, List.map_nil, List.forall_mem_cons, List.not_mem_nil, false_implies, implies_true, and_true]
  and_intros <;> exact Regex.snakeCase_text (by decide)

theorem unescaped_of_keeps {key : Text} (h : keeps key = true) : Unescaped key := by
  intro c hc
  rw [keeps, Bool.and_eq_true, List.contains_iff_mem] at h
  have range := allowedKeys_range key h.2 c hc
  unfold plainChar
  omega

/-- A kept key is quiet when it is written. -/
theorem quiet_key {key : Text} (h : keeps key = true) : (sensitiveText rt.toRuntime).Quiet (encodeString key) := by
  refine ⟨closed_encodeString key, search_encodeString_unmarked (unescaped_of_keeps h) fun c hc => ?_⟩
  rw [keeps, Bool.and_eq_true, List.contains_iff_mem] at h
  have range := allowedKeys_range key h.2 c hc
  unfold mark
  rw [rt.space_ascii c (by omega)]
  simp only [Bool.or_eq_true, decide_eq_true_eq]
  omega

mutual

/-- The strings of a value, apart from those under keys that are not kept. -/
def keptTexts : Value → List Text
  | .dict items => keptTextsPairs items
  | .list items => keptTextsItems items
  | .str s => [s]
  | _ => []

def keptTextsItems : List Value → List Text
  | [] => []
  | v :: items => keptTexts v ++ keptTextsItems items

def keptTextsPairs : List (Text × Value) → List Text
  | [] => []
  | kv :: items => (if keeps kv.1 then keptTextsPair kv else []) ++ keptTextsPairs items

def keptTextsPair : Text × Value → List Text
  | (_, v) => keptTexts v

end

theorem keptTextsItems_eq (items : List Value) : keptTextsItems items = items.flatMap keptTexts := by
  induction items with
  | nil => rfl
  | cons v items ih => rw [keptTextsItems, ih, List.flatMap_cons]

theorem keptTextsPairs_eq (items : List (Text × Value)) :
    keptTextsPairs items = items.flatMap fun kv => if keeps kv.1 then keptTexts kv.2 else [] := by
  induction items with
  | nil => rfl
  | cons kv items ih => rw [keptTextsPairs, ih, List.flatMap_cons, keptTextsPair]

/-- The strings of the parts of a container have the matches of it. -/
theorem search_block {opening closing : String} {parts : List Text} (level : Nat)
    (ho : Regex.calm firstLetters (text opening) = true) (hc : Regex.calm firstLetters (text closing) = true)
    (hparts : ∀ t ∈ parts, (sensitiveText rt.toRuntime).Closed t) :
    (sensitiveText rt.toRuntime).Closed (block opening closing level parts) ∧
      (sensitiveText rt.toRuntime).search (block opening closing level parts) =
        parts.any (sensitiveText rt.toRuntime).search := by
  have opens : (sensitiveText rt.toRuntime).Quiet (text opening) := quiet_of_calm ho
  have closes : (sensitiveText rt.toRuntime).Quiet (text closing) := quiet_of_calm hc
  have line : ∀ level, (sensitiveText rt.toRuntime).Quiet (newline level) := fun level => quiet_of_calm (calm_newline level)
  have sep : (sensitiveText rt.toRuntime).Quiet (text "," ++ newline (level + 1)) := by
    have comma : (sensitiveText rt.toRuntime).Quiet (text ",") := quiet_of_calm (by decide +kernel)
    exact ⟨comma.closed.append (line _).closed, by rw [comma.closed, comma.search, (line _).search]; rfl⟩
  have joined := Regex.search_joinText rfl sep hparts
  have closed := Regex.Closed.join rfl sep.closed hparts
  unfold block
  by_cases empty : parts = []
  · subst empty
    refine ⟨opens.closed.append closes.closed, ?_⟩
    show (sensitiveText rt.toRuntime).search (text opening ++ text closing) = false
    rw [opens.closed, opens.search, closes.search]
    rfl
  · rw [if_neg (by simpa using empty)]
    refine ⟨(((opens.closed.append (line _).closed).append closed).append (line _).closed).append closes.closed, ?_⟩
    rw [List.append_assoc, List.append_assoc, List.append_assoc, opens.closed, (line _).closed, closed, (line _).closed,
      opens.search, (line _).search, (line _).search, closes.search, joined]
    simp

/-- A text is closed, and its matches are those of these strings. -/
structure Shows (rt : JsonRuntime) (t : Text) (strings : List Text) : Prop where
  closed : (sensitiveText rt.toRuntime).Closed t
  search_iff : (sensitiveText rt.toRuntime).search t = true ↔
    ∃ s ∈ strings, (sensitiveText rt.toRuntime).search (encodeString s) = true

theorem shows_scalar {v : Value} (scalar : v.isScalar = true) (level : Nat) :
    Shows rt (encode rt.toRuntime level v) (keptTexts v) := by
  have word : ∀ t : Text, Regex.calm firstLetters t = true → Shows rt t [] := by
    intro t h
    have quiet : (sensitiveText rt.toRuntime).Quiet t := quiet_of_calm h
    exact ⟨quiet.closed, by simp [quiet.search]⟩
  cases v with
  | none => exact word (text "null") (by decide +kernel)
  | bool b =>
      cases b with
      | false => exact word (text "false") (by decide +kernel)
      | true => exact word (text "true") (by decide +kernel)
  | int n => exact word _ (calm_numeral (intText_numeral n).2)
  | float x =>
      cases x with
      | finite negative x => exact word _ (calm_numeral (rt.floats negative x).2)
      | inf negative =>
          cases negative with
          | false => exact word (text "Infinity") (by decide +kernel)
          | true => exact word (text "-Infinity") (by decide +kernel)
      | nan => exact word (text "NaN") (by decide +kernel)
  | str s => exact ⟨closed_encodeString s, by simp [keptTexts, encode]⟩
  | list items => cases scalar
  | dict items => cases scalar

/-- A member shows what its value does. -/
theorem shows_member {key t : Text} {strings : List Text} (hkey : keeps key = true) (h : Shows rt t strings) :
    Shows rt (encodeString key ++ text ": " ++ t) strings := by
  have name : (sensitiveText rt.toRuntime).Quiet (encodeString key) := quiet_key hkey
  have colon : (sensitiveText rt.toRuntime).Quiet (text ": ") := quiet_of_calm (by decide +kernel)
  refine ⟨(name.closed.append colon.closed).append h.closed, ?_⟩
  rw [List.append_assoc, name.closed, colon.closed, name.search, colon.search, Bool.false_or, Bool.false_or]
  exact h.search_iff

/-- The text of a value with kept keys shows its strings. -/
theorem shows_encode {v : Value} (h : v.KeysIn fun key => keeps key = true) (level : Nat) :
    Shows rt (encode rt.toRuntime level v) (keptTexts v) := by
  induction h generalizing level with
  | scalar v scalar => exact shows_scalar scalar level
  | list items _ ih =>
      rw [encode, encodeItems_eq_map]
      have parts : ∀ t ∈ items.map (encode rt.toRuntime (level + 1)), (sensitiveText rt.toRuntime).Closed t := by
        intro t ht
        obtain ⟨v, hv, rfl⟩ := List.mem_map.mp ht
        exact (ih v hv (level + 1)).closed
      have brackets : Regex.calm firstLetters (text "[") = true ∧ Regex.calm firstLetters (text "]") = true := by
        decide +kernel
      obtain ⟨closed, found⟩ := search_block level brackets.1 brackets.2 parts
      refine ⟨closed, ?_⟩
      rw [found, keptTexts, keptTextsItems_eq, List.any_eq_true]
      simp only [List.mem_flatMap, List.mem_map, exists_exists_and_eq_and]
      constructor
      · rintro ⟨v, hv, shown⟩
        obtain ⟨s, hs, shown⟩ := (ih v hv (level + 1)).search_iff.mp shown
        exact ⟨s, ⟨v, hv, hs⟩, shown⟩
      · rintro ⟨s, ⟨v, hv, hs⟩, shown⟩
        exact ⟨v, hv, (ih v hv (level + 1)).search_iff.mpr ⟨s, hs, shown⟩⟩
  | dict items keys _ ih =>
      rw [encode, encodePairs_eq_map]
      let member (kt : Text × Text) : Text := encodeString kt.1 ++ text ": " ++ kt.2
      let pair (kv : Text × Value) : Text × Text := (kv.1, encode rt.toRuntime (level + 1) kv.2)
      have shown : ∀ kv ∈ items, Shows rt (member (pair kv)) (keptTexts kv.2) :=
        fun kv hkv => shows_member (keys kv hkv) (ih kv hkv (level + 1))
      have source : ∀ t, t ∈ (sortPairs (items.map pair)).map member ↔ ∃ kv ∈ items, member (pair kv) = t := by
        intro t
        rw [List.mem_map]
        simp only [(sortPairs_perm (items.map pair)).mem_iff, List.mem_map, exists_exists_and_eq_and]
      have parts : ∀ t ∈ (sortPairs (items.map pair)).map member, (sensitiveText rt.toRuntime).Closed t := by
        intro t ht
        obtain ⟨kv, hkv, rfl⟩ := (source t).mp ht
        exact (shown kv hkv).closed
      have braces : Regex.calm firstLetters (text "\x7b") = true ∧ Regex.calm firstLetters (text "\x7d") = true := by
        decide +kernel
      obtain ⟨closed, found⟩ := search_block level braces.1 braces.2 parts
      refine ⟨closed, ?_⟩
      rw [found, keptTexts, keptTextsPairs_eq, List.any_eq_true]
      simp only [List.mem_flatMap]
      constructor
      · rintro ⟨t, ht, hit⟩
        obtain ⟨kv, hkv, rfl⟩ := (source t).mp ht
        obtain ⟨s, hs, hit⟩ := (shown kv hkv).search_iff.mp hit
        exact ⟨s, ⟨kv, hkv, by rw [if_pos (keys kv hkv)]; exact hs⟩, hit⟩
      · rintro ⟨s, ⟨kv, hkv, hs⟩, hit⟩
        rw [if_pos (keys kv hkv)] at hs
        exact ⟨_, (source _).mpr ⟨kv, hkv, rfl⟩, (shown kv hkv).search_iff.mpr ⟨s, hs, hit⟩⟩

/-! ## The output of the sanitizer -/

def redacted : Text := text "[REDACTED]"

theorem sanitizePairs_eq (rt : Runtime) (items : List (Text × Value)) :
    sanitizePairs rt items =
      (items.filter fun kv => keeps kv.1).map fun kv => (kv.1, sanitizePayload rt kv.2) := by
  induction items with
  | nil => rfl
  | cons kv items ih =>
      rw [sanitizePairs, ih, sanitizePair]
      by_cases hkeep : keeps kv.1 = true
      · rw [if_pos hkeep, List.filter_cons, if_pos hkeep, List.map_cons]
      · rw [if_neg hkeep, List.filter_cons, if_neg hkeep]

theorem sanitizeItems_eq_map (rt : Runtime) (items : List Value) :
    sanitizeItems rt items = items.map (sanitizePayload rt) := by
  induction items with
  | nil => rfl
  | cons v items ih => rw [sanitizeItems, ih, List.map_cons]

theorem sanitizePayload_scalar {v : Value} (scalar : v.isScalar = true) (rt : Runtime) :
    (sanitizePayload rt v).isScalar = true ∧
      keptTexts (sanitizePayload rt v) =
        (keptTexts v).map fun s => if (sensitiveText rt).search s then redacted else s := by
  cases v with
  | str s =>
      rw [sanitizePayload, keptTexts]
      by_cases hs : (sensitiveText rt).search s = true
      · simp [hs, keptTexts, redacted, Value.isScalar]
      · simp [hs, keptTexts, Value.isScalar]
  | list items => cases scalar
  | dict items => cases scalar
  | _ => exact ⟨rfl, rfl⟩

theorem keysIn_sanitizePayload (rt : Runtime) (v : Value) :
    (sanitizePayload rt v).KeysIn fun key => keeps key = true := by
  induction v using Value.induction with
  | scalar v scalar => exact .scalar _ (sanitizePayload_scalar scalar rt).1
  | list items ih =>
      rw [sanitizePayload, sanitizeItems_eq_map]
      refine .list _ fun v hv => ?_
      obtain ⟨u, hu, rfl⟩ := List.mem_map.mp hv
      exact ih u hu
  | dict items ih =>
      rw [sanitizePayload, sanitizePairs_eq]
      have source : ∀ kv ∈ (items.filter fun kv => keeps kv.1).map fun kv => (kv.1, sanitizePayload rt kv.2),
          keeps kv.1 = true ∧ kv.2.KeysIn fun key => keeps key = true := by
        intro kv hkv
        obtain ⟨u, hu, rfl⟩ := List.mem_map.mp hkv
        obtain ⟨listed, kept⟩ := List.mem_filter.mp hu
        exact ⟨kept, ih u listed⟩
      exact .dict _ (fun kv hkv => (source kv hkv).1) fun kv hkv => (source kv hkv).2

/-- The texts of the output are those of the payload, redacted where they are sensitive. -/
theorem keptTexts_sanitizePayload (rt : Runtime) (v : Value) :
    keptTexts (sanitizePayload rt v) = (keptTexts v).map fun s => if (sensitiveText rt).search s then redacted else s := by
  induction v using Value.induction with
  | scalar v scalar => exact (sanitizePayload_scalar scalar rt).2
  | list items ih =>
      rw [sanitizePayload, sanitizeItems_eq_map, keptTexts, keptTexts, keptTextsItems_eq, keptTextsItems_eq,
        List.flatMap_map, List.map_flatMap]
      exact List.flatMap_congr ih
  | dict items ih =>
      rw [sanitizePayload, sanitizePairs_eq, keptTexts, keptTexts, keptTextsPairs_eq, keptTextsPairs_eq, List.flatMap_map,
        List.map_flatMap]
      induction items with
      | nil => rfl
      | cons kv items rest =>
          rw [List.forall_mem_cons] at ih
          rw [List.flatMap_cons]
          by_cases hkeep : keeps kv.1 = true
          · rw [List.filter_cons, if_pos hkeep, List.flatMap_cons, rest ih.2, if_pos hkeep, if_pos hkeep, ih.1]
          · rw [List.filter_cons, if_neg hkeep, rest ih.2, if_neg hkeep, List.map_nil, List.nil_append]

theorem quiet_redacted : (sensitiveText rt.toRuntime).search (encodeString redacted) = false := by
  have spelled : redacted = [0x5B, 0x52, 0x45, 0x44, 0x41, 0x43, 0x54, 0x45, 0x44, 0x5D] := by decide +kernel
  refine search_encodeString_unmarked ?_ ?_
  · rw [spelled]
    unfold Unescaped plainChar
    decide
  · rw [spelled]
    intro c hc
    have range : ∀ c ∈ [0x5B, 0x52, 0x45, 0x44, 0x41, 0x43, 0x54, 0x45, 0x44, 0x5D], 0x40 < c ∧ c < 128 := by decide
    have bounds := range c hc
    unfold mark
    rw [rt.space_ascii c bounds.2]
    simp only [Bool.or_eq_true, decide_eq_true_eq]
    omega

/-- Where the file of a sanitized payload has no match. -/
theorem search_file_iff (payload : Value) :
    (sensitiveText rt.toRuntime).search (encode rt.toRuntime 0 (sanitizePayload rt.toRuntime payload) ++ [0x0A]) = false ↔
      ∀ s ∈ keptTexts payload, (sensitiveText rt.toRuntime).search s = false → ¬Opened rt.toRuntime s := by
  have shown : Shows rt (encode rt.toRuntime 0 (sanitizePayload rt.toRuntime payload)) _ :=
    shows_encode (keysIn_sanitizePayload rt.toRuntime payload) 0
  have line : (sensitiveText rt.toRuntime).search [0x0A] = false := (quiet_of_calm (by decide)).search
  rw [shown.closed, line, Bool.or_false, ← Bool.not_eq_true, shown.search_iff, keptTexts_sanitizePayload]
  simp only [← search_encodeString_iff, List.mem_map, exists_exists_and_eq_and, not_exists, not_and, Bool.not_eq_true]
  refine forall_congr' fun s => forall_congr' fun _ => ?_
  by_cases hs : (sensitiveText rt.toRuntime).search s = true
  · simp [hs, quiet_redacted]
  · rw [Bool.not_eq_true] at hs
    simp [hs]

/-! ## What the validator reports -/

/-- Kept keys are not sensitive. -/
theorem sensitiveKeys_eq_nil {v : Value} (h : v.KeysIn fun key => keeps key = true) : sensitiveKeys v = [] := by
  induction h with
  | scalar v scalar =>
      cases v with
      | list items => cases scalar
      | dict items => cases scalar
      | _ => rfl
  | list items keys ih =>
      rw [sensitiveKeys]
      induction items with
      | nil => rfl
      | cons v items rest =>
          rw [sensitiveKeysItems, ih v (by simp), List.nil_append]
          exact rest (fun w hw => keys w (List.mem_cons_of_mem v hw)) fun w hw => ih w (List.mem_cons_of_mem v hw)
  | dict items keys values ih =>
      rw [sensitiveKeys]
      induction items with
      | nil => rfl
      | cons kv items rest =>
          have kept := keys kv (by simp)
          rw [keeps, Bool.and_eq_true, Bool.not_eq_true'] at kept
          have member : sensitiveKeysPair kv = [] := by
            have value := ih kv (by simp)
            obtain ⟨key, v⟩ := kv
            rw [sensitiveKeysPair, kept.1, value]
            rfl
          rw [sensitiveKeysPairs, member, List.nil_append]
          exact rest (fun w hw => keys w (List.mem_cons_of_mem kv hw)) (fun w hw => values w (List.mem_cons_of_mem kv hw))
            fun w hw => ih w (List.mem_cons_of_mem kv hw)

/-- The path of which a sensitive value or key is reported. -/
def ArtifactError.sensitiveIn : ArtifactError → Option Text
  | .sensitiveValue path => some path
  | .sensitiveKeyFound path _ => some path
  | _ => none

/-- Nothing sensitive is reported of a file without a match and without sensitive keys. -/
theorem fileErrors_sensitiveIn {rt : Runtime} {path s : Text} {errors : List ArtifactError}
    (h : fileErrors rt path s = .ok errors) {e : ArtifactError} (he : e ∈ errors) {p : Text} (hp : e.sensitiveIn = some p) :
    p = path ∧ ((sensitiveText rt).search (universalNewlines s) = true ∨
      ∃ payload, loads rt (universalNewlines s) = .ok payload ∧ sensitiveKeys payload ≠ []) := by
  have value : ∀ e ∈ (if (sensitiveText rt).search (universalNewlines s) then [ArtifactError.sensitiveValue path] else []),
      e.sensitiveIn = some p → p = path ∧ (sensitiveText rt).search (universalNewlines s) = true := by
    intro e he hp
    by_cases hs : (sensitiveText rt).search (universalNewlines s) = true
    · rw [if_pos hs] at he
      obtain rfl := List.mem_singleton.mp he
      cases hp
      exact ⟨rfl, hs⟩
    · rw [if_neg hs] at he
      cases he
  simp only [fileErrors] at h
  by_cases json : suffix path = text ".json"
  · rw [if_pos json] at h
    cases read : loads rt (universalNewlines s) with
    | error raised =>
        rw [read] at h
        cases raised with
        | jsonDecodeError =>
            cases h
            rcases List.mem_append.mp he with early | last
            · obtain ⟨same, hs⟩ := value e early hp
              exact ⟨same, .inl hs⟩
            · rw [List.mem_singleton.mp last] at hp
              cases hp
        | _ => cases h
    | ok payload =>
        rw [read] at h
        obtain ⟨keys, checked, rest⟩ := (bind_eq_ok_iff _ _ _).mp h
        cases rest
        rcases List.mem_append.mp he with early | later
        · obtain ⟨same, hs⟩ := value e early hp
          exact ⟨same, .inl hs⟩
        · unfold validateJsonKeys at checked
          split_ifs at checked
          cases checked
          obtain ⟨key, hkey, rfl⟩ := List.mem_map.mp later
          cases hp
          exact ⟨rfl, .inr ⟨payload, rfl, List.ne_nil_of_mem hkey⟩⟩
  · rw [if_neg json] at h
    cases h
    obtain ⟨same, hs⟩ := value e he hp
    exact ⟨same, .inl hs⟩

theorem manifestErrors_sensitiveIn (name : Text) (manifest : List (Text × Value)) :
    ∀ e ∈ manifestErrors name manifest, e.sensitiveIn = none := by
  unfold manifestErrors
  simp only [List.forall_mem_append]
  refine ⟨⟨⟨?_, ?_⟩, ?_⟩, ?_⟩ <;> intro e he
  · split_ifs at he
    · cases he
    · rw [List.mem_singleton.mp he]
      rfl
  · split at he
    · split_ifs at he
      · cases he
      · rw [List.mem_singleton.mp he]
        rfl
    · rw [List.mem_singleton.mp he]
      rfl
  · split at he
    · cases he
    · rw [List.mem_singleton.mp he]
      rfl
  · split at he
    · cases he
    · rw [List.mem_singleton.mp he]
      rfl

theorem reportErrors_sensitiveIn {rt : Runtime} {manifest : List (Text × Value)} {report : Option Text}
    {errors : List ArtifactError} (h : reportErrors rt manifest report = .ok errors) :
    ∀ e ∈ errors, e.sensitiveIn = none := by
  cases report with
  | none =>
      cases h
      simp
  | some report =>
      obtain ⟨incidentId, -, h⟩ := (bind_eq_ok_iff _ _ _).mp h
      cases h
      rw [List.forall_mem_append]
      refine ⟨fun e he => ?_, fun e he => ?_⟩
      · split_ifs at he
        · cases he
        · rw [List.mem_singleton.mp he]
          rfl
      · split_ifs at he
        · cases he
        · rw [List.mem_singleton.mp he]
          rfl

theorem mem_of_mapM_ok {α β : Type} {f : α → Except PyError β} {xs : List α} {ys : List β} (h : xs.mapM f = .ok ys) :
    ∀ y ∈ ys, ∃ x ∈ xs, f x = .ok y := by
  induction xs generalizing ys with
  | nil =>
      cases h
      simp
  | cons x xs ih =>
      rw [List.mapM_cons] at h
      obtain ⟨y, hy, h⟩ := (bind_eq_ok_iff _ _ _).mp h
      obtain ⟨rest, hrest, h⟩ := (bind_eq_ok_iff _ _ _).mp h
      cases h
      intro z hz
      rcases List.mem_cons.mp hz with rfl | later
      · exact ⟨x, by simp, hy⟩
      · obtain ⟨x', hx', same⟩ := ih hrest z later
        exact ⟨x', List.mem_cons_of_mem x hx', same⟩

/-- What is sensitive is reported by the loop over the files. -/
theorem validateArtifact_sensitiveIn {rt : Runtime} {dir : IncidentDir} {errors : List ArtifactError}
    (h : validateArtifact rt dir = .ok errors) {e : ArtifactError} (he : e ∈ errors) {p : Text} (hp : e.sensitiveIn = some p) :
    ∃ file ∈ dir.files, ∃ found, fileErrors rt file.1 file.2 = .ok found ∧ e ∈ found := by
  unfold validateArtifact at h
  cases manifest : dir.files.lookup (text "manifest.json") with
  | none =>
      rw [manifest] at h
      cases h
      rw [List.mem_singleton.mp he] at hp
      cases hp
  | some s =>
      rw [manifest] at h
      cases read : loads rt (universalNewlines s) with
      | error raised =>
          simp only [read] at h
          cases raised with
          | jsonDecodeError =>
              cases h
              rw [List.mem_singleton.mp he] at hp
              cases hp
          | _ => cases h
      | ok payload =>
          simp only [read] at h
          obtain ⟨items, -, h⟩ := (bind_eq_ok_iff _ _ _).mp h
          obtain ⟨scanned, hscanned, h⟩ := (bind_eq_ok_iff _ _ _).mp h
          obtain ⟨reported, hreported, h⟩ := (bind_eq_ok_iff _ _ _).mp h
          cases h
          rw [List.mem_append, List.mem_append, List.mem_append] at he
          rcases he with ((ofManifest | missing) | scan) | report
          · rw [manifestErrors_sensitiveIn _ _ e ofManifest] at hp
            cases hp
          · obtain ⟨file, -, rfl⟩ := List.mem_map.mp missing
            cases hp
          · obtain ⟨found, hfound, he⟩ := List.mem_flatten.mp scan
            obtain ⟨file, hfile, same⟩ := mem_of_mapM_ok hscanned found hfound
            exact ⟨file, hfile, found, same, he⟩
          · rw [reportErrors_sensitiveIn hreported e report] at hp
            cases hp

/-- The validator finds nothing sensitive in the text of a file, wherever the file is. -/
structure Passes (rt : Runtime) (file : Text) : Prop where
  clean : (sensitiveText rt).search file = false
  keys : ∀ payload, loads rt file = .ok payload → sensitiveKeys payload = []
  reported : ∀ (dir : IncidentDir) (path : Text) (errors : List ArtifactError), (dir.files.map Prod.fst).Nodup →
    (path, file) ∈ dir.files → validateArtifact rt dir = .ok errors → ∀ e ∈ errors, e.sensitiveIn ≠ some path

/-- The keys of what is read of a sanitized file are kept ones. -/
theorem sensitiveKeys_file {payload w : Value}
    (read : loads rt.toRuntime (encode rt.toRuntime 0 (sanitizePayload rt.toRuntime payload) ++ [0x0A]) = .ok w) :
    sensitiveKeys w = [] :=
  sensitiveKeys_eq_nil (loads_keysIn rt.floats (fun _ => unescaped_of_keeps) (keysIn_sanitizePayload rt.toRuntime payload) read)

theorem passes_of_clean {payload : Value}
    (clean : (sensitiveText rt.toRuntime).search
      (encode rt.toRuntime 0 (sanitizePayload rt.toRuntime payload) ++ [0x0A]) = false) :
    Passes rt.toRuntime (encode rt.toRuntime 0 (sanitizePayload rt.toRuntime payload) ++ [0x0A]) := by
  refine ⟨clean, fun w read => sensitiveKeys_file read, fun dir path errors distinct listed checked e he sensitive => ?_⟩
  obtain ⟨file, hfile, found, hfound, hin⟩ := validateArtifact_sensitiveIn checked he sensitive
  obtain ⟨same, shown⟩ := fileErrors_sensitiveIn hfound hin sensitive
  have text_eq : file.2 = encode rt.toRuntime 0 (sanitizePayload rt.toRuntime payload) ++ [0x0A] := by
    have unique := List.inj_on_of_nodup_map distinct hfile listed same.symm
    rw [unique]
  have printed : Printed (encode rt.toRuntime 0 (sanitizePayload rt.toRuntime payload) ++ [0x0A]) := by
    refine (printed_encode rt.floats _ 0).append fun c hc => ?_
    exact .inr (List.mem_singleton.mp hc)
  rw [text_eq, universalNewlines_of_printed printed] at shown
  rcases shown with found | ⟨w, read, keys⟩
  · rw [clean] at found
    cases found
  · exact keys (sensitiveKeys_file read)

end

/-- **The sanitizer against the validator.** The validator finds nothing sensitive in the file of a sanitized payload
exactly where no string of it that the sanitizer keeps, finding no match, is open: one that the quote after it or an
escape in it completes to a match. -/
theorem artifact_passes_iff (rt : JsonRuntime) (payload v : Value) (file : Text)
    (sanitized : sanitize rt.toRuntime payload = .ok v) (written : jsonFile rt.toRuntime v = .ok file) :
    Passes rt.toRuntime file ↔
      ∀ s ∈ keptTexts payload, (sensitiveText rt.toRuntime).search s = false → ¬Opened rt.toRuntime s := by
  obtain ⟨-, rfl⟩ := (sanitize_eq_ok_iff rt.toRuntime payload v).mp sanitized
  obtain ⟨dumped, hdumped, written⟩ := (bind_eq_ok_iff _ _ _).mp written
  cases written
  unfold dumps at hdumped
  split_ifs at hdumped
  cases hdumped
  rw [← search_file_iff]
  exact ⟨fun passes => passes.clean, passes_of_clean⟩

/-- CPython as a runtime of this file; its floats are those of a manifest. -/
def cpythonJson : JsonRuntime where
  toRuntime := cpython
  space_ascii := cpython_space_ascii
  floats := by
    intro negative x
    show text (if x < 7 / 10 then "0.6" else "0.8") ≠ [] ∧ ∀ c ∈ text (if x < 7 / 10 then "0.6" else "0.8"), numeral c = true
    split_ifs <;> decide +kernel

/-- `{"active": "yes"}`. -/
theorem active_passes :
    let payload := Value.dict [(text "active", .str (text "yes"))]
    ∃ v file, sanitize cpython payload = .ok v ∧ jsonFile cpython v = .ok file ∧ Passes cpython file := by
  intro payload
  have calls : sanitizeCalls cpython payload ≤ cpython.callDepth := by decide +kernel
  have nesting : (sanitizePayload cpython payload).nesting ≤ cpython.dumpsDepth := by decide +kernel
  have sanitized : sanitize cpython payload = .ok (sanitizePayload cpython payload) := if_pos calls
  have written : jsonFile cpython (sanitizePayload cpython payload) =
      .ok (encode cpython 0 (sanitizePayload cpython payload) ++ [0x0A]) := by
    unfold jsonFile dumps
    rw [if_pos nesting]
    rfl
  refine ⟨_, _, sanitized, written, (artifact_passes_iff cpythonJson _ _ _ sanitized written).mpr fun s hs _ => ?_⟩
  have only : keptTexts payload = [text "yes"] := by decide +kernel
  rw [only, List.mem_singleton] at hs
  have letters := Regex.snakeCase_text (l := ['y', 'e', 's']) (by decide)
  rw [hs, ← search_encodeString_iff, Bool.not_eq_true]
  refine search_encodeString_unmarked (fun c hc => ?_) fun c hc => ?_
  · have range := letters c hc
    unfold plainChar
    omega
  · have range := letters c hc
    unfold mark
    rw [cpythonJson.space_ascii c (by omega)]
    simp only [Bool.or_eq_true, decide_eq_true_eq]
    omega

/-- In the file of `{"activated_by": "Bearer "}` the quote after the blank completes `Bearer\s+\S+`. -/
theorem bearer_completed :
    let payload := Value.dict [(text "activated_by", .str (text "Bearer "))]
    ¬∀ v file, sanitize cpython payload = .ok v → jsonFile cpython v = .ok file → Passes cpython file := by
  intro payload passes
  have calls : sanitizeCalls cpython payload ≤ cpython.callDepth := by decide +kernel
  have nesting : (sanitizePayload cpython payload).nesting ≤ cpython.dumpsDepth := by decide +kernel
  have written : jsonFile cpython (sanitizePayload cpython payload) =
      .ok (encode cpython 0 (sanitizePayload cpython payload) ++ [0x0A]) := by
    unfold jsonFile dumps
    rw [if_pos nesting]
    rfl
  have passed := passes _ _ (if_pos calls) written
  have only : text "Bearer " ∈ keptTexts payload := by decide +kernel
  have unmatched : (sensitiveText cpython).search (text "Bearer ") = false := by decide +kernel
  refine (@search_file_iff cpythonJson payload).mp passed.clean _ only unmatched ?_
  -- the opening is the whole string
  have spelled : text "Bearer " = 0x42 :: text "earer " := by decide +kernel
  refine .inl ⟨0x42, text "earer ", [0x42], ?_, ?_, by simp, ?_, ?_⟩
  · exact spelled ▸ List.infix_rfl
  · unfold Unescaped plainChar
    decide +kernel
  · have plain : plainChar 0x42 := by
      unfold plainChar
      decide
    exact (escapeChar_of_plain plain).symm ▸ List.suffix_rfl
  · have name : (Regex.literal "Bearer").Matches (text "Bearer") := Regex.matches_literal.mpr rfl
    have blank : (Regex.concat [.space cpython]).Matches [0x20] := .seq (a := [0x20]) (.char rfl) .eps
    have listed : Regex.concat [.literal "Bearer", .space cpython] ∈ openings cpython := by simp [openings]
    exact Regex.matches_anyOf.mpr ⟨_, listed, .seq (a := text "Bearer") (b := [0x20]) name blank⟩

end EventConsistency.IncidentArtifact
