import EventConsistency.Lib.Matching
import EventConsistency.Sanitizing

/-!
# What the output of the sanitizer shows

* `sensitiveValue_plain`, `sensitiveValue_append` : every sensitive pattern comes to a blank, a colon, an equals sign or
  a hyphen before any full stop, so that none begins in a path through allowed keys;
* `Routed` : such a path. Of a removed path only the last key may be another one;
* **`output_clean_iff`** : for which payloads no text of the output is sensitive. A key that is not allowed is written
  into the redaction summary as it is.
-/

namespace EventConsistency.ContextSanitizer

open Lib.Python

section

variable {rt : TextRuntime}

/-! ## Marks of the sensitive patterns -/

/-- A blank, a colon, an equals sign or a hyphen. -/
def mark (rt : TextRuntime) (c : Nat) : Prop := rt.isSpace c = true ∨ c = 0x3A ∨ c = 0x3D ∨ c = 0x2D

def dot (c : Nat) : Prop := c = 0x2E

theorem dot_notMem {l : Text} (h : 0x2E ∉ l) : ∀ c, dot c → Regex.foldCase c ∉ l := by
  rintro c rfl
  exact h

theorem mark_space : ∀ c, rt.isSpace c = true → mark rt c := fun _ h => .inl h

theorem mark_hyphen : ∀ c, Regex.foldCase c = 0x2D → mark rt c := by
  intro c h
  exact .inr (.inr (.inr ((Regex.foldCase_eq_iff (by decide)).mp h)))

theorem mark_assigns : ∀ c, ((text ":=").any fun d => Regex.foldCase c == Regex.foldCase d) = true → mark rt c := by
  intro c h
  obtain ⟨d, hd, same⟩ := List.any_eq_true.mp h
  have listed : d = 0x3A ∨ d = 0x3D := by
    simpa [show text ":=" = [0x3A, 0x3D] by decide +kernel] using hd
  rcases listed with rfl | rfl
  · exact .inr (.inl ((Regex.foldCase_eq_iff (by decide)).mp (beq_iff_eq.mp same)))
  · exact .inr (.inr (.inl ((Regex.foldCase_eq_iff (by decide)).mp (beq_iff_eq.mp same))))

theorem marked_assigned {name : String} (h : 0x2E ∉ (text name).map Regex.foldCase) :
    (assigned rt name ":=").Marked (mark rt) dot :=
  Regex.marked_concat (dot_notMem h)
    (Regex.Opens.star mark_space (Regex.Opens.seq (Regex.opens_char mark_assigns)))

theorem marked_scheme {name : String} (h : 0x2E ∉ (text name).map Regex.foldCase) :
    (scheme rt name).Marked (mark rt) dot :=
  Regex.marked_concat (dot_notMem h) (Regex.Opens.seq (Regex.Opens.seq (Regex.opens_char mark_space)))

/-- A pattern with a hyphen in its literal. -/
theorem marked_hyphenated {name : String} {r : Regex} (h : 0x2E ∉ (text name).map Regex.foldCase)
    (hyphen : 0x2D ∈ (text name).map Regex.foldCase) (headed : r.Headed name) : r.Marked (mark rt) dot :=
  Regex.marked_headed (dot_notMem h) hyphen mark_hyphen headed

theorem sensitivePatterns_marked : (Regex.anyOf (sensitivePatterns rt)).Marked (mark rt) dot := by
  refine Regex.marked_anyOf ?_
  unfold sensitivePatterns
  simp only [List.forall_mem_cons, List.not_mem_nil, false_implies, implies_true, and_true]
  have equals : ∀ c, Regex.foldCase c = 0x3D → mark rt c := by
    intro c h
    exact .inr (.inr (.inl ((Regex.foldCase_eq_iff (by decide)).mp h)))
  have colon : ∀ c, Regex.foldCase c = 0x3A → mark rt c := by
    intro c h
    exact .inr (.inl ((Regex.foldCase_eq_iff (by decide)).mp h))
  refine ⟨marked_assigned ?_, marked_scheme ?_, marked_scheme ?_, marked_scheme ?_, marked_assigned ?_, marked_assigned ?_,
    marked_assigned ?_, marked_assigned ?_, marked_assigned ?_, marked_assigned ?_, ?_,
    Regex.marked_headed (dot_notMem ?_) (d := 0x3A) ?_ colon Regex.headed_concat,
    marked_hyphenated ?_ ?_ Regex.headed_literal, marked_hyphenated ?_ ?_ Regex.headed_literal,
    marked_hyphenated ?_ ?_ Regex.headed_literal, marked_hyphenated ?_ ?_ Regex.headed_literal⟩
  case refine_11 =>
    refine Regex.marked_concat (dot_notMem (by decide +kernel)) (Regex.Opens.star mark_space (Regex.Opens.seq ?_))
    have spelled : (text "=").map Regex.foldCase = [0x3D] := by decide +kernel
    exact Regex.opens_literal spelled equals
  all_goals decide +kernel

theorem accountNumber_marked : (accountNumber rt).Marked (mark rt) dot :=
  marked_hyphenated (by decide +kernel) (by decide +kernel) Regex.headed_concat

/-! ## The pattern between word boundaries -/

theorem matchesToBoundary_matches {r : Regex} {last : Option Nat} {t : Text}
    (h : matchesToBoundary rt r last t = true) : ∃ m, m <+: t ∧ r.Matches m := by
  induction t generalizing r last with
  | nil =>
      rw [matchesToBoundary, Bool.and_eq_true] at h
      exact ⟨[], List.nil_prefix, Regex.nullable_iff.mp h.1⟩
  | cons c t ih =>
      rw [matchesToBoundary, Bool.or_eq_true, Bool.and_eq_true] at h
      obtain ⟨here, -⟩ | later := h
      · exact ⟨[], List.nil_prefix, Regex.nullable_iff.mp here⟩
      · obtain ⟨m, hm, matched⟩ := ih later
        exact ⟨c :: m, (List.prefix_cons_inj c).mpr hm, Regex.matches_deriv.mp matched⟩

theorem searchBounded_matches {r : Regex} {last : Option Nat} {t : Text} (h : searchBounded rt r last t = true) :
    ∃ m, m <:+: t ∧ r.Matches m := by
  induction t generalizing last with
  | nil =>
      rw [searchBounded, Bool.and_eq_true] at h
      obtain ⟨m, hm, matched⟩ := matchesToBoundary_matches h.2
      exact ⟨m, hm.isInfix, matched⟩
  | cons c t ih =>
      rw [searchBounded, Bool.or_eq_true, Bool.and_eq_true] at h
      obtain ⟨-, here⟩ | later := h
      · obtain ⟨m, hm, matched⟩ := matchesToBoundary_matches here
        exact ⟨m, hm.isInfix, matched⟩
      · obtain ⟨m, hm, matched⟩ := ih later
        exact ⟨m, List.infix_cons hm, matched⟩

theorem searchBounded_append {r : Regex} {last : Option Nat} {a b : Text}
    (h : ∀ x, x ≠ [] → x <:+ a → ∀ m, m <+: x ++ b → ¬r.Matches m) :
    searchBounded rt r last (a ++ b) = searchBounded rt r (a.getLast?.or last) b := by
  induction a generalizing last with
  | nil => rfl
  | cons c a ih =>
      have here : matchesToBoundary rt r last (c :: (a ++ b)) = false := by
        rw [← Bool.not_eq_true]
        intro found
        obtain ⟨m, hm, matched⟩ := matchesToBoundary_matches found
        exact h (c :: a) (by simp) List.suffix_rfl m hm matched
      rw [List.cons_append, searchBounded, here, Bool.and_false, Bool.false_or,
        ih fun x hx hs => h x hx (hs.trans (List.suffix_cons c a))]
      cases a with
      | nil => rfl
      | cons d a => rw [List.getLast?_cons_cons, List.getLast?_eq_some_getLast (List.cons_ne_nil d a)]; rfl

theorem boundary_last {last last' : Option Nat} (h : last.any rt.isWord = last'.any rt.isWord) (next : Option Nat) :
    boundary rt last next = boundary rt last' next := by
  unfold boundary
  rw [h]

/-- Of the character before only matters whether it is one of a word. -/
theorem searchBounded_last {r : Regex} {last last' : Option Nat} (h : last.any rt.isWord = last'.any rt.isWord)
    (t : Text) : searchBounded rt r last t = searchBounded rt r last' t := by
  cases t with
  | nil => simp only [searchBounded, matchesToBoundary, boundary_last h]
  | cons c t => simp only [searchBounded, matchesToBoundary, boundary_last h]

/-! ## Plain texts -/

def Plain (rt : TextRuntime) (t : Text) : Prop := ∀ c ∈ t, ¬mark rt c

theorem mark_lt {c : Nat} (hc : c < 128) :
    mark rt c ↔ (9 ≤ c ∧ c ≤ 13) ∨ (28 ≤ c ∧ c ≤ 32) ∨ c = 0x3A ∨ c = 0x3D ∨ c = 0x2D := by
  unfold mark
  rw [rt.space_ascii c hc]
  simp only [Bool.or_eq_true, decide_eq_true_eq, or_assoc]

theorem Plain.append {s t : Text} (hs : Plain rt s) (ht : Plain rt t) : Plain rt (s ++ t) :=
  fun c hc => (List.mem_append.mp hc).elim (hs c) (ht c)

theorem Plain.unblank {t : Text} (h : Plain rt t) : ∀ c ∈ t, rt.isSpace c = false := by
  intro c hc
  rw [← Bool.not_eq_true]
  exact fun blank => h c hc (.inl blank)

theorem Plain.strip {t : Text} (h : Plain rt t) : rt.strip t = t := rt.strip_of_forall h.unblank

/-- A name of small letters and underscores. -/
theorem plain_text {l : List Char} (h : (l.all fun c => c.isLower || c == '_') = true) :
    Plain rt (text (String.ofList l)) := by
  intro c hc
  have range := Regex.snakeCase_text h c hc
  rw [mark_lt (by omega)]
  omega

theorem sensitiveValue_plain {t : Text} (h : Plain rt t) : sensitiveValue rt t = false := by
  have bounded : searchBounded rt (accountNumber rt) none t = false := by
    rw [← Bool.not_eq_true]
    intro found
    obtain ⟨m, hm, matched⟩ := searchBounded_matches found
    obtain ⟨before, c, after, rfl, hc, -⟩ := accountNumber_marked m matched
    exact h c (hm.subset (by simp)) hc
  unfold sensitiveValue
  rw [sensitivePatterns_marked.search_eq_false h, bounded]
  rfl

/-- A plain text that ends with a full stop. -/
theorem sensitiveValue_append {a : Text} (h : Plain rt a) (ha : a.getLast? = some 0x2E) (b : Text) :
    sensitiveValue rt (a ++ b) = sensitiveValue rt b := by
  have stop : (some 0x2E : Option Nat).any rt.isWord = (none : Option Nat).any rt.isWord := by
    simp [rt.word_ascii 0x2E (by decide)]
  unfold sensitiveValue
  rw [sensitivePatterns_marked.search_append h rfl ha,
    searchBounded_append fun _ hx hs _ hm => accountNumber_marked.no_start h rfl ha hx hs hm, ha]
  rw [Option.some_or, searchBounded_last stop]

theorem allowedKeys_plain : ∀ key ∈ allowedKeys, Plain rt key := by
  unfold allowedKeys
  simp only [List.map_cons, List.map_nil, List.forall_mem_cons, List.not_mem_nil, false_implies, implies_true, and_true]
  and_intros <;> exact plain_text (by decide)

/-! ## Paths through allowed keys -/

inductive Routed : Text → Prop where
  | root : Routed textPaths.root
  | child {path key : Text} (h : Routed path) (allowed : allowedKeys.contains key = true) :
      Routed (textPaths.child path key)
  | item {path : Text} (h : Routed path) (index : Nat) : Routed (textPaths.item path index)

theorem plain_intText (n : Nat) : Plain rt (intText n) := by
  intro c hc
  obtain ⟨d, hd, rfl⟩ := List.mem_map.mp hc
  have digit := Nat.isDigit_of_mem_toDigits (by decide) (by decide) hd
  simp only [Char.isDigit, Bool.and_eq_true, decide_eq_true_eq] at digit
  have low : (48 : Nat) ≤ d.toNat := UInt32.le_iff_toNat_le.mp digit.1
  have high : d.toNat ≤ 57 := UInt32.le_iff_toNat_le.mp digit.2
  rw [mark_lt (by omega)]
  omega

theorem plain_singleton {c : Nat} (hc : c < 128)
    (h : ¬((9 ≤ c ∧ c ≤ 13) ∨ (28 ≤ c ∧ c ≤ 32) ∨ c = 0x3A ∨ c = 0x3D ∨ c = 0x2D)) : Plain rt [c] := by
  intro d hd
  obtain rfl := List.mem_singleton.mp hd
  rwa [mark_lt hc]

theorem text_dot : text "." = [0x2E] := by decide +kernel

theorem Routed.plain {path : Text} (h : Routed path) : Plain rt path := by
  have spelled : text "$" = [0x24] ∧ text "[" = [0x5B] ∧ text "]" = [0x5D] := by decide +kernel
  induction h with
  | root =>
      rw [textPaths, spelled.1]
      exact plain_singleton (by decide) (by decide)
  | child _ allowed ih =>
      rw [textPaths, text_dot]
      exact (ih.append (plain_singleton (by decide) (by decide))).append
        (allowedKeys_plain _ (List.contains_iff_mem.mp allowed))
  | item _ index ih =>
      rw [textPaths, spelled.2.1, spelled.2.2]
      exact ((ih.append (plain_singleton (by decide) (by decide))).append (plain_intText index)).append
        (plain_singleton (by decide) (by decide))

/-- A routed path with a full stop. -/
theorem Routed.stopped {path : Text} (h : Routed path) : Plain rt (path ++ text ".") := by
  rw [text_dot]
  exact h.plain.append (plain_singleton (by decide) (by decide))

/-- Trimming a path takes from its last key, at the end. -/
theorem Routed.strip_child {path : Text} (h : Routed path) (key : Text) :
    rt.strip (textPaths.child path key) = path ++ text "." ++ key.rdropWhile rt.isSpace := by
  have stopped : Plain rt (path ++ text ".") := h.stopped
  refine rt.strip_append stopped.unblank ?_ key
  rw [text_dot]
  simp

/-- The last key of a removed path alone decides. -/
theorem Routed.sensitiveValue_child {path : Text} (h : Routed path) (key : Text) :
    sensitiveValue rt (rt.strip (textPaths.child path key)) = sensitiveValue rt (key.rdropWhile rt.isSpace) := by
  rw [h.strip_child]
  refine sensitiveValue_append h.stopped ?_ _
  rw [text_dot, List.getLast?_append]
  rfl

/-! ## The texts of the output -/

mutual

/-- Every key and every string of a value. -/
def texts : Value → List Text
  | .str s => [s]
  | .dict items => textsPairs items
  | .list items => textsItems items
  | _ => []

def textsItems : List Value → List Text
  | [] => []
  | v :: items => texts v ++ textsItems items

def textsPairs : List (Text × Value) → List Text
  | [] => []
  | kv :: items => textsPair kv ++ textsPairs items

def textsPair : Text × Value → List Text
  | (key, v) => key :: texts v

end

mutual

/-- The keys that are not allowed, met through allowed keys and lists. -/
def unlisted : Value → List Text
  | .dict items => unlistedPairs items
  | .list items => unlistedItems items
  | _ => []

def unlistedItems : List Value → List Text
  | [] => []
  | v :: items => unlisted v ++ unlistedItems items

def unlistedPairs : List (Text × Value) → List Text
  | [] => []
  | kv :: items => unlistedPair kv ++ unlistedPairs items

def unlistedPair : Text × Value → List Text
  | (key, v) => if allowedKeys.contains key then unlisted v else [key]

end

theorem textsItems_eq (items : List Value) : textsItems items = items.flatMap texts := by
  induction items with
  | nil => rfl
  | cons v items ih => rw [textsItems, ih, List.flatMap_cons]

theorem textsPairs_eq (items : List (Text × Value)) : textsPairs items = items.flatMap textsPair := by
  induction items with
  | nil => rfl
  | cons kv items ih => rw [textsPairs, ih, List.flatMap_cons]

theorem unlisted_scalar {v : Value} (h : v.isScalar = true) : unlisted v = [] := by
  cases v with
  | list items => cases h
  | dict items => cases h
  | _ => rfl

/-- A text shows something sensitive, after trimming. -/
def Shows (rt : TextRuntime) (t : Text) : Prop := sensitiveValue rt (rt.strip t) = true

theorem Plain.not_shows {t : Text} (h : Plain rt t) : ¬Shows rt t := by
  rw [Shows, h.strip, sensitiveValue_plain h]
  exact Bool.false_ne_true

theorem sensitiveLeaf_shows {key : Option Text} {s : Text} (h : Shows rt s) : sensitiveLeaf rt key s = .ok true := by
  unfold sensitiveLeaf
  exact if_pos h

/-- No text of a cleaned value is sensitive. -/
theorem texts_clean (v : Value) : ∀ key, ∀ t ∈ texts (clean rt key v), ¬Shows rt t := by
  induction v using Value.induction with
  | scalar v scalar =>
      intro key t ht shown
      cases v with
      | list items => cases scalar
      | dict items => cases scalar
      | str s =>
          rw [clean_scalar scalar, isSensitive] at ht
          by_cases sensitive : sensitiveLeaf rt key s = .ok true
          · simp [sensitive, texts] at ht
          · obtain rfl : t = s := by simpa [sensitive, texts] using ht
            exact sensitive (sensitiveLeaf_shows shown)
      | _ => cases ht
  | list items ih =>
      intro key t ht
      rw [clean, texts, textsItems_eq, cleanItems_eq, List.mem_flatMap] at ht
      obtain ⟨w, hw, ht⟩ := ht
      obtain ⟨v, hv, rfl⟩ := List.mem_map.mp hw
      exact ih v hv key t ht
  | dict items ih =>
      intro key t ht
      rw [clean, texts, textsPairs_eq, List.mem_flatMap] at ht
      obtain ⟨kv, hkv, ht⟩ := ht
      obtain ⟨member, hmember, kept, rfl⟩ := mem_cleanPairs.mp hkv
      rw [textsPair, List.mem_cons] at ht
      obtain rfl | inside := ht
      · exact (allowedKeys_plain _ (List.contains_iff_mem.mp (keepsMember_allowed kept))).not_shows
      · exact ih member hmember (some member.1) t inside

/-! ## The removed paths -/

/-- A key that shows in the path of a field that is removed with it. -/
def LoudKey (rt : TextRuntime) (key : Text) : Prop := sensitiveValue rt (key.rdropWhile rt.isSpace) = true

theorem Routed.not_shows {path : Text} (h : Routed path) : ¬Shows rt path := h.plain.not_shows

theorem Routed.shows_child {path : Text} (h : Routed path) (key : Text) :
    Shows rt (textPaths.child path key) ↔ LoudKey rt key := by
  rw [Shows, h.sensitiveValue_child, LoudKey]

/-- A member shows in the removed paths if its key does, or what its value adds. -/
theorem redactPair_shows_iff {key : Text} {v : Value} {path : Text} (routed : Routed path)
    (inside : allowedKeys.contains key = true → ((∀ field ∈ redactions rt textPaths (some key) (textPaths.child path key) v,
      ¬Shows rt field.path) ↔ ∀ k ∈ unlisted v, ¬LoudKey rt k)) :
    (∀ field ∈ redactPair rt textPaths path (key, v), ¬Shows rt field.path) ↔
      ∀ k ∈ unlistedPair (key, v), ¬LoudKey rt k := by
  rw [redactPair, unlistedPair]
  by_cases allowed : allowedKeys.contains key = true
  · rw [if_pos allowed]
    by_cases kept : keepsMember rt key v = true
    · rw [if_pos kept]
      exact inside allowed
    · have scalar : v.isScalar = true := by
        by_contra container
        exact kept (keepsMember_of_container allowed (by simpa using container))
      rw [if_neg kept, unlisted_scalar scalar, List.forall_mem_singleton]
      exact iff_of_true (routed.child allowed).not_shows (by simp)
  · have dropped : keepsMember rt key v = false := by
      rw [← Bool.not_eq_true]
      exact fun kept => allowed (keepsMember_allowed kept)
    rw [if_neg allowed, dropped, if_neg Bool.false_ne_true, List.forall_mem_singleton, List.forall_mem_singleton,
      routed.shows_child]

theorem redactItems_shows_iff {key : Option Text} {items : List Value}
    (h : ∀ v ∈ items, ∀ path, Routed path → ((∀ field ∈ redactions rt textPaths key path v, ¬Shows rt field.path) ↔
      ∀ k ∈ unlisted v, ¬LoudKey rt k)) {path : Text} (routed : Routed path) (index : Nat) :
    (∀ field ∈ redactItems rt textPaths key path index items, ¬Shows rt field.path) ↔
      ∀ k ∈ unlistedItems items, ¬LoudKey rt k := by
  induction items generalizing index with
  | nil => simp [redactItems, unlistedItems]
  | cons v items ih =>
      simp only [List.forall_mem_cons] at h
      rw [redactItems, unlistedItems, List.forall_mem_append, List.forall_mem_append, h.1 _ (.item routed index),
        ih h.2]

theorem redactPairs_shows_iff {items : List (Text × Value)} {path : Text}
    (h : ∀ kv ∈ items, (∀ field ∈ redactPair rt textPaths path kv, ¬Shows rt field.path) ↔
      ∀ k ∈ unlistedPair kv, ¬LoudKey rt k) :
    (∀ field ∈ redactPairs rt textPaths path items, ¬Shows rt field.path) ↔
      ∀ k ∈ unlistedPairs items, ¬LoudKey rt k := by
  induction items with
  | nil => simp [redactPairs, unlistedPairs]
  | cons kv items ih =>
      simp only [List.forall_mem_cons] at h
      rw [redactPairs, unlistedPairs, List.forall_mem_append, List.forall_mem_append, h.1, ih h.2]

/-- The removed paths show what the keys that are not allowed show. -/
theorem redactions_shows_iff (v : Value) : ∀ key path, Routed path →
    ((∀ field ∈ redactions rt textPaths key path v, ¬Shows rt field.path) ↔ ∀ k ∈ unlisted v, ¬LoudKey rt k) := by
  induction v using Value.induction with
  | scalar v scalar =>
      intro key path routed
      rw [redactions_scalar scalar, unlisted_scalar scalar]
      refine iff_of_true (fun field hfield => ?_) (by simp)
      split at hfield
      · obtain rfl := List.mem_singleton.mp hfield
        exact routed.not_shows
      · cases hfield
  | list items ih =>
      intro key path routed
      exact redactItems_shows_iff (fun v hv path routed => ih v hv key path routed) routed 0
  | dict items ih =>
      intro key path routed
      refine redactPairs_shows_iff fun kv hkv => ?_
      exact redactPair_shows_iff routed fun allowed => ih kv hkv (some kv.1) _ (routed.child allowed)

/-- The names around a context. -/
theorem summaryKeys_plain : ∀ name ∈ summaryKeys, Plain rt name := by
  unfold summaryKeys
  simp only [List.map_cons, List.map_nil, List.forall_mem_cons, List.not_mem_nil, false_implies, implies_true, and_true]
  and_intros <;> exact plain_text (by decide)

theorem Reason.value_plain (reason : Reason) : Plain rt reason.value := by
  cases reason <;> exact plain_text (by decide)

/-- The output shows what the context and the removed paths show. -/
theorem texts_toDict {s : Value} {removed : List (RemovedField Text)} :
    (∀ t ∈ texts (toDict s removed), ¬Shows rt t) ↔
      (∀ t ∈ texts s, ¬Shows rt t) ∧ ∀ field ∈ removed, ¬Shows rt field.path := by
  have names : ∀ name ∈ summaryKeys, ¬Shows rt name := fun name h => (summaryKeys_plain name h).not_shows
  unfold summaryKeys at names
  simp only [List.map_cons, List.map_nil, List.forall_mem_cons, List.not_mem_nil, false_implies, implies_true,
    and_true] at names
  obtain ⟨context, summary, count, fields, path, reason, included⟩ := names
  have reasons : ∀ why : Reason, ¬Shows rt why.value := fun why => why.value_plain.not_shows
  simp only [toDict, texts, textsPairs, textsPair, textsItems_eq, List.flatMap_map, List.forall_mem_append,
    List.forall_mem_cons, List.forall_mem_flatMap, List.not_mem_nil, false_implies, implies_true, and_true, context,
    summary, count, fields, path, reason, included, reasons, not_false_eq_true, true_and]

end

/-- **What leaves the sanitizer.** No text of its output is sensitive exactly where no text that it looks at makes
`json.loads` raise, and no key that is not allowed is sensitive itself. -/
theorem output_clean_iff (rt : TextRuntime) (payload : Value) :
    (∃ s removed, sanitizeContext rt payload = .ok (s, removed) ∧
      ∀ t ∈ texts (toDict s removed), sensitiveValue rt (rt.strip t) = false) ↔
      Quiet rt none payload ∧ ∀ key ∈ unlisted payload, sensitiveValue rt (key.rdropWhile rt.isSpace) = false := by
  have shown : ∀ t, sensitiveValue rt (rt.strip t) = false ↔ ¬Shows rt t := fun t => (Bool.not_eq_true _).symm.to_iff
  have loud : ∀ key, sensitiveValue rt (key.rdropWhile rt.isSpace) = false ↔ ¬LoudKey rt key :=
    fun key => (Bool.not_eq_true _).symm.to_iff
  simp only [shown, loud]
  unfold sanitizeContext
  simp only [sanitizeContextWith_eq_ok_iff, Prod.mk.injEq, texts_toDict]
  constructor
  · rintro ⟨s, removed, ⟨quiet, rfl, rfl⟩, -, paths⟩
    exact ⟨quiet, (redactions_shows_iff payload none _ .root).mp paths⟩
  · rintro ⟨quiet, calm⟩
    exact ⟨_, _, ⟨quiet, rfl, rfl⟩, texts_clean payload none, (redactions_shows_iff payload none _ .root).mpr calm⟩

/-- The path `$.Bearer abc` of a removed field. -/
theorem bearer_key_shown :
    let payload := Value.dict [(text "Bearer abc", .int 1)]
    ¬∃ s removed, sanitizeContext asciiWords payload = .ok (s, removed) ∧
      ∀ t ∈ texts (toDict s removed), sensitiveValue asciiWords (asciiWords.strip t) = false := by
  rintro payload ⟨s, removed, returned, hidden⟩
  -- the keys on the list have no blank
  have other : allowedKeys.contains (text "Bearer abc") = false := by
    rw [← Bool.not_eq_true, List.contains_iff_mem]
    intro listed
    have plain : Plain asciiWords (text "Bearer abc") := allowedKeys_plain _ listed
    exact plain 0x20 (by decide +kernel) (.inl rfl)
  have removed_eq : removed = redactions asciiWords textPaths none textPaths.root payload :=
    (Prod.mk.inj (sanitizeContextWith_eq_ok_iff.mp returned).2).2
  have unshown : ∀ field ∈ removed, ¬Shows asciiWords field.path :=
    (texts_toDict.mp fun t ht => (Bool.not_eq_true _).mpr (hidden t ht)).2
  rw [removed_eq] at unshown
  have calm := (redactions_shows_iff payload none textPaths.root .root).mp unshown
  have met : text "Bearer abc" ∈ unlisted payload := by
    show text "Bearer abc" ∈ (if allowedKeys.contains (text "Bearer abc") then [] else [text "Bearer abc"]) ++ []
    rw [other]
    simp
  exact calm _ met (by unfold LoudKey; decide +kernel)

end EventConsistency.ContextSanitizer
