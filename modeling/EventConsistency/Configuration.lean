import EventConsistency.Signatures

/-!
# The configuration of partner secrets

Entries are written with pipes or with colons between their fields, and commas, semicolons and newlines between them.

* `Entry` : an entry, with the text of it; `Entry.Valid.splitConfigItem` : its fields are read as they were written;
* `Configures` : a well-formed entry, with the secret it stands for; `UnknownStatus` : one that is well-formed but for
  its status, which `from_config` does not skip (`secretOfParts_eq_ok_iff`, `secretOfParts_eq_error_iff`);
* **`from_config_iff`** : for which entries the registry has the last well-formed one of every client and key.
-/

namespace EventConsistency.PartnerHmac

open Lib.Python

/-! ## Entries -/

/-- A field without separators, and without blanks around it. -/
structure Clean (p : Platform) (field : Text) : Prop where
  comma : 0x2C ∉ field
  semicolon : 0x3B ∉ field
  newline : 0x0A ∉ field
  pipe : 0x7C ∉ field
  trimmed : p.runtime.strip field = field

inductive Entry where
  | piped (fields : List Text)
  | coloned (fields : List Text)

namespace Entry

def fields : Entry → List Text
  | piped fields => fields
  | coloned fields => fields

def text : Entry → Text
  | piped fields => joinText [0x7C] fields
  | coloned fields => joinText [0x3A] fields

/-- Two fields make a pipe; of fields with colons between them only the fourth may have a colon. -/
def Formed : Entry → Prop
  | piped fields => 2 ≤ fields.length
  | coloned fields => fields ≠ [] ∧ fields.length ≤ 4 ∧ ∀ field ∈ fields.take 3, 0x3A ∉ field

structure Valid (p : Platform) (e : Entry) : Prop where
  formed : e.Formed
  clean : ∀ field ∈ e.fields, Clean p field

end Entry

/-- A comma, a semicolon or a newline. -/
def separates (c : Nat) : Prop := c = 0x2C ∨ c = 0x3B ∨ c = 0x0A

/-- The texts are joined by separators, one or more between two of them. -/
inductive Joined : Text → List Text → Prop where
  | nil : Joined [] []
  | one (item : Text) : Joined item [item]
  | cons (item : Text) {between raw : Text} {next : Text} {items : List Text} (ne : between ≠ [])
      (separators : ∀ c ∈ between, separates c) (h : Joined raw (next :: items)) :
      Joined (item ++ between ++ raw) (item :: next :: items)

/-! ## Splitting -/

section Splitting

variable {p : Platform} {fields : List Text}

theorem isSpace_pipe : p.runtime.isSpace 0x7C = false := by
  rw [p.space_ascii 0x7C (by decide)]
  rfl

theorem isSpace_colon : p.runtime.isSpace 0x3A = false := by
  rw [p.space_ascii 0x3A (by decide)]
  rfl

theorem strip_joinText {c : Nat} (hc : p.runtime.isSpace c = false)
    (h : ∀ field ∈ fields, p.runtime.strip field = field) :
    p.runtime.strip (joinText [c] fields) = joinText [c] fields := by
  induction fields with
  | nil => rfl
  | cons first rest ih =>
      rw [List.forall_mem_cons] at h
      cases rest with
      | nil => exact h.1
      | cons next rest =>
          rw [joinText_cons_cons]
          exact p.runtime.strip_join h.1 (ih h.2) hc

theorem splitOn_joinText {c : Nat} (ne : fields ≠ []) (h : ∀ field ∈ fields, c ∉ field) :
    (joinText [c] fields).splitOn c = fields := by
  induction fields with
  | nil => exact absurd rfl ne
  | cons first rest ih =>
      rw [List.forall_mem_cons] at h
      cases rest with
      | nil => exact List.splitOn_eq_singleton h.1
      | cons next rest =>
          rw [joinText_cons_cons, List.append_assoc, List.singleton_append,
            List.splitOn_append_cons_self_of_not_mem h.1, ih (by simp) h.2]

theorem splitMax_joinText {c n : Nat} (ne : fields ≠ []) (length : fields.length ≤ n + 1)
    (h : ∀ field ∈ fields.take n, c ∉ field) : splitMax c n (joinText [c] fields) = fields := by
  induction fields generalizing n with
  | nil => exact absurd rfl ne
  | cons first rest ih =>
      have visible : c ∉ first → ∀ d ∈ first, (d != c) = true := by
        intro hfirst d hd
        rw [bne_iff_ne]
        rintro rfl
        exact hfirst hd
      cases n with
      | zero =>
          have last : rest = [] := List.eq_nil_of_length_eq_zero (by simpa using length)
          rw [last]
          rfl
      | succ n =>
          rw [List.take_succ_cons, List.forall_mem_cons] at h
          cases rest with
          | nil =>
              rw [joinText, splitMax, List.dropWhile_eq_nil_iff.mpr (visible h.1)]
          | cons next rest =>
              have before := visible h.1
              rw [joinText_cons_cons, List.append_assoc, List.singleton_append, splitMax,
                List.dropWhile_append_of_pos before, List.takeWhile_append_of_pos before,
                List.dropWhile_cons_of_neg (by simp), List.takeWhile_cons_of_neg (by simp), List.append_nil]
              simp only
              rw [ih (by simp) (by simpa using length) h.2]

theorem pipe_mem_joinText (h : 2 ≤ fields.length) : 0x7C ∈ joinText [0x7C] fields := by
  cases fields with
  | nil => simp at h
  | cons first rest =>
      cases rest with
      | nil => simp at h
      | cons next rest =>
          rw [joinText_cons_cons]
          simp

theorem pipe_notMem_joinText (h : ∀ field ∈ fields, 0x7C ∉ field) : 0x7C ∉ joinText [0x3A] fields := by
  intro hpipe
  obtain between | ⟨field, hfield, hpipe⟩ := mem_joinText hpipe
  · simp at between
  · exact h field hfield hpipe

theorem map_strip_of_clean (h : ∀ field ∈ fields, Clean p field) : fields.map p.runtime.strip = fields := by
  conv_rhs => rw [← List.map_id fields]
  exact List.map_congr_left fun field hfield => (h field hfield).trimmed

/-- The fields of an entry are read as they were written. -/
theorem Entry.Valid.splitConfigItem {e : Entry} (h : e.Valid p) : splitConfigItem p e.text = e.fields := by
  obtain ⟨formed, clean⟩ := h
  unfold PartnerHmac.splitConfigItem
  cases e with
  | piped fields =>
      have piped : (joinText [0x7C] fields).contains 0x7C = true :=
        List.contains_iff_mem.mpr (pipe_mem_joinText formed)
      have several : fields ≠ [] := by
        rintro rfl
        cases formed
      rw [Entry.text, if_pos piped, splitOn_joinText several fun field hfield => (clean field hfield).pipe]
      exact map_strip_of_clean clean
  | coloned fields =>
      obtain ⟨some_field, few, colons⟩ := formed
      have unpiped : ¬(joinText [0x3A] fields).contains 0x7C = true := by
        rw [List.contains_iff_mem]
        exact pipe_notMem_joinText fun field hfield => (clean field hfield).pipe
      rw [Entry.text, if_neg unpiped, splitMax_joinText some_field few colons]
      exact map_strip_of_clean clean

theorem Entry.Valid.strip_text {e : Entry} (h : e.Valid p) : p.runtime.strip e.text = e.text := by
  cases e with
  | piped fields => exact strip_joinText isSpace_pipe fun field hfield => (h.clean field hfield).trimmed
  | coloned fields => exact strip_joinText isSpace_colon fun field hfield => (h.clean field hfield).trimmed

theorem Entry.Valid.unseparated {e : Entry} (h : e.Valid p) : ∀ c ∈ e.text, ¬separates c := by
  have field : ∀ {sep c : Nat}, sep = 0x7C ∨ sep = 0x3A → c ∈ joinText [sep] e.fields → ¬separates c := by
    intro sep c hsep hc separator
    obtain between | ⟨field, hfield, hc⟩ := mem_joinText hc
    · rw [List.mem_singleton] at between
      unfold separates at separator
      omega
    · have clean := h.clean field hfield
      rcases separator with rfl | rfl | rfl
      · exact clean.comma hc
      · exact clean.semicolon hc
      · exact clean.newline hc
  intro c hc
  cases e with
  | piped fields => exact field (.inl rfl) hc
  | coloned fields => exact field (.inr rfl) hc

/-- All separators become commas. -/
def comma (c : Nat) : Nat := if c = 0x0A ∨ c = 0x3B then 0x2C else c

theorem map_comma_of_unseparated {s : Text} (h : ∀ c ∈ s, ¬separates c) : s.map comma = s ∧ 0x2C ∉ s := by
  constructor
  · conv_rhs => rw [← List.map_id s]
    refine List.map_congr_left fun c hc => ?_
    have other := h c hc
    unfold separates at other
    exact if_neg (by omega)
  · intro hc
    exact h _ hc (.inl rfl)

theorem map_comma_of_separators {s : Text} (h : ∀ c ∈ s, separates c) : s.map comma = List.replicate s.length 0x2C := by
  rw [List.eq_replicate_iff]
  refine ⟨List.length_map _, fun c hc => ?_⟩
  obtain ⟨d, hd, rfl⟩ := List.mem_map.mp hc
  have separator := h d hd
  unfold separates at separator
  unfold comma
  split_ifs <;> omega

theorem splitOn_commas (n : Nat) (s t : Text) (h : 0x2C ∉ s) :
    (s ++ List.replicate (n + 1) 0x2C ++ t).splitOn 0x2C = s :: List.replicate n [] ++ t.splitOn 0x2C := by
  have commas : ∀ n, (List.replicate n 0x2C ++ t).splitOn 0x2C = List.replicate n [] ++ t.splitOn 0x2C := by
    intro n
    induction n with
    | zero => rfl
    | succ n ih =>
        rw [List.replicate_succ, List.cons_append, List.replicate_succ, List.cons_append, ← ih]
        exact List.splitOn_append_cons_self_of_not_mem (List.not_mem_nil : 0x2C ∉ ([] : Text)) _
  rw [List.replicate_succ, List.append_assoc, List.cons_append, List.splitOn_append_cons_self_of_not_mem h, commas]
  rfl

/-- The items of a configuration are the texts that are not empty. -/
theorem Joined.splitConfig {raw : Text} {items : List Text} (h : Joined raw items)
    (trimmed : ∀ item ∈ items, p.runtime.strip item = item) (unseparated : ∀ item ∈ items, ∀ c ∈ item, ¬separates c) :
    splitConfig p raw = items.filter fun item => !item.isEmpty := by
  have empty : ∀ n, ((List.replicate n ([] : Text)).map p.runtime.strip).filter (fun item => !item.isEmpty) = [] := by
    intro n
    rw [List.map_replicate, List.filter_replicate]
    rfl
  induction h with
  | nil => rfl
  | one item =>
      obtain ⟨same, none⟩ := map_comma_of_unseparated (unseparated item (by simp))
      have trim := trimmed item (by simp)
      show (((item.map comma).splitOn 0x2C).map p.runtime.strip).filter _ = _
      rw [same, List.splitOn_eq_singleton none, List.map_singleton, trim]
  | @cons item between raw next items ne separators _ ih =>
      rw [List.forall_mem_cons] at trimmed unseparated
      obtain ⟨same, none⟩ := map_comma_of_unseparated unseparated.1
      have later := ih trimmed.2 unseparated.2
      obtain ⟨n, hn⟩ := Nat.exists_eq_succ_of_ne_zero fun zero => ne (List.eq_nil_of_length_eq_zero zero)
      show ((((item ++ between ++ raw).map comma).splitOn 0x2C).map p.runtime.strip).filter _ = _
      rw [List.map_append, List.map_append, same, map_comma_of_separators separators, hn, splitOn_commas n _ _ none,
        List.cons_append, List.map_cons, List.map_append, trimmed.1, List.filter_cons, List.filter_append, empty,
        List.nil_append, List.filter_cons]
      split_ifs
      · exact congrArg _ later
      · exact later

end Splitting

/-! ## What an entry stands for -/

/-- The expiry among the fields is empty, or a time with an offset. -/
def Expires (p : Platform) (fields : List Text) (validUntil : Option Moment) : Prop :=
  (fields.getD 4 [] = [] ∧ validUntil = none) ∨
    ∃ value t, fields[4]? = some value ∧ value ≠ [] ∧ parsePartnerTimestamp p value = some t ∧ validUntil = some t

/-- Client id, key id and secret are there. -/
def Complete (fields : List Text) : Prop :=
  4 ≤ fields.length ∧ fields.getD 0 [] ≠ [] ∧ fields.getD 1 [] ≠ [] ∧ fields.getD 3 [] ≠ []

/-- A well-formed entry, and the secret with all its fields. -/
structure Configures (p : Platform) (fields : List Text) (s : PartnerSecret) : Prop where
  complete : Complete fields
  clientId : fields.getD 0 [] = s.clientId
  keyId : fields.getD 1 [] = s.keyId
  status : p.runtime.lower (fields.getD 2 []) = text s.status.value
  secret : fields.getD 3 [] = s.secret
  expires : Expires p fields s.previousValidUntil
  enabled : s.clientEnabled = false ↔
    ∃ value, fields[5]? = some value ∧ p.runtime.lower value ∈ [text "0", text "false", text "disabled"]

/-- An entry that is well-formed but for its status. -/
structure UnknownStatus (p : Platform) (fields : List Text) : Prop where
  complete : Complete fields
  expires : ∃ validUntil, Expires p fields validUntil
  status : ∀ status : SecretStatus, p.runtime.lower (fields.getD 2 []) ≠ text status.value

section Parts

variable {p : Platform} {fields rest : List Text} {c k s v : Text} {secret : PartnerSecret}

theorem text_value_inj {status status' : SecretStatus} (h : text status.value = text status'.value) :
    status = status' := by
  have distinct : ∀ a b : SecretStatus, text a.value = text b.value → a = b := by
    intro a b
    cases a <;> cases b <;> decide +kernel
  exact distinct status status' h

theorem SecretStatus.ofValue_eq_ok_iff {value : Text} {status : SecretStatus} :
    SecretStatus.ofValue value = .ok status ↔ value = text status.value := by
  unfold SecretStatus.ofValue
  constructor
  · intro h
    cases found : [SecretStatus.next, .current, .previous, .revoked, .disabled].find? fun status =>
        text status.value == value with
    | none =>
        rw [found] at h
        cases h
    | some status' =>
        rw [found] at h
        cases h
        have same := List.find?_some (p := fun status : SecretStatus => text status.value == value) found
        exact (beq_iff_eq.mp same).symm
  · rintro rfl
    cases found : [SecretStatus.next, .current, .previous, .revoked, .disabled].find? fun status' =>
        text status'.value == text status.value with
    | none =>
        rw [List.find?_eq_none] at found
        have listed : status ∈ [SecretStatus.next, .current, .previous, .revoked, .disabled] := by
          cases status <;> simp
        exact absurd (beq_self_eq_true (text status.value)) (found status listed)
    | some status' =>
        have same := List.find?_some (p := fun status' : SecretStatus => text status'.value == text status.value) found
        rw [text_value_inj (beq_iff_eq.mp same)]

theorem SecretStatus.ofValue_eq_error {value : Text} (h : ∀ status : SecretStatus, value ≠ text status.value) :
    SecretStatus.ofValue value = .error .valueError := by
  cases found : SecretStatus.ofValue value with
  | ok status => exact absurd (SecretStatus.ofValue_eq_ok_iff.mp found) (h status)
  | error e =>
      unfold SecretStatus.ofValue at found
      split at found
      · exact found.symm
      · cases found

theorem previousValidUntil_eq_some_iff {validUntil : Option Moment} :
    previousValidUntil p rest = some validUntil ↔ Expires p (c :: k :: v :: s :: rest) validUntil := by
  unfold Expires
  cases rest with
  | nil => simp [previousValidUntil, eq_comm]
  | cons value rest =>
      by_cases empty : value = []
      · simp only [previousValidUntil, empty, List.isEmpty_nil, if_true]
        constructor
        · intro h
          exact .inl ⟨rfl, (Option.some.inj h).symm⟩
        · rintro (⟨-, none⟩ | ⟨value, t, at_four, filled, -⟩)
          · rw [none]
          · exact absurd (Option.some.inj at_four).symm filled
      · have filled : value.isEmpty = false := by simpa using empty
        simp only [previousValidUntil, filled, Bool.false_eq_true, if_false, Option.map_eq_some_iff]
        constructor
        · rintro ⟨t, parsed, rfl⟩
          exact .inr ⟨value, t, rfl, empty, parsed, rfl⟩
        · rintro (⟨absent, -⟩ | ⟨value', t, at_four, -, parsed, rfl⟩)
          · exact absurd absent empty
          · rw [← Option.some.inj at_four] at parsed
            exact ⟨t, parsed, rfl⟩

theorem clientEnabled_eq_false_iff :
    clientEnabled p rest = false ↔ ∃ value, (c :: k :: v :: s :: rest)[5]? = some value ∧
      p.runtime.lower value ∈ [text "0", text "false", text "disabled"] := by
  cases rest with
  | nil => simp [clientEnabled]
  | cons first rest =>
      cases rest with
      | nil => simp [clientEnabled]
      | cons value rest =>
          have at_five : (c :: k :: v :: s :: first :: value :: rest)[5]? = some value := rfl
          have disables : (["0", "false", "disabled"].any fun name => p.runtime.lower value == text name) = true ↔
              p.runtime.lower value ∈ [text "0", text "false", text "disabled"] := by
            simp
          rw [at_five, clientEnabled, Bool.not_eq_false', disables]
          constructor
          · intro h
            exact ⟨value, rfl, h⟩
          · rintro ⟨value', same, h⟩
            rwa [Option.some.inj same]

theorem complete_cons : Complete (c :: k :: v :: s :: rest) ↔ c ≠ [] ∧ k ≠ [] ∧ s ≠ [] := by
  simp [Complete]

theorem secretOfParts_of_not_complete (h : ¬Complete fields) : secretOfParts p fields = .ok none := by
  unfold secretOfParts
  split
  · rename_i c k v s rest
    rw [complete_cons] at h
    refine if_pos ?_
    simp only [Bool.or_eq_true, List.isEmpty_iff]
    by_contra other
    push Not at other
    exact h ⟨other.1.1, other.1.2, other.2⟩
  · rfl

theorem secretOfParts_of_complete (h : Complete (c :: k :: v :: s :: rest)) :
    (previousValidUntil p rest = none ∧ secretOfParts p (c :: k :: v :: s :: rest) = .ok none) ∨
      ∃ validUntil, previousValidUntil p rest = some validUntil ∧
        secretOfParts p (c :: k :: v :: s :: rest) = (SecretStatus.ofValue (p.runtime.lower v)).map fun status =>
          some ⟨c, k, s, status, validUntil, clientEnabled p rest⟩ := by
  obtain ⟨client, key, secret⟩ := complete_cons.mp h
  have filled : (c.isEmpty || k.isEmpty || s.isEmpty) = false := by
    simp [client, key, secret]
  unfold secretOfParts
  simp only [filled, Bool.false_eq_true, if_false]
  cases previousValidUntil p rest with
  | none => exact .inl ⟨rfl, rfl⟩
  | some validUntil =>
      refine .inr ⟨validUntil, rfl, ?_⟩
      cases SecretStatus.ofValue (p.runtime.lower v) <;> rfl

theorem Complete.exists_cons (h : Complete fields) : ∃ c k v s rest, fields = c :: k :: v :: s :: rest := by
  obtain ⟨length, -⟩ := h
  rcases fields with - | ⟨c, - | ⟨k, - | ⟨v, - | ⟨s, rest⟩⟩⟩⟩
  · simp at length
  · simp at length
  · simp at length
  · simp at length
  · exact ⟨c, k, v, s, rest, rfl⟩

/-- The secrets that are read are those the well-formed entries stand for. -/
theorem secretOfParts_eq_ok_iff : secretOfParts p fields = .ok (some secret) ↔ Configures p fields secret := by
  by_cases complete : Complete fields
  · obtain ⟨c, k, v, s, rest, rfl⟩ := complete.exists_cons
    constructor
    · intro h
      obtain ⟨-, skipped⟩ | ⟨validUntil, read, made⟩ := secretOfParts_of_complete (p := p) complete
      · rw [skipped] at h
        cases h
      · cases named : SecretStatus.ofValue (p.runtime.lower v) with
        | error e =>
            rw [made, named] at h
            cases h
        | ok status =>
            rw [made, named] at h
            cases h
            exact {
              complete := complete
              clientId := rfl
              keyId := rfl
              status := SecretStatus.ofValue_eq_ok_iff.mp named
              secret := rfl
              expires := previousValidUntil_eq_some_iff.mp read
              enabled := clientEnabled_eq_false_iff }
    · intro h
      have read : previousValidUntil p rest = some secret.previousValidUntil :=
        previousValidUntil_eq_some_iff.mpr h.expires
      have named : SecretStatus.ofValue (p.runtime.lower v) = .ok secret.status :=
        SecretStatus.ofValue_eq_ok_iff.mpr h.status
      have enabled : clientEnabled p rest = secret.clientEnabled := by
        have iff : clientEnabled p rest = false ↔ secret.clientEnabled = false :=
          clientEnabled_eq_false_iff.trans h.enabled.symm
        rwa [Bool.eq_iff_iff, ← not_iff_not, Bool.not_eq_true, Bool.not_eq_true]
      have client : c = secret.clientId := h.clientId
      have key : k = secret.keyId := h.keyId
      have value : s = secret.secret := h.secret
      obtain ⟨unread, -⟩ | ⟨validUntil, read', made⟩ := secretOfParts_of_complete (p := p) complete
      · rw [unread] at read
        cases read
      · rw [read, Option.some.injEq] at read'
        rw [made, named, enabled, ← read', client, key, value]
        rfl
  · constructor
    · intro h
      rw [secretOfParts_of_not_complete complete] at h
      cases h
    · intro h
      exact absurd h.complete complete

/-- The loop ends with an error at the entries that have only the status wrong. -/
theorem secretOfParts_eq_error_iff : (∃ e, secretOfParts p fields = .error e) ↔ UnknownStatus p fields := by
  by_cases complete : Complete fields
  · obtain ⟨c, k, v, s, rest, rfl⟩ := complete.exists_cons
    obtain ⟨unread, skipped⟩ | ⟨validUntil, read, made⟩ := secretOfParts_of_complete (p := p) complete
    · constructor
      · rintro ⟨e, h⟩
        rw [skipped] at h
        cases h
      · intro h
        obtain ⟨validUntil, expires⟩ := h.expires
        rw [← previousValidUntil_eq_some_iff, unread] at expires
        cases expires
    · constructor
      · rintro ⟨e, h⟩
        refine ⟨complete, ⟨validUntil, previousValidUntil_eq_some_iff.mp read⟩, fun status same => ?_⟩
        have named := SecretStatus.ofValue_eq_ok_iff.mpr same
        rw [made, show SecretStatus.ofValue (p.runtime.lower v) = .ok status from named] at h
        cases h
      · intro h
        have unknown : SecretStatus.ofValue (p.runtime.lower v) = .error .valueError :=
          SecretStatus.ofValue_eq_error h.status
        rw [made, unknown]
        exact ⟨_, rfl⟩
  · constructor
    · rintro ⟨e, h⟩
      rw [secretOfParts_of_not_complete complete] at h
      cases h
    · intro h
      exact absurd h.complete complete

end Parts

/-! ## The registry of a configuration -/

theorem Registry.get_set (r : Registry) (s : PartnerSecret) (c k : Text) :
    (r.set s).get c k = if s.clientId = c ∧ s.keyId = k then some s else r.get c k := by
  have pair : (s.clientId, s.keyId) = (c, k) ↔ s.clientId = c ∧ s.keyId = k := Prod.mk.injEq .. ▸ Iff.rfl
  unfold Registry.get Registry.set
  by_cases there : ∃ entry ∈ r.secrets, entry.1 = (s.clientId, s.keyId)
  · rw [if_pos (by simpa only [List.any_eq_true, beq_iff_eq] using there)]
    by_cases same : s.clientId = c ∧ s.keyId = k
    · rw [if_pos same, ← pair.mpr same]
      exact lookup_map_self there
    · rw [if_neg same]
      exact lookup_map_other (mt pair.mp same)
  · rw [if_neg (by simpa only [List.any_eq_true, beq_iff_eq] using there)]
    push Not at there
    simp only [← pair]
    exact lookup_append_entry there (c, k)

/-! ## The last entry of a client and key -/

/-- The entry stands for this secret, with this client and key. -/
def Names (p : Platform) (e : Entry) (c k : Text) (s : PartnerSecret) : Prop :=
  Configures p e.fields s ∧ s.clientId = c ∧ s.keyId = k

/-- The last well-formed entry of the client and key stands for this secret. -/
def LastFor (p : Platform) (entries : List Entry) (c k : Text) (s : PartnerSecret) : Prop :=
  ∃ before e after, entries = before ++ e :: after ∧ Names p e c k s ∧ ∀ later ∈ after, ∀ s', ¬Names p later c k s'

section Last

variable {p : Platform} {e : Entry} {entries : List Entry} {c k : Text} {s : PartnerSecret}

theorem lastFor_cons : LastFor p (e :: entries) c k s ↔
    LastFor p entries c k s ∨ (Names p e c k s ∧ ∀ later ∈ entries, ∀ s', ¬Names p later c k s') := by
  constructor
  · rintro ⟨before, last, after, split, names, none_later⟩
    cases before with
    | nil =>
        rw [List.nil_append, List.cons.injEq] at split
        obtain ⟨rfl, rfl⟩ := split
        exact .inr ⟨names, none_later⟩
    | cons first before =>
        rw [List.cons_append, List.cons.injEq] at split
        exact .inl ⟨before, last, after, split.2, names, none_later⟩
  · rintro (⟨before, last, after, rfl, names, none_later⟩ | ⟨names, none_later⟩)
    · exact ⟨e :: before, last, after, rfl, names, none_later⟩
    · exact ⟨[], e, entries, rfl, names, none_later⟩

/-- An entry stands for at most one secret. -/
theorem Names.inj {s' : PartnerSecret} {c' k' : Text} (h : Names p e c k s) (h' : Names p e c' k' s') : s = s' := by
  have same : Except.ok (some s) = (Except.ok (some s') : Except PyError _) :=
    (secretOfParts_eq_ok_iff.mpr h.1).symm.trans (secretOfParts_eq_ok_iff.mpr h'.1)
  exact Option.some.inj (Except.ok.inj same)

theorem secretsOfItems_cons {secrets : List PartnerSecret} (valid : e.Valid p) :
    secretsOfItems p ((e :: entries).map Entry.text) = .ok secrets ↔
      ∃ secret rest, secretOfParts p e.fields = .ok secret ∧ secretsOfItems p (entries.map Entry.text) = .ok rest ∧
        secrets = secret.toList ++ rest := by
  rw [List.map_cons, secretsOfItems, valid.splitConfigItem]
  simp only [bind_eq_ok_iff, pure, Except.pure, Except.ok.injEq, exists_and_left, eq_comm (a := secrets)]

/-- What the registry has after the secrets of the entries were put into it. -/
theorem get_foldl_set (valid : ∀ e ∈ entries, e.Valid p) {secrets : List PartnerSecret}
    (read : secretsOfItems p (entries.map Entry.text) = .ok secrets) (r : Registry) :
    (secrets.foldl Registry.set r).get c k = some s ↔
      LastFor p entries c k s ∨ ((∀ e ∈ entries, ∀ s', ¬Names p e c k s') ∧ r.get c k = some s) := by
  induction entries generalizing secrets r with
  | nil =>
      cases read
      simp [LastFor]
  | cons e entries ih =>
      rw [List.forall_mem_cons] at valid
      obtain ⟨secret, rest, first, later, rfl⟩ := (secretsOfItems_cons valid.1).mp read
      rw [List.foldl_append, ih valid.2 later, lastFor_cons, or_assoc]
      refine or_congr_right ?_
      rw [List.forall_mem_cons]
      cases secret with
      | none =>
          have nothing : ∀ s', ¬Names p e c k s' := by
            intro s' h
            rw [secretOfParts_eq_ok_iff.mpr h.1] at first
            cases first
          simp [nothing]
      | some made =>
          have stands : Configures p e.fields made := secretOfParts_eq_ok_iff.mp first
          rw [Option.toList_some, List.foldl_cons, List.foldl_nil, Registry.get_set]
          by_cases ids : made.clientId = c ∧ made.keyId = k
          · have names : Names p e c k made := ⟨stands, ids⟩
            rw [if_pos ids, Option.some.injEq]
            constructor
            · rintro ⟨none_later, rfl⟩
              exact .inl ⟨names, none_later⟩
            · rintro (⟨names', none_later⟩ | ⟨⟨none_first, -⟩, -⟩)
              · exact ⟨none_later, names.inj names'⟩
              · exact absurd names (none_first made)
          · have nothing : ∀ s', ¬Names p e c k s' := by
              intro s' h
              have same : s' = made := by
                have made' := (secretOfParts_eq_ok_iff.mpr h.1).symm.trans first
                exact Option.some.inj (Except.ok.inj made')
              rw [same] at h
              exact ids h.2
            rw [if_neg ids]
            simp [nothing]

/-- The loop goes through where it raises at no entry. -/
theorem secretsOfItems_ok_iff (valid : ∀ e ∈ entries, e.Valid p) :
    (∃ secrets, secretsOfItems p (entries.map Entry.text) = .ok secrets) ↔
      ∀ e ∈ entries, ¬UnknownStatus p e.fields := by
  induction entries with
  | nil => simp [secretsOfItems]
  | cons e entries ih =>
      rw [List.forall_mem_cons] at valid ⊢
      rw [← ih valid.2, ← secretOfParts_eq_error_iff]
      constructor
      · rintro ⟨secrets, read⟩
        obtain ⟨secret, rest, first, later, -⟩ := (secretsOfItems_cons valid.1).mp read
        refine ⟨?_, rest, later⟩
        rintro ⟨e', raised⟩
        rw [first] at raised
        cases raised
      · rintro ⟨no_error, rest, later⟩
        cases first : secretOfParts p e.fields with
        | error e' => exact absurd ⟨e', first⟩ no_error
        | ok secret => exact ⟨_, (secretsOfItems_cons valid.1).mpr ⟨secret, rest, first, later, rfl⟩⟩

end Last

/-- Items without text are skipped. -/
theorem secretsOfItems_filter (p : Platform) (items : List Text) :
    secretsOfItems p (items.filter fun item => !item.isEmpty) = secretsOfItems p items := by
  have blank : secretOfParts p (splitConfigItem p []) = .ok none := rfl
  induction items with
  | nil => rfl
  | cons item items ih =>
      cases item with
      | nil =>
          rw [List.filter_cons_of_neg (by simp), ih, secretsOfItems, blank]
          cases secretsOfItems p items <;> rfl
      | cons c item =>
          rw [List.filter_cons_of_pos (by simp), secretsOfItems, secretsOfItems, ih]

/-- The registry has the last well-formed entry of every client and key. -/
def Robust (p : Platform) (rawConfig : Text) (entries : List Entry) : Prop :=
  ∃ registry, Registry.fromConfig p rawConfig = .ok registry ∧
    ∀ c k s, registry.get c k = some s ↔ LastFor p entries c k s

/-- One entry with an unknown status stops all the others, and nothing else does. -/
theorem from_config_iff (p : Platform) (rawConfig : Text) (entries : List Entry) (valid : ∀ e ∈ entries, e.Valid p)
    (joined : Joined rawConfig (entries.map Entry.text)) :
    Robust p rawConfig entries ↔ ∀ e ∈ entries, ¬UnknownStatus p e.fields := by
  have items : splitConfig p rawConfig = (entries.map Entry.text).filter fun item => !item.isEmpty := by
    refine joined.splitConfig ?_ ?_
    · simpa using fun e he => (valid e he).strip_text
    · simpa using fun e he => (valid e he).unseparated
  have loaded : ∀ registry, Registry.fromConfig p rawConfig = .ok registry ↔
      ∃ secrets, secretsOfItems p (entries.map Entry.text) = .ok secrets ∧ .ofSecrets secrets = registry := by
    intro registry
    rw [Registry.fromConfig, items, secretsOfItems_filter, bind_eq_ok_iff]
    simp only [pure, Except.pure, Except.ok.injEq]
  rw [← secretsOfItems_ok_iff valid]
  constructor
  · rintro ⟨registry, made, -⟩
    obtain ⟨secrets, read, -⟩ := (loaded registry).mp made
    exact ⟨secrets, read⟩
  · rintro ⟨secrets, read⟩
    refine ⟨.ofSecrets secrets, (loaded _).mpr ⟨secrets, read, rfl⟩, fun c k s => ?_⟩
    have empty : ∀ s, Registry.get ⟨[]⟩ c k ≠ some s := by
      intro s h
      cases h
    rw [Registry.ofSecrets, get_foldl_set valid read]
    simp [empty]

namespace Trial

def current : Entry := .piped [text "c1", text "k1", text "Current", text "k"]

/-- An entry with colons, and a colon in its secret. -/
def next : Entry := .coloned [text "c1", text "k2", text "next", text "k:k"]

def retired : Entry := .piped [text "c1", text "k2", text "retired", text "k"]

theorem clean {field : Text} (h : (∀ c ∈ field, c ≠ 0x2C ∧ c ≠ 0x3B ∧ c ≠ 0x0A ∧ c ≠ 0x7C) ∧
    platform.runtime.strip field = field) : Clean platform field where
  comma hc := (h.1 _ hc).1 rfl
  semicolon hc := (h.1 _ hc).2.1 rfl
  newline hc := (h.1 _ hc).2.2.1 rfl
  pipe hc := (h.1 _ hc).2.2.2 rfl
  trimmed := h.2

theorem current_valid : current.Valid platform where
  formed := Nat.le_of_ble_eq_true rfl
  clean field h := clean (by revert field; decide +kernel)

theorem next_valid : next.Valid platform where
  formed := by
    unfold next Entry.Formed
    decide +kernel
  clean field h := clean (by revert field; decide +kernel)

theorem retired_valid : retired.Valid platform where
  formed := Nat.le_of_ble_eq_true rfl
  clean field h := clean (by revert field; decide +kernel)

end Trial

theorem from_config_rotation :
    Robust Trial.platform (text "c1|k1|Current|k;\nc1:k2:next:k:k") [Trial.current, Trial.next] := by
  refine (from_config_iff _ _ _ ?_ ?_).mpr ?_
  · simpa using ⟨Trial.current_valid, Trial.next_valid⟩
  · have raw : text "c1|k1|Current|k;\nc1:k2:next:k:k" = Trial.current.text ++ [0x3B, 0x0A] ++ Trial.next.text := by
      decide +kernel
    rw [raw]
    exact .cons _ (by simp) (by simp [separates]) (.one _)
  · have current : Trial.platform.runtime.lower (text "Current") = text SecretStatus.current.value := by
      decide +kernel
    have next : Trial.platform.runtime.lower (text "next") = text SecretStatus.next.value := by
      decide +kernel
    simpa using ⟨fun h => h.status .current current, fun h => h.status .next next⟩

/-- The first entry is well-formed, and it is not loaded either. -/
theorem from_config_retired :
    (∀ e ∈ [Trial.current, Trial.retired], e.Valid Trial.platform) ∧
      Joined (text "c1|k1|Current|k,c1|k2|retired|k") ([Trial.current, Trial.retired].map Entry.text) ∧
      ¬Robust Trial.platform (text "c1|k1|Current|k,c1|k2|retired|k") [Trial.current, Trial.retired] := by
  refine ⟨?_, ?_, ?_⟩
  · simpa using ⟨Trial.current_valid, Trial.retired_valid⟩
  · have raw : text "c1|k1|Current|k,c1|k2|retired|k" = Trial.current.text ++ [0x2C] ++ Trial.retired.text := by
      decide +kernel
    rw [raw]
    exact .cons _ (by simp) (by simp [separates]) (.one _)
  · have raised : (Registry.fromConfig Trial.platform (text "c1|k1|Current|k,c1|k2|retired|k")).isOk = false := by
      decide +kernel
    rintro ⟨registry, made, -⟩
    rw [made] at raised
    cases raised

end EventConsistency.PartnerHmac
