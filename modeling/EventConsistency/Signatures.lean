import EventConsistency.FailClosed
import EventConsistency.Lib.Rounding
import EventConsistency.Security.PartnerHmac

/-!
# Which requests are authenticated

* **`partner_decision_iff`** : for which requests `verify_partner_hmac_request` decides as it should and by the window of
  `validate_timestamp_window`. It takes whole seconds before it compares, so that a timestamp is up to a second too late
  or too early;
* **`signatures_bind`** : a signature is accepted for one request only, in each of the two schemes and across them.
-/

namespace EventConsistency.PartnerHmac

open Lib.Python

/-! ## Signatures -/

/-- 64 hexadecimal digits of ASCII. -/
structure HexSignature (signature : Text) : Prop where
  length : signature.length = 64
  digits : ∀ c ∈ signature, isHex c = true

/-- The texts that `encode("utf-8")` takes. -/
def Encodable (s : Text) : Prop := ∃ bytes, encodeUtf8 s = .ok bytes

/-- The signature is the HMAC of the message under the secret, up to the case of its letters. -/
def Signed (p : Platform) (secret message signature : Text) : Prop :=
  ∃ key bytes, encodeUtf8 secret = .ok key ∧ encodeUtf8 message = .ok bytes ∧
    signature.map asciiLower = hexdigest (p.hmacSha256 key bytes)

theorem isHex_lt {c : Nat} (h : isHex c = true) : c < 128 := by
  simp only [isHex, Bool.or_eq_true, Bool.and_eq_true, decide_eq_true_eq] at h
  omega

theorem isLowerHex_lt {c : Nat} (h : isLowerHex c = true) : c < 128 := by
  simp only [isLowerHex, Bool.or_eq_true, Bool.and_eq_true, decide_eq_true_eq] at h
  omega

theorem asciiLower_lt {c : Nat} (h : c < 128) : asciiLower c < 128 := by
  unfold asciiLower
  split_ifs <;> omega

namespace HexSignature

variable {p : Platform} {signature : Text}

theorem visible (h : HexSignature signature) : ∀ c ∈ signature, p.runtime.isSpace c = false := by
  intro c hc
  have digit := h.digits c hc
  have small := isHex_lt digit
  simp only [isHex, Bool.or_eq_true, Bool.and_eq_true, decide_eq_true_eq] at digit
  rw [p.space_ascii c small]
  simp only [Bool.or_eq_false_iff, decide_eq_false_iff_not]
  omega

theorem strip_eq (h : HexSignature signature) : p.runtime.strip signature = signature :=
  p.runtime.strip_of_forall h.visible

theorem ne_nil (h : HexSignature signature) : signature ≠ [] := by
  intro empty
  have := h.length
  simp [empty] at this

theorem isHexDigest (h : HexSignature signature) : p.isHexDigest signature = true := by
  simp [Platform.isHexDigest, h.length, p.runtime.isHexInt_of_forall h.ne_nil h.digits]

theorem lower_eq (h : HexSignature signature) : p.runtime.lower signature = signature.map asciiLower :=
  p.lower_ascii _ fun c hc => isHex_lt (h.digits c hc)

theorem lower_small (h : HexSignature signature) : (signature.map asciiLower).all (· < 128) = true := by
  simp only [List.all_map, List.all_eq_true, Function.comp_apply, decide_eq_true_eq]
  intro c hc
  exact asciiLower_lt (isHex_lt (h.digits c hc))

end HexSignature

theorem hexdigest_small (digest : List UInt8) : (hexdigest digest).all (· < 128) = true := by
  have lower := isLowerHex_hexdigest digest
  simp only [List.all_eq_true, decide_eq_true_eq] at lower ⊢
  intro c hc
  exact isLowerHex_lt (lower c hc)

theorem map_asciiLower_hexdigest (digest : List UInt8) : (hexdigest digest).map asciiLower = hexdigest digest := by
  conv_rhs => rw [← List.map_id (hexdigest digest)]
  refine List.map_congr_left fun c hc => ?_
  have digit := List.all_eq_true.mp (isLowerHex_hexdigest digest) c hc
  simp only [isLowerHex, Bool.or_eq_true, Bool.and_eq_true, decide_eq_true_eq] at digit
  have lower : ¬(0x41 ≤ c ∧ c ≤ 0x5A) := by omega
  rw [asciiLower, if_neg lower, id]

section Cascade

variable {p : Platform} {registry : Registry} {r : PartnerRequest} {now : Moment} {dry : Bool} {secret : PartnerSecret}
  {skew : Int} {canonical signature : Text}

theorem rejectWithSecret_accepted {reason : DecisionReason} :
    ¬∃ v, rejectWithSecret secret reason skew now = .ok v ∧ v.accepted = true := by
  rintro ⟨v, rejected, accepted⟩
  obtain ⟨status, -, made⟩ := (bind_eq_ok_iff _ _ _).mp rejected
  cases made
  cases accepted

/-- With a signature of hexadecimal digits, the comparison does not raise. -/
theorem compareDigest_eq (h : HexSignature signature) (digest : List UInt8) :
    Platform.compareDigest (hexdigest digest) (p.runtime.lower (p.runtime.strip signature)) =
      .ok (hexdigest digest == signature.map asciiLower) := by
  rw [h.strip_eq, h.lower_eq]
  unfold Platform.compareDigest
  rw [hexdigest_small, h.lower_small]
  rfl

/-- The signatures of both schemes are HMACs of texts. -/
theorem generateHmacSignature_eq_ok_iff {secret message expected : Text} :
    p.generateHmacSignature secret message = .ok expected ↔
      ∃ key bytes, encodeUtf8 secret = .ok key ∧ encodeUtf8 message = .ok bytes ∧
        expected = hexdigest (p.hmacSha256 key bytes) := by
  unfold Platform.generateHmacSignature
  simp only [bind_eq_ok_iff]
  constructor
  · rintro ⟨key, hkey, bytes, hbytes, made⟩
    cases made
    exact ⟨key, bytes, hkey, hbytes, rfl⟩
  · rintro ⟨key, bytes, hkey, hbytes, rfl⟩
    exact ⟨key, hkey, bytes, hbytes, rfl⟩

theorem generatePartnerHmacSignature_eq (secret message : Text) :
    generatePartnerHmacSignature p secret message = p.generateHmacSignature secret message := rfl

theorem judgeSignature_accepted_iff (h : HexSignature signature) :
    (∃ v, judgeSignature p canonical signature now secret skew = .ok v ∧ v.accepted = true) ↔
      Signed p secret.secret canonical signature ∧ ∃ status, rotationWindowStatus secret now = .ok status := by
  unfold judgeSignature
  constructor
  · rintro ⟨v, judged, accepted⟩
    obtain ⟨expected, generated, judged⟩ := (bind_eq_ok_iff _ _ _).mp judged
    rw [generatePartnerHmacSignature_eq] at generated
    obtain ⟨key, bytes, hkey, hbytes, rfl⟩ := generateHmacSignature_eq_ok_iff.mp generated
    rw [compareDigest_eq h] at judged
    obtain ⟨same, compared, judged⟩ := (bind_eq_ok_iff _ _ _).mp judged
    cases compared
    by_cases same : hexdigest (p.hmacSha256 key bytes) = signature.map asciiLower
    · rw [if_pos (by simpa using same)] at judged
      obtain ⟨status, rotation, -⟩ := (bind_eq_ok_iff _ _ _).mp judged
      exact ⟨⟨key, bytes, hkey, hbytes, same.symm⟩, status, rotation⟩
    · rw [if_neg (by simpa using same)] at judged
      exact absurd ⟨v, judged, accepted⟩ rejectWithSecret_accepted
  · rintro ⟨⟨key, bytes, hkey, hbytes, same⟩, status, rotation⟩
    have generated : generatePartnerHmacSignature p secret.secret canonical = .ok (hexdigest (p.hmacSha256 key bytes)) :=
      generateHmacSignature_eq_ok_iff.mpr ⟨key, bytes, hkey, hbytes, rfl⟩
    refine ⟨⟨true, acceptReason secret.status, some skew, some secret, status⟩, ?_, rfl⟩
    refine (bind_eq_ok_iff _ _ _).mpr ⟨_, generated, (bind_eq_ok_iff _ _ _).mpr ⟨_, compareDigest_eq h _, ?_⟩⟩
    rw [if_pos (by simp [same])]
    exact (bind_eq_ok_iff _ _ _).mpr ⟨status, rotation, rfl⟩

/-! ## Secrets -/

/-- The status of the secret allows its use: it is the current one, the previous one in its grace window, or the next one
in a dry run. -/
def Usable (secret : PartnerSecret) (now : Int) (dry : Bool) : Prop :=
  secret.status = .current ∨
    (secret.status = .previous ∧ ∃ validUntil t, secret.previousValidUntil = some validUntil ∧
      validUntil.instant = some t ∧ now ≤ t) ∨
    (secret.status = .next ∧ dry = true)

theorem previousWindowIsActive_iff {ν : Int} (hν : now.instant = some ν) :
    previousWindowIsActive secret now = .ok true ↔ ∃ validUntil t, secret.previousValidUntil = some validUntil ∧
      validUntil.instant = some t ∧ ν ≤ t := by
  unfold previousWindowIsActive
  cases hu : secret.previousValidUntil with
  | none => simp
  | some validUntil =>
      cases ht : validUntil.instant with
      | none => simp [Moment.le, Moment.aligned, hν, ht, Except.map]
      | some t => simp [Moment.le, Moment.aligned, hν, ht, Except.map]

theorem judgeSecret_accepted_iff {ν : Int} (h : HexSignature signature) (hν : now.instant = some ν) :
    (∃ v, judgeSecret p canonical signature now dry secret skew = .ok v ∧ v.accepted = true) ↔
      secret.clientEnabled = true ∧ Usable secret ν dry ∧ Signed p secret.secret canonical signature := by
  unfold judgeSecret
  by_cases enabled : secret.clientEnabled = true
  · cases status : secret.status with
    | disabled =>
        simp [enabled, status, Usable, rejectWithSecret_accepted]
    | revoked =>
        simp [enabled, status, Usable, rejectWithSecret_accepted]
    | current =>
        have rotation : ∃ text, rotationWindowStatus secret now = .ok text := ⟨_, by rw [rotationWindowStatus, status]⟩
        simp [enabled, Usable, status, judgeSignature_accepted_iff h, rotation]
    | next =>
        have rotation : ∃ text, rotationWindowStatus secret now = .ok text := ⟨_, by rw [rotationWindowStatus, status]⟩
        cases dry with
        | false => simp [enabled, Usable, status, rejectWithSecret_accepted]
        | true => simp [enabled, Usable, status, judgeSignature_accepted_iff h, rotation]
    | previous =>
        have usable_iff : Usable secret ν dry ↔ previousWindowIsActive secret now = .ok true := by
          rw [previousWindowIsActive_iff hν]
          simp [Usable, status]
        rw [usable_iff]
        cases window : previousWindowIsActive secret now with
        | error x => simp [enabled, bind_eq_ok_iff]
        | ok active =>
            cases active with
            | false => simp [enabled, bind_eq_ok_iff, pure, Except.pure]
            | true =>
                have rotation : ∃ text, rotationWindowStatus secret now = .ok text :=
                  ⟨_, by rw [rotationWindowStatus, status, window]; rfl⟩
                simp [enabled, bind_eq_ok_iff, judgeSignature_accepted_iff h, rotation]
  · simp [enabled, rejectWithSecret_accepted]

/-! ## Times -/

/-- The seconds of a difference in microseconds, without its sign, as a binary64 number. -/
def roundedSeconds (delta : Int) : Rat :=
  match totalSeconds delta with
  | .finite _ x => x
  | _ => 0

/-- At most `seconds` between two times. -/
def WithinSkew (delta seconds : Int) : Prop := |delta| ≤ seconds * 1000000

instance (delta seconds : Int) : Decidable (WithinSkew delta seconds) :=
  inferInstanceAs (Decidable (|delta| ≤ seconds * 1000000))

theorem totalSeconds_eq {delta : Int} (h : |delta| < 1000000 * 2 ^ 53) :
    totalSeconds delta = .finite (decide (delta < 0)) (roundedSeconds delta) ∧ 0 ≤ roundedSeconds delta ∧
      |roundedSeconds delta - |(delta : Rat)| / 1000000| ≤ 1 / 2 := by
  have small : delta.natAbs < 1000000 * 2 ^ 53 := by
    have : |delta| = (delta.natAbs : Int) := Int.abs_eq_natAbs delta
    omega
  obtain ⟨x, rounded, nonneg, within⟩ := nearest_within (d := 1000000) (by norm_num) small (decide (delta < 0))
  have seconds : totalSeconds delta = .finite (decide (delta < 0)) x := rounded
  have same : roundedSeconds delta = x := by
    unfold roundedSeconds
    rw [seconds]
  have magnitude : ((delta.natAbs : Nat) : Rat) = |(delta : Rat)| := by
    rw [Nat.cast_natAbs, Int.cast_abs]
  rw [same]
  refine ⟨seconds, nonneg, ?_⟩
  rw [← magnitude]
  exact_mod_cast within

theorem Moment.instant_range {m : Moment} {t : Int} (h : m.instant = some t) :
    -62135683200000000 < t ∧ t < 253402387200000000 := by
  unfold Moment.instant at h
  obtain ⟨offset, hoffset, rfl⟩ := Option.map_eq_some_iff.mp h
  have wall := m.wall_range
  have range := m.offset_range offset hoffset
  omega

variable {τ ν : Int} {t : Moment}

theorem delta_small (hτ : t.instant = some τ) (hν : now.instant = some ν) : |τ - ν| < 1000000 * 2 ^ 53 := by
  have hτ' := Moment.instant_range hτ
  have hν' := Moment.instant_range hν
  rw [abs_lt]
  constructor <;> omega

theorem sub_eq (hτ : t.instant = some τ) (hν : now.instant = some ν) : t.sub now = .ok (τ - ν) := by
  simp [Moment.sub, Moment.aligned, hτ, hν, Except.map]

/-- The skew is rounded to a float and then cut to whole seconds. -/
theorem timestampSkewSeconds_eq (hτ : t.instant = some τ) (hν : now.instant = some ν) :
    timestampSkewSeconds p t now = .ok ⌊roundedSeconds (τ - ν)⌋ := by
  obtain ⟨seconds, nonneg, -⟩ := totalSeconds_eq (delta_small hτ hν)
  have floor_nonneg : 0 ≤ ⌊roundedSeconds (τ - ν)⌋ := Int.floor_nonneg.mpr nonneg
  have abs_floor : |if decide (τ - ν < 0) = true then -⌊roundedSeconds (τ - ν)⌋ else ⌊roundedSeconds (τ - ν)⌋| =
      ⌊roundedSeconds (τ - ν)⌋ := by
    split_ifs
    · rw [abs_neg, abs_of_nonneg floor_nonneg]
    · exact abs_of_nonneg floor_nonneg
  unfold timestampSkewSeconds
  rw [sub_eq hτ hν]
  refine (bind_eq_ok_iff _ _ _).mpr ⟨_, rfl, (bind_eq_ok_iff _ _ _).mpr ⟨_, ?_, congrArg Except.ok abs_floor⟩⟩
  rw [seconds]
  rfl

/-- The window of the other path takes the float as it is. -/
theorem validateTimestampWindow_iff (hτ : t.instant = some τ) (hν : now.instant = some ν) (s : Int) :
    validateTimestampWindow t now s = .ok () ↔ roundedSeconds (τ - ν) ≤ s := by
  obtain ⟨seconds, -, -⟩ := totalSeconds_eq (delta_small hτ hν)
  unfold validateTimestampWindow
  simp only [hτ, hν, Option.isNone_some, Bool.false_eq_true, if_false, sub_eq hτ hν, seconds, absExceeds,
    decide_eq_true_eq]
  by_cases beyond : (s : Rat) < roundedSeconds (τ - ν)
  · simp [beyond]
  · simp [beyond, not_lt.mp beyond]

/-- Rounding to a float does not take a timestamp out of the window. -/
theorem WithinSkew.floor_le {delta s : Int} (h : WithinSkew delta s) (small : |delta| < 1000000 * 2 ^ 53) :
    ⌊roundedSeconds delta⌋ ≤ s := by
  obtain ⟨-, -, near⟩ := totalSeconds_eq small
  have exact_le : |(delta : Rat)| / 1000000 ≤ s := by
    rw [div_le_iff₀ (by norm_num)]
    have : ((|delta| : Int) : Rat) ≤ ((s * 1000000 : Int) : Rat) := by exact_mod_cast h
    simpa using this
  have upper := (abs_le.mp near).2
  have below : roundedSeconds delta < ((s + 1 : Int) : Rat) := by
    push_cast
    linarith
  exact Int.lt_add_one_iff.mp (Int.floor_lt.mpr below)

/-! ## The decision -/

/-- What a request needs besides its time. -/
structure Credentials (p : Platform) (registry : Registry) (r : PartnerRequest) (now : Int) (dry : Bool) : Prop where
  nonce : ∃ c ∈ r.nonce, p.runtime.isSpace c = false
  secret : ∃ secret, registry.get r.clientId r.keyId = some secret ∧ secret.clientEnabled = true ∧
    Usable secret now dry ∧ Signed p secret.secret (buildPartnerCanonicalRequest p r) r.signature

theorem judgeClient_accepted_iff (h : HexSignature r.signature) (hν : now.instant = some ν) :
    (∃ v, judgeClient p registry r now dry skew = .ok v ∧ v.accepted = true) ↔
      ∃ secret, registry.get r.clientId r.keyId = some secret ∧ secret.clientEnabled = true ∧
        Usable secret ν dry ∧ Signed p secret.secret (buildPartnerCanonicalRequest p r) r.signature := by
  unfold judgeClient
  cases registry.get r.clientId r.keyId with
  | none => simp [reject]
  | some secret => simp [judgeSecret_accepted_iff h hν]

theorem judge_accepted_iff {s : Int} (h : HexSignature r.signature)
    (ht : parsePartnerTimestamp p r.timestamp = some t) (hτ : t.instant = some τ) (hν : now.instant = some ν) :
    (∃ v, judge p registry r now s dry = .ok v ∧ v.accepted = true) ↔
      ⌊roundedSeconds (τ - ν)⌋ ≤ s ∧ Credentials p registry r ν dry := by
  have nonce_iff : (p.runtime.strip r.nonce).isEmpty = false ↔ ∃ c ∈ r.nonce, p.runtime.isSpace c = false := by
    rw [← p.runtime.strip_ne_nil_iff]
    simp
  have present : (p.runtime.strip r.signature).isEmpty = false := by
    rw [h.strip_eq]
    simpa using h.ne_nil
  have format : p.isHexDigest (p.runtime.strip r.signature) = true := by
    rw [h.strip_eq]
    exact h.isHexDigest
  unfold judge
  by_cases nonce : (p.runtime.strip r.nonce).isEmpty = true
  · rw [if_pos nonce]
    have missing : ¬∃ c ∈ r.nonce, p.runtime.isSpace c = false := by
      rw [← nonce_iff, nonce]
      decide
    constructor
    · rintro ⟨v, judged, accepted⟩
      cases judged
      cases accepted
    · rintro ⟨-, credentials⟩
      exact absurd credentials.nonce missing
  · have visible := nonce_iff.mp (by simpa using nonce)
    simp only [nonce, present, format, ht, Bool.false_eq_true, if_false, Bool.not_true]
    rw [timestampSkewSeconds_eq hτ hν]
    simp only [bind_eq_ok_iff, Except.ok.injEq, exists_eq_left']
    by_cases inside : ⌊roundedSeconds (τ - ν)⌋ ≤ s
    · simp only [not_lt.mpr inside, if_false, judgeClient_accepted_iff h hν, inside, true_and]
      constructor
      · intro secret
        exact ⟨visible, secret⟩
      · intro credentials
        exact credentials.secret
    · constructor
      · rintro ⟨v, judged, accepted⟩
        rw [if_pos (not_le.mp inside)] at judged
        cases judged
        cases accepted
      · rintro ⟨whole, -⟩
        exact absurd whole inside

/-- `verify_partner_hmac_request` accepts the request. -/
def Accepts (p : Platform) (registry : Registry) (r : PartnerRequest) (now : Moment) (s : Int) (dry : Bool)
    (requestCase expectedResult : String) : Prop :=
  ∃ result, verifyPartnerHmacRequest p registry r now s dry requestCase expectedResult = .ok result ∧
    result.accepted = true

theorem clientToken_ok_iff {clientId : Text} : (∃ token, clientToken p clientId = .ok token) ↔ Encodable clientId := by
  unfold clientToken Encodable
  rw [bind_ok_iff]
  simp [pure, Except.pure]

theorem accepts_iff {s : Int} {requestCase expectedResult : String} (h : HexSignature r.signature)
    (ht : parsePartnerTimestamp p r.timestamp = some t) (hτ : t.instant = some τ) (hν : now.instant = some ν) :
    Accepts p registry r now s dry requestCase expectedResult ↔
      Encodable r.clientId ∧ ⌊roundedSeconds (τ - ν)⌋ ≤ s ∧ Credentials p registry r ν dry := by
  rw [← judge_accepted_iff h ht hτ hν, ← clientToken_ok_iff (p := p)]
  unfold Accepts verifyPartnerHmacRequest
  constructor
  · rintro ⟨made, verified, accepted⟩
    obtain ⟨bytes, -, verified⟩ := (bind_eq_ok_iff _ _ _).mp verified
    obtain ⟨v, judged, verified⟩ := (bind_eq_ok_iff _ _ _).mp verified
    obtain ⟨token, tokened, verified⟩ := (bind_eq_ok_iff _ _ _).mp verified
    cases verified
    exact ⟨⟨token, tokened⟩, v, judged, accepted⟩
  · rintro ⟨⟨token, tokened⟩, v, judged, accepted⟩
    -- an accepted request has a signature, so its canonical form has bytes
    obtain ⟨-, credentials⟩ := (judge_accepted_iff h ht hτ hν).mp ⟨v, judged, accepted⟩
    obtain ⟨secret, -, -, -, key, bytes, -, hbytes, -⟩ := credentials.secret
    simp only [bind_eq_ok_iff, result]
    exact ⟨_, ⟨bytes, hbytes, v, judged, token, tokened, rfl⟩, accepted⟩

/-- The partner path decides as it should, and by the same window as the other path. -/
def Exact (p : Platform) (registry : Registry) (r : PartnerRequest) (t now : Moment) (τ ν s : Int) (dry : Bool)
    (requestCase expectedResult : String) : Prop :=
  (Accepts p registry r now s dry requestCase expectedResult ↔ WithinSkew (τ - ν) s ∧ Credentials p registry r ν dry) ∧
    ((∃ skew, timestampSkewSeconds p t now = .ok skew ∧ skew ≤ s) ↔ validateTimestampWindow t now s = .ok ())

/-- Why the partner path does not. -/
inductive Deviation (p : Platform) (registry : Registry) (r : PartnerRequest) (τ ν s : Int) (dry : Bool) : Prop where
  /-- The timestamp is out of the window by a fraction of a second. -/
  | cut (credentials : Credentials p registry r ν dry) (encodable : Encodable r.clientId)
      (outside : ¬WithinSkew (τ - ν) s) (whole : ⌊roundedSeconds (τ - ν)⌋ ≤ s)
  /-- The two paths differ by that fraction. -/
  | windows (outside : s < roundedSeconds (τ - ν)) (whole : ⌊roundedSeconds (τ - ν)⌋ ≤ s)
  /-- The identity of the client has no bytes to hash. -/
  | surrogate (credentials : Credentials p registry r ν dry) (within : WithinSkew (τ - ν) s)
      (unencodable : ¬Encodable r.clientId)

end Cascade

/-- **The partner decision is exact** unless a fraction of a second, or the identity of the client, stands against it. -/
theorem partner_decision_iff (p : Platform) (registry : Registry) (r : PartnerRequest) (t now : Moment) (τ ν s : Int)
    (dry : Bool) (requestCase expectedResult : String) (h : HexSignature r.signature)
    (ht : parsePartnerTimestamp p r.timestamp = some t) (hτ : t.instant = some τ) (hν : now.instant = some ν) :
    Exact p registry r t now τ ν s dry requestCase expectedResult ↔ ¬Deviation p registry r τ ν s dry := by
  have window : (∃ skew, timestampSkewSeconds p t now = .ok skew ∧ skew ≤ s) ↔ ⌊roundedSeconds (τ - ν)⌋ ≤ s := by
    rw [timestampSkewSeconds_eq hτ hν]
    simp
  have floors : WithinSkew (τ - ν) s → ⌊roundedSeconds (τ - ν)⌋ ≤ s := fun within =>
    within.floor_le (delta_small hτ hν)
  have cut : roundedSeconds (τ - ν) ≤ s → ⌊roundedSeconds (τ - ν)⌋ ≤ s := fun below =>
    Int.cast_le.mp (le_trans (Int.floor_le (roundedSeconds (τ - ν))) below)
  unfold Exact
  rw [accepts_iff h ht hτ hν, window, validateTimestampWindow_iff hτ hν]
  constructor
  · rintro ⟨decides, same⟩ deviation
    cases deviation with
    | cut credentials encodable outside whole => exact outside (decides.mp ⟨encodable, whole, credentials⟩).1
    | windows outside whole => exact absurd (same.mp whole) (not_le.mpr outside)
    | surrogate credentials within unencodable => exact unencodable (decides.mpr ⟨within, credentials⟩).1
  · intro none
    refine ⟨⟨?_, ?_⟩, ⟨?_, cut⟩⟩
    · rintro ⟨encodable, whole, credentials⟩
      refine ⟨?_, credentials⟩
      by_contra outside
      exact none (.cut credentials encodable outside whole)
    · rintro ⟨within, credentials⟩
      refine ⟨?_, floors within, credentials⟩
      by_contra unencodable
      exact none (.surrogate credentials within unencodable)
    · intro whole
      by_contra outside
      exact none (.windows (not_le.mp outside) whole)

/-! ## A request -/

namespace Trial

/-- A function given by its values on some inputs. -/
def patch (table : List (List UInt8 × List UInt8)) (b : List UInt8) : List UInt8 :=
  (table.lookup b).getD (List.replicate 33 0 ++ b)

theorem patch_injective {table : List (List UInt8 × List UInt8)} (hlen : ∀ e ∈ table, e.2.length = 32)
    (hnd : (table.map Prod.snd).Nodup) : Function.Injective (patch table) := by
  have entry : ∀ b d, table.lookup b = some d → (b, d) ∈ table := by
    intro b d found
    obtain ⟨before, rest, split, -⟩ := List.lookup_eq_some_iff.mp found
    simp [split]
  have long : ∀ b d, table.lookup b = some d → ∀ b', d ≠ List.replicate 33 0 ++ b' := by
    intro b d found b' same
    have := hlen _ (entry b d found)
    rw [same] at this
    simp at this
  intro b b' same
  unfold patch at same
  cases found : table.lookup b with
  | none =>
      cases found' : table.lookup b' with
      | none => simpa [found, found'] using same
      | some d' => exact absurd (by simpa [found, found'] using same.symm) (long b' d' found' b)
  | some d =>
      cases found' : table.lookup b' with
      | none => exact absurd (by simpa [found, found'] using same) (long b d found b')
      | some d' =>
          have equal : d = d' := by simpa [found, found'] using same
          subst equal
          exact congrArg Prod.fst (List.inj_on_of_nodup_map hnd (entry b d found) (entry b' d found') rfl)

/-- `2026-05-12T09:00Z`. -/
def sent : Moment where
  datetime := ⟨1778576400000000, some 0⟩
  wall_range := by decide
  offset_range := by simp

/-- The time this many microseconds later. -/
def later (microseconds : Int) (h : 0 ≤ microseconds ∧ microseconds ≤ 86400000000) : Moment where
  datetime := ⟨1778576400000000 + microseconds, some 0⟩
  wall_range := by dsimp only; omega
  offset_range := by simp

def emptyDigest : List UInt8 := [227, 176, 196, 66, 152, 252, 28, 20, 154, 251, 244, 200, 153, 111, 185, 36, 39, 174, 65,
  228, 100, 155, 147, 76, 164, 149, 153, 27, 120, 82, 184, 85]

def canonicalDigest : List UInt8 := [240, 211, 78, 9, 237, 179, 199, 9, 115, 69, 133, 59, 213, 209, 89, 166, 252, 167,
  216, 212, 84, 34, 218, 53, 127, 84, 17, 13, 140, 41, 147, 100]

def clientDigest : List UInt8 := [208, 246, 49, 202, 29, 219, 168, 219, 59, 207, 203, 158, 5, 124, 220, 152, 208, 55, 159,
  27, 238, 0, 231, 90, 84, 81, 71, 162, 125, 173, 217, 130]

def partnerHmac : List UInt8 := [64, 199, 135, 114, 49, 193, 29, 136, 64, 90, 44, 35, 26, 25, 175, 1, 136, 222, 41, 161,
  72, 19, 72, 163, 221, 162, 68, 165, 89, 112, 2, 126]

def legacyHmac : List UInt8 := [91, 56, 246, 7, 156, 209, 17, 248, 255, 31, 242, 44, 34, 144, 75, 100, 137, 32, 133, 18,
  84, 116, 54, 131, 83, 175, 119, 179, 55, 96, 6, 56]

/-- The bytes of `POST`, `/v1` and the timestamp, each with its newline. -/
def head : List UInt8 := [80, 79, 83, 84, 10, 47, 118, 49, 10, 50, 48, 50, 54, 45, 48, 53, 45, 49, 50, 84, 48, 57, 58, 48,
  48, 90, 10]

def asciiBytes (s : Text) : List UInt8 := s.map Nat.toUInt8

/-- The canonical request with the nonce `n1` and an empty body, and the base string without the nonce. -/
def canonicalBytes : List UInt8 := head ++ [110, 49, 10] ++ asciiBytes (hexdigest emptyDigest)

def baseBytes : List UInt8 := head ++ asciiBytes (hexdigest emptyDigest)

theorem cpython_lower_ascii (s : Text) (_ : ∀ c ∈ s, c < 128) : cpython.lower s = s.map asciiLower := rfl

/-- SHA-256, HMAC-SHA256 under the secret `k`, and ASCII. -/
def platform : Platform where
  runtime := cpython
  upper c := [if 0x61 ≤ c ∧ c ≤ 0x7A then c - 0x20 else c]
  sha256 := patch [([], emptyDigest), (canonicalBytes, canonicalDigest), ([99, 49], clientDigest)]
  hmacSha256 _ := patch [(canonicalBytes, partnerHmac), (baseBytes, legacyHmac)]
  fromisoformat s := if s = text "2026-05-12T09:00+00:00" then some sent else none
  space_ascii := cpython_space_ascii
  lower_ascii := cpython_lower_ascii
  upper_newline := by
    intro c h
    have same := List.mem_singleton.mp h
    split_ifs at same <;> omega

def request : PartnerRequest where
  method := text "POST"
  path := text "/v1"
  timestamp := text "2026-05-12T09:00Z"
  nonce := text "n1"
  rawBody := []
  clientId := text "c1"
  keyId := text "k1"
  signature := hexdigest partnerHmac

def registry : Registry := .ofSecrets [
  { clientId := text "c1", keyId := text "k1", secret := text "k", status := .current }]

theorem hexSignature : HexSignature request.signature where
  length := rfl
  digits := by decide +kernel

theorem parsed : parsePartnerTimestamp platform request.timestamp = some sent := rfl

theorem canonical_bytes : encodeUtf8 (buildPartnerCanonicalRequest platform request) = .ok canonicalBytes := by
  decide +kernel

theorem hmac_canonical (key : List UInt8) : platform.hmacSha256 key canonicalBytes = partnerHmac := by
  have found : patch [(canonicalBytes, partnerHmac), (baseBytes, legacyHmac)] canonicalBytes = partnerHmac := by
    simp [patch]
  exact found

theorem credentials (now : Int) : Credentials platform registry request now false where
  nonce := ⟨0x6E, by decide, rfl⟩
  secret := by
    refine ⟨_, rfl, rfl, .inl rfl, [107], canonicalBytes, rfl, canonical_bytes, ?_⟩
    rw [hmac_canonical]
    exact map_asciiLower_hexdigest _

end Trial

theorem partner_decision_in_time :
    Exact Trial.platform Trial.registry Trial.request Trial.sent (Trial.later 10000000 (by decide)) 1778576400000000
      1778576410000000 300 false "trial" "ACCEPT" := by
  refine (partner_decision_iff _ _ _ _ _ 1778576400000000 1778576410000000 _ _ _ _ Trial.hexSignature Trial.parsed rfl
    rfl).mpr ?_
  have within : WithinSkew (1778576400000000 - 1778576410000000) 300 := by decide
  obtain ⟨-, -, near⟩ := @totalSeconds_eq (1778576400000000 - 1778576410000000) (by decide)
  intro deviation
  cases deviation with
  | cut _ _ outside _ => exact outside within
  | windows outside _ =>
      have upper := (abs_le.mp near).2
      norm_num at outside upper
      linarith
  | surrogate _ _ unencodable => exact unencodable ⟨_, rfl⟩

/-- 300.4 seconds are accepted as 300. -/
theorem partner_accepts_late :
    HexSignature Trial.request.signature ∧
      parsePartnerTimestamp Trial.platform Trial.request.timestamp = some Trial.sent ∧
      ¬Exact Trial.platform Trial.registry Trial.request Trial.sent (Trial.later 300400000 (by decide)) 1778576400000000
        1778576700400000 300 false "trial" "ACCEPT" := by
  refine ⟨Trial.hexSignature, Trial.parsed, ?_⟩
  obtain ⟨-, -, near⟩ := @totalSeconds_eq (1778576400000000 - 1778576700400000) (by decide)
  have whole : ⌊roundedSeconds (1778576400000000 - 1778576700400000)⌋ ≤ 300 := by
    have upper := (abs_le.mp near).2
    have below : roundedSeconds (1778576400000000 - 1778576700400000) < ((301 : Int) : Rat) := by
      norm_num at upper ⊢
      linarith
    exact Int.lt_add_one_iff.mp (Int.floor_lt.mpr below)
  rw [Exact, accepts_iff Trial.hexSignature Trial.parsed rfl rfl]
  rintro ⟨decides, -⟩
  have within := (decides.mp ⟨⟨_, rfl⟩, whole, Trial.credentials _⟩).1
  exact absurd within (by decide)

/-! ## Binding -/

/-- The request was accepted under this secret, by some registry at some time. -/
def AcceptedUnder (p : Platform) (secret : Text) (r : PartnerRequest) : Prop :=
  ∃ registry now s dry requestCase expectedResult entry, registry.get r.clientId r.keyId = some entry ∧
    entry.secret = secret ∧ Accepts p registry r now s dry requestCase expectedResult

/-- What the other path signs, with the signature. -/
structure LegacyRequest where
  method : Text
  path : Text
  timestamp : Text
  rawBody : List UInt8
  signature : Text

/-- The base string of `verify_external_request_signature`. -/
def LegacyRequest.baseString (p : Platform) (q : LegacyRequest) : Text :=
  p.buildSignatureBaseString q.method q.path q.timestamp (p.generateBodyHash q.rawBody)

def LegacyRequest.Accepted (p : Platform) (secret : Text) (q : LegacyRequest) : Prop :=
  p.verifyHmacSignature secret (q.baseString p) q.signature = .ok true

/-- No field contains a newline. -/
structure PartnerRequest.OneLine (r : PartnerRequest) : Prop where
  method : 10 ∉ r.method
  path : 10 ∉ r.path
  timestamp : 10 ∉ r.timestamp
  nonce : 10 ∉ r.nonce

structure LegacyRequest.OneLine (q : LegacyRequest) : Prop where
  method : 10 ∉ q.method
  path : 10 ∉ q.path
  timestamp : 10 ∉ q.timestamp

section Binding

variable {p : Platform} {secret signature : Text} {r r' : PartnerRequest} {q q' : LegacyRequest}

theorem newline_notMem_upperText {s : Text} (h : 10 ∉ s) : 10 ∉ p.upperText s := by
  unfold Platform.upperText
  intro newline
  obtain ⟨c, hc, upper⟩ := List.mem_flatMap.mp newline
  exact h (p.upper_newline c upper ▸ hc)

theorem newline_notMem_hexdigest (digest : List UInt8) : 10 ∉ hexdigest digest := by
  intro newline
  have := List.all_eq_true.mp (isLowerHex_hexdigest digest) 10 newline
  exact absurd this (by decide)

theorem PartnerRequest.OneLine.lines (h : r.OneLine) :
    ∀ line ∈ [p.upperText r.method, r.path, r.timestamp, r.nonce, p.generateBodyHash r.rawBody], 10 ∉ line := by
  simp only [List.forall_mem_cons]
  exact ⟨newline_notMem_upperText h.method, h.path, h.timestamp, h.nonce, newline_notMem_hexdigest _, by simp⟩

theorem LegacyRequest.OneLine.lines (h : q.OneLine) :
    ∀ line ∈ [p.upperText q.method, q.path, q.timestamp, p.generateBodyHash q.rawBody], 10 ∉ line := by
  simp only [List.forall_mem_cons]
  exact ⟨newline_notMem_upperText h.method, h.path, h.timestamp, newline_notMem_hexdigest _, by simp⟩

theorem generateBodyHash_inj (hsha : Function.Injective p.sha256) {b b' : List UInt8}
    (h : p.generateBodyHash b = p.generateBodyHash b') : b = b' :=
  hsha (hexdigest_inj h)

theorem compareDigest_eq_true {a b : Text} (h : Platform.compareDigest a b = .ok true) : a = b := by
  unfold Platform.compareDigest at h
  split_ifs at h
  simpa using h

/-- Two texts with the same HMAC under one secret are the same. -/
theorem message_eq (hhmac : ∀ key, Function.Injective (p.hmacSha256 key)) {message message' expected : Text}
    (h : p.generateHmacSignature secret message = .ok expected)
    (h' : p.generateHmacSignature secret message' = .ok expected) : message = message' := by
  obtain ⟨key, bytes, hkey, hbytes, made⟩ := generateHmacSignature_eq_ok_iff.mp h
  obtain ⟨key', bytes', hkey', hbytes', made'⟩ := generateHmacSignature_eq_ok_iff.mp h'
  have same_key : key = key' := Except.ok.inj (hkey.symm.trans hkey')
  subst same_key
  have same_bytes : bytes = bytes' := hhmac key (hexdigest_inj (made.symm.trans made'))
  subst same_bytes
  exact encodeUtf8_inj hbytes hbytes'

theorem judgeSignature_signed {canonical : Text} {now : Moment} {entry : PartnerSecret} {skew : Int} {v : Verdict}
    (h : judgeSignature p canonical signature now entry skew = .ok v) (accepted : v.accepted = true) :
    p.generateHmacSignature entry.secret canonical = .ok (p.runtime.lower (p.runtime.strip signature)) := by
  obtain ⟨expected, generated, h⟩ := (bind_eq_ok_iff _ _ _).mp h
  obtain ⟨same, compared, h⟩ := (bind_eq_ok_iff _ _ _).mp h
  cases same with
  | false => exact absurd ⟨v, h, accepted⟩ rejectWithSecret_accepted
  | true =>
      rw [← compareDigest_eq_true compared]
      exact generated

theorem judgeSecret_signed {canonical : Text} {now : Moment} {dry : Bool} {entry : PartnerSecret} {skew : Int}
    {v : Verdict} (h : judgeSecret p canonical signature now dry entry skew = .ok v) (accepted : v.accepted = true) :
    p.generateHmacSignature entry.secret canonical = .ok (p.runtime.lower (p.runtime.strip signature)) := by
  unfold judgeSecret at h
  split_ifs at h
  · exact absurd ⟨v, h, accepted⟩ rejectWithSecret_accepted
  · exact absurd ⟨v, h, accepted⟩ rejectWithSecret_accepted
  · exact absurd ⟨v, h, accepted⟩ rejectWithSecret_accepted
  · obtain ⟨active, -, h⟩ := (bind_eq_ok_iff _ _ _).mp h
    cases active with
    | false =>
        cases h
        cases accepted
    | true => exact judgeSignature_signed h accepted
  · exact judgeSignature_signed h accepted

theorem judge_signed {registry : Registry} {now : Moment} {s : Int} {dry : Bool} {v : Verdict}
    (h : judge p registry r now s dry = .ok v) (accepted : v.accepted = true) :
    ∃ entry, registry.get r.clientId r.keyId = some entry ∧
      p.generateHmacSignature entry.secret (buildPartnerCanonicalRequest p r) =
        .ok (p.runtime.lower (p.runtime.strip r.signature)) := by
  unfold judge at h
  split_ifs at h
  · cases h; cases accepted
  · cases h; cases accepted
  · cases h; cases accepted
  · split at h
    · cases h; cases accepted
    · obtain ⟨skew, -, h⟩ := (bind_eq_ok_iff _ _ _).mp h
      split_ifs at h
      · cases h; cases accepted
      · unfold judgeClient at h
        split at h
        · cases h; cases accepted
        · rename_i entry found
          exact ⟨entry, found, judgeSecret_signed h accepted⟩

/-- An accepted request was signed: its signature is the HMAC of its canonical form. -/
theorem AcceptedUnder.signed (h : AcceptedUnder p secret r) :
    p.generateHmacSignature secret (buildPartnerCanonicalRequest p r) =
      .ok (p.runtime.lower (p.runtime.strip r.signature)) := by
  obtain ⟨registry, now, s, dry, requestCase, expectedResult, entry, found, same, made, verified, accepted⟩ := h
  obtain ⟨bytes, -, verified⟩ := (bind_eq_ok_iff _ _ _).mp verified
  obtain ⟨v, judged, verified⟩ := (bind_eq_ok_iff _ _ _).mp verified
  obtain ⟨token, -, verified⟩ := (bind_eq_ok_iff _ _ _).mp verified
  cases verified
  obtain ⟨entry', found', signed⟩ := judge_signed judged accepted
  obtain rfl : entry = entry' := Option.some.inj (found.symm.trans found')
  rw [← same]
  exact signed

theorem LegacyRequest.Accepted.signed (h : q.Accepted p secret) :
    p.generateHmacSignature secret (q.baseString p) = .ok (p.runtime.lower q.signature) := by
  unfold LegacyRequest.Accepted Platform.verifyHmacSignature at h
  split_ifs at h
  · cases h
  · cases h
  · obtain ⟨expected, generated, compared⟩ := (bind_eq_ok_iff _ _ _).mp h
    rw [generated, compareDigest_eq_true compared]

/-- A generated signature is read back as it is. -/
theorem hexdigest_visible (digest : List UInt8) : ∀ c ∈ hexdigest digest, p.runtime.isSpace c = false := by
  intro c hc
  have digit := List.all_eq_true.mp (isLowerHex_hexdigest digest) c hc
  rw [p.space_ascii c (isLowerHex_lt digit)]
  simp only [isLowerHex, Bool.or_eq_true, Bool.and_eq_true, decide_eq_true_eq] at digit
  simp only [Bool.or_eq_false_iff, decide_eq_false_iff_not]
  omega

theorem lower_hexdigest (digest : List UInt8) : p.runtime.lower (hexdigest digest) = hexdigest digest := by
  rw [p.lower_ascii _ fun c hc => isLowerHex_lt (List.all_eq_true.mp (isLowerHex_hexdigest digest) c hc),
    map_asciiLower_hexdigest]

theorem lower_generated {message expected : Text} (h : p.generateHmacSignature secret message = .ok expected) :
    p.runtime.lower expected = expected ∧ p.runtime.strip expected = expected := by
  obtain ⟨key, bytes, -, -, rfl⟩ := generateHmacSignature_eq_ok_iff.mp h
  exact ⟨lower_hexdigest _, p.runtime.strip_of_forall (hexdigest_visible _)⟩

/-- Five lines are never four. -/
theorem canonical_ne_baseString (hr : r.OneLine) (hq : q.OneLine) :
    buildPartnerCanonicalRequest p r ≠ q.baseString p := by
  intro same
  have lines := joinText_inj (by simp) (by simp) hr.lines hq.lines same
  exact absurd (congrArg List.length lines) (by simp)

end Binding

/-- **A signature binds its request.** With hash functions that have no collisions, a signature is accepted under one
secret for one request only, and a signature of one scheme never in the other. -/
theorem signatures_bind (p : Platform) (hsha : Function.Injective p.sha256)
    (hhmac : ∀ key, Function.Injective (p.hmacSha256 key)) :
    (∀ secret r r', PartnerRequest.OneLine r → PartnerRequest.OneLine r' → r.signature = r'.signature →
      AcceptedUnder p secret r → AcceptedUnder p secret r' →
        p.upperText r.method = p.upperText r'.method ∧ r.path = r'.path ∧ r.timestamp = r'.timestamp ∧
          r.nonce = r'.nonce ∧ r.rawBody = r'.rawBody) ∧
    (∀ secret q q', LegacyRequest.OneLine q → LegacyRequest.OneLine q' → q.signature = q'.signature →
      q.Accepted p secret → q'.Accepted p secret →
        p.upperText q.method = p.upperText q'.method ∧ q.path = q'.path ∧ q.timestamp = q'.timestamp ∧
          q.rawBody = q'.rawBody) ∧
    (∀ secret r q, PartnerRequest.OneLine r → LegacyRequest.OneLine q →
      p.generateHmacSignature secret (q.baseString p) = .ok r.signature → ¬AcceptedUnder p secret r) ∧
    (∀ secret r q, PartnerRequest.OneLine r → LegacyRequest.OneLine q →
      generatePartnerHmacSignature p secret (buildPartnerCanonicalRequest p r) = .ok q.signature →
        ¬q.Accepted p secret) := by
  refine ⟨?_, ?_, ?_, ?_⟩
  · intro secret r r' hr hr' same accepted accepted'
    have signed' := accepted'.signed
    rw [← same] at signed'
    have lines := joinText_inj (by simp) (by simp) hr.lines hr'.lines (message_eq hhmac accepted.signed signed')
    simp only [List.cons.injEq, and_true] at lines
    obtain ⟨method, path, timestamp, nonce, body⟩ := lines
    exact ⟨method, path, timestamp, nonce, generateBodyHash_inj hsha body⟩
  · intro secret q q' hq hq' same accepted accepted'
    have signed' := accepted'.signed
    rw [← same] at signed'
    have lines := joinText_inj (by simp) (by simp) hq.lines hq'.lines (message_eq hhmac accepted.signed signed')
    simp only [List.cons.injEq, and_true] at lines
    obtain ⟨method, path, timestamp, body⟩ := lines
    exact ⟨method, path, timestamp, generateBodyHash_inj hsha body⟩
  · intro secret r q hr hq generated accepted
    have signed := accepted.signed
    rw [(lower_generated generated).2, (lower_generated generated).1] at signed
    exact canonical_ne_baseString hr hq (message_eq hhmac signed generated)
  · intro secret r q hr hq generated accepted
    rw [generatePartnerHmacSignature_eq] at generated
    have signed := accepted.signed
    rw [(lower_generated generated).1] at signed
    exact canonical_ne_baseString hr hq (message_eq hhmac generated signed)

namespace Trial

/-- The same request without its nonce, with the signature of the other scheme. -/
def captured : LegacyRequest := ⟨text "POST", text "/v1", text "2026-05-12T09:00Z", [], hexdigest partnerHmac⟩

theorem accepted : AcceptedUnder platform (text "k") request := by
  refine ⟨registry, sent, 300, false, "trial", "ACCEPT", _, rfl, rfl, ?_⟩
  refine (accepts_iff hexSignature parsed rfl rfl).mpr ⟨⟨_, rfl⟩, ?_, credentials _⟩
  exact WithinSkew.floor_le (by decide) (by decide)

end Trial

/-- A partner signature does not pass without its nonce. -/
theorem captured_signature_fails :
    AcceptedUnder Trial.platform (text "k") Trial.request ∧ ¬Trial.captured.Accepted Trial.platform (text "k") := by
  have hsha : Function.Injective Trial.platform.sha256 := Trial.patch_injective (by decide) (by decide +kernel)
  have hhmac : ∀ key, Function.Injective (Trial.platform.hmacSha256 key) := fun _ =>
    Trial.patch_injective (by decide) (by decide +kernel)
  have generated : generatePartnerHmacSignature Trial.platform (text "k")
      (buildPartnerCanonicalRequest Trial.platform Trial.request) = .ok Trial.captured.signature := by
    refine generateHmacSignature_eq_ok_iff.mpr ⟨[107], Trial.canonicalBytes, rfl, Trial.canonical_bytes, ?_⟩
    rw [Trial.hmac_canonical]
    rfl
  have oneLine : Trial.request.OneLine := ⟨by decide +kernel, by decide +kernel, by decide +kernel, by decide +kernel⟩
  have oneLine' : Trial.captured.OneLine := ⟨oneLine.method, oneLine.path, oneLine.timestamp⟩
  exact ⟨Trial.accepted,
    (signatures_bind Trial.platform hsha hhmac).2.2.2 (text "k") Trial.request Trial.captured oneLine oneLine' generated⟩

end EventConsistency.PartnerHmac
