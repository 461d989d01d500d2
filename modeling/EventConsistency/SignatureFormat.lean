import EventConsistency.Signatures

/-!
# The format of signatures

`_is_hex_digest` asks `int(value, 16)`, which takes more than hexadecimal digits: a sign, a prefix, underscores, blanks
and the decimal digits of other scripts.

* `isHexDigest_iff` : the texts that it takes;
* `FormatChecked` : what the two schemes rely on for a signature;
* **`signature_format_iff`** : they may do so where the numeral is written with digits of ASCII only.
-/

namespace EventConsistency.PartnerHmac

open Lib.Python

section Errors

variable {p : Platform} {registry : Registry} {r : PartnerRequest} {now : Moment} {dry : Bool} {secret : PartnerSecret}
  {skew : Int} {canonical signature : Text} {e : PyError}

theorem encodeUtf8_eq_error {s : Text} (h : encodeUtf8 s = .error e) : e = .unicodeEncodeError := by
  unfold encodeUtf8 at h
  split_ifs at h
  exact (Except.error.inj h).symm

theorem generateHmacSignature_eq_error {key message : Text} (h : p.generateHmacSignature key message = .error e) :
    e = .unicodeEncodeError := by
  unfold Platform.generateHmacSignature at h
  obtain raised | ⟨bytes, -, h⟩ := (bind_eq_error_iff _ _ _).mp h
  · exact encodeUtf8_eq_error raised
  · obtain raised | ⟨bytes', -, h⟩ := (bind_eq_error_iff _ _ _).mp h
    · exact encodeUtf8_eq_error raised
    · cases h

/-- The digest of a signature is compared without an error. -/
theorem HexSignature.compareDigest_eq (h : HexSignature signature) (digest : List UInt8) :
    Platform.compareDigest (hexdigest digest) (p.runtime.lower signature) =
      .ok (hexdigest digest == signature.map asciiLower) := by
  rw [h.lower_eq]
  unfold Platform.compareDigest
  rw [hexdigest_small, h.lower_small]
  rfl

theorem previousWindowIsActive_eq_error (h : previousWindowIsActive secret now = .error e) :
    ∃ validUntil, secret.previousValidUntil = some validUntil ∧ now.le validUntil = .error e := by
  unfold previousWindowIsActive at h
  cases until_ : secret.previousValidUntil with
  | none =>
      rw [until_] at h
      cases h
  | some validUntil =>
      rw [until_] at h
      exact ⟨validUntil, rfl, h⟩

theorem rotationWindowStatus_eq_error (h : rotationWindowStatus secret now = .error e) :
    previousWindowIsActive secret now = .error e := by
  unfold rotationWindowStatus at h
  split at h
  · obtain raised | ⟨active, -, h⟩ := (bind_eq_error_iff _ _ _).mp h
    · exact raised
    · cases h
  · cases h
  · cases h

theorem rejectWithSecret_eq_error {reason : DecisionReason} (h : rejectWithSecret secret reason skew now = .error e) :
    previousWindowIsActive secret now = .error e := by
  obtain raised | ⟨status, -, h⟩ := (bind_eq_error_iff _ _ _).mp h
  · exact rotationWindowStatus_eq_error raised
  · cases h

theorem judgeSignature_eq_error (hex : HexSignature (p.runtime.strip signature))
    (h : judgeSignature p canonical signature now secret skew = .error e) :
    e = .unicodeEncodeError ∨ previousWindowIsActive secret now = .error e := by
  obtain raised | ⟨expected, made, h⟩ := (bind_eq_error_iff _ _ _).mp h
  · exact .inl (generateHmacSignature_eq_error raised)
  · obtain ⟨key, bytes, -, -, rfl⟩ := generateHmacSignature_eq_ok_iff.mp made
    rw [hex.compareDigest_eq] at h
    obtain raised | ⟨same, -, h⟩ := (bind_eq_error_iff _ _ _).mp h
    · cases raised
    · split_ifs at h
      · obtain raised | ⟨status, -, h⟩ := (bind_eq_error_iff _ _ _).mp h
        · exact .inr (rotationWindowStatus_eq_error raised)
        · cases h
      · exact .inr (rejectWithSecret_eq_error h)

theorem judgeSecret_eq_error (hex : HexSignature (p.runtime.strip signature))
    (h : judgeSecret p canonical signature now dry secret skew = .error e) :
    e = .unicodeEncodeError ∨ previousWindowIsActive secret now = .error e := by
  unfold judgeSecret at h
  split_ifs at h
  · exact .inr (rejectWithSecret_eq_error h)
  · exact .inr (rejectWithSecret_eq_error h)
  · exact .inr (rejectWithSecret_eq_error h)
  · obtain raised | ⟨active, -, h⟩ := (bind_eq_error_iff _ _ _).mp h
    · exact .inr raised
    · split_ifs at h
      · exact judgeSignature_eq_error hex h
      · cases h
  · exact judgeSignature_eq_error hex h

theorem toInt_float_eq_error {x : PyFloat} (h : p.runtime.toInt (.float x) = .error e) : e ≠ .typeError := by
  cases x with
  | finite => cases h
  | inf => cases h; simp
  | nan => cases h; simp

end Errors

/-! ## What the check is for -/

/-- Two of the times cannot be compared, as one of them has no offset. -/
def TimesClash (p : Platform) (registry : Registry) (r : PartnerRequest) (now : Moment) : Prop :=
  (∃ t, parsePartnerTimestamp p r.timestamp = some t ∧ t.sub now = .error .typeError) ∨
    ∃ secret validUntil, registry.get r.clientId r.keyId = some secret ∧ secret.previousValidUntil = some validUntil ∧
      now.le validUntil = .error .typeError

/-- The reasons of `_reject` that come before the registry. -/
def formatReasons : List DecisionReason := [.missingNonce, .missingSignature, .invalidSignatureFormat]

/-- The check of a signature is exact, so that no comparison of digests raises, and other signatures are rejected
whatever the HMAC is. The second scheme trims the signature before. -/
structure FormatChecked (p : Platform) (v : Text) : Prop where
  exact_digits : p.isHexDigest v = true ↔ HexSignature v
  compares : ∀ secret baseString, p.verifyHmacSignature secret baseString v ≠ .error .typeError
  comparesPartner : ∀ registry r now limit dry requestCase expectedResult, p.runtime.strip r.signature = v →
    verifyPartnerHmacRequest p registry r now limit dry requestCase expectedResult = .error .typeError →
      TimesClash p registry r now
  rejects : ¬HexSignature v → ∀ hmac secret baseString,
    ({ p with hmacSha256 := hmac }).verifyHmacSignature secret baseString v = .ok false
  rejectsPartner : ¬HexSignature v → ∀ hmac registry r now limit dry, p.runtime.strip r.signature = v →
    ∃ reason ∈ formatReasons, judge { p with hmacSha256 := hmac } registry r now limit dry = .ok (reject reason none)

section Format

variable {p : Platform} {v : Text}

theorem isHexDigest_iff : p.isHexDigest v = true ↔ v.length = 64 ∧ p.runtime.HexNumeral v := by
  rw [Platform.isHexDigest, Bool.and_eq_true, decide_eq_true_eq, Runtime.isHexInt_iff]

/-- Whatever the HMAC is, a text that is no numeral is rejected. -/
theorem verifyHmacSignature_of_not_hex (h : p.isHexDigest v = false) (secret baseString : Text) :
    p.verifyHmacSignature secret baseString v = .ok false := by
  have refused : (!p.isHexDigest v) = true := by
    rw [h]
    rfl
  unfold Platform.verifyHmacSignature
  by_cases missing : (secret.isEmpty || v.isEmpty) = true
  · rw [if_pos missing]
  · rw [if_neg missing, if_pos refused]

theorem judge_of_not_hex {r : PartnerRequest} (h : p.isHexDigest (p.runtime.strip r.signature) = false)
    (registry : Registry) (now : Moment) (limit : Int) (dry : Bool) :
    ∃ reason ∈ formatReasons, judge p registry r now limit dry = .ok (reject reason none) := by
  have refused : (!p.isHexDigest (p.runtime.strip r.signature)) = true := by
    rw [h]
    rfl
  unfold judge
  rw [if_pos refused]
  split_ifs with nonce missing
  · exact ⟨.missingNonce, by simp [formatReasons], rfl⟩
  · exact ⟨.missingSignature, by simp [formatReasons], rfl⟩
  · exact ⟨.invalidSignatureFormat, by simp [formatReasons], rfl⟩

theorem HexSignature.compares (h : HexSignature v) (secret baseString : Text) :
    p.verifyHmacSignature secret baseString v ≠ .error .typeError := by
  intro raised
  have taken : ¬(!p.isHexDigest v) = true := by
    rw [h.isHexDigest]
    simp
  unfold Platform.verifyHmacSignature at raised
  rw [if_neg taken] at raised
  split_ifs at raised with missing
  obtain failed | ⟨expected, made, raised⟩ := (bind_eq_error_iff _ _ _).mp raised
  · cases generateHmacSignature_eq_error failed
  · obtain ⟨key, bytes, -, -, rfl⟩ := generateHmacSignature_eq_ok_iff.mp made
    rw [h.compareDigest_eq] at raised
    cases raised

variable {registry : Registry} {r : PartnerRequest} {now : Moment} {limit : Int} {dry : Bool}

theorem HexSignature.judge_clash (h : HexSignature (p.runtime.strip r.signature))
    (raised : judge p registry r now limit dry = .error .typeError) : TimesClash p registry r now := by
  have taken : ¬(!p.isHexDigest (p.runtime.strip r.signature)) = true := by
    rw [h.isHexDigest]
    simp
  unfold judge at raised
  rw [if_neg taken] at raised
  split_ifs at raised with nonce missing
  cases parsed : parsePartnerTimestamp p r.timestamp with
  | none =>
      rw [parsed] at raised
      cases raised
  | some t =>
      rw [parsed] at raised
      obtain failed | ⟨skew, -, raised⟩ := (bind_eq_error_iff _ _ _).mp raised
      · obtain clash | ⟨delta, -, failed⟩ := (bind_eq_error_iff _ _ _).mp failed
        · exact .inl ⟨t, parsed, clash⟩
        · obtain failed | ⟨seconds, -, failed⟩ := (bind_eq_error_iff _ _ _).mp failed
          · exact absurd rfl (toInt_float_eq_error failed)
          · cases failed
      · split_ifs at raised with late
        · cases raised
        · unfold judgeClient at raised
          cases found : registry.get r.clientId r.keyId with
          | none =>
              rw [found] at raised
              cases raised
          | some secret =>
              rw [found] at raised
              obtain encoding | window := judgeSecret_eq_error h raised
              · cases encoding
              · obtain ⟨validUntil, expires, clash⟩ := previousWindowIsActive_eq_error window
                exact .inr ⟨secret, validUntil, found, expires, clash⟩

/-- The parts of a result that come with every request do not raise a `TypeError`. -/
theorem judge_eq_error_of_verify {requestCase expectedResult : String}
    (raised : verifyPartnerHmacRequest p registry r now limit dry requestCase expectedResult = .error .typeError) :
    judge p registry r now limit dry = .error .typeError := by
  obtain failed | ⟨bytes, -, raised⟩ := (bind_eq_error_iff _ _ _).mp raised
  · cases encodeUtf8_eq_error failed
  · obtain failed | ⟨verdict, -, raised⟩ := (bind_eq_error_iff _ _ _).mp raised
    · exact failed
    · obtain failed | ⟨token, -, raised⟩ := (bind_eq_error_iff _ _ _).mp raised
      · obtain failed | ⟨bytes, -, failed⟩ := (bind_eq_error_iff _ _ _).mp failed
        · cases encodeUtf8_eq_error failed
        · cases failed
      · cases raised

/-- The check does what it is for unless a numeral has a character that is no digit of ASCII. -/
theorem signature_format_iff (p : Platform) (v : Text) :
    FormatChecked p v ↔ ¬(v.length = 64 ∧ p.runtime.HexNumeral v ∧ ∃ c ∈ v, isHex c = false) := by
  constructor
  · rintro checked ⟨length, numeral, c, hc, other⟩
    have hex := checked.exact_digits.mp (isHexDigest_iff.mpr ⟨length, numeral⟩)
    rw [hex.digits c hc] at other
    cases other
  · intro condition
    have exact_digits : p.isHexDigest v = true ↔ HexSignature v := by
      constructor
      · intro accepted
        obtain ⟨length, numeral⟩ := isHexDigest_iff.mp accepted
        refine ⟨length, fun c hc => ?_⟩
        by_contra other
        exact condition ⟨length, numeral, c, hc, by simpa using other⟩
      · exact fun hex => hex.isHexDigest
    have refused : ¬HexSignature v → p.isHexDigest v = false := fun other => by
      rw [← Bool.not_eq_true]
      exact mt exact_digits.mp other
    refine {
      exact_digits := exact_digits
      compares := fun secret baseString => ?_
      comparesPartner := fun registry r now limit dry requestCase expectedResult stripped raised => ?_
      rejects := fun other hmac secret baseString => ?_
      rejectsPartner := fun other hmac registry r now limit dry stripped => ?_ }
    · by_cases hex : HexSignature v
      · exact hex.compares secret baseString
      · rw [verifyHmacSignature_of_not_hex (refused hex)]
        simp
    · have failed := judge_eq_error_of_verify raised
      by_cases hex : HexSignature v
      · exact (stripped ▸ hex).judge_clash failed
      · obtain ⟨reason, -, rejected⟩ := judge_of_not_hex (p := p) (stripped ▸ refused hex) registry now limit dry
        rw [rejected] at failed
        cases failed
    · exact verifyHmacSignature_of_not_hex (p := { p with hmacSha256 := hmac }) (refused other) secret baseString
    · exact judge_of_not_hex (p := { p with hmacSha256 := hmac }) (stripped ▸ refused other) registry now limit dry

end Format

namespace Trial

/-- The platform with the Arabic-Indic digits of the Unicode database. -/
def arabic : Platform where
  runtime := { cpython with decimal := fun c => if 0x0660 ≤ c ∧ c ≤ 0x0669 then some (c - 0x0660) else none }
  upper := platform.upper
  sha256 := platform.sha256
  hmacSha256 := platform.hmacSha256
  fromisoformat := platform.fromisoformat
  space_ascii := cpython_space_ascii
  lower_ascii := cpython_lower_ascii
  upper_newline := platform.upper_newline

end Trial

/-- 64 times the digit three: the comparison raises. -/
theorem arabic_digits_raise :
    Trial.arabic.verifyHmacSignature (text "k") [] (List.replicate 64 0x0663) = .error .typeError ∧
      ¬FormatChecked Trial.arabic (List.replicate 64 0x0663) := by
  have raises : Trial.arabic.verifyHmacSignature (text "k") [] (List.replicate 64 0x0663) = .error .typeError := by
    have taken : Trial.arabic.isHexDigest (List.replicate 64 0x0663) = true := by
      decide +kernel
    have digest : Trial.arabic.generateHmacSignature (text "k") [] =
        .ok (hexdigest (Trial.arabic.hmacSha256 [0x6B] [])) := rfl
    have other : ((Trial.arabic.runtime.lower (List.replicate 64 0x0663)).all fun c => decide (c < 128)) = false := by
      decide +kernel
    have missing : ((text "k").isEmpty || (List.replicate 64 0x0663 : Text).isEmpty) = false := rfl
    unfold Platform.verifyHmacSignature
    rw [taken, digest, missing]
    simp only [Bool.not_true, Bool.false_eq_true, if_false, bind, Except.bind]
    unfold Platform.compareDigest
    rw [other, Bool.and_false]
    rfl
  exact ⟨raises, fun checked => checked.compares _ _ raises⟩

end EventConsistency.PartnerHmac
