import EventConsistency.Domain
import EventConsistency.Lib.Encoding

/-!
# HMAC signatures and the replay window

`app/security/hmac.py` and `app/security/timestamp.py`. Hash functions, `datetime.fromisoformat` and the Unicode database
are those of a `Platform`.
-/

namespace EventConsistency

open Lib.Python

/-! ## Times -/

/-- A `datetime` between the years 1 and 9999, with an offset of less than a day if it has one. -/
structure Moment where
  datetime : Datetime
  wall_range : -62135596800000000 ≤ datetime.wall ∧ datetime.wall < 253402300800000000
  offset_range : ∀ offset ∈ datetime.utcoffset, -86400000000 < offset ∧ offset < 86400000000

namespace Moment

/-- The time in UTC of an aware `datetime`. -/
def instant (m : Moment) : Option Int := m.datetime.utcoffset.map fun offset => m.datetime.wall - offset

/-- The two times as they are compared and subtracted; an aware and a naive one cannot be. -/
def aligned (m n : Moment) : Except PyError (Int × Int) :=
  match m.instant, n.instant with
  | some t, some u => .ok (t, u)
  | none, none => .ok (m.datetime.wall, n.datetime.wall)
  | _, _ => .error .typeError

/-- `m - n`, in microseconds. -/
def sub (m n : Moment) : Except PyError Int := (aligned m n).map fun (t, u) => t - u

/-- `m <= n`. -/
def le (m n : Moment) : Except PyError Bool := (aligned m n).map fun (t, u) => decide (t ≤ u)

/-- `m.replace(tzinfo=UTC)`. -/
def replaceUtc (m : Moment) : Moment where
  datetime := ⟨m.datetime.wall, some 0⟩
  wall_range := m.wall_range
  offset_range := by
    intro offset h
    cases h
    omega

end Moment

/-- `timedelta.total_seconds()`: the float nearest to the quotient. -/
def totalSeconds (microseconds : Int) : PyFloat := nearest (decide (microseconds < 0)) microseconds.natAbs 1000000

/-! ## The platform -/

/-- `str.lower` of an ASCII character. -/
def asciiLower (c : Nat) : Nat := if 0x41 ≤ c ∧ c ≤ 0x5A then c + 0x20 else c

/-- What the interpreter and its library provide. -/
structure Platform where
  runtime : Runtime
  /-- `str.upper`, character by character. -/
  upper : Nat → Text
  sha256 : List UInt8 → List UInt8
  hmacSha256 : List UInt8 → List UInt8 → List UInt8
  /-- `datetime.fromisoformat`, `none` for its `ValueError`. -/
  fromisoformat : Text → Option Moment
  space_ascii : ∀ c < 128, runtime.isSpace c = (decide (9 ≤ c ∧ c ≤ 13) || decide (28 ≤ c ∧ c ≤ 32))
  lower_ascii : ∀ s : Text, (∀ c ∈ s, c < 128) → runtime.lower s = s.map asciiLower
  upper_newline : ∀ c, 10 ∈ upper c → c = 10

namespace Platform

variable (p : Platform)

/-- `s.upper()`. -/
def upperText (s : Text) : Text := s.flatMap p.upper

/-- `generate_body_hash`. -/
def generateBodyHash (rawBody : List UInt8) : Text := hexdigest (p.sha256 rawBody)

/-- `build_signature_base_string`. -/
def buildSignatureBaseString (method path timestamp bodyHash : Text) : Text :=
  joinText [10] [p.upperText method, path, timestamp, bodyHash]

/-- `generate_hmac_signature`. -/
def generateHmacSignature (secret baseString : Text) : Except PyError Text := do
  let key ← encodeUtf8 secret
  let message ← encodeUtf8 baseString
  return hexdigest (p.hmacSha256 key message)

/-- `_is_hex_digest`. -/
def isHexDigest (value : Text) : Bool := decide (value.length = 64) && p.runtime.isHexInt value

/-- `hmac.compare_digest` of two texts: they have to be ASCII. -/
def compareDigest (a b : Text) : Except PyError Bool :=
  if a.all (· < 128) && b.all (· < 128) then .ok (a == b) else .error .typeError

/-- `verify_hmac_signature`. -/
def verifyHmacSignature (secret baseString signature : Text) : Except PyError Bool :=
  if secret.isEmpty || signature.isEmpty then .ok false
  else if !p.isHexDigest signature then .ok false
  else do
    let expected ← p.generateHmacSignature secret baseString
    compareDigest expected (p.runtime.lower signature)

/-- `value.replace("Z", "+00:00")`. -/
def replaceZ (value : Text) : Text := value.flatMap fun c => if c = 0x5A then text "+00:00" else [c]

end Platform

/-! ## The window -/

inductive TimestampError where
  | invalidTimestamp
  | expiredTimestamp
  | raised (error : PyError)
  deriving DecidableEq

/-- `abs(x) > limit`. -/
def absExceeds (limit : Int) : PyFloat → Bool
  | .finite _ magnitude => decide ((limit : Rat) < magnitude)
  | .inf _ => true
  | .nan => false

/-- `validate_timestamp_window`. -/
def validateTimestampWindow (timestamp now : Moment) (allowedSkewSeconds : Int) : Except TimestampError Unit :=
  if timestamp.instant.isNone then .error .invalidTimestamp
  else
    let current := if now.instant.isNone then now.replaceUtc else now
    match timestamp.sub current with
    | .error x => .error (.raised x)
    | .ok delta =>
        if absExceeds allowedSkewSeconds (totalSeconds delta) then .error .expiredTimestamp else .ok ()

end EventConsistency
