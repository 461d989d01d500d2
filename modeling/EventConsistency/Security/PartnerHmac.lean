import EventConsistency.Security.Hmac

/-!
# Partner HMAC verification

`app/security/partner_hmac.py`: secrets with a rotation status, their configuration, and the cascade of
`verify_partner_hmac_request`. A `Verdict` is what a return of the cascade hands to `_result`.
-/

namespace EventConsistency.PartnerHmac

open Lib.Python

inductive SecretStatus where
  | next
  | current
  | previous
  | revoked
  | disabled
  deriving DecidableEq, Repr

def SecretStatus.value : SecretStatus → String
  | .next => "next"
  | .current => "current"
  | .previous => "previous"
  | .revoked => "revoked"
  | .disabled => "disabled"

inductive HmacDecision where
  | accept
  | reject
  deriving DecidableEq, Repr

def HmacDecision.value : HmacDecision → String
  | .accept => "ACCEPT"
  | .reject => "REJECT"

structure PartnerSecret where
  clientId : Text
  keyId : Text
  secret : Text
  status : SecretStatus
  previousValidUntil : Option Moment := none
  clientEnabled : Bool := true

/-! ## The registry -/

/-- `PartnerSecretRegistry`: a `dict` from client and key to the secret. -/
structure Registry where
  secrets : List ((Text × Text) × PartnerSecret)

namespace Registry

/-- `self._secrets[key] = secret`. -/
def set (r : Registry) (secret : PartnerSecret) : Registry :=
  let key := (secret.clientId, secret.keyId)
  if r.secrets.any (fun entry => entry.1 == key) then
    ⟨r.secrets.map fun entry => if entry.1 == key then (key, secret) else entry⟩
  else ⟨r.secrets ++ [(key, secret)]⟩

/-- `PartnerSecretRegistry(secrets)`. -/
def ofSecrets (secrets : List PartnerSecret) : Registry := secrets.foldl set ⟨[]⟩

def get (r : Registry) (clientId keyId : Text) : Option PartnerSecret := r.secrets.lookup (clientId, keyId)

def hasClient (r : Registry) (clientId : Text) : Bool := r.secrets.any fun entry => entry.2.clientId == clientId

def isEmpty (r : Registry) : Bool := r.secrets.isEmpty

end Registry

/-! ## Results -/

inductive DecisionReason where
  | missingNonce
  | missingSignature
  | invalidSignatureFormat
  | invalidTimestamp
  | timestampSkewExceeded
  | unknownKey
  | unknownClient
  | disabledClient
  | revokedKey
  | nextNotAllowed
  | previousExpired
  | invalidSignature
  | currentSecret
  | previousGraceWindow
  | nextDryRun
  | accepted
  deriving DecidableEq, Repr

def DecisionReason.value : DecisionReason → String
  | .missingNonce => "missing_nonce"
  | .missingSignature => "missing_signature"
  | .invalidSignatureFormat => "invalid_signature_format"
  | .invalidTimestamp => "invalid_timestamp"
  | .timestampSkewExceeded => "timestamp_skew_exceeded"
  | .unknownKey => "unknown_key"
  | .unknownClient => "unknown_client"
  | .disabledClient => "disabled_client"
  | .revokedKey => "revoked_key"
  | .nextNotAllowed => "next_not_allowed"
  | .previousExpired => "previous_expired"
  | .invalidSignature => "invalid_signature"
  | .currentSecret => "current_secret"
  | .previousGraceWindow => "previous_grace_window"
  | .nextDryRun => "next_dry_run"
  | .accepted => "accepted"

/-- `_accept_reason`. -/
def acceptReason : SecretStatus → DecisionReason
  | .current => .currentSecret
  | .previous => .previousGraceWindow
  | .next => .nextDryRun
  | _ => .accepted

structure PartnerHmacResult where
  accepted : Bool
  decision : HmacDecision
  decisionReason : DecisionReason
  clientToken : Text
  clientStatus : String
  keyId : Text
  keyVersion : Text
  secretStatus : String
  requestCase : String
  expectedResult : String
  actualResult : String
  timestampSkewSeconds : Option Int
  noncePresent : Bool
  canonicalRequestHash : Text
  bodyHash : Text
  signaturePresent : Bool
  signatureAlgorithm : String
  rotationWindowStatus : String
  rawSecretIncluded : Bool := false
  rawSignatureIncluded : Bool := false
  rawBodyIncluded : Bool := false

/-- `_CommonResult`. -/
structure CommonResult where
  clientId : Text
  keyId : Text
  requestCase : String
  expectedResult : String
  bodyHash : Text
  canonicalRequestHash : Text
  signaturePresent : Bool
  noncePresent : Bool

/-- What a return decides. -/
structure Verdict where
  accepted : Bool
  reason : DecisionReason
  skew : Option Int := none
  secret : Option PartnerSecret := none
  rotationWindowStatus : String := "not_applicable"

/-- `_client_status`. -/
def clientStatus : Option PartnerSecret → String
  | none => "unknown"
  | some secret => if !secret.clientEnabled || secret.status == .disabled then "disabled" else "enabled"

/-- `_client_token`. -/
def clientToken (p : Platform) (clientId : Text) : Except PyError Text := do
  let bytes ← encodeUtf8 clientId
  return text "client_" ++ (hexdigest (p.sha256 bytes)).take 12

/-- `_result`. -/
def result (p : Platform) (common : CommonResult) (v : Verdict) : Except PyError PartnerHmacResult := do
  let token ← clientToken p common.clientId
  return {
    accepted := v.accepted
    decision := if v.accepted then .accept else .reject
    decisionReason := v.reason
    clientToken := token
    clientStatus := clientStatus v.secret
    keyId := common.keyId
    keyVersion := common.keyId
    secretStatus := match v.secret with | none => "unknown" | some secret => secret.status.value
    requestCase := common.requestCase
    expectedResult := common.expectedResult
    actualResult := if v.accepted then "ACCEPT" else "REJECT"
    timestampSkewSeconds := v.skew
    noncePresent := common.noncePresent
    canonicalRequestHash := common.canonicalRequestHash
    bodyHash := common.bodyHash
    signaturePresent := common.signaturePresent
    signatureAlgorithm := "HMAC-SHA256"
    rotationWindowStatus := v.rotationWindowStatus }

/-- `_previous_window_is_active`. -/
def previousWindowIsActive (secret : PartnerSecret) (now : Moment) : Except PyError Bool :=
  match secret.previousValidUntil with
  | none => .ok false
  | some validUntil => now.le validUntil

/-- `_rotation_window_status`. -/
def rotationWindowStatus (secret : PartnerSecret) (now : Moment) : Except PyError String :=
  match secret.status with
  | .previous => do return if ← previousWindowIsActive secret now then "active" else "expired"
  | .next => .ok "dry_run_only"
  | _ => .ok "not_applicable"

/-- `_reject`. -/
def reject (reason : DecisionReason) (skew : Option Int) : Verdict := { accepted := false, reason := reason, skew := skew }

/-- `_reject_with_secret`. -/
def rejectWithSecret (secret : PartnerSecret) (reason : DecisionReason) (skew : Int) (now : Moment) :
    Except PyError Verdict := do
  let status ← rotationWindowStatus secret now
  return { accepted := false, reason := reason, skew := some skew, secret := some secret, rotationWindowStatus := status }

/-! ## The cascade -/

/-- The arguments that come with a request. -/
structure PartnerRequest where
  method : Text
  path : Text
  timestamp : Text
  nonce : Text
  rawBody : List UInt8
  clientId : Text
  keyId : Text
  signature : Text

section

variable (p : Platform)

/-- `build_partner_canonical_request`. -/
def buildPartnerCanonicalRequest (r : PartnerRequest) : Text :=
  joinText [10] [p.upperText r.method, r.path, r.timestamp, r.nonce, p.generateBodyHash r.rawBody]

/-- `generate_partner_hmac_signature`. -/
def generatePartnerHmacSignature (secret canonicalRequest : Text) : Except PyError Text := do
  let key ← encodeUtf8 secret
  let message ← encodeUtf8 canonicalRequest
  return hexdigest (p.hmacSha256 key message)

/-- `_parse_timestamp`. -/
def parsePartnerTimestamp (value : Text) : Option Moment :=
  match p.fromisoformat (Platform.replaceZ value) with
  | none => none
  | some parsed => if parsed.instant.isNone then none else some parsed

/-- `abs(int((timestamp - now).total_seconds()))`. -/
def timestampSkewSeconds (timestamp now : Moment) : Except PyError Int := do
  let delta ← timestamp.sub now
  let seconds ← p.runtime.toInt (.float (totalSeconds delta))
  return |seconds|

/-- The cascade from the expected signature on. -/
def judgeSignature (canonicalRequest signature : Text) (now : Moment) (secret : PartnerSecret) (skew : Int) :
    Except PyError Verdict := do
  let expected ← generatePartnerHmacSignature p secret.secret canonicalRequest
  let same ← Platform.compareDigest expected (p.runtime.lower (p.runtime.strip signature))
  if same then
    let status ← rotationWindowStatus secret now
    return { accepted := true, reason := acceptReason secret.status, skew := some skew, secret := some secret
             rotationWindowStatus := status }
  else rejectWithSecret secret .invalidSignature skew now

/-- The part of the cascade that depends on the secret. -/
def judgeSecret (canonicalRequest signature : Text) (now : Moment) (allowNextForDryRun : Bool) (secret : PartnerSecret)
    (skew : Int) : Except PyError Verdict :=
  if !secret.clientEnabled || secret.status == .disabled then rejectWithSecret secret .disabledClient skew now
  else if secret.status == .revoked then rejectWithSecret secret .revokedKey skew now
  else if secret.status == .next && !allowNextForDryRun then rejectWithSecret secret .nextNotAllowed skew now
  else if secret.status == .previous then do
    if ← previousWindowIsActive secret now then judgeSignature p canonicalRequest signature now secret skew
    else
      return { accepted := false, reason := .previousExpired, skew := some skew, secret := some secret
               rotationWindowStatus := "expired" }
  else judgeSignature p canonicalRequest signature now secret skew

/-- The cascade from the registry on. -/
def judgeClient (registry : Registry) (r : PartnerRequest) (now : Moment) (allowNextForDryRun : Bool) (skew : Int) :
    Except PyError Verdict :=
  match registry.get r.clientId r.keyId with
  | none => .ok (reject (if registry.hasClient r.clientId then .unknownKey else .unknownClient) (some skew))
  | some secret => judgeSecret p (buildPartnerCanonicalRequest p r) r.signature now allowNextForDryRun secret skew

/-- `verify_partner_hmac_request` between the common part of the result and the result. -/
def judge (registry : Registry) (r : PartnerRequest) (now : Moment) (allowedSkewSeconds : Int)
    (allowNextForDryRun : Bool) : Except PyError Verdict :=
  if (p.runtime.strip r.nonce).isEmpty then .ok (reject .missingNonce none)
  else if (p.runtime.strip r.signature).isEmpty then .ok (reject .missingSignature none)
  else if !p.isHexDigest (p.runtime.strip r.signature) then .ok (reject .invalidSignatureFormat none)
  else match parsePartnerTimestamp p r.timestamp with
    | none => .ok (reject .invalidTimestamp none)
    | some timestamp => do
        let skew ← timestampSkewSeconds p timestamp now
        if skew > allowedSkewSeconds then return reject .timestampSkewExceeded (some skew)
        judgeClient p registry r now allowNextForDryRun skew

/-- `verify_partner_hmac_request`. -/
def verifyPartnerHmacRequest (registry : Registry) (r : PartnerRequest) (now : Moment) (allowedSkewSeconds : Int)
    (allowNextForDryRun : Bool) (requestCase expectedResult : String) : Except PyError PartnerHmacResult := do
  let canonicalBytes ← encodeUtf8 (buildPartnerCanonicalRequest p r)
  let common : CommonResult := {
    clientId := r.clientId
    keyId := r.keyId
    requestCase := requestCase
    expectedResult := expectedResult
    bodyHash := p.generateBodyHash r.rawBody
    canonicalRequestHash := hexdigest (p.sha256 canonicalBytes)
    signaturePresent := !(p.runtime.strip r.signature).isEmpty
    noncePresent := !(p.runtime.strip r.nonce).isEmpty }
  let verdict ← judge p registry r now allowedSkewSeconds allowNextForDryRun
  result p common verdict

/-! ## The configuration -/

/-- `s.split(sep, n)`. -/
def splitMax (sep : Nat) : Nat → Text → List Text
  | 0, s => [s]
  | n + 1, s => match s.dropWhile (· != sep) with
    | [] => [s]
    | _ :: rest => s.takeWhile (· != sep) :: splitMax sep n rest

/-- `SecretStatus(value)`. -/
def SecretStatus.ofValue (value : Text) : Except PyError SecretStatus :=
  match [next, current, previous, revoked, disabled].find? fun status => text status.value == value with
  | none => .error .valueError
  | some status => .ok status

/-- `_split_config`. -/
def splitConfig (rawConfig : Text) : List Text :=
  let items := (rawConfig.map fun c => if c = 0x0A ∨ c = 0x3B then 0x2C else c).splitOn 0x2C
  (items.map p.runtime.strip).filter fun item => !item.isEmpty

/-- `_split_config_item`. -/
def splitConfigItem (item : Text) : List Text :=
  (if item.contains 0x7C then item.splitOn 0x7C else splitMax 0x3A 3 item).map p.runtime.strip

/-- `previous_valid_until` of the parts after the secret; `none` skips the item. -/
def previousValidUntil : List Text → Option (Option Moment)
  | [] => some none
  | value :: _ => if value.isEmpty then some none else (parsePartnerTimestamp p value).map some

/-- `client_enabled` of the parts after the secret. -/
def clientEnabled : List Text → Bool
  | _ :: value :: _ => !(["0", "false", "disabled"].any fun name => p.runtime.lower value == text name)
  | _ => true

/-- The body of the loop of `from_config`, for the parts of an item; `none` is `continue`. -/
def secretOfParts : List Text → Except PyError (Option PartnerSecret)
  | clientId :: keyId :: statusValue :: secretValue :: rest =>
      if clientId.isEmpty || keyId.isEmpty || secretValue.isEmpty then .ok none
      else match previousValidUntil p rest with
        | none => .ok none
        | some validUntil => do
            let status ← SecretStatus.ofValue (p.runtime.lower statusValue)
            return some {
              clientId := clientId
              keyId := keyId
              secret := secretValue
              status := status
              previousValidUntil := validUntil
              clientEnabled := clientEnabled p rest }
  | _ => .ok none

/-- The loop of `from_config`. -/
def secretsOfItems : List Text → Except PyError (List PartnerSecret)
  | [] => .ok []
  | item :: items => do
      let secret ← secretOfParts p (splitConfigItem p item)
      let secrets ← secretsOfItems items
      return secret.toList ++ secrets

/-- `PartnerSecretRegistry.from_config`. -/
def Registry.fromConfig (rawConfig : Text) : Except PyError Registry := do
  return ofSecrets (← secretsOfItems p (splitConfig p rawConfig))

end

end EventConsistency.PartnerHmac
