import EventConsistency.Lib.Encoding
import EventConsistency.Lib.JsonText
import EventConsistency.Lib.Regex

/-!
# The sanitizer of AI context

`app/security/ai_context_sanitizer.py`: `sanitizeContext` with its removed fields and `validateSanitizedContext`. The stack
is taken to suffice for their own calls; what a text makes `json.loads` do is that of the runtime. The walks are written
for any kind of paths, and the source's are the texts of `textPaths`.
-/

namespace EventConsistency.ContextSanitizer

open Lib.Python

/-- The runtime with the word characters of `\b`, and the blanks and word characters of ASCII. -/
structure TextRuntime extends Runtime where
  isWord : Nat → Bool
  space_ascii : ∀ c < 128, isSpace c = (decide (9 ≤ c ∧ c ≤ 13) || decide (28 ≤ c ∧ c ≤ 32))
  word_ascii : ∀ c < 128, isWord c = (decide (0x30 ≤ c ∧ c ≤ 0x39) || decide (0x41 ≤ c ∧ c ≤ 0x5A) ||
    decide (0x61 ≤ c ∧ c ≤ 0x7A) || c == 0x5F)

/-! ## Keys -/

def allowedKeys : List Text := [
  "account_balance_mismatch_count", "account_token", "approval_required", "case_id", "case_type", "classification",
  "confidence", "confidence_candidate", "consistency_counts", "created_at", "duplicate_external_event_count",
  "duplicate_ledger_count", "event_token", "evidence_paths", "generated_at", "idempotency_key_hash", "incident_id",
  "ledger_without_transaction_event_count", "manual_action_candidates", "manual_actions_required",
  "manual_review_required", "masked_account_no", "masked_client_id", "masked_idempotency_key", "masked_target_id",
  "metric_summary", "primary_signals", "proposed_action", "recovery_case_link_count", "request_hash", "run_id",
  "runbook_reference", "severity", "severity_candidate", "source", "stale_processing_count", "status", "target_type",
  "transaction_event_without_ledger_count"].map text

def forbiddenKeys : List Text := [
  "account_no", "api_key", "authorization", "client_secret", "connection_string", "cookie", "database_url", "db_url",
  "hmac_signature", "idempotency_key", "password", "raw_account_no", "raw_idempotency_key", "raw_request_body",
  "refresh_token", "request_body", "response_body", "secret", "set_cookie", "signature", "token",
  "access_token"].map text

/-- Two words with `[-_]?` between them. -/
def joined (first second : String) : Regex := .concat [.literal first, .opt (.oneOf "-_"), .literal second]

/-- `SENSITIVE_KEY_RE`. -/
def sensitiveKey : Regex := .anyOf [
  .literal "authorization", .literal "cookie", joined "database" "url", joined "db" "url", .literal "password",
  .literal "secret", .literal "signature", joined "idempotency" "key", joined "account" "no",
  joined "account" "number", joined "access" "token", joined "refresh" "token", joined "api" "key",
  joined "connection" "string", joined "raw" "body", joined "request" "body", joined "response" "body"]

inductive Reason where
  | sensitiveFieldName
  | notInAllowlist
  | sensitiveValuePattern
  deriving DecidableEq, Repr

def Reason.value : Reason → Text
  | .sensitiveFieldName => text "sensitive_field_name"
  | .notInAllowlist => text "not_in_allowlist"
  | .sensitiveValuePattern => text "sensitive_value_pattern"

section

variable (rt : TextRuntime)

/-- `_removal_reason_for_key`. -/
def removalReasonForKey (key : Text) : Option Reason :=
  let normalized := (rt.lower key).map fun c => if c = 0x2D then 0x5F else c
  if allowedKeys.contains key then none
  else if forbiddenKeys.contains normalized || sensitiveKey.search key then some .sensitiveFieldName
  else none

/-! ## Values -/

/-- `name\s*[marks]\s*\S+`. -/
def assigned (name marks : String) : Regex :=
  .concat [.literal name, .star (.space rt.toRuntime), .oneOf marks, .star (.space rt.toRuntime),
    .plus (.nonSpace rt.toRuntime)]

/-- `name\s+\S+`. -/
def scheme (name : String) : Regex :=
  .concat [.literal name, .plus (.space rt.toRuntime), .plus (.nonSpace rt.toRuntime)]

/-- The alternatives of `SENSITIVE_VALUE_RE` but the one with word boundaries. -/
def sensitivePatterns : List Regex := [
  assigned rt "Authorization" ":=", scheme rt "Bearer", scheme rt "Basic", scheme rt "HMAC",
  assigned rt "X-Signature" ":=", assigned rt "idempotency_key" ":=", assigned rt "Idempotency-Key" ":=",
  assigned rt "account_no" ":=", assigned rt "account_number" ":=", assigned rt "client_secret" ":=",
  .concat [.literal "DATABASE_URL", .star (.space rt.toRuntime), .literal "="],
  .concat [.literal "postgresql://", .plus (.char fun c => !rt.isSpace c && c != 0x29)],
  .literal "synthetic-authorization-token", .literal "synthetic-signature-value", .literal "synthetic-account-number",
  .literal "synthetic-idempotency-key"]

/-- `\d`. -/
def decimalDigit : Regex := .char fun c => (rt.digit c).isSome

/-- `ACC-\d{3,}`, which stands between word boundaries. -/
def accountNumber : Regex :=
  .concat [.literal "ACC-", decimalDigit rt, decimalDigit rt, decimalDigit rt, .star (decimalDigit rt)]

/-- `\b` between these two characters, if there are any. -/
def boundary (before after : Option Nat) : Bool := before.any rt.isWord != after.any rt.isWord

/-- The pattern matches a beginning of the text that ends at a word boundary; `last` is the character before. -/
def matchesToBoundary (r : Regex) (last : Option Nat) : Text → Bool
  | [] => r.nullable && boundary rt last none
  | c :: s => (r.nullable && boundary rt last (some c)) || matchesToBoundary (r.deriv c) (some c) s

/-- `re.search` of `\b` pattern `\b`, after the character `last`. -/
def searchBounded (r : Regex) (last : Option Nat) : Text → Bool
  | [] => boundary rt last none && matchesToBoundary rt r last []
  | c :: s => (boundary rt last (some c) && matchesToBoundary rt r last (c :: s)) || searchBounded r (some c) s

/-- `SENSITIVE_VALUE_RE.search`. -/
def sensitiveValue (s : Text) : Bool :=
  (Regex.anyOf (sensitivePatterns rt)).search s || searchBounded rt (accountNumber rt) none s

def hashOrTokenKeys : List Text := ["account_token", "event_token", "idempotency_key_hash", "request_hash"].map text

/-- `LONG_SECRET_RE.fullmatch`. -/
def longSecret (s : Text) : Bool :=
  decide (40 ≤ s.length) && s.all fun c =>
    (decide (0x41 ≤ c) && decide (c ≤ 0x5A)) || (decide (0x61 ≤ c) && decide (c ≤ 0x7A)) ||
      (decide (0x30 ≤ c) && decide (c ≤ 0x39)) || (text "+/=_-").contains c

/-- `_looks_like_raw_json_body`: only `JSONDecodeError` is caught. -/
def looksLikeRawJsonBody (s : Text) : Except PyError Bool :=
  if (s.head? == some 0x7B && s.getLast? == some 0x7D) || (s.head? == some 0x5B && s.getLast? == some 0x5D) then
    match loads rt.toRuntime s with
    | .error .jsonDecodeError => .ok false
    | .error e => .error e
    | .ok (.dict _) => .ok true
    | .ok (.list _) => .ok true
    | .ok _ => .ok false
  else .ok false

/-- `_contains_sensitive_value` of a text. -/
def sensitiveLeaf (key : Option Text) (s : Text) : Except PyError Bool :=
  let stripped := rt.strip s
  if sensitiveValue rt stripped then .ok true
  else do
    if ← looksLikeRawJsonBody rt stripped then return true
    return !(key.any hashOrTokenKeys.contains) && longSecret stripped

mutual

/-- `_contains_sensitive_value`. -/
def containsSensitiveValue (key : Option Text) : Value → Except PyError Bool
  | .str s => sensitiveLeaf rt key s
  | .dict items => anySensitivePair items
  | .list items => anySensitiveItem key items
  | _ => .ok false

def anySensitiveItem (key : Option Text) : List Value → Except PyError Bool
  | [] => .ok false
  | v :: items => do if ← containsSensitiveValue key v then return true else anySensitiveItem key items

def anySensitivePair : List (Text × Value) → Except PyError Bool
  | [] => .ok false
  | kv :: items => do if ← sensitivePair kv then return true else anySensitivePair items

def sensitivePair : Text × Value → Except PyError Bool
  | (key, v) => if (removalReasonForKey rt key).isSome then .ok true else containsSensitiveValue (some key) v

end

/-! ## Sanitizing -/

/-- How the path of a member and of an item is made. -/
structure Paths (π : Type) where
  root : π
  child : π → Text → π
  item : π → Nat → π

/-- The paths of the source: `$`, then `.key` and `[index]`. -/
def textPaths : Paths Text where
  root := text "$"
  child path key := path ++ text "." ++ key
  item path index := path ++ text "[" ++ intText index ++ text "]"

structure RemovedField (π : Type) where
  path : π
  reason : Reason
  deriving DecidableEq

/-- Why a member is removed with its key: its name, or its value if that is no container. -/
def removalReason (key : Text) (v : Value) : Except PyError (Option Reason) :=
  match removalReasonForKey rt key with
  | some reason => .ok (some reason)
  | none =>
      if !allowedKeys.contains key then .ok (some .notInAllowlist)
      else if !v.isScalar then .ok none
      else do return if ← containsSensitiveValue rt (some key) v then some .sensitiveValuePattern else none

variable {π : Type} (P : Paths π)

mutual

/-- `_sanitize_value`, with the fields it removes. -/
def sanitizeValue (parentKey : Option Text) (path : π) : Value → Except PyError (Value × List (RemovedField π))
  | .dict items => do
      let (kept, removed) ← sanitizePairs path items
      return (.dict kept, removed)
  | .list items => do
      let (kept, removed) ← sanitizeItems parentKey path 0 items
      return (.list kept, removed)
  | v => do
      if ← containsSensitiveValue rt parentKey v then return (.none, [⟨path, .sensitiveValuePattern⟩])
      return (v, [])

def sanitizeItems (parentKey : Option Text) (path : π) (index : Nat) :
    List Value → Except PyError (List Value × List (RemovedField π))
  | [] => .ok ([], [])
  | v :: items => do
      let (kept, removed) ← sanitizeValue parentKey (P.item path index) v
      let (rest, others) ← sanitizeItems parentKey path (index + 1) items
      return (kept :: rest, removed ++ others)

def sanitizePairs (path : π) : List (Text × Value) → Except PyError (List (Text × Value) × List (RemovedField π))
  | [] => .ok ([], [])
  | kv :: items => do
      let (kept, removed) ← sanitizePair path kv
      let (rest, others) ← sanitizePairs path items
      return (kept ++ rest, removed ++ others)

def sanitizePair (path : π) : Text × Value → Except PyError (List (Text × Value) × List (RemovedField π))
  | (key, v) => do
      match ← removalReason rt key v with
      | some reason => return ([], [⟨P.child path key, reason⟩])
      | none =>
          let (kept, removed) ← sanitizeValue (some key) (P.child path key) v
          return ([(key, kept)], removed)

end

/-- `sanitize_context`, for any kind of paths. -/
def sanitizeContextWith (payload : Value) : Except PyError (Value × List (RemovedField π)) :=
  sanitizeValue rt P none P.root payload

/-- `sanitize_context`. -/
def sanitizeContext (payload : Value) : Except PyError (Value × List (RemovedField Text)) :=
  sanitizeContextWith rt textPaths payload

/-- `SanitizedContextResult.to_dict`. -/
def toDict (sanitized : Value) (removed : List (RemovedField Text)) : Value :=
  .dict [
    (text "sanitized_context", sanitized),
    (text "redaction_summary", .dict [
      (text "removed_field_count", .int removed.length),
      (text "removed_fields", .list (removed.map fun field =>
        .dict [(text "path", .str field.path), (text "reason", .str field.reason.value)]))]),
    (text "sensitive_data_included", .bool false)]

/-! ## Validating -/

/-- The keys of a result around its context. -/
def summaryKeys : List Text := [
  "sanitized_context", "redaction_summary", "removed_field_count", "removed_fields", "path", "reason",
  "sensitive_data_included"].map text

inductive Finding where
  | sensitiveKey
  | nonAllowlistedKey
  | sensitiveValue
  deriving DecidableEq, Repr

/-- An error of the validator: the text of its kind and the path. -/
def Finding.message : Finding → Text → Text
  | .sensitiveKey, path => text "sensitive key found at " ++ path
  | .nonAllowlistedKey, path => text "non-allowlisted key found at " ++ path
  | .sensitiveValue, path => text "sensitive value pattern found at " ++ path

mutual

/-- `_validate_payload`. -/
def validatePayload (path : Text) : Value → Except PyError (List Text)
  | .dict items => validatePairs path items
  | .list items => validateItems path 0 items
  | v => do return if ← containsSensitiveValue rt none v then [Finding.sensitiveValue.message path] else []

def validateItems (path : Text) (index : Nat) : List Value → Except PyError (List Text)
  | [] => .ok []
  | v :: items => do return (← validatePayload (textPaths.item path index) v) ++ (← validateItems path (index + 1) items)

def validatePairs (path : Text) : List (Text × Value) → Except PyError (List Text)
  | [] => .ok []
  | kv :: items => do return (← validatePair path kv) ++ (← validatePairs path items)

def validatePair (path : Text) : Text × Value → Except PyError (List Text)
  | (key, v) => do
      let childPath := textPaths.child path key
      let named := if (removalReasonForKey rt key).isSome then [Finding.sensitiveKey.message childPath] else []
      let unlisted :=
        if allowedKeys.contains key || summaryKeys.contains key then [] else [Finding.nonAllowlistedKey.message childPath]
      let valued := if ← containsSensitiveValue rt (some key) v then [Finding.sensitiveValue.message childPath] else []
      let nested ← if v.isScalar then .ok [] else validatePayload childPath v
      return named ++ unlisted ++ valued ++ nested

end

/-- `validate_sanitized_context`. -/
def validateSanitizedContext (payload : Value) : Except PyError (List Text) := validatePayload rt (text "$") payload

end

end EventConsistency.ContextSanitizer
