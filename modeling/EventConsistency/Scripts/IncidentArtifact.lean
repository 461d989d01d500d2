import EventConsistency.Lib.JsonText
import EventConsistency.Lib.Regex

/-!
# Incident artifacts

`scripts/ph2_incident_artifact.py`: `sanitizePayload`, the readers of the write-suspend state file and of a PH1 report,
`createArtifact`, which writes the evidence files of an incident into a new directory, `latestIncidentDir`, which finds
the newest one by its name, and `validateArtifact`, which checks such a directory.
-/

namespace EventConsistency.IncidentArtifact
open Lib.Python

/-! ## Sanitizing -/

def allowedKeys : List Text := [
  "active", "activated_at", "activated_by", "command_name", "confidence_candidate", "container_name", "count",
  "created_at", "created_by", "dependency", "duration_ms", "error_code", "evidence_files", "exit_code", "finished_at",
  "health_status", "http_status", "incident_id", "manual_required", "manual_review_required", "ready_status", "reason",
  "result", "resume_reason", "resumed_at", "resumed_by", "retry_after_seconds", "retryable", "route_group", "run_id",
  "sanitized", "scenario", "sensitive_data_included", "service_name", "severity_candidate", "source", "started_at",
  "state", "write_suspended"].map text

/-- Two words with `[-_]?` between them. -/
def joined (first second : String) : Regex := .concat [.literal first, .opt (.oneOf "-_"), .literal second]

/-- `SENSITIVE_KEY_RE`. -/
def sensitiveKey : Regex := .anyOf [
  .literal "authorization", .literal "cookie", .literal "database_url", .literal "db_password", .literal "password",
  .literal "secret", .literal "signature", joined "idempotency" "key", joined "account" "no",
  joined "account" "number", joined "access" "token", joined "refresh" "token", joined "private" "key",
  joined "connection" "string", joined "raw" "body", joined "request" "body", joined "response" "body"]

/-- `name\s*[marks]\s*\S+`. -/
def assigned (rt : Runtime) (name marks : String) : Regex :=
  .concat [.literal name, .star (.space rt), .oneOf marks, .star (.space rt), .plus (.nonSpace rt)]

/-- `SENSITIVE_TEXT_RE`. The class `[^\\s)]` of its raw string leaves out a backslash, an `s` and a parenthesis. -/
def sensitiveText (rt : Runtime) : Regex := .anyOf [
  assigned rt "Authorization" ":=", assigned rt "X-Signature" ":=", assigned rt "x_signature" "=",
  assigned rt "Idempotency-Key" ":=", assigned rt "idempotency_key" "=", assigned rt "account_no" "=",
  assigned rt "account_number" "=", .concat [.literal "DATABASE_URL", .star (.space rt), .literal "="],
  .concat [.literal "Bearer", .plus (.space rt), .plus (.nonSpace rt)],
  .concat [.literal "Basic", .plus (.space rt), .plus (.nonSpace rt)],
  .concat [.literal "postgresql://", .plus (.noneOf "\\s)")], .literal "synthetic-authorization-token",
  .literal "synthetic-signature-value", .literal "synthetic-account-number-1234",
  .literal "synthetic-idempotency-key"]

/-- A key that is neither sensitive nor unknown. -/
def keeps (key : Text) : Bool := !sensitiveKey.search key && allowedKeys.contains key

mutual

/-- `sanitize_payload`, where the stack suffices for its calls. -/
def sanitizePayload (rt : Runtime) : Value → Value
  | .dict items => .dict (sanitizePairs rt items)
  | .list items => .list (sanitizeItems rt items)
  | .str s => if (sensitiveText rt).search s then .str (text "[REDACTED]") else .str s
  | v => v

def sanitizeItems (rt : Runtime) : List Value → List Value
  | [] => []
  | v :: items => sanitizePayload rt v :: sanitizeItems rt items

def sanitizePairs (rt : Runtime) : List (Text × Value) → List (Text × Value)
  | [] => []
  | kv :: items => if keeps kv.1 then sanitizePair rt kv :: sanitizePairs rt items else sanitizePairs rt items

def sanitizePair (rt : Runtime) : Text × Value → Text × Value
  | (key, v) => (key, sanitizePayload rt v)

end

mutual

/-- How many calls `sanitize_payload` nests, those of its list comprehensions included. -/
def sanitizeCalls (rt : Runtime) : Value → Nat
  | .dict items => 1 + pairCalls rt items
  | .list items => 1 + rt.comprehension + itemCalls rt items
  | _ => 1

def itemCalls (rt : Runtime) : List Value → Nat
  | [] => 0
  | v :: items => max (sanitizeCalls rt v) (itemCalls rt items)

def pairCalls (rt : Runtime) : List (Text × Value) → Nat
  | [] => 0
  | kv :: items => if keeps kv.1 then max (valueCalls rt kv) (pairCalls rt items) else pairCalls rt items

def valueCalls (rt : Runtime) : Text × Value → Nat
  | (_, v) => sanitizeCalls rt v

end

/-- `sanitize_payload`. -/
def sanitize (rt : Runtime) (payload : Value) : Except PyError Value :=
  if sanitizeCalls rt payload ≤ rt.callDepth then .ok (sanitizePayload rt payload) else .error .recursionError

theorem sanitize_eq_ok_iff (rt : Runtime) (payload v : Value) :
    sanitize rt payload = .ok v ↔ sanitizeCalls rt payload ≤ rt.callDepth ∧ v = sanitizePayload rt payload := by
  unfold sanitize
  by_cases h : sanitizeCalls rt payload ≤ rt.callDepth <;> simp [h, eq_comm]

theorem dictGet_sanitizePairs (rt : Runtime) {key : String} (hk : keeps (text key) = true)
    (items : List (Text × Value)) :
    dictGet (sanitizePairs rt items) key = (dictGet items key).map (sanitizePayload rt) := by
  induction items with
  | nil => rfl
  | cons kv items ih =>
      obtain ⟨k, v⟩ := kv
      rw [dictGet_cons, sanitizePairs]
      by_cases h : k = text key
      · simp [h, hk, sanitizePair, dictGet_cons]
      · by_cases hkeep : keeps k = true
        · simp [h, hkeep, sanitizePair, dictGet_cons, ih]
        · simp [h, hkeep, ih]

theorem isEmpty_sanitizePairs (rt : Runtime) (items : List (Text × Value)) :
    (sanitizePairs rt items).isEmpty = !items.any fun kv => keeps kv.1 := by
  induction items with
  | nil => rfl
  | cons kv items ih =>
      rw [sanitizePairs, List.any_cons]
      by_cases hkeep : keeps kv.1 = true <;> simp [hkeep, ih]

/-- An object with keys none of which is kept. -/
def Emptied : Value → Prop
  | .dict items => items ≠ [] ∧ ∀ kv ∈ items, keeps kv.1 = false
  | _ => False

/-- Sanitizing changes `bool(v)` only of an object that it empties. -/
theorem truthy_sanitizePayload_iff (rt : Runtime) (v : Value) :
    (sanitizePayload rt v).truthy = v.truthy ↔ ¬Emptied v := by
  cases v with
  | str s =>
      have redacted : ∀ s, (sensitiveText rt).search s = true → s ≠ [] := by
        rintro s h rfl
        exact absurd (show (sensitiveText rt).search [] = false from rfl) (by simp [h])
      simp only [sanitizePayload, Emptied, not_false_eq_true, iff_true]
      split
      · rename_i h
        have hs := redacted s h
        simp [Value.truthy, hs, text]
      · rfl
  | list items => cases items <;> simp [sanitizePayload, sanitizeItems, Value.truthy, Emptied]
  | dict items =>
      have none_kept : (∀ kv ∈ items, keeps kv.1 = false) ↔ (items.any fun kv => keeps kv.1) = false := by
        rw [List.any_eq_false]
        simp only [Bool.not_eq_true]
      simp only [sanitizePayload, Value.truthy, isEmpty_sanitizePairs, Emptied, Bool.not_not, none_kept]
      cases items with
      | nil => simp
      | cons kv items => cases ((kv :: items).any fun kv => keeps kv.1) <;> simp
  | _ => simp [sanitizePayload, Emptied]

/-! ## Evidence -/

def notCollected : Value := .str (text "not_collected")

/-- `_load_sanitized_write_suspend_state`, for a file that can be read. -/
def loadSanitizedWriteSuspendState (rt : Runtime) : Option (List UInt8) → Except PyError (List (Text × Value))
  | none => .ok [
      (text "active", .bool false),
      (text "reason", notCollected),
      (text "retry_after_seconds", notCollected),
      (text "source", notCollected),
      (text "run_id", notCollected),
      (text "sensitive_data_included", .bool false)]
  | some bytes => match loadsFile rt bytes with
    | .error .jsonDecodeError => .ok [
        (text "active", .bool true),
        (text "reason", .str (text "state_file_invalid")),
        (text "source", .str (text "artifact_parse_failed")),
        (text "result", .str (text "invalid_state_json")),
        (text "sensitive_data_included", .bool false)]
    | .error e => .error e
    | .ok payload => do
        match ← sanitize rt payload with
        | .dict items => return dictSet items (text "sensitive_data_included") (.bool false)
        | _ => return [(text "result", .str (text "invalid_state_payload")), (text "sensitive_data_included", .bool false)]

/-- `needle in s`. -/
def contains (needle : Text) : Text → Bool
  | [] => needle.isEmpty
  | c :: s => needle.isPrefixOf (c :: s) || contains needle s

/-- The group of `re.search(marker + "([0-9]+)", s)`. -/
def searchDigits (marker : Text) : Text → Option Text
  | [] => none
  | c :: s =>
      let digits := ((c :: s).drop marker.length).takeWhile isDigit
      if marker.isPrefixOf (c :: s) && !digits.isEmpty then some digits else searchDigits marker s

/-- `int(digits)` of digits of ASCII. -/
def intOfDigits (rt : Runtime) (digits : Text) : Except PyError Int :=
  if rt.tooLong digits.length then .error .valueError
  else .ok (digits.foldl (fun n c => n * 10 + (c - 0x30)) 0 : Nat)

/-- One key of the loop of `_consistency_summary`. -/
def addCount (rt : Runtime) (report : Text) (summary : List (Text × Value)) (key : String) :
    Except PyError (List (Text × Value)) :=
  match searchDigits (text "- " ++ text key ++ text ": ") report with
  | none => .ok summary
  | some digits => do return dictSet summary (text key) (.int (← intOfDigits rt digits))

/-- What is found at `--ph1-report-dir`: nothing was given, there is no `report.md`, or its text. -/
inductive Ph1Report where
  | notGiven
  | notFound
  | report (s : Text)

/-- The summary before a report is read. -/
def emptySummary : List (Text × Value) := [
  (text "result", notCollected),
  (text "retry_after_present", .str (text "unknown")),
  (text "count", notCollected),
  (text "sensitive_data_included", .bool false)]

/-- `_consistency_summary`. -/
def consistencySummary (rt : Runtime) : Ph1Report → Except PyError Value
  | .notGiven => .ok (.dict emptySummary)
  | .notFound => .ok (.dict (dictSet emptySummary (text "result") (.str (text "ph1_report_not_found"))))
  | .report report => do
      let summary ← ["duplicate_event_count", "duplicate_ledger_count", "blocked_event_record_count_after_replay",
        "blocked_ledger_count_after_replay"].foldlM (addCount rt report) emptySummary
      let present := if contains (text "retry_after_header_present: yes") report then "yes" else "unknown"
      let summary := dictSet summary (text "retry_after_present") (.str (text present))
      let summary := dictSet summary (text "result") (.str (text "captured"))
      sanitize rt (.dict summary)

/-! ## The directory of an incident -/

/-- A directory that was created, with the texts of its files. -/
structure IncidentDir where
  name : Text
  files : List (Text × Text)

/-- What `mkdir` does at a path. -/
inductive Mkdir where
  | created
  | fileExists
  | osError
  deriving DecidableEq, Repr

/-- The time of creation, as `strftime('%Y%m%d-%H%M%S')` and `isoformat()` give it. -/
structure CreatedAt where
  stamp : Text
  isoformat : Text

/-- `_severity_for`. -/
def severityFor (scenario : Text) : Text :=
  text (if scenario = text "POSTGRES_DOWN" ∨ scenario = text "CONSISTENCY_VIOLATION" then "SEV1" else "SEV2")

/-- `_incident_id`. -/
def incidentId (rt : Runtime) (createdAt : CreatedAt) (scenario : Text) : Text :=
  let slug := (rt.lower scenario).map fun c => if c = 0x5F then 0x2D else c
  text "inc-" ++ createdAt.stamp ++ text "-" ++ slug

/-- The suffixes that are tried: none, then `-001` to `-999`. -/
def suffixes : List Text :=
  [] :: (List.range 999).map fun i =>
    let n := i + 1
    [0x2D, 0x30 + n / 100, 0x30 + n / 10 % 10, 0x30 + n % 10]

/-- `_create_unique_incident_dir`. -/
def createUniqueIncidentDir (mkdir : Text → Mkdir) (incidentId : Text) : List Text → Except PyError Text
  | [] => .error .osError
  | tail :: tails => match mkdir (incidentId ++ tail) with
    | .created => .ok (incidentId ++ tail)
    | .fileExists => createUniqueIncidentDir mkdir incidentId tails
    | .osError => .error .osError

/-- `path.name`: what follows the last slash. -/
def pathName (path : Text) : Text := (path.reverse.takeWhile fun c => c != 0x2F).reverse

/-- `_write_json`: the text that is written. -/
def jsonFile (rt : Runtime) (payload : Value) : Except PyError Text := do
  return (← dumps rt payload) ++ [0x0A]

/-- `write_text(s, encoding="utf-8")` refuses surrogates. -/
def textFile (s : Text) : Except PyError Text :=
  if s.any fun c => isHigh c || isLow c then .error .unicodeEncodeError else .ok s

def manualRequired : List Text :=
  ["confirm DB recovery", "approve write resume", "review consistency result"].map text

def evidenceFiles : List Text := [
  "write-suspend-state.json", "health-ready-summary.json", "docker-compose-status.txt", "consistency-summary.json",
  "command-results.json", "sanitized-report.md"].map text

/-- What varies in a manifest. -/
structure Manifest where
  incidentId : Text
  scenario : Text
  createdAt : Text
  source : Text
  runId : Text

namespace Manifest

def confidence (m : Manifest) : PyFloat :=
  .ofDecimal false (if m.scenario = text "POSTGRES_DOWN" then 8 else 6) (-1)

def toValue (m : Manifest) : Value := .dict [
  (text "incident_id", .str m.incidentId),
  (text "scenario", .str m.scenario),
  (text "severity_candidate", .str (severityFor m.scenario)),
  (text "confidence_candidate", .float m.confidence),
  (text "created_at", .str m.createdAt),
  (text "created_by", .str (text "ph2_incident_artifact")),
  (text "source", .str m.source),
  (text "run_id", .str m.runId),
  (text "sanitized", .bool true),
  (text "sensitive_data_included", .bool false),
  (text "manual_review_required", .bool true),
  (text "evidence_files", .list (evidenceFiles.map .str)),
  (text "manual_required", .list (manualRequired.map .str))]

end Manifest

def healthReadySummary : Value := .dict [
  (text "service_name", .str (text "financial-event-api")),
  (text "health_status", notCollected),
  (text "ready_status", notCollected),
  (text "http_status", notCollected),
  (text "dependency", .str (text "postgres"))]

def commandResults : Value := .dict [
  (text "command_name", .str (text "ph2_incident_artifact_create")),
  (text "exit_code", .int 0),
  (text "result", .str (text "created")),
  (text "sensitive_data_included", .bool false)]

/-- `render_report`. -/
def renderReport (rt : Runtime) (m : Manifest) (consistency : Value) : Except PyError Text := do
  let items := match consistency with
    | .dict items => items
    | _ => []
  let retryAfterPresent ← rt.str (getOr items "retry_after_present" (.str (text "unknown")))
  let consistencyCheck ← rt.str (getOr items "result" notCollected)
  return (text "# Incident Report Draft\n\n## Incident Metadata\n\n"
    ++ text "- Incident ID: " ++ m.incidentId ++ text "\n- Scenario: " ++ m.scenario
    ++ text "\n- Severity Candidate: " ++ severityFor m.scenario
    ++ text "\n- Confidence Candidate: " ++ rt.floatText m.confidence
    ++ text "\n- Source: " ++ m.source ++ text "\n- Run ID: " ++ m.runId ++ text "\n- Created At: " ++ m.createdAt
    ++ text "\n- Manual Review Required: true\n- Sensitive Data Included: false\n\n## Summary\n\n"
    ++ text "PostgreSQL write path was unavailable or write traffic was suspended.\n"
    ++ text "Financial write requests were expected to fail closed with 503 + Retry-After.\n\n"
    ++ text "## Primary Signals\n\n- readiness: not_collected\n- write_suspended: captured_if_state_file_exists\n"
    ++ text "- retry_after_present: " ++ retryAfterPresent ++ text "\n- consistency_check: " ++ consistencyCheck
    ++ text "\n\n## Auto Actions Captured\n\n- write suspend state captured\n"
    ++ text "- count-only consistency summary captured\n- command result summary captured\n\n"
    ++ text "## Manual Actions Required\n\n- confirm DB recovery\n- review consistency gate\n- approve write resume\n"
    ++ text "- review whether recovery case creation is required in PH3\n\n"
    ++ text "## Evidence Files\n\n- manifest.json\n- write-suspend-state.json\n- health-ready-summary.json\n"
    ++ text "- consistency-summary.json\n- docker-compose-status.txt\n- command-results.json\n\n"
    ++ text "## Sanitization\n\n- raw account number: not included\n- raw idempotency key: not included\n"
    ++ text "- HMAC signature: not included\n- Authorization header: not included\n- raw request body: not included\n"
    ++ text "- sensitive_data_included: false\n\n"
    ++ text "## Follow-up\n\n- PH3 Incident Analyzer MVP\n- PH4 Recovery Case / Quarantine\n")

/-- The arguments of `create_artifact`, with what it finds at the paths among them. -/
structure CreateArguments where
  scenario : Text
  runId : Option Text
  source : Text
  writeSuspendState : Option (List UInt8)
  ph1 : Ph1Report

/-- What `create_artifact` meets: the clock, the file system and the output of `docker compose ps`. -/
structure Host where
  createdAt : CreatedAt
  mkdir : Text → Mkdir
  dockerComposeStatus : Text

/-- `create_artifact`. -/
def createArtifact (rt : Runtime) (host : Host) (args : CreateArguments) : Except PyError IncidentDir := do
  let path ← createUniqueIncidentDir host.mkdir (incidentId rt host.createdAt args.scenario) suffixes
  let name := pathName path
  let manifest : Manifest := {
    incidentId := name
    scenario := args.scenario
    createdAt := host.createdAt.isoformat
    source := args.source
    runId := match args.runId with
      | none | some [] => text "not_collected"
      | some runId => runId }
  let manifestFile ← jsonFile rt manifest.toValue
  let stateFile ← jsonFile rt (.dict (← loadSanitizedWriteSuspendState rt args.writeSuspendState))
  let healthFile ← jsonFile rt healthReadySummary
  let consistency ← consistencySummary rt args.ph1
  let consistencyFile ← jsonFile rt consistency
  let commandFile ← jsonFile rt commandResults
  let dockerFile ← textFile host.dockerComposeStatus
  let reportFile ← textFile (← renderReport rt manifest consistency)
  return {
    name := name
    files := [
      (text "raw/README.md", text "# Raw Evidence\n\nRaw logs are not collected by PH2 by default.\n"),
      (text "manifest.json", manifestFile),
      (text "write-suspend-state.json", stateFile),
      (text "health-ready-summary.json", healthFile),
      (text "consistency-summary.json", consistencyFile),
      (text "command-results.json", commandFile),
      (text "docker-compose-status.txt", dockerFile),
      (text "sanitized-report.md", reportFile)] }

/-- `latest_incident_dir` of the directories under a root. -/
def latestIncidentDir (root : List IncidentDir) : Except PyError IncidentDir :=
  match root.filter fun dir => (text "inc-").isPrefixOf dir.name with
  | [] => .error .osError
  | dir :: dirs => .ok (dirs.foldl (fun latest dir => if latest.name < dir.name then dir else latest) dir)

/-! ## Checking a directory -/

/-- What `validate_artifact` reports; a file is named by its path in the directory. -/
inductive ArtifactError where
  /-- `missing {manifest_path}` -/
  | missingManifest
  /-- `manifest is invalid JSON: {exc}` -/
  | manifestInvalidJson
  /-- `manifest missing fields: {', '.join(missing)}` -/
  | missingFields (fields : List Text)
  /-- `manifest incident_id does not match incident directory` -/
  | otherIncidentId
  /-- `manifest sanitized must be true` -/
  | notSanitized
  /-- `manifest sensitive_data_included must be false` -/
  | sensitiveDataIncluded
  /-- `missing evidence file: {relative}` -/
  | missingEvidence (file : Text)
  /-- `sensitive value pattern found: {path}` -/
  | sensitiveValue (file : Text)
  /-- `sensitive key found in {label}: {key}` -/
  | sensitiveKeyFound (file key : Text)
  /-- `invalid JSON {path}: {exc}` -/
  | invalidJson (file : Text)
  /-- `report incident_id does not match manifest` -/
  | reportOtherIncidentId
  /-- `report must declare Sensitive Data Included: false` -/
  | reportUndeclared
  deriving DecidableEq

mutual

/-- The keys that `_validate_json_keys` reports, where the stack suffices for its calls. -/
def sensitiveKeys : Value → List Text
  | .dict items => sensitiveKeysPairs items
  | .list items => sensitiveKeysItems items
  | _ => []

def sensitiveKeysItems : List Value → List Text
  | [] => []
  | v :: items => sensitiveKeys v ++ sensitiveKeysItems items

def sensitiveKeysPairs : List (Text × Value) → List Text
  | [] => []
  | kv :: items => sensitiveKeysPair kv ++ sensitiveKeysPairs items

def sensitiveKeysPair : Text × Value → List Text
  | (key, v) => if sensitiveKey.search key then key :: sensitiveKeys v else sensitiveKeys v

end

mutual

/-- How many calls `_validate_json_keys` nests. -/
def keyCalls : Value → Nat
  | .dict items => 1 + keyCallsPairs items
  | .list items => 1 + keyCallsItems items
  | _ => 1

def keyCallsItems : List Value → Nat
  | [] => 0
  | v :: items => max (keyCalls v) (keyCallsItems items)

def keyCallsPairs : List (Text × Value) → Nat
  | [] => 0
  | kv :: items => max (keyCallsPair kv) (keyCallsPairs items)

def keyCallsPair : Text × Value → Nat
  | (_, v) => keyCalls v

end

/-- `_validate_json_keys`. -/
def validateJsonKeys (rt : Runtime) (payload : Value) (label : Text) : Except PyError (List ArtifactError) :=
  if keyCalls payload ≤ rt.callDepth then .ok ((sensitiveKeys payload).map (.sensitiveKeyFound label))
  else .error .recursionError

/-- `path.suffix`: the last dot of the name and what follows, unless the dot is its first or last character. -/
def suffix (path : Text) : Text :=
  let name := pathName path
  let tail := (name.reverse.takeWhile fun c => c != 0x2E).reverse
  if tail.length + 1 < name.length ∧ tail ≠ [] then 0x2E :: tail else []

/-- What the loop over the files reports of one with this path and text. -/
def fileErrors (rt : Runtime) (path s : Text) : Except PyError (List ArtifactError) :=
  let s := universalNewlines s
  let found := if (sensitiveText rt).search s then [.sensitiveValue path] else []
  if suffix path = text ".json" then
    match loads rt s with
    | .error .jsonDecodeError => .ok (found ++ [.invalidJson path])
    | .error e => .error e
    | .ok payload => do return found ++ (← validateJsonKeys rt payload path)
  else .ok found

/-- The fields that a manifest has to have, in the order of `sorted`. -/
def requiredFields : List Text := [
  "confidence_candidate", "created_at", "created_by", "evidence_files", "incident_id", "manual_required",
  "manual_review_required", "run_id", "sanitized", "scenario", "sensitive_data_included", "severity_candidate",
  "source"].map text

/-- `set(manifest)` and `manifest.get` of a manifest that was read. -/
def manifestItems : Value → Except PyError (List (Text × Value))
  | .dict items => .ok items
  | .str _ => .error .attributeError
  | .list items => .error (if items.all Value.isScalar then .attributeError else .typeError)
  | _ => .error .typeError

/-- What is reported of the manifest of a directory with this name. -/
def manifestErrors (name : Text) (manifest : List (Text × Value)) : List ArtifactError :=
  let missing := requiredFields.filter fun field => (manifest.lookup field).isNone
  (if missing.isEmpty then [] else [.missingFields missing]) ++
  (match dictGet manifest "incident_id" with
    | some (.str s) => if s = name then [] else [.otherIncidentId]
    | _ => [.otherIncidentId]) ++
  (match dictGet manifest "sanitized" with
    | some (.bool true) => []
    | _ => [.notSanitized]) ++
  (match dictGet manifest "sensitive_data_included" with
    | some (.bool false) => []
    | _ => [.sensitiveDataIncluded])

/-- What is reported of `sanitized-report.md`. -/
def reportErrors (rt : Runtime) (manifest : List (Text × Value)) : Option Text → Except PyError (List ArtifactError)
  | none => .ok []
  | some report => do
      let report := universalNewlines report
      let incidentId ← rt.str (getOr manifest "incident_id" .none)
      return (if contains (text "- Incident ID: " ++ incidentId) report then [] else [.reportOtherIncidentId]) ++
        (if contains (text "Sensitive Data Included: false") report then [] else [.reportUndeclared])

/-- `validate_artifact` of a directory that exists; `rglob` gives its files in this order. -/
def validateArtifact (rt : Runtime) (dir : IncidentDir) : Except PyError (List ArtifactError) :=
  match dir.files.lookup (text "manifest.json") with
  | none => .ok [.missingManifest]
  | some s => match loads rt (universalNewlines s) with
    | .error .jsonDecodeError => .ok [.manifestInvalidJson]
    | .error e => .error e
    | .ok payload => do
        let manifest ← manifestItems payload
        let missing := evidenceFiles.filter fun file => (dir.files.lookup file).isNone
        let scanned ← dir.files.mapM fun file => fileErrors rt file.1 file.2
        let reported ← reportErrors rt manifest (dir.files.lookup (text "sanitized-report.md"))
        return manifestErrors dir.name manifest ++ missing.map .missingEvidence ++ scanned.flatten ++ reported

end EventConsistency.IncidentArtifact
