import EventConsistency.Scripts.IncidentArtifact

/-!
# The incident analyzer

`scripts/ph3_incident_analyzer.py`: `analyzeIncident` reads the evidence files of an incident back and picks the first
rule of `selectRule` that applies. The errors that `validate_artifact` finds in the directory are an argument.
-/

namespace EventConsistency.IncidentAnalyzer
open Lib.Python IncidentArtifact

inductive Classification where
  | artifactSanitizationRisk
  | consistencyIssueCandidate
  | postgresDownWriteSuspended
  | writeSuspendedUnknownDependency
  | insufficientEvidence
  | unknownIncident
  deriving DecidableEq, Repr

namespace Classification

def label : Classification → String
  | .artifactSanitizationRisk => "ARTIFACT_SANITIZATION_RISK"
  | .consistencyIssueCandidate => "CONSISTENCY_ISSUE_CANDIDATE"
  | .postgresDownWriteSuspended => "POSTGRES_DOWN_WRITE_SUSPENDED"
  | .writeSuspendedUnknownDependency => "WRITE_SUSPENDED_UNKNOWN_DEPENDENCY"
  | .insufficientEvidence => "INSUFFICIENT_EVIDENCE"
  | .unknownIncident => "UNKNOWN_INCIDENT"

end Classification

inductive Severity where
  | sev1
  | sev2
  | sev3
  deriving DecidableEq, Repr

def manualPostgresDown : List String := [
  "confirm PostgreSQL recovery",
  "review consistency gate",
  "approve write resume",
  "decide whether recovery case creation is required in PH4"]

def manualSanitizationRisk : List String := [
  "do not share artifact with AI or external documents",
  "rerun PH2 validation",
  "remove or regenerate unsafe artifact"]

def manualConsistency : List String := [
  "keep write suspended",
  "create recovery case in PH4",
  "review affected account/event scope"]

def manualUnknownDependency : List String := [
  "identify dependency failure source",
  "review ready/health evidence",
  "do not resume write until consistency gate is reviewed"]

def manualInsufficient : List String := [
  "rerun artifact collection",
  "check PH2 create/validate logs",
  "do not make recovery decision from this report alone"]

def defaultLimits : List String := [
  "PH3 does not execute recovery actions",
  "PH3 does not approve write resume",
  "PH3 does not query live Prometheus metrics",
  "PH3 does not call AI APIs"]

/-- `_rule`; the confidence is in hundredths. -/
structure Rule where
  classification : Classification
  severity : Severity
  confidence : Nat
  manualActions : List String
  runbooks : List String
  why : String
  deriving DecidableEq, Repr

/-- What `analyze_incident` has read. -/
structure Context where
  incidentId : Text
  manifest : List (Text × Value)
  writeState : List (Text × Value)
  healthReady : List (Text × Value)
  consistency : List (Text × Value)
  commandResults : List (Text × Value)
  validationErrors : List Text
  missingEvidenceCount : Nat

/-! ## The rules -/

def isStr (v : Value) (s : String) : Bool :=
  match v with
  | .str t => t == text s
  | _ => false

def isBool (v : Value) (b : Bool) : Bool :=
  match v with
  | .bool c => c == b
  | _ => false

/-- `_has_sanitization_risk`. -/
def hasSanitizationRisk (rt : Runtime) (context : Context) : Bool :=
  if context.manifest.isEmpty then false
  else if !isBool (getOr context.manifest "sensitive_data_included" .none) false then true
  else context.validationErrors.any fun error =>
    contains (text "sensitive") (rt.lower error) || contains (text "sanitized must be true") (rt.lower error)

/-- `_positive_int`. -/
def positiveInt (rt : Runtime) (v : Value) : Except PyError Bool :=
  match rt.toInt v with
  | .ok n => .ok (0 < n)
  | .error .typeError => .ok false
  | .error .valueError => .ok false
  | .error e => .error e

def issueKeys : List String :=
  ["duplicate_ledger_count", "duplicate_external_event_count", "duplicate_event_count", "reconciliation_failure_count"]

/-- `_has_consistency_issue`: the first of `keys` with a positive count. -/
def hasConsistencyIssue (rt : Runtime) (consistency : List (Text × Value)) : List String → Except PyError Bool
  | [] => .ok false
  | key :: keys => do
      if ← positiveInt rt (getOr consistency key .none) then return true
      else hasConsistencyIssue rt consistency keys

/-- `_is_postgres_down_write_suspended`. -/
def isPostgresDownWriteSuspended (context : Context) : Bool :=
  isStr (getOr context.manifest "scenario" .none) "POSTGRES_DOWN" ||
    isStr (getOr context.writeState "reason" .none) "postgres_unavailable" ||
    (isBool (getOr context.writeState "active" .none) true && isStr (getOr context.writeState "source" .none) "postgres_probe")

/-- `scenario in {None, "", "unknown", "not_collected"}`; a list or a dict cannot be looked up in a set. -/
def isUnknownScenario : Value → Except PyError Bool
  | .none => .ok true
  | .str s => .ok (["", "unknown", "not_collected"].any fun t => s == text t)
  | .list _ => .error .typeError
  | .dict _ => .error .typeError
  | _ => .ok false

/-- `_is_write_suspended_unknown`. -/
def isWriteSuspendedUnknown (context : Context) : Except PyError Bool :=
  if isBool (getOr context.writeState "active" .none) true then
    isUnknownScenario (getOr context.manifest "scenario" .none)
  else .ok false

/-- `_has_insufficient_evidence`. -/
def hasInsufficientEvidence (context : Context) : Bool :=
  context.manifest.isEmpty || decide (3 ≤ context.missingEvidenceCount)

/-- `_select_rule`. -/
def selectRule (rt : Runtime) (context : Context) : Except PyError Rule := do
  if hasSanitizationRisk rt context then
    return {
      classification := .artifactSanitizationRisk
      severity := .sev2
      confidence := 80
      manualActions := manualSanitizationRisk
      runbooks := ["docs/39-sensitive-data-ai-governance-and-encryption-tradeoff.md"]
      why := "PH2 validation or manifest safety metadata indicates the artifact should not be shared before regeneration." }
  if ← hasConsistencyIssue rt context.consistency issueKeys then
    return {
      classification := .consistencyIssueCandidate
      severity := .sev1
      confidence := 85
      manualActions := manualConsistency
      runbooks := ["docs/runbooks/write-suspend-resume.md"]
      why := "Count-only consistency summary contains a non-zero duplicate or reconciliation failure count." }
  if isPostgresDownWriteSuspended context then
    return {
      classification := .postgresDownWriteSuspended
      severity := .sev1
      confidence := 90
      manualActions := manualPostgresDown
      runbooks := ["docs/runbooks/postgres-down.md", "docs/runbooks/write-suspend-resume.md"]
      why := "Scenario and write-suspend evidence point to PostgreSQL write path unavailability." }
  if ← isWriteSuspendedUnknown context then
    return {
      classification := .writeSuspendedUnknownDependency
      severity := .sev2
      confidence := 65
      manualActions := manualUnknownDependency
      runbooks := ["docs/runbooks/write-suspend-resume.md"]
      why := "Write traffic is suspended, but the artifact does not identify PostgreSQL as the dependency." }
  if hasInsufficientEvidence context then
    return {
      classification := .insufficientEvidence
      severity := .sev2
      confidence := 40
      manualActions := manualInsufficient
      runbooks := ["docs/44-ph2-incident-artifact-sanitized-report.md"]
      why := "Required PH2 evidence is missing or too sparse for a reliable classification." }
  return {
    classification := .unknownIncident
    severity := .sev3
    confidence := 30
    manualActions := manualInsufficient
    runbooks := ["docs/37-incident-diagnosis-automation-design.md"]
    why := "No PH3 MVP rule matched the available sanitized artifact evidence." }

/-! ## The analysis -/

/-- The result of `_classify`, with `analyzed_at` left to its caller. -/
structure Analysis where
  incidentId : Text
  rule : Rule
  primarySignals : List Text
  autoActionsObserved : List String
  limits : List String

/-- `f"{name}={items.get(key, default)}"`. -/
def signal (rt : Runtime) (name : String) (items : List (Text × Value)) (key default : String) : Except PyError Text := do
  return text name ++ text "=" ++ (← rt.str (getOr items key (.str (text default))))

/-- `_primary_signals`. -/
def primarySignals (rt : Runtime) (context : Context) (classification : Classification) : Except PyError (List Text) := do
  let scenario ← signal rt "scenario" context.manifest "scenario" "unknown"
  let active ← signal rt "write_suspend_state.active" context.writeState "active" "not_collected"
  let reason ← signal rt "write_suspend_state.reason" context.writeState "reason" "not_collected"
  let ready ← signal rt "ready_status" context.healthReady "ready_status" "not_collected"
  let result ← signal rt "consistency_result" context.consistency "result" "not_collected"
  let counts ← (issueKeys.filter fun key => (dictGet context.consistency key).isSome).mapM fun key =>
    signal rt key context.consistency key ""
  return [text "classification=" ++ text classification.label, scenario, active, reason, ready, result,
    text "sensitive_data_included=false"] ++ counts

/-- `_auto_actions_observed`. -/
def autoActionsObserved (context : Context) : List String :=
  ["sanitized_artifact_created", "ph2_validation_checked"] ++
    (if context.writeState.isEmpty then [] else ["write_suspend_state_captured"]) ++
    (if context.consistency.isEmpty then [] else ["count_only_consistency_summary_captured"]) ++
    (if context.commandResults.isEmpty then [] else ["command_result_summary_captured"])

/-- `_classify`. -/
def classify (rt : Runtime) (context : Context) : Except PyError Analysis := do
  let rule ← selectRule rt context
  let signals ← primarySignals rt context rule.classification
  return {
    incidentId := context.incidentId
    rule := rule
    primarySignals := signals
    autoActionsObserved := autoActionsObserved context
    limits := defaultLimits }

/-- `_read_json_or_empty`. -/
def readJsonOrEmpty (rt : Runtime) (dir : IncidentDir) (name : String) : Except PyError (List (Text × Value)) :=
  match dir.files.lookup (text name) with
  | none => .ok []
  | some s => match loads rt s with
    | .error .jsonDecodeError => .ok []
    | .error e => .error e
    | .ok (.dict payload) => .ok payload
    | .ok _ => .ok []

/-- `_missing_evidence_count` of the files that `analyze_incident` counts. -/
def missingEvidenceCount (dir : IncidentDir) : Nat :=
  ["manifest.json", "write-suspend-state.json", "health-ready-summary.json", "consistency-summary.json",
    "command-results.json", "sanitized-report.md"].countP fun name => (dir.files.lookup (text name)).isNone

/-- `analyze_incident`; `validated` is the outcome of `validate_artifact`. -/
def analyzeIncident (rt : Runtime) (validated : Except PyError (List Text)) (dir : IncidentDir) :
    Except PyError Analysis := do
  let manifest ← readJsonOrEmpty rt dir "manifest.json"
  let writeState ← readJsonOrEmpty rt dir "write-suspend-state.json"
  let healthReady ← readJsonOrEmpty rt dir "health-ready-summary.json"
  let consistency ← readJsonOrEmpty rt dir "consistency-summary.json"
  let commandResults ← readJsonOrEmpty rt dir "command-results.json"
  let validationErrors ← validated
  let named := getOr manifest "incident_id" .none
  let incidentId ← rt.str (if named.truthy then named else .str dir.name)
  classify rt {
    incidentId := incidentId
    manifest := manifest
    writeState := writeState
    healthReady := healthReady
    consistency := consistency
    commandResults := commandResults
    validationErrors := validationErrors
    missingEvidenceCount := missingEvidenceCount dir }

/-- `_select_incident_dir`, with the directory of `--incident-dir`; `none` is its `SystemExit`. -/
def selectIncidentDir (latest : Bool) (incidentDir : Option IncidentDir) (root : List IncidentDir) :
    Option (Except PyError IncidentDir) :=
  if latest then some (latestIncidentDir root) else incidentDir.map .ok

end EventConsistency.IncidentAnalyzer
