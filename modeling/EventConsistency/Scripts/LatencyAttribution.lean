import EventConsistency.Lib.Python

/-!
# Latency attribution

`scripts/ph10_latency_attribution.py`: `analyzeEvidence` reads percentiles out of an evidence object and goes through its
rules in order. Numbers are exact rationals. A field that is missing or not a number reads as `none`, and only a
comparison with `none` raises.
-/

namespace EventConsistency.LatencyAttribution
open Lib.Python (PyError)

/-- A value of an evidence object. -/
inductive Datum where
  | null
  | bool (b : Bool)
  | num (q : Rat)
  | str (s : String)
  | arr (xs : List Datum)
  | obj (kvs : List (String × Datum))

abbrev Mapping := List (String × Datum)

/-- `mapping.get(key)`. -/
def get (mapping : Mapping) (key : String) : Option Datum := mapping.lookup key

/-- `bool(value)`. -/
def Datum.truthy : Datum → Bool
  | .null => false
  | .bool b => b
  | .num q => q != 0
  | .str s => s != ""
  | .arr xs => !xs.isEmpty
  | .obj kvs => !kvs.isEmpty

/-- The number of a value: `isinstance(value, (int, float))` holds of booleans, too. -/
def Datum.number : Datum → Option Rat
  | .num q => some q
  | .bool b => some (if b then 1 else 0)
  | _ => none

/-- `_num`. -/
def num (mapping : Mapping) (key : String) : Option Rat := (get mapping key).bind Datum.number

/-! ## Reports -/

inductive Classification where
  | baselineNormalLatency
  | internalApplicationLatency
  | internalPostgresLatency
  | internalPostgresPoolPressure
  | internalPostgresLockContention
  | redisDegradedLatency
  | redisUnavailableFallback
  | externalDependencyLatency
  | externalEndpointSlow
  | appHttpClientPathIssue
  | edgeOrClientNetworkLatency
  | partnerSpecificLatency
  | routeSpecificLatencyCandidate
  | insufficientEvidence
  deriving DecidableEq, Repr

def Classification.label : Classification → String
  | .baselineNormalLatency => "baseline_normal_latency"
  | .internalApplicationLatency => "internal_application_latency"
  | .internalPostgresLatency => "internal_postgres_latency"
  | .internalPostgresPoolPressure => "internal_postgres_pool_pressure"
  | .internalPostgresLockContention => "internal_postgres_lock_contention"
  | .redisDegradedLatency => "redis_degraded_latency"
  | .redisUnavailableFallback => "redis_unavailable_fallback"
  | .externalDependencyLatency => "external_dependency_latency"
  | .externalEndpointSlow => "external_endpoint_slow"
  | .appHttpClientPathIssue => "app_http_client_path_issue"
  | .edgeOrClientNetworkLatency => "edge_or_client_network_latency"
  | .partnerSpecificLatency => "partner_specific_latency"
  | .routeSpecificLatencyCandidate => "route_specific_latency_candidate"
  | .insufficientEvidence => "insufficient_evidence"

/-- `CLASSIFICATIONS`. -/
def classifications : List String := [
  "baseline_normal_latency", "internal_application_latency", "internal_postgres_latency",
  "internal_postgres_pool_pressure", "internal_postgres_lock_contention", "redis_degraded_latency",
  "redis_unavailable_fallback", "external_dependency_latency", "external_endpoint_slow", "app_http_client_path_issue",
  "edge_or_client_network_latency", "partner_specific_latency", "route_specific_latency_candidate",
  "insufficient_evidence"]

inductive Confidence where
  | low
  | medium
  | high
  deriving DecidableEq, Repr

inductive ConsistencyStatus where
  | clean
  | violationDetected
  | unknown
  deriving DecidableEq, Repr

/-- What a rule adds to a report. -/
structure Finding where
  classification : Classification
  confidence : Confidence
  primarySuspect : String
  secondarySuspects : List String
  evidence : List String
  recommendedNextChecks : List String
  deriving DecidableEq, Repr

/-- The fields of a report that are not constants. -/
structure Report where
  runId : Datum
  generatedAt : Datum
  scenario : Datum
  routeGroup : Datum
  method : Datum
  statusCodeFamily : Datum
  consistency : Datum
  finding : Finding
  consistencyStatus : ConsistencyStatus

/-- The counters of `consistency_status_from`. -/
def counters : List String := [
  "duplicate_ledger_count", "duplicate_external_event_count", "reconciliation_failure_count",
  "invalid_state_transition_count"]

/-- `isinstance(value, (int, float))` and a test of the number. -/
def Datum.numberIs (test : Rat → Bool) (value : Option Datum) : Bool :=
  match value.bind Datum.number with
  | none => false
  | some q => test q

/-- `consistency_status_from`. -/
def consistencyStatusFrom : Option Datum → ConsistencyStatus
  | some (.obj consistency) =>
      if counters.any fun counter => Datum.numberIs (fun q => decide (0 < q)) (get consistency counter) then
        .violationDetected
      else if counters.all fun counter => Datum.numberIs (fun q => q == 0) (get consistency counter) then .clean
      else .unknown
  | _ => .unknown

/-- `_report`. -/
def report (evidence : Mapping) (finding : Finding) : Report :=
  let getOr (key : String) (default : String) : Datum := (get evidence key).getD (.str default)
  { runId := getOr "run_id" "ph10-latency-attribution"
    generatedAt := getOr "generated_at" "2026-07-07T00:00:00+00:00"
    scenario := getOr "scenario" "unknown"
    routeGroup := getOr "route_group" "not_collected"
    method := getOr "method" "not_collected"
    statusCodeFamily := getOr "status_code_family" "not_collected"
    consistency := getOr "consistency" "not_collected"
    finding := finding
    consistencyStatus := consistencyStatusFrom (get evidence "consistency") }

/-! ## The rules -/

def insufficient (line check : String) : Finding :=
  ⟨.insufficientEvidence, .low, "unknown", [], [line], [check]⟩

def baselineNormal : Finding where
  classification := .baselineNormalLatency
  confidence := .high
  primarySuspect := "none"
  secondarySuspects := []
  evidence := [
    "k6 p95/p99 are below 2x baseline and below initial absolute threshold",
    "error rate is low",
    "consistency counters are clean"]
  recommendedNextChecks := ["continue baseline collection and watch for route-specific changes"]

def edgeOrClientNetwork : Finding where
  classification := .edgeOrClientNetworkLatency
  confidence := .medium
  primarySuspect := "edge_or_client_network"
  secondarySuspects := ["nginx_edge", "partner_network"]
  evidence := [
    "Nginx request time is high while upstream and FastAPI handler remain near baseline",
    "k6 latency is a symptom and does not prove an internal dependency bottleneck"]
  recommendedNextChecks := ["compare Nginx access timing with partner-side timestamps"]

def externalEndpoint : Finding where
  classification := .externalEndpointSlow
  confidence := .high
  primarySuspect := "external_endpoint"
  secondarySuspects := ["outbound_http_client"]
  evidence := ["blackbox probe and app outbound HTTP phase are both high"]
  recommendedNextChecks := ["confirm provider status and compare blackbox probe history"]

def appHttpClientPath : Finding where
  classification := .appHttpClientPathIssue
  confidence := .medium
  primarySuspect := "app_http_client_path"
  secondarySuspects := ["dns_tls_pool"]
  evidence := ["app outbound HTTP is high while blackbox probe is normal"]
  recommendedNextChecks := ["inspect HTTP client pool, DNS, TLS, timeout, and retry settings"]

def postgresPoolPressure : Finding where
  classification := .internalPostgresPoolPressure
  confidence := .medium
  primarySuspect := "postgres_pool_wait"
  secondarySuspects := ["postgres"]
  evidence := ["DB pool wait is a large share of FastAPI handler time"]
  recommendedNextChecks := ["check DB connection usage and pool timeout logs"]

def postgresLockContention : Finding where
  classification := .internalPostgresLockContention
  confidence := .medium
  primarySuspect := "postgres_lock_wait"
  secondarySuspects := ["postgres"]
  evidence := ["DB lock wait is a large share of FastAPI handler time"]
  recommendedNextChecks := ["inspect lock holder queries and transaction duration"]

def postgresLatency : Finding where
  classification := .internalPostgresLatency
  confidence := .high
  primarySuspect := "postgres"
  secondarySuspects := ["db_query_or_transaction"]
  evidence := [
    "FastAPI handler p95 increased",
    "PostgreSQL phase is at least 60% of handler time",
    "Redis and outbound phases are not dominant"]
  recommendedNextChecks := ["check DB pool, lock wait, slow query, and consistency SQL evidence"]

def redisUnavailable : Finding where
  classification := .redisUnavailableFallback
  confidence := .medium
  primarySuspect := "redis_unavailable"
  secondarySuspects := ["db_fallback"]
  evidence := ["Redis is unavailable and fallback path is active"]
  recommendedNextChecks := ["confirm PostgreSQL consistency and Redis recovery status"]

def redisDegraded : Finding where
  classification := .redisDegradedLatency
  confidence := .medium
  primarySuspect := "redis"
  secondarySuspects := ["redis_timeout_or_fallback"]
  evidence := ["Redis phase is at least 40% of handler time while PostgreSQL is not dominant"]
  recommendedNextChecks := ["check Redis latency, timeout, and fallback metrics"]

def externalDependency : Finding where
  classification := .externalDependencyLatency
  confidence := .medium
  primarySuspect := "outbound_dependency"
  secondarySuspects := ["external_partner"]
  evidence := ["outbound HTTP phase is at least 70% of handler time"]
  recommendedNextChecks := ["compare app outbound metric with blackbox probe and provider status"]

def partnerSpecific : Finding where
  classification := .partnerSpecificLatency
  confidence := .low
  primarySuspect := "partner_specific"
  secondarySuspects := ["partner_network_or_payload"]
  evidence := [
    "latency is associated with a bounded partner_alias evidence field",
    "candidate scope only, not final root cause"]
  recommendedNextChecks := ["compare with other partner_alias groups without using raw identifiers"]

def routeSpecific : Finding where
  classification := .routeSpecificLatencyCandidate
  confidence := .low
  primarySuspect := "route_group"
  secondarySuspects := ["route_specific"]
  evidence := [
    "latency is tied to route_group but phase evidence is not yet dominant",
    "candidate scope only, not final root cause"]
  recommendedNextChecks := ["collect per-phase timing for the route_group"]

def applicationLatency : Finding where
  classification := .internalApplicationLatency
  confidence := .low
  primarySuspect := "fastapi_handler"
  secondarySuspects := ["application_logic"]
  evidence := ["FastAPI handler increased but no dependency phase is dominant"]
  recommendedNextChecks := ["collect finer phase timing and route-specific logs"]

def unspecific : Finding :=
  insufficient "available evidence is contradictory or not specific enough"
    "collect Nginx, FastAPI phase, Redis, PostgreSQL, outbound, blackbox, and consistency evidence"

/-- The percentiles of k6. -/
structure K6 where
  p95 : Rat
  p99 : Rat
  baseP95 : Rat
  baseP99 : Rat

/-- `normal_k6`. -/
def K6.normal (k6 : K6) : Bool :=
  decide (k6.p95 < k6.baseP95 * 2) && decide (k6.p99 < k6.baseP99 * 2) && decide (k6.p95 ≤ 300)

/-- What is read of the phases of a request. -/
structure Phases where
  nginxRequest : Option Rat
  nginxUpstream : Option Rat
  postgres : Option Rat
  dbPool : Option Rat
  dbLock : Option Rat
  redis : Option Rat
  outbound : Option Rat
  blackbox : Option Rat

def readPhases (observed : Mapping) : Phases where
  nginxRequest := num observed "nginx_request_p95_ms"
  nginxUpstream := num observed "nginx_upstream_p95_ms"
  postgres := num observed "postgres_phase_p95_ms"
  dbPool := num observed "db_pool_wait_p95_ms"
  dbLock := num observed "db_lock_wait_p95_ms"
  redis := num observed "redis_phase_p95_ms"
  outbound := num observed "outbound_http_p95_ms"
  blackbox := num observed "blackbox_probe_p95_ms"

/-- `x is not None and test(x)`. -/
def present (x : Option Rat) (test : Rat → Prop) [DecidablePred test] : Bool :=
  match x with
  | none => false
  | some q => decide (test q)

/-- `x and test(x)`: zero is as good as missing. -/
def nonzero (x : Option Rat) (test : Rat → Prop) [DecidablePred test] : Bool :=
  match x with
  | none => false
  | some q => decide (q ≠ 0) && decide (test q)

/-- `handler_high`. -/
def handlerHigh (handler baseHandler : Rat) : Bool := decide (handler > baseHandler * 2) || decide (handler > 300)

/-- The guards of the rules, in order. -/
def edgeGuard (k6 : K6) (handler baseHandler : Rat) (p : Phases) : Bool :=
  present p.nginxRequest (fun q => q > max (k6.baseP95 * 2) 500) &&
    present p.nginxUpstream (fun q => q ≤ max (baseHandler * 2) 250) &&
    decide (handler ≤ max (baseHandler * 2) 250)

def endpointGuard (k6 : K6) (handler : Rat) (p : Phases) : Bool :=
  nonzero p.outbound (fun q => q ≥ handler * (5 / 10)) && nonzero p.blackbox (fun q => q > max (k6.baseP95 * 2) 500)

def clientPathGuard (k6 : K6) (handler : Rat) (p : Phases) : Bool :=
  nonzero p.outbound (fun q => q ≥ handler * (7 / 10)) && nonzero p.blackbox (fun q => q ≤ max k6.baseP95 250)

/-- A wait for the database that is a large share of the handler's time. -/
def waitGuard (handler baseHandler : Rat) (wait : Option Rat) : Bool :=
  nonzero wait (fun q => q ≥ handler * (35 / 100)) && handlerHigh handler baseHandler

def postgresGuard (handler baseHandler : Rat) (p : Phases) : Bool :=
  nonzero p.postgres (fun q => q ≥ handler * (6 / 10)) && handlerHigh handler baseHandler

def redisGuard (handler baseHandler : Rat) (p : Phases) : Bool :=
  nonzero p.redis (fun q => q ≥ handler * (4 / 10)) && handlerHigh handler baseHandler &&
    !nonzero p.postgres (fun q => q ≥ handler * (6 / 10))

def outboundGuard (handler baseHandler : Rat) (p : Phases) : Bool :=
  nonzero p.outbound (fun q => q ≥ handler * (7 / 10)) && handlerHigh handler baseHandler

def isTrue : Option Datum → Bool
  | some (.bool true) => true
  | _ => false

def isTruthy (value : Option Datum) : Bool := (value.map Datum.truthy).getD false

/-- The rules from `edge_or_client_network_latency` on. -/
def attributePhases (evidence observed : Mapping) (k6 : K6) (handler baseHandler : Rat) (p : Phases) : Finding :=
  if edgeGuard k6 handler baseHandler p then edgeOrClientNetwork
  else if endpointGuard k6 handler p then externalEndpoint
  else if clientPathGuard k6 handler p then appHttpClientPath
  else if waitGuard handler baseHandler p.dbPool then postgresPoolPressure
  else if waitGuard handler baseHandler p.dbLock then postgresLockContention
  else if postgresGuard handler baseHandler p then postgresLatency
  else if isTrue (get observed "redis_unavailable") then redisUnavailable
  else if redisGuard handler baseHandler p then redisDegraded
  else if outboundGuard handler baseHandler p then externalDependency
  else if isTruthy (get evidence "partner_alias") && decide (k6.p95 > k6.baseP95 * 2) then partnerSpecific
  else if isTruthy (get evidence "route_group") && decide (k6.p95 > k6.baseP95 * 2) &&
      !handlerHigh handler baseHandler then routeSpecific
  else if handlerHigh handler baseHandler then applicationLatency
  else unspecific

/-- `normal_k6 and error_rate <= 0.01 and consistency_status == "CLEAN"`: an error rate that was not collected cannot be
compared. -/
def baselineGuard (k6 : K6) (errorRate : Option Rat) (status : ConsistencyStatus) : Except PyError Bool :=
  if k6.normal then
    match errorRate with
    | none => .error .typeError
    | some rate => .ok (decide (rate ≤ 1 / 100) && decide (status = .clean))
  else .ok false

/-- The rules from the test of the handler on. -/
def attributeHandler (evidence baseline observed : Mapping) (k6 : K6) : Finding :=
  match num observed "fastapi_handler_p95_ms", num baseline "server_handler_p95_ms" with
  | some handler, some baseHandler => attributePhases evidence observed k6 handler baseHandler (readPhases observed)
  | _, _ =>
      insufficient "missing FastAPI handler baseline or observed evidence"
        "collect server handler p95 and phase timing evidence"

/-- The rules for evidence with the percentiles of k6. -/
def attributeK6 (evidence baseline observed : Mapping) (k6 : K6) : Except PyError Finding := do
  let status := consistencyStatusFrom (get evidence "consistency")
  if ← baselineGuard k6 (num observed "error_rate") status then return baselineNormal
  return attributeHandler evidence baseline observed k6

/-- The percentiles of k6, if all four are numbers. -/
def readK6 (baseline observed : Mapping) : Option K6 := do
  return ⟨← num observed "k6_p95_ms", ← num observed "k6_p99_ms", ← num baseline "k6_p95_ms", ← num baseline "k6_p99_ms"⟩

/-- `REQUIRED_EVIDENCE_FIELDS`, sorted. -/
def requiredEvidenceFields : List String := ["baseline", "consistency", "observed", "run_id", "scenario"]

def missingFields (evidence : Mapping) : List String :=
  requiredEvidenceFields.filter fun field => (get evidence field).isNone

/-- `analyze_evidence`: the finding of its report. -/
def findingOf (evidence : Mapping) : Except PyError Finding :=
  if missingFields evidence ≠ [] then
    .ok (insufficient ("missing evidence fields: " ++ ", ".intercalate (missingFields evidence))
      "collect baseline, observed phase, and consistency evidence")
  else match get evidence "baseline", get evidence "observed" with
    | some (.obj baseline), some (.obj observed) => match readK6 baseline observed with
      | none =>
          .ok (insufficient "missing k6 or baseline percentile evidence" "collect k6 p95/p99 and baseline p95/p99")
      | some k6 => attributeK6 evidence baseline observed k6
    | _, _ =>
        .ok (insufficient "baseline and observed evidence must be objects" "regenerate structured latency evidence")

/-- `analyze_evidence`. -/
def analyzeEvidence (evidence : Mapping) : Except PyError Report := do
  return report evidence (← findingOf evidence)

end EventConsistency.LatencyAttribution
