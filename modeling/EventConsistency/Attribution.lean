import EventConsistency.Scripts.LatencyAttribution

/-!
# What a latency report says

* **`analysis_total_iff`** : for which evidence `analyze_evidence` reports at all, with the consistency of the evidence
  and a normal baseline only over counters that are zero. It fails where k6 is normal and no error rate was collected,
  and where a counter is a boolean;
* **`postgres_attribution_iff`** : for which complete measurements the report of `internal_postgres_latency` is right
  about Redis and outbound HTTP. Its rule looks at neither.
-/

namespace EventConsistency.LatencyAttribution
open Lib.Python (PyError)

/-- A counter of the evidence. -/
def counterOf (evidence : Mapping) (counter : String) : Option Datum :=
  match get evidence "consistency" with
  | some (.obj consistency) => get consistency counter
  | _ => none

/-- One of the counters is a number above zero. -/
def Violated (evidence : Mapping) : Prop :=
  ∃ counter ∈ counters, ∃ q, counterOf evidence counter = some (.num q) ∧ 0 < q

/-- All counters are zero. -/
def Clear (evidence : Mapping) : Prop := ∀ counter ∈ counters, counterOf evidence counter = some (.num 0)

/-- The evidence goes as far as the percentiles of k6. -/
structure Reads (evidence baseline observed : Mapping) (k6 : K6) : Prop where
  complete : missingFields evidence = []
  percentiles : readK6 baseline observed = some k6
  baseline : get evidence "baseline" = some (.obj baseline)
  observed : get evidence "observed" = some (.obj observed)

/-! ## Consistency -/

theorem numberIs_iff (test : Rat → Bool) (value : Option Datum) :
    Datum.numberIs test value = true ↔ ∃ q, value.bind Datum.number = some q ∧ test q = true := by
  unfold Datum.numberIs
  cases value.bind Datum.number <;> simp

theorem violationDetected_iff (evidence : Mapping) :
    consistencyStatusFrom (get evidence "consistency") = .violationDetected ↔
      ∃ counter ∈ counters, ∃ q, (counterOf evidence counter).bind Datum.number = some q ∧ 0 < q := by
  unfold consistencyStatusFrom counterOf
  cases get evidence "consistency" with
  | none => simp
  | some value =>
      cases value with
      | obj consistency =>
          have any_iff : (counters.any fun counter =>
              Datum.numberIs (fun q => decide (0 < q)) (get consistency counter)) = true ↔
                ∃ counter ∈ counters, ∃ q, (get consistency counter).bind Datum.number = some q ∧ 0 < q := by
            simp only [List.any_eq_true, numberIs_iff, decide_eq_true_eq]
          simp only [← any_iff]
          split
          · rename_i h
            simp [h]
          · rename_i h
            simp only [h]
            split <;> simp
      | _ => simp

theorem clean_iff (evidence : Mapping) :
    consistencyStatusFrom (get evidence "consistency") = .clean ↔
      ∀ counter ∈ counters, (counterOf evidence counter).bind Datum.number = some 0 := by
  unfold consistencyStatusFrom counterOf
  have some_counter : "duplicate_ledger_count" ∈ counters := by decide
  cases get evidence "consistency" with
  | none => simpa using ⟨_, some_counter⟩
  | some value =>
      cases value with
      | obj consistency =>
          have all_iff : (counters.all fun counter =>
              Datum.numberIs (fun q => q == 0) (get consistency counter)) = true ↔
                ∀ counter ∈ counters, (get consistency counter).bind Datum.number = some 0 := by
            simp only [List.all_eq_true, numberIs_iff, beq_iff_eq, exists_eq_right]
          simp only [← all_iff]
          split
          · rename_i positive
            obtain ⟨counter, listed, above⟩ := List.any_eq_true.mp positive
            obtain ⟨q, number, above⟩ := (numberIs_iff _ _).mp above
            have not_all : ¬∀ counter ∈ counters, (get consistency counter).bind Datum.number = some 0 := by
              intro zero
              have same : some q = some 0 := by rw [← number, zero counter listed]
              have := Option.some.inj same
              simp [this] at above
            simp only [all_iff, not_all, iff_false]
            simp
          · split <;> simp_all
      | _ => simpa using ⟨_, some_counter⟩

/-! ## Findings -/

/-- Normal percentiles of k6 with an error rate that is low. -/
def Normal (evidence : Mapping) : Prop :=
  ∃ baseline observed k6, Reads evidence baseline observed k6 ∧ k6.normal = true ∧
    ∃ rate, num observed "error_rate" = some rate ∧ rate ≤ 1 / 100

/-- Normal percentiles of k6 without an error rate: `error_rate <= 0.01` compares `None`. -/
def Unguarded (evidence : Mapping) : Prop :=
  ∃ baseline observed k6, Reads evidence baseline observed k6 ∧ k6.normal = true ∧ num observed "error_rate" = none

theorem Reads.unique {evidence b b' o o' : Mapping} {k k' : K6} (h : Reads evidence b o k) (h' : Reads evidence b' o' k') :
    b = b' ∧ o = o' ∧ k = k' := by
  have same_baseline : b = b' := by simpa [h.baseline] using h'.baseline
  have same_observed : o = o' := by simpa [h.observed] using h'.observed
  have same_k6 : k = k' := by simpa [← same_baseline, ← same_observed, h.percentiles] using h'.percentiles
  exact ⟨same_baseline, same_observed, same_k6⟩

/-- Evidence that does not reach the percentiles of k6 is insufficient; other evidence goes through the rules. -/
theorem findingOf_cases (evidence : Mapping) :
    ((¬∃ baseline observed k6, Reads evidence baseline observed k6) ∧
        ∃ line check, findingOf evidence = .ok (insufficient line check)) ∨
      ∃ baseline observed k6, Reads evidence baseline observed k6 ∧
        findingOf evidence = attributeK6 evidence baseline observed k6 := by
  unfold findingOf
  split
  · rename_i missing
    refine .inl ⟨?_, _, _, rfl⟩
    rintro ⟨_, _, _, reads⟩
    exact missing reads.complete
  · rename_i complete
    split
    · rename_i baseline observed hb ho
      split
      · rename_i unread
        refine .inl ⟨?_, _, _, rfl⟩
        rintro ⟨b, o, k6, reads⟩
        have same_baseline : baseline = b := by simpa [hb] using reads.baseline
        have same_observed : observed = o := by simpa [ho] using reads.observed
        subst same_baseline same_observed
        exact absurd reads.percentiles (by simp [unread])
      · rename_i k6 read
        exact .inr ⟨baseline, observed, k6, ⟨by simpa using complete, read, hb, ho⟩, rfl⟩
    · rename_i not_objects
      refine .inl ⟨?_, _, _, rfl⟩
      rintro ⟨b, o, k6, reads⟩
      exact not_objects b o reads.baseline reads.observed

theorem attributePhases_ne_baseline (evidence observed : Mapping) (k6 : K6) (handler baseHandler : Rat) (p : Phases) :
    (attributePhases evidence observed k6 handler baseHandler p).classification ≠ .baselineNormalLatency := by
  unfold attributePhases
  iterate 12
    refine iteInduction (motive := fun f : Finding => f.classification ≠ .baselineNormalLatency) (fun _ => by decide)
      (fun _ => ?_)
  decide

theorem attributeHandler_ne_baseline (evidence baseline observed : Mapping) (k6 : K6) :
    (attributeHandler evidence baseline observed k6).classification ≠ .baselineNormalLatency := by
  unfold attributeHandler
  split
  · exact attributePhases_ne_baseline _ _ _ _ _ _
  · simp [insufficient]

/-- The rules stop where `None` would be compared, and find a normal baseline over clean counters only. -/
theorem attributeK6_spec (evidence baseline observed : Mapping) (k6 : K6) :
    (k6.normal = true ∧ num observed "error_rate" = none ∧
        attributeK6 evidence baseline observed k6 = .error .typeError) ∨
      (¬(k6.normal = true ∧ num observed "error_rate" = none) ∧
        ∃ finding, attributeK6 evidence baseline observed k6 = .ok finding ∧
          (finding.classification = .baselineNormalLatency ↔
            (k6.normal = true ∧ ∃ rate, num observed "error_rate" = some rate ∧ rate ≤ 1 / 100) ∧
              consistencyStatusFrom (get evidence "consistency") = .clean)) := by
  have other := attributeHandler_ne_baseline evidence baseline observed k6
  unfold attributeK6 baselineGuard
  by_cases normal : k6.normal = true
  · cases collected : num observed "error_rate" with
    | none => exact .inl ⟨normal, rfl, by simp [normal]; rfl⟩
    | some rate =>
        by_cases low : rate ≤ 1 / 100 ∧ consistencyStatusFrom (get evidence "consistency") = .clean
        · refine .inr ⟨by simp, baselineNormal, ?_, ?_⟩
          · simp only [normal, if_true, decide_eq_true low.1, decide_eq_true low.2]; rfl
          · simpa only [baselineNormal, normal, low.2, Option.some.injEq, exists_eq_left', true_and, and_true, true_iff]
              using low.1
        · have refused : (decide (rate ≤ 1 / 100) &&
              decide (consistencyStatusFrom (get evidence "consistency") = .clean)) = false := by
            simpa [← Bool.decide_and] using low
          refine .inr ⟨by simp, attributeHandler evidence baseline observed k6, ?_, ?_⟩
          · simp only [normal, if_true, refused]; rfl
          · simp only [other, false_iff]
            rintro ⟨⟨-, q, same, small⟩, clean⟩
            exact low ⟨Option.some.inj same ▸ small, clean⟩
  · refine .inr ⟨by simp [normal], attributeHandler evidence baseline observed k6, ?_, ?_⟩
    · simp only [normal]; rfl
    · simp [other, normal]

theorem findingOf_spec (evidence : Mapping) :
    (Unguarded evidence ∧ findingOf evidence = .error .typeError) ∨
      (¬Unguarded evidence ∧ ∃ finding, findingOf evidence = .ok finding ∧
        (finding.classification = .baselineNormalLatency ↔
          Normal evidence ∧ consistencyStatusFrom (get evidence "consistency") = .clean)) := by
  rcases findingOf_cases evidence with ⟨unread, line, check, found⟩ | ⟨baseline, observed, k6, reads, found⟩
  · refine .inr ⟨?_, _, found, ?_⟩
    · rintro ⟨b, o, k, h, -⟩
      exact unread ⟨b, o, k, h⟩
    · have not_normal : ¬Normal evidence := by
        rintro ⟨b, o, k, h, -⟩
        exact unread ⟨b, o, k, h⟩
      simp [insufficient, not_normal]
  · have unguarded_iff : Unguarded evidence ↔ k6.normal = true ∧ num observed "error_rate" = none := by
      constructor
      · rintro ⟨b, o, k, h, rest⟩
        obtain ⟨-, rfl, rfl⟩ := h.unique reads
        exact rest
      · intro rest
        exact ⟨baseline, observed, k6, reads, rest⟩
    have normal_iff : Normal evidence ↔
        k6.normal = true ∧ ∃ rate, num observed "error_rate" = some rate ∧ rate ≤ 1 / 100 := by
      constructor
      · rintro ⟨b, o, k, h, rest⟩
        obtain ⟨-, rfl, rfl⟩ := h.unique reads
        exact rest
      · intro rest
        exact ⟨baseline, observed, k6, reads, rest⟩
    rw [unguarded_iff, normal_iff, found, and_assoc]
    exact attributeK6_spec evidence baseline observed k6

/-! ## Totality -/

/-- A report on any evidence: a listed classification, a violation exactly for a counter above zero, and a normal
baseline only where all counters are zero. -/
def Total (evidence : Mapping) : Prop :=
  ∃ report, analyzeEvidence evidence = .ok report ∧
    report.finding.classification.label ∈ classifications ∧
    (report.consistencyStatus = .violationDetected ↔ Violated evidence) ∧
    (report.finding.classification = .baselineNormalLatency → Clear evidence)

/-- A boolean is taken for a violation. -/
def TrueCounter (evidence : Mapping) : Prop :=
  (∃ counter ∈ counters, counterOf evidence counter = some (.bool true)) ∧ ¬Violated evidence

/-- A boolean is taken for a zero. -/
def FalseCounter (evidence : Mapping) : Prop :=
  Normal evidence ∧
    (∀ counter ∈ counters,
      counterOf evidence counter = some (.num 0) ∨ counterOf evidence counter = some (.bool false)) ∧
    ¬Clear evidence

theorem Classification.label_mem (c : Classification) : c.label ∈ classifications := by
  cases c <;> decide

theorem Datum.number_eq_some {value : Option Datum} {q : Rat} :
    value.bind Datum.number = some q ↔
      value = some (.num q) ∨ (value = some (.bool true) ∧ q = 1) ∨ (value = some (.bool false) ∧ q = 0) := by
  cases value with
  | none => simp
  | some value =>
      cases value with
      | bool b => cases b <;> simp [Datum.number, eq_comm]
      | _ => simp [Datum.number]

theorem detected_iff (evidence : Mapping) :
    consistencyStatusFrom (get evidence "consistency") = .violationDetected ↔
      Violated evidence ∨ ∃ counter ∈ counters, counterOf evidence counter = some (.bool true) := by
  rw [violationDetected_iff]
  constructor
  · rintro ⟨counter, listed, q, number, positive⟩
    rcases Datum.number_eq_some.mp number with h | ⟨h, -⟩ | ⟨-, rfl⟩
    · exact .inl ⟨counter, listed, q, h, positive⟩
    · exact .inr ⟨counter, listed, h⟩
    · exact absurd positive (lt_irrefl 0)
  · rintro (⟨counter, listed, q, h, positive⟩ | ⟨counter, listed, h⟩)
    · exact ⟨counter, listed, q, Datum.number_eq_some.mpr (.inl h), positive⟩
    · exact ⟨counter, listed, 1, Datum.number_eq_some.mpr (.inr (.inl ⟨h, rfl⟩)), one_pos⟩

theorem cleared_iff (evidence : Mapping) :
    consistencyStatusFrom (get evidence "consistency") = .clean ↔ ∀ counter ∈ counters,
      counterOf evidence counter = some (.num 0) ∨ counterOf evidence counter = some (.bool false) := by
  rw [clean_iff]
  refine forall₂_congr fun counter _ => ?_
  rw [Datum.number_eq_some]
  simp

theorem analyzeEvidence_eq_ok {evidence : Mapping} {finding : Finding} (found : findingOf evidence = .ok finding) :
    analyzeEvidence evidence = .ok (report evidence finding) := by
  simp only [analyzeEvidence, found]
  rfl

theorem analyzeEvidence_eq_error {evidence : Mapping} {error : PyError} (raised : findingOf evidence = .error error) :
    analyzeEvidence evidence = .error error := by
  simp only [analyzeEvidence, raised]
  rfl

theorem analysis_total_iff (evidence : Mapping) :
    Total evidence ↔ ¬Unguarded evidence ∧ ¬TrueCounter evidence ∧ ¬FalseCounter evidence := by
  rcases findingOf_spec evidence with ⟨unguarded, raised⟩ | ⟨guarded, finding, found, baseline_iff⟩
  · have raises := analyzeEvidence_eq_error raised
    simp [Total, raises, unguarded]
  · have reports := analyzeEvidence_eq_ok found
    have listed := finding.classification.label_mem
    have status : (report evidence finding).consistencyStatus = .violationDetected ↔
        Violated evidence ∨ ∃ counter ∈ counters, counterOf evidence counter = some (.bool true) :=
      detected_iff evidence
    have normal : finding.classification = .baselineNormalLatency ↔ Normal evidence ∧ ∀ counter ∈ counters,
        counterOf evidence counter = some (.num 0) ∨ counterOf evidence counter = some (.bool false) := by
      rw [baseline_iff, cleared_iff]
    constructor
    · rintro ⟨_, same, -, violated, cleared⟩
      obtain rfl := Except.ok.inj (reports.symm.trans same)
      refine ⟨guarded, ?_, ?_⟩
      · rintro ⟨set, unviolated⟩
        exact unviolated (violated.mp (status.mpr (.inr set)))
      · rintro ⟨normal', zeros, uncleared⟩
        exact uncleared (cleared (normal.mpr ⟨normal', zeros⟩))
    · rintro ⟨-, no_true, no_false⟩
      refine ⟨_, reports, listed, ?_, ?_⟩
      · rw [status]
        constructor
        · rintro (violated | set)
          · exact violated
          · by_contra unviolated
            exact no_true ⟨set, unviolated⟩
        · exact .inl
      · intro baseline
        obtain ⟨normal', zeros⟩ := normal.mp baseline
        by_contra uncleared
        exact no_false ⟨normal', zeros, uncleared⟩

/-- k6 is normal and nothing else was observed. -/
def uncountedErrors : Mapping := [
  ("baseline", .obj [("k6_p95_ms", .num 100), ("k6_p99_ms", .num 150)]),
  ("consistency", .obj (counters.map fun counter => (counter, .num 0))),
  ("observed", .obj [("k6_p95_ms", .num 120), ("k6_p99_ms", .num 160)]),
  ("run_id", .str "ph10"),
  ("scenario", .str "baseline")]

theorem missing_error_rate_raises : analyzeEvidence uncountedErrors = .error .typeError ∧ ¬Total uncountedErrors := by
  have raises : analyzeEvidence uncountedErrors = .error .typeError :=
    analyzeEvidence_eq_error (by decide +kernel)
  refine ⟨raises, ?_⟩
  simp [Total, raises]

/-! ## The PostgreSQL attribution -/

/-- Every measurement of the evidence. -/
structure Measurements where
  k6 : K6
  errorRate : Rat
  handler : Rat
  baseHandler : Rat
  nginxRequest : Rat
  nginxUpstream : Rat
  postgres : Rat
  dbPool : Rat
  dbLock : Rat
  redis : Rat
  outbound : Rat
  blackbox : Rat

/-- The phases of complete measurements. -/
def Measurements.phases (m : Measurements) : Phases where
  nginxRequest := some m.nginxRequest
  nginxUpstream := some m.nginxUpstream
  postgres := some m.postgres
  dbPool := some m.dbPool
  dbLock := some m.dbLock
  redis := some m.redis
  outbound := some m.outbound
  blackbox := some m.blackbox

/-- The evidence has all measurements. -/
def Measured (evidence : Mapping) (m : Measurements) : Prop :=
  ∃ baseline observed, Reads evidence baseline observed m.k6 ∧
    num observed "error_rate" = some m.errorRate ∧
    num observed "fastapi_handler_p95_ms" = some m.handler ∧
    num baseline "server_handler_p95_ms" = some m.baseHandler ∧
    readPhases observed = m.phases

/-- The evidence comes as far as the rule for PostgreSQL, and the rule applies. -/
structure PostgresReached (evidence : Mapping) (m : Measurements) : Prop where
  baseline : ¬(m.k6.normal = true ∧ m.errorRate ≤ 1 / 100 ∧
    consistencyStatusFrom (get evidence "consistency") = .clean)
  edge : edgeGuard m.k6 m.handler m.baseHandler m.phases = false
  endpoint : endpointGuard m.k6 m.handler m.phases = false
  clientPath : clientPathGuard m.k6 m.handler m.phases = false
  dbPool : waitGuard m.handler m.baseHandler m.phases.dbPool = false
  dbLock : waitGuard m.handler m.baseHandler m.phases.dbLock = false
  postgres : postgresGuard m.handler m.baseHandler m.phases = true

/-- What the report of `internal_postgres_latency` states. -/
def Truthful (evidence : Mapping) (m : Measurements) : Prop :=
  ∀ report, analyzeEvidence evidence = .ok report → report.finding.classification = .internalPostgresLatency →
    m.redis < m.handler * (4 / 10) ∧ m.outbound < m.handler * (7 / 10)

theorem classification_skip {c : Bool} {f g : Finding} {k : Classification} (other : f.classification ≠ k) :
    (if c = true then f else g).classification = k ↔ c = false ∧ g.classification = k := by
  cases c <;> simp [other]

theorem classification_stop {c : Bool} {f g : Finding} {k : Classification} (found : f.classification = k)
    (other : g.classification ≠ k) : (if c = true then f else g).classification = k ↔ c = true := by
  cases c <;> simp [found, other]

theorem attributePhases_postgres_iff (evidence observed : Mapping) (k6 : K6) (handler baseHandler : Rat) (p : Phases) :
    (attributePhases evidence observed k6 handler baseHandler p).classification = .internalPostgresLatency ↔
      edgeGuard k6 handler baseHandler p = false ∧ endpointGuard k6 handler p = false ∧
        clientPathGuard k6 handler p = false ∧ waitGuard handler baseHandler p.dbPool = false ∧
        waitGuard handler baseHandler p.dbLock = false ∧ postgresGuard handler baseHandler p = true := by
  unfold attributePhases
  iterate 5 rw [classification_skip (by decide)]
  rw [classification_stop (by decide)]
  -- the rules after it find something else
  iterate 6
    refine iteInduction (motive := fun f : Finding => f.classification ≠ .internalPostgresLatency) (fun _ => by decide)
      (fun _ => ?_)
  decide

theorem findingOf_measured {evidence baseline observed : Mapping} {k6 : K6} (reads : Reads evidence baseline observed k6) :
    findingOf evidence = attributeK6 evidence baseline observed k6 := by
  rcases findingOf_cases evidence with ⟨unread, -⟩ | ⟨b, o, k, h, found⟩
  · exact absurd ⟨baseline, observed, k6, reads⟩ unread
  · obtain ⟨rfl, rfl, rfl⟩ := h.unique reads
    exact found

/-- The guards decide the classification of complete measurements. -/
theorem findingOf_postgres {evidence : Mapping} {m : Measurements} (measured : Measured evidence m) :
    ∃ finding, findingOf evidence = .ok finding ∧
      (finding.classification = .internalPostgresLatency ↔ PostgresReached evidence m) := by
  obtain ⟨baseline, observed, reads, rate, handler, baseHandler, phases⟩ := measured
  have attributed : attributeHandler evidence baseline observed m.k6 =
      attributePhases evidence observed m.k6 m.handler m.baseHandler m.phases := by
    simp only [attributeHandler, handler, baseHandler, phases]
  rw [findingOf_measured reads]
  unfold attributeK6 baselineGuard
  by_cases normal : m.k6.normal = true ∧ m.errorRate ≤ 1 / 100 ∧
      consistencyStatusFrom (get evidence "consistency") = .clean
  · refine ⟨baselineNormal, ?_, ?_⟩
    · simp only [rate, normal.1, if_true, decide_eq_true normal.2.1, decide_eq_true normal.2.2]; rfl
    · have other : baselineNormal.classification ≠ .internalPostgresLatency := by decide
      simp only [other, false_iff]
      intro reached
      exact reached.baseline normal
  · refine ⟨attributePhases evidence observed m.k6 m.handler m.baseHandler m.phases, ?_, ?_⟩
    · rw [← attributed, rate]
      by_cases usual : m.k6.normal = true
      · have refused : (decide (m.errorRate ≤ 1 / 100) &&
            decide (consistencyStatusFrom (get evidence "consistency") = .clean)) = false := by
          rw [← Bool.decide_and, decide_eq_false_iff_not]
          intro low
          exact normal ⟨usual, low⟩
        simp only [usual, if_true, refused]; rfl
      · simp only [usual]; rfl
    · rw [attributePhases_postgres_iff]
      constructor
      · rintro ⟨edge, endpoint, clientPath, dbPool, dbLock, postgres⟩
        exact ⟨normal, edge, endpoint, clientPath, dbPool, dbLock, postgres⟩
      · intro reached
        exact ⟨reached.edge, reached.endpoint, reached.clientPath, reached.dbPool, reached.dbLock, reached.postgres⟩

theorem postgres_attribution_iff (evidence : Mapping) (m : Measurements) (measured : Measured evidence m) :
    Truthful evidence m ↔
      ¬(PostgresReached evidence m ∧ (m.handler * (4 / 10) ≤ m.redis ∨ m.handler * (7 / 10) ≤ m.outbound)) := by
  obtain ⟨finding, found, postgres_iff⟩ := findingOf_postgres measured
  have reports := analyzeEvidence_eq_ok found
  constructor
  · rintro truthful ⟨reached, dominant⟩
    obtain ⟨redis, outbound⟩ := truthful _ reports (postgres_iff.mpr reached)
    rcases dominant with dominant | dominant
    · exact absurd redis (not_lt.mpr dominant)
    · exact absurd outbound (not_lt.mpr dominant)
  · intro silent report same postgres
    obtain rfl := Except.ok.inj (reports.symm.trans same)
    have reached := postgres_iff.mp postgres
    refine ⟨?_, ?_⟩
    · by_contra redis
      exact silent ⟨reached, .inl (not_lt.mp redis)⟩
    · by_contra outbound
      exact silent ⟨reached, .inr (not_lt.mp outbound)⟩

/-- The measurements of a slow handler, but for Redis. -/
def slowHandler (redis : Rat) : Measurements where
  k6 := ⟨900, 1200, 100, 150⟩
  errorRate := 1 / 100
  handler := 600
  baseHandler := 80
  nginxRequest := 620
  nginxUpstream := 610
  postgres := 390
  dbPool := 0
  dbLock := 0
  redis := redis
  outbound := 0
  blackbox := 0

def Measurements.evidence (m : Measurements) : Mapping := [
  ("baseline", .obj [
    ("k6_p95_ms", .num m.k6.baseP95), ("k6_p99_ms", .num m.k6.baseP99), ("server_handler_p95_ms", .num m.baseHandler)]),
  ("consistency", .obj (counters.map fun counter => (counter, .num 0))),
  ("observed", .obj [
    ("k6_p95_ms", .num m.k6.p95), ("k6_p99_ms", .num m.k6.p99), ("fastapi_handler_p95_ms", .num m.handler),
    ("nginx_request_p95_ms", .num m.nginxRequest), ("nginx_upstream_p95_ms", .num m.nginxUpstream),
    ("postgres_phase_p95_ms", .num m.postgres), ("db_pool_wait_p95_ms", .num m.dbPool),
    ("db_lock_wait_p95_ms", .num m.dbLock), ("redis_phase_p95_ms", .num m.redis),
    ("outbound_http_p95_ms", .num m.outbound), ("blackbox_probe_p95_ms", .num m.blackbox),
    ("error_rate", .num m.errorRate)]),
  ("run_id", .str "ph10"),
  ("scenario", .str "postgres")]

theorem measured_evidence (m : Measurements) : Measured m.evidence m :=
  ⟨_, _, ⟨rfl, rfl, rfl, rfl⟩, rfl, rfl, rfl, rfl⟩

theorem slow_postgres_attribution : Truthful (slowHandler 30).evidence (slowHandler 30) := by
  refine (postgres_attribution_iff _ _ (measured_evidence _)).mpr ?_
  rintro ⟨-, redis | outbound⟩
  · norm_num [slowHandler] at redis
  · norm_num [slowHandler] at outbound

/-- Redis takes half of the handler's time. -/
theorem redis_dominates_unseen :
    Measured (slowHandler 300).evidence (slowHandler 300) ∧ ¬Truthful (slowHandler 300).evidence (slowHandler 300) := by
  refine ⟨measured_evidence _, ?_⟩
  intro truthful
  have found : findingOf (slowHandler 300).evidence = .ok postgresLatency := by decide +kernel
  have below := (truthful _ (analyzeEvidence_eq_ok found) rfl).1
  norm_num [slowHandler] at below

end EventConsistency.LatencyAttribution
