import EventConsistency.FailClosed
import EventConsistency.Scripts.IncidentAnalyzer

/-!
# Consistency evidence in the incident pipeline

`createArtifact` takes the duplicate counts out of a PH1 report and `selectRule` looks for them, but between the two
`sanitizePayload` drops every key that is not in `allowedKeys`, and no count is. `evidence_never_survives` : whatever the
report says, the analysis of an artifact is not `CONSISTENCY_ISSUE_CANDIDATE`.

* `consistencySummary_cases` : what the summary of a report can be, once it is sanitized;
* `loads_summary` : what is read back of its file;
* `hasConsistencyIssue_of_absent` : the rule needs one of its keys.
-/

namespace EventConsistency
open Lib.Python IncidentArtifact IncidentAnalyzer

/-- The artifact of `args` is created and its analysis is `CONSISTENCY_ISSUE_CANDIDATE` with severity `SEV1`. -/
def EvidenceSurvives (rt rt' : Runtime) (host : Host) (args : CreateArguments)
    (validated : IncidentDir → Except PyError (List Text)) : Prop :=
  ∃ dir analysis, createArtifact rt host args = .ok dir ∧ analyzeIncident rt' (validated dir) dir = .ok analysis ∧
    analysis.rule.classification = .consistencyIssueCandidate ∧ analysis.rule.severity = .sev1

/-! ## What sanitizing drops -/

theorem sanitizePairs_append (rt : Runtime) (items others : List (Text × Value)) :
    sanitizePairs rt (items ++ others) = sanitizePairs rt items ++ sanitizePairs rt others := by
  induction items with
  | nil => rfl
  | cons kv items ih =>
      simp only [List.cons_append, sanitizePairs, ih]
      split <;> rfl

/-- An assignment to a key that is not kept leaves no trace. -/
theorem sanitizePairs_dictSet (rt : Runtime) {k : Text} (hk : keeps k = false) (items : List (Text × Value)) (v : Value) :
    sanitizePairs rt (dictSet items k v) = sanitizePairs rt items := by
  unfold dictSet
  split
  · clear * - hk
    induction items with
    | nil => rfl
    | cons kv items ih =>
        rw [List.map_cons, sanitizePairs, sanitizePairs, ih]
        by_cases h : kv.1 = k
        · simp [h, hk]
        · simp [h]
  · rw [sanitizePairs_append]
    simp [sanitizePairs, hk]

theorem any_sanitizePairs (rt : Runtime) {k : Text} (hk : keeps k = true) (items : List (Text × Value)) :
    ((sanitizePairs rt items).any fun kv => kv.1 == k) = items.any fun kv => kv.1 == k := by
  induction items with
  | nil => rfl
  | cons kv items ih =>
      obtain ⟨k', v⟩ := kv
      rw [sanitizePairs, List.any_cons]
      by_cases h : keeps k' = true
      · simp [h, sanitizePair, ih]
      · have hne : k' ≠ k := by
          rintro rfl
          exact h hk
        simp [h, hne, ih]

/-- An assignment to a key that is kept is sanitized with the rest. -/
theorem sanitizePairs_dictSet_kept (rt : Runtime) {k : Text} (hk : keeps k = true) (items : List (Text × Value))
    (v : Value) :
    sanitizePairs rt (dictSet items k v) = dictSet (sanitizePairs rt items) k (sanitizePayload rt v) := by
  simp only [dictSet, any_sanitizePairs rt hk]
  split
  · clear * - hk
    induction items with
    | nil => rfl
    | cons kv items ih =>
        obtain ⟨k', v'⟩ := kv
        rw [List.map_cons, sanitizePairs, sanitizePairs, ih]
        by_cases h : k' = k
        · simp [h, hk, sanitizePair]
        · by_cases hkeep : keeps k' = true <;> simp [h, hkeep, sanitizePair]
  · rw [sanitizePairs_append]
    simp [sanitizePairs, hk, sanitizePair]

theorem not_keeps {k : Text} (h : allowedKeys.contains k = false) : keeps k = false := by
  rw [keeps, h, Bool.and_false]

/-! ## The summary of a report -/

theorem sanitizePairs_addCount (rt : Runtime) {report : Text} {summary summary' : List (Text × Value)} {key : String}
    (hk : keeps (text key) = false) (h : addCount rt report summary key = .ok summary') :
    sanitizePairs rt summary' = sanitizePairs rt summary := by
  unfold addCount at h
  split at h
  · cases h
    rfl
  · rename_i digits _
    cases hd : intOfDigits rt digits with
    | error e =>
        rw [hd] at h
        cases h
    | ok n =>
        rw [hd] at h
        cases h
        exact sanitizePairs_dictSet rt hk summary _

theorem sanitizePairs_foldlM (rt : Runtime) {report : Text} {keys : List String}
    (hk : ∀ key ∈ keys, keeps (text key) = false) {summary summary' : List (Text × Value)}
    (h : keys.foldlM (addCount rt report) summary = .ok summary') :
    sanitizePairs rt summary' = sanitizePairs rt summary := by
  induction keys generalizing summary with
  | nil =>
      cases h
      rfl
  | cons key keys ih =>
      rw [List.foldlM_cons] at h
      cases hc : addCount rt report summary key with
      | error e =>
          rw [hc] at h
          cases h
      | ok next =>
          rw [hc] at h
          rw [ih (fun key' hk' => hk key' (List.mem_cons_of_mem _ hk')) h]
          exact sanitizePairs_addCount rt (hk key List.mem_cons_self) hc

/-- None of the keys of the loop is kept, nor is `retry_after_present`. -/
theorem keeps_counts : ∀ key ∈ ["duplicate_event_count", "duplicate_ledger_count",
    "blocked_event_record_count_after_replay", "blocked_ledger_count_after_replay", "retry_after_present"],
    keeps (text key) = false := by
  intro key hk
  apply not_keeps
  revert key
  decide +kernel

theorem keeps_result : keeps (text "result") = true := by decide +kernel

theorem keeps_count : keeps (text "count") = true := by decide +kernel

theorem keeps_sensitive_data_included : keeps (text "sensitive_data_included") = true := by decide +kernel

/-- A text that goes through `sanitize_payload`. -/
def Passed (s t : String) : Prop := t = s ∨ t = "[REDACTED]"

theorem sanitizePayload_text (rt : Runtime) (s : String) :
    ∃ t, Passed s t ∧ sanitizePayload rt (.str (text s)) = .str (text t) := by
  unfold sanitizePayload
  split
  · exact ⟨"[REDACTED]", .inr rfl, rfl⟩
  · exact ⟨s, .inl rfl, rfl⟩

/-- The summary of a report that was found. -/
def capturedSummary (result count : String) : Value := .dict [
  (text "result", .str (text result)),
  (text "count", .str (text count)),
  (text "sensitive_data_included", .bool false)]

/-- Whatever a report says, one of these is left of it. -/
inductive Summary : Value → Prop
  | notGiven : Summary (.dict emptySummary)
  | notFound : Summary (.dict (dictSet emptySummary (text "result") (.str (text "ph1_report_not_found"))))
  | captured {result count : String} (hr : Passed "captured" result) (hc : Passed "not_collected" count) :
      Summary (capturedSummary result count)

theorem sanitizePairs_emptySummary (rt : Runtime) : ∃ result count, Passed "not_collected" count ∧
    sanitizePairs rt emptySummary = [(text "result", result), (text "count", .str (text count)),
      (text "sensitive_data_included", .bool false)] := by
  obtain ⟨count, hc, hs⟩ := sanitizePayload_text rt "not_collected"
  refine ⟨.str (text count), count, hc, ?_⟩
  have dropped := keeps_counts "retry_after_present" (by simp)
  simp only [emptySummary, sanitizePairs, keeps_result, keeps_count, keeps_sensitive_data_included, dropped, sanitizePair,
    notCollected, hs]
  simp [sanitizePayload]

theorem consistencySummary_cases (rt : Runtime) {ph1 : Ph1Report} {v : Value} (h : consistencySummary rt ph1 = .ok v) :
    Summary v := by
  cases ph1 with
  | notGiven =>
      cases h
      exact .notGiven
  | notFound =>
      cases h
      exact .notFound
  | report report =>
      obtain ⟨counted, hf, hs⟩ := (bind_eq_ok_iff _ _ _).mp h
      obtain ⟨-, rfl⟩ := (sanitize_eq_ok_iff rt _ _).mp hs
      have loop_drops := sanitizePairs_foldlM rt (fun key hk => keeps_counts key (by simp at hk ⊢; tauto)) hf
      have dropped := keeps_counts "retry_after_present" (by simp)
      obtain ⟨result, hr, hresult⟩ := sanitizePayload_text rt "captured"
      obtain ⟨before, count, hc, hempty⟩ := sanitizePairs_emptySummary rt
      rw [sanitizePayload, sanitizePairs_dictSet_kept rt keeps_result, sanitizePairs_dictSet rt dropped, loop_drops,
        hempty, hresult]
      exact .captured hr hc

/-! ## Its file -/

def summaryKeys : List Text := ["count", "result", "retry_after_present", "sensitive_data_included"].map text

def OnlyKeys (keys : List Text) (items : List (Text × Value)) : Prop := ∀ kv ∈ items, kv.1 ∈ keys

/-- An object without other keys was read. -/
def readsOnlyKeys (keys : List Text) : Except PyError Value → Bool
  | .ok (.dict items) => items.all fun kv => keys.contains kv.1
  | _ => false

theorem dictGet_eq_none {keys : List Text} {items : List (Text × Value)} (h : OnlyKeys keys items) {key : String}
    (hk : text key ∉ keys) : dictGet items key = none := by
  induction items with
  | nil => rfl
  | cons kv items ih =>
      have hne : kv.1 ≠ text key := by
        intro he
        exact hk (he ▸ h kv List.mem_cons_self)
      rw [dictGet_cons, if_neg hne]
      exact ih fun kv' hkv' => h kv' (List.mem_cons_of_mem _ hkv')

theorem encode_summary (rt rt' : Runtime) {v : Value} (hv : Summary v) : encode rt 0 v = encode rt' 0 v := by
  cases hv with
  | notGiven => rfl
  | notFound => rfl
  | captured hr hc => rfl

/-- The text of a summary, as one interpreter reads it. -/
theorem readsOnlyKeys_summary {v : Value} (hv : Summary v) :
    readsOnlyKeys summaryKeys (loads cpython (encode cpython 0 v ++ [0x0A])) = true := by
  cases hv with
  | notGiven => decide +kernel
  | notFound => decide +kernel
  | captured hr hc =>
      obtain rfl | rfl := hr
      · obtain rfl | rfl := hc <;> decide +kernel
      · obtain rfl | rfl := hc <;> decide +kernel

/-- Every other interpreter reads the same or stops at a limit. -/
theorem loads_summary (rt rt' : Runtime) {v : Value} (hv : Summary v) :
    (∃ items, loads rt' (encode rt 0 v ++ [0x0A]) = .ok (.dict items) ∧ OnlyKeys summaryKeys items) ∨
      loads rt' (encode rt 0 v ++ [0x0A]) = .error .valueError ∨
      loads rt' (encode rt 0 v ++ [0x0A]) = .error .recursionError := by
  have hkeys := readsOnlyKeys_summary hv
  rw [encode_summary rt cpython hv]
  cases hl : loads cpython (encode cpython 0 v ++ [0x0A]) with
  | error e => simp [hl, readsOnlyKeys] at hkeys
  | ok w =>
      rw [hl] at hkeys
      cases w with
      | dict items =>
          have only : OnlyKeys summaryKeys items := by
            intro kv hkv
            simp only [readsOnlyKeys, List.all_eq_true] at hkeys
            exact List.contains_iff_mem.mp (hkeys kv hkv)
          obtain h | h | h := loads_upToLimits cpython rt' _ _ hl
          · exact .inl ⟨items, h, only⟩
          · exact .inr (.inl h)
          · exact .inr (.inr h)
      | _ => simp [readsOnlyKeys] at hkeys

/-! ## Through both scripts -/

theorem consistency_file {rt : Runtime} {host : Host} {args : CreateArguments} {dir : IncidentDir}
    (h : createArtifact rt host args = .ok dir) :
    ∃ v, Summary v ∧ dir.files.lookup (text "consistency-summary.json") = some (encode rt 0 v ++ [0x0A]) := by
  simp only [createArtifact, bind_eq_ok_iff] at h
  obtain ⟨path, -, manifest, -, stateValue, -, state, -, health, -, v, hv, file, hfile, command, -, docker, -, report, -,
    reportFile, -, hdir⟩ := h
  obtain ⟨written, hdumps, hwritten⟩ := (bind_eq_ok_iff _ _ _).mp hfile
  cases hwritten
  have hencode : written = encode rt 0 v := by
    unfold dumps at hdumps
    split at hdumps
    · cases hdumps
      rfl
    · cases hdumps
  subst hencode
  cases hdir
  exact ⟨v, consistencySummary_cases rt hv, rfl⟩

theorem readJsonOrEmpty_summary {rt rt' : Runtime} {dir : IncidentDir} {v : Value} (hv : Summary v)
    (hf : dir.files.lookup (text "consistency-summary.json") = some (encode rt 0 v ++ [0x0A]))
    {items : List (Text × Value)} (h : readJsonOrEmpty rt' dir "consistency-summary.json" = .ok items) :
    OnlyKeys summaryKeys items := by
  simp only [readJsonOrEmpty, hf] at h
  obtain ⟨items', hl, only⟩ | hl | hl := loads_summary rt rt' hv
  · rw [hl] at h
    cases h
    exact only
  · rw [hl] at h
    cases h
  · rw [hl] at h
    cases h

/-- The rule needs one of its keys. -/
theorem hasConsistencyIssue_of_absent (rt : Runtime) {consistency : List (Text × Value)} {keys : List String}
    (h : ∀ key ∈ keys, dictGet consistency key = none) : hasConsistencyIssue rt consistency keys = .ok false := by
  induction keys with
  | nil => rfl
  | cons key keys ih =>
      have absent : getOr consistency key .none = .none := by rw [getOr, h key List.mem_cons_self, Option.getD_none]
      have hint : positiveInt rt .none = .ok false := rfl
      rw [hasConsistencyIssue, absent, hint]
      exact ih fun key' hk' => h key' (List.mem_cons_of_mem _ hk')

theorem issueKeys_not_summaryKeys : ∀ key ∈ issueKeys, text key ∉ summaryKeys := by decide +kernel

theorem selectRule_ne {rt : Runtime} {context : Context} {rule : Rule} (h : selectRule rt context = .ok rule)
    (hc : hasConsistencyIssue rt context.consistency issueKeys = .ok false) :
    rule.classification ≠ .consistencyIssueCandidate := by
  unfold selectRule at h
  simp only [hc, bind, Except.bind, pure, Except.pure, Bool.false_eq_true, if_false] at h
  split at h
  · cases h
    decide
  split at h
  · cases h
    decide
  split at h
  · cases h
  split at h
  · cases h
    decide
  split at h
  · cases h
    decide
  · cases h
    decide

/-- The consistency evidence of an analysis comes from its file alone. -/
theorem analyzeIncident_rule {rt : Runtime} {validated : Except PyError (List Text)} {dir : IncidentDir}
    {analysis : Analysis} (h : analyzeIncident rt validated dir = .ok analysis) :
    ∃ context, readJsonOrEmpty rt dir "consistency-summary.json" = .ok context.consistency ∧
      selectRule rt context = .ok analysis.rule := by
  simp only [analyzeIncident, bind_eq_ok_iff] at h
  obtain ⟨manifest, -, writeState, -, healthReady, -, consistency, hc, commandResults, -, errors, -, incidentId, -, h⟩ := h
  simp only [classify, bind_eq_ok_iff] at h
  obtain ⟨rule, hrule, signals, -, h⟩ := h
  cases h
  exact ⟨_, hc, hrule⟩

theorem classification_ne {rt rt' : Runtime} {host : Host} {args : CreateArguments} {dir : IncidentDir}
    (hcreate : createArtifact rt host args = .ok dir) {validated : Except PyError (List Text)} {analysis : Analysis}
    (hanalyze : analyzeIncident rt' validated dir = .ok analysis) :
    analysis.rule.classification ≠ .consistencyIssueCandidate := by
  obtain ⟨v, hv, hfile⟩ := consistency_file hcreate
  obtain ⟨context, hread, hrule⟩ := analyzeIncident_rule hanalyze
  have only := readJsonOrEmpty_summary hv hfile hread
  refine selectRule_ne hrule (hasConsistencyIssue_of_absent rt' ?_)
  intro key hk
  exact dictGet_eq_none only (issueKeys_not_summaryKeys key hk)

/-- No evidence of duplicates survives the pipeline, whatever the report, the scenario and the state file are and whatever
`validate_artifact` finds in the directory. -/
theorem evidence_never_survives (rt rt' : Runtime) (host : Host) (args : CreateArguments)
    (validated : IncidentDir → Except PyError (List Text)) : ¬EvidenceSurvives rt rt' host args validated := by
  rintro ⟨dir, analysis, hcreate, hanalyze, hc, -⟩
  exact classification_ne hcreate hanalyze hc

/-- A report with one duplicate ledger entry, and nothing else of note. -/
def duplicateLedger : CreateArguments where
  scenario := text "DUPLICATE_LEDGER"
  runId := some (text "run-1")
  source := text "manual"
  writeSuspendState := none
  ph1 := .report (text "- duplicate_event_count: 0\n- duplicate_ledger_count: 1\n")

def quietHost : Host where
  createdAt := ⟨text "20240101-090000", text "2024-01-01T09:00:00+09:00"⟩
  mkdir := fun _ => .created
  dockerComposeStatus := text "docker_compose_status: not_collected\n"

/-- The report has a duplicate, nothing in the arguments is sensitive, and the evidence does not survive. -/
theorem duplicate_ledger_is_lost :
    searchDigits (text "- duplicate_ledger_count: ") (text "- duplicate_event_count: 0\n- duplicate_ledger_count: 1\n") =
      some (text "1") ∧
    (sensitiveText cpython).search duplicateLedger.scenario = false ∧
    (sensitiveText cpython).search (text "run-1") = false ∧
    (sensitiveText cpython).search duplicateLedger.source = false ∧
    ¬EvidenceSurvives cpython cpython quietHost duplicateLedger fun _ => .ok [] := by
  refine ⟨by decide +kernel, by decide +kernel, by decide +kernel, by decide +kernel, ?_⟩
  rintro ⟨dir, analysis, hcreate, hanalyze, hc, -⟩
  exact classification_ne hcreate hanalyze hc

end EventConsistency
