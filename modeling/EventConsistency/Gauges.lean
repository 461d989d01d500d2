import Mathlib.Data.List.Induction
import Mathlib.Logic.Function.Basic
import EventConsistency.Suspension

/-!
# The gauge of the write suspension

`_record_state_metric` of `app/services/write_suspension_service.py` and `record_write_suspend_state` of
`app/observability/metrics.py`. Each call sets one label, and no call sets back the label of another reason.

* `GaugeMatches` : the gauge is 1 for the label of the current suspension and 0 elsewhere;
* `SuspensionCall.Tracks` : the call leaves no label behind, and what it could not write is not seen;
  `matches_step_iff` : which calls keep the gauge;
* **`gauge_matches_iff`** : a run keeps it after every call where all its calls do.
-/

namespace EventConsistency

open WriteSuspensionService

/-! ## The metric -/

/-- `ACTIVE_REASON_LABELS`. -/
def activeReasonLabels : List String := ["postgres_unavailable", "manual", "unknown"]

/-- `WRITE_SUSPEND_REASONS`. -/
def writeSuspendReasons : List String := ["postgres_unavailable", "manual", "none", "unknown"]

/-- `normalize_label`. -/
def normalizeLabel (value : String) (allowed : List String) : String := if value ∈ allowed then value else "unknown"

/-- `financial_write_suspend_state`, with a value for every label. -/
abbrev SuspendGauge : Type := String → Nat

/-- `record_write_suspend_state`. -/
def recordWriteSuspendState (gauge : SuspendGauge) (reason : String) (active : Bool) : SuspendGauge :=
  Function.update gauge (normalizeLabel reason writeSuspendReasons) (if active then 1 else 0)

/-- `_record_state_metric`. -/
def recordStateMetric (gauge : SuspendGauge) (state : WriteSuspendState) : SuspendGauge :=
  let reason :=
    if state.reason ∈ activeReasonLabels then state.reason
    else if state.active then "unknown"
    else "none"
  recordWriteSuspendState gauge reason state.active

/-- What a call that writes records: nothing, if the write raises. -/
def recordWritten (gauge : SuspendGauge) : Except ArtifactFault WriteSuspendState → SuspendGauge
  | .ok state => recordStateMetric gauge state
  | .error _ => gauge

/-- The gauge after the call. -/
def SuspensionCall.record (svc : WriteSuspensionService) (gauge : SuspendGauge) : SuspensionCall → SuspendGauge
  | enable arguments now uuid fault => recordWritten gauge (svc.tryEnable arguments now uuid fault).1
  | disable now reason resumedBy fault =>
      recordWritten (recordStateMetric gauge svc.status) (svc.disable now reason resumedBy fault).1
  | status => recordStateMetric gauge svc.status
  | guardFinancialWrite reachable now uuid fault =>
      let gauge := recordStateMetric gauge svc.status
      if svc.status.active || reachable then gauge
      else recordWritten gauge
        (svc.afterStatus.tryEnable ⟨"postgres_unavailable", "api", "postgres_probe", none, none⟩ now uuid fault).1

/-- A service with the gauge of its process. -/
structure Observed where
  service : WriteSuspensionService
  gauge : SuspendGauge

namespace Observed

/-- Before the first call, without a state file. -/
def start (retryAfterSeconds : Int) : Observed := ⟨.new retryAfterSeconds none, fun _ => 0⟩

def step (o : Observed) (call : SuspensionCall) : Observed := ⟨call.run o.service, call.record o.service o.gauge⟩

def after (retryAfterSeconds : Int) (calls : List SuspensionCall) : Observed :=
  calls.foldl step (start retryAfterSeconds)

end Observed

/-! ## One label -/

/-- The label of a reason, while it is active. -/
def reasonLabel (reason : String) : String := if reason ∈ activeReasonLabels then reason else "unknown"

/-- The gauge is 1 for the label of the active state, and 0 for every other label. -/
def GaugeMatches (o : Observed) : Prop :=
  ∀ label, o.gauge label = if o.service.status.active ∧ label = reasonLabel o.service.status.reason then 1 else 0

/-- The label of a state, if it is active. -/
def litLabel (state : WriteSuspendState) : Option String :=
  if state.active then some (reasonLabel state.reason) else none

/-- The gauge with at most one label. -/
def light (lit : Option String) : SuspendGauge := fun label => if lit = some label then 1 else 0

section Light

variable {lit lit' : Option String} {label : String} {state : WriteSuspendState} {gauge : SuspendGauge} {o : Observed}

theorem light_inj : light lit = light lit' ↔ lit = lit' := by
  constructor
  · intro same
    ext label
    have h := congrFun same label
    unfold light at h
    split_ifs at h <;> simp_all
  · rintro rfl
    rfl

theorem matches_iff : GaugeMatches o ↔ o.gauge = light (litLabel o.service.status) := by
  have values : ∀ label, light (litLabel o.service.status) label =
      if o.service.status.active ∧ label = reasonLabel o.service.status.reason then 1 else 0 := by
    intro label
    unfold light litLabel
    cases o.service.status.active <;> simp [eq_comm]
  constructor
  · intro h
    funext label
    rw [h label, values]
  · intro h label
    rw [h, values]

theorem update_light_one :
    Function.update (light lit) label 1 = light (some label) ↔ lit = none ∨ lit = some label := by
  constructor
  · intro same
    cases lit with
    | none => exact .inl rfl
    | some other =>
        right
        by_contra different
        have h := congrFun same other
        have apart : other ≠ label := fun same => different (congrArg some same)
        rw [Function.update_of_ne apart] at h
        simp [light, Ne.symm apart] at h
  · intro h
    funext other
    by_cases same : other = label
    · rw [same, Function.update_self]
      simp [light]
    · rw [Function.update_of_ne same]
      rcases h with rfl | rfl
      · simp [light, Ne.symm same]
      · rfl

theorem update_light_zero : Function.update (light lit) label 0 = light none ↔ lit = none ∨ lit = some label := by
  constructor
  · intro same
    cases lit with
    | none => exact .inl rfl
    | some other =>
        right
        by_contra different
        have h := congrFun same other
        have apart : other ≠ label := fun same => different (congrArg some same)
        rw [Function.update_of_ne apart] at h
        simp [light] at h
  · intro h
    funext other
    by_cases same : other = label
    · rw [same, Function.update_self]
      rfl
    · rw [Function.update_of_ne same]
      rcases h with rfl | rfl
      · rfl
      · simp [light, Ne.symm same]

theorem normalizeLabel_of_mem (h : label ∈ writeSuspendReasons) : normalizeLabel label writeSuspendReasons = label :=
  if_pos h

theorem mem_writeSuspendReasons (h : label ∈ activeReasonLabels) : label ∈ writeSuspendReasons := by
  simp only [activeReasonLabels, List.mem_cons, List.not_mem_nil, or_false] at h
  simp only [writeSuspendReasons, List.mem_cons, List.not_mem_nil, or_false]
  tauto

theorem recordStateMetric_of_active (h : state.active = true) :
    recordStateMetric gauge state = Function.update gauge (reasonLabel state.reason) 1 := by
  unfold recordStateMetric recordWriteSuspendState reasonLabel
  simp only [h, if_true]
  rw [normalizeLabel_of_mem]
  split_ifs with known
  · exact mem_writeSuspendReasons known
  · simp [writeSuspendReasons]

theorem recordStateMetric_of_inactive (h : state.active = false) : recordStateMetric gauge state =
    Function.update gauge (if state.reason ∈ activeReasonLabels then state.reason else "none") 0 := by
  unfold recordStateMetric recordWriteSuspendState
  simp only [h, Bool.false_eq_true, if_false]
  rw [normalizeLabel_of_mem]
  split_ifs with known
  · exact mem_writeSuspendReasons known
  · simp [writeSuspendReasons]

theorem litLabel_of_active (h : state.active = true) : litLabel state = some (reasonLabel state.reason) := if_pos h

theorem litLabel_of_inactive (h : state.active = false) : litLabel state = none := if_neg (by simp [h])

/-- A state that is shown already. -/
theorem recordStateMetric_light : recordStateMetric (light (litLabel state)) state = light (litLabel state) := by
  cases active : state.active with
  | true =>
      rw [recordStateMetric_of_active active, litLabel_of_active active, update_light_one]
      exact .inr rfl
  | false =>
      rw [recordStateMetric_of_inactive active, litLabel_of_inactive active, update_light_zero]
      exact .inl rfl

end Light

/-! ## What the calls leave -/

section Calls

variable {svc : WriteSuspensionService} {state : WriteSuspendState} {fault : Option ArtifactFault}

theorem reasonLabel_orDefault (reason : String) : reasonLabel (orDefault reason "unknown") = reasonLabel reason := by
  unfold orDefault
  split_ifs with empty
  · rw [empty]
    decide
  · rfl

/-- Reading a state file does not change its label. -/
theorem litLabel_status : litLabel svc.status = svc.stateFile.elim (litLabel svc.runtimeState) litLabel := by
  unfold status readArtifactState
  cases svc.stateFile with
  | none => rfl
  | some payload =>
      simp only [Option.map_some, Option.getD_some, Option.elim_some, litLabel, reasonLabel_orDefault]

theorem litLabel_setState : litLabel (svc.setState fault state).2.status =
    if fault.isSome then svc.stateFile.elim (litLabel state) litLabel else litLabel state := by
  rw [litLabel_status]
  cases fault <;> rfl

theorem litLabel_afterStatus : litLabel svc.afterStatus.status = litLabel svc.status := by
  rw [litLabel_status, afterStatus]
  cases file : svc.stateFile with
  | none => rfl
  | some payload => rw [litLabel_status, file]; rfl

/-- Which calls keep the gauge: one label at a time, known reasons only, and no write that is lost and not seen. -/
def SuspensionCall.Tracks (svc : WriteSuspensionService) : SuspensionCall → Prop
  | enable arguments _ _ none => svc.status.active → reasonLabel svc.status.reason = reasonLabel arguments.reason
  | enable arguments _ _ (some _) => svc.stateFile.isSome ∨
      (svc.status.active ∧ reasonLabel svc.status.reason = reasonLabel arguments.reason)
  | disable _ _ _ none => svc.status.active → svc.status.reason ∈ activeReasonLabels
  | disable _ _ _ (some _) => svc.stateFile.isSome ∨ svc.status.active = false
  | status => True
  | guardFinancialWrite reachable _ _ fault =>
      svc.status.active ∨ reachable ∨ fault = none ∨ svc.stateFile.isSome

theorem litLabel_eq_none_iff : litLabel state = none ↔ state.active = false := by
  unfold litLabel
  cases state.active <;> simp

theorem litLabel_eq_some_iff {label : String} :
    litLabel state = some label ↔ state.active = true ∧ reasonLabel state.reason = label := by
  unfold litLabel
  cases state.active <;> simp

variable {arguments : EnableArguments} {now : Time} {uuid reason resumedBy : String} {o : Observed}

theorem litLabel_suspendedState :
    litLabel (svc.suspendedState arguments now uuid) = some (reasonLabel arguments.reason) := by
  rw [litLabel_of_active rfl, suspendedState, reasonLabel_orDefault]

/-- A suspension that is written. -/
theorem matches_enable_iff (h : GaugeMatches o) : GaugeMatches (o.step (.enable arguments now uuid fault)) ↔
    SuspensionCall.Tracks o.service (.enable arguments now uuid fault) := by
  rw [matches_iff] at h ⊢
  have seen : litLabel (o.step (.enable arguments now uuid fault)).service.status = _ := litLabel_setState
  rw [seen, litLabel_suspendedState]
  cases fault with
  | none =>
      have gauge : (o.step (.enable arguments now uuid none)).gauge =
          Function.update (light (litLabel o.service.status)) (reasonLabel arguments.reason) 1 := by
        rw [← h, ← reasonLabel_orDefault]
        exact recordStateMetric_of_active rfl
      rw [gauge]
      simp only [Option.isSome_none, Bool.false_eq_true, if_false]
      rw [update_light_one, litLabel_eq_none_iff, litLabel_eq_some_iff]
      unfold SuspensionCall.Tracks
      cases o.service.status.active <;> simp
  | some fault =>
      have gauge : (o.step (.enable arguments now uuid (some fault))).gauge = light (litLabel o.service.status) := h
      rw [gauge, light_inj]
      simp only [Option.isSome_some, if_true]
      unfold SuspensionCall.Tracks
      cases file : o.service.stateFile with
      | none =>
          rw [Option.elim_none, litLabel_eq_some_iff]
          simp
      | some payload =>
          rw [Option.elim_some, litLabel_status, file]
          simp

theorem matches_disable_iff (h : GaugeMatches o) : GaugeMatches (o.step (.disable now reason resumedBy fault)) ↔
    SuspensionCall.Tracks o.service (.disable now reason resumedBy fault) := by
  rw [matches_iff] at h ⊢
  have seen : litLabel (o.step (.disable now reason resumedBy fault)).service.status = _ := litLabel_setState
  have resumed : litLabel (resumedState o.service.status now reason resumedBy) = none := litLabel_of_inactive rfl
  have recorded : recordStateMetric o.gauge o.service.status = light (litLabel o.service.status) := by
    rw [h, recordStateMetric_light]
  rw [seen, resumed]
  cases fault with
  | none =>
      have gauge : (o.step (.disable now reason resumedBy none)).gauge =
          Function.update (light (litLabel o.service.status))
            (if o.service.status.reason ∈ activeReasonLabels then o.service.status.reason else "none") 0 := by
        rw [← recorded]
        exact recordStateMetric_of_inactive rfl
      rw [gauge]
      simp only [Option.isSome_none, Bool.false_eq_true, if_false]
      rw [update_light_zero, litLabel_eq_none_iff, litLabel_eq_some_iff]
      unfold SuspensionCall.Tracks reasonLabel
      split_ifs with known
      · cases o.service.status.active <;> simp [known]
      · cases o.service.status.active <;> simp [known]
  | some fault =>
      have gauge : (o.step (.disable now reason resumedBy (some fault))).gauge = light (litLabel o.service.status) :=
        recorded
      rw [gauge, light_inj]
      simp only [Option.isSome_some, if_true]
      unfold SuspensionCall.Tracks
      cases file : o.service.stateFile with
      | none =>
          rw [afterStatus, file, Option.elim_none, litLabel_eq_none_iff]
          simp
      | some payload =>
          rw [afterStatus, file, Option.elim_some, litLabel_status, file]
          simp

theorem matches_status (h : GaugeMatches o) : GaugeMatches (o.step .status) := by
  rw [matches_iff] at h ⊢
  have seen : litLabel (o.step .status).service.status = litLabel o.service.status := litLabel_afterStatus
  have gauge : (o.step .status).gauge = recordStateMetric o.gauge o.service.status := rfl
  rw [seen, gauge, h, recordStateMetric_light]

/-- The guard is `status`, and `enable` where there is no suspension yet and the database does not answer. -/
theorem step_guardFinancialWrite (reachable : Bool) :
    o.step (.guardFinancialWrite reachable now uuid fault) =
      if o.service.status.active || reachable then o.step .status
      else (o.step .status).step
        (.enable ⟨"postgres_unavailable", "api", "postgres_probe", none, none⟩ now uuid fault) := by
  unfold Observed.step SuspensionCall.run SuspensionCall.record guardFinancialWrite
  cases active : o.service.status.active with
  | true => simp [active]
  | false =>
      cases reachable with
      | true => simp [active]
      | false =>
          simp only [active, Bool.or_self, Bool.false_eq_true, if_false]
          cases fault <;> rfl

/-- One call keeps the gauge if and only if it tracks. -/
theorem matches_step_iff (h : GaugeMatches o) (call : SuspensionCall) :
    GaugeMatches (o.step call) ↔ call.Tracks o.service := by
  cases call with
  | enable arguments now uuid fault => exact matches_enable_iff h
  | disable now reason resumedBy fault => exact matches_disable_iff h
  | status => exact iff_of_true (matches_status h) trivial
  | guardFinancialWrite reachable now uuid fault =>
      rw [step_guardFinancialWrite]
      unfold SuspensionCall.Tracks
      split_ifs with admitted
      · refine iff_of_true (matches_status h) ?_
        simp only [Bool.or_eq_true] at admitted
        tauto
      · rw [Bool.not_eq_true, Bool.or_eq_false_iff] at admitted
        have inactive : (o.step .status).service.status.active = false := by
          rw [← admitted.1]
          exact afterStatus_active o.service
        rw [matches_enable_iff (matches_status h)]
        unfold SuspensionCall.Tracks
        cases fault with
        | none => simp [inactive]
        | some fault =>
            have file : (o.step .status).service.stateFile = o.service.stateFile := rfl
            simp [inactive, admitted, file]

end Calls

/-! ## Runs -/

theorem matches_start (retryAfterSeconds : Int) : GaugeMatches (.start retryAfterSeconds) := by
  intro label
  rfl

/-- The gauge matches after every call of a run if and only if every call tracks where it is made. -/
theorem gauge_matches_iff (retryAfterSeconds : Int) (calls : List SuspensionCall) :
    (∀ before, before <+: calls → GaugeMatches (Observed.after retryAfterSeconds before)) ↔
      ∀ before call, before ++ [call] <+: calls → call.Tracks (Observed.after retryAfterSeconds before).service := by
  have next : ∀ before call, Observed.after retryAfterSeconds (before ++ [call]) =
      (Observed.after retryAfterSeconds before).step call := by
    intro before call
    unfold Observed.after
    rw [List.foldl_append, List.foldl_cons, List.foldl_nil]
  constructor
  · intro matched before call hprefix
    have now := matched _ ((List.prefix_append before [call]).trans hprefix)
    rw [← matches_step_iff now, ← next]
    exact matched _ hprefix
  · intro tracks before hprefix
    induction before using List.reverseRecOn with
    | nil => exact matches_start retryAfterSeconds
    | append_singleton before call ih =>
        have now := ih ((List.prefix_append before [call]).trans hprefix)
        rw [next, matches_step_iff now]
        exact tracks before call hprefix

/-- A manual suspension, and then the probe's: both labels stay at 1. -/
theorem gauge_keeps_manual :
    ¬GaugeMatches (.after 30
      [.enable { reason := "manual" } 0 "u1" none, .enable { reason := "postgres_unavailable" } 1 "u2" none]) := by
  intro matched
  have stuck := matched "manual"
  revert stuck
  decide +kernel

/-- Resumed after a reason without a label of its own. -/
example : (Observed.after 30 [.enable { reason := "drill" } 0 "u1" none, .disable 1 "done" "operator" none]).gauge
    "unknown" = 1 := by decide +kernel

end EventConsistency
