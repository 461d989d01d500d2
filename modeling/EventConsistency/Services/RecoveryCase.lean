import EventConsistency.Models

/-!
# Recovery cases

`app/domain/recovery.py` and `app/services/recovery_case_service.py`: the creation of a case and the six operations that
move it on. An operation reads the case, checks its status in Python and flushes the changed columns.

* `createCase` : the case of a source key, found or new; `getBySourceKey_cases` : what its lookup finds;
* `allowedRecoveryTransitions` : the table of the domain;
* `RecoveryOperation.apply` : what an operation makes of the case it has read;
* `RecoveryCase.flush` : the row after the UPDATE of an object that was read from an older version of it.
-/

namespace EventConsistency

inductive RecoveryCaseStatus where
  | open
  | autoAnalyzed
  | waitingApproval
  | approved
  | executing
  | executed
  | executionFailed
  | rejected
  | closed
  deriving DecidableEq, Repr

inductive RecoveryCaseType where
  | staleProcessing
  | balanceMismatch
  | duplicateLedger
  | orphanIdempotency
  | failoverInDoubt
  | consistencyIssueCandidate
  | writeSuspendedUnknownDependency
  | postgresDownWriteSuspended
  deriving DecidableEq, Repr

inductive RecoveryProposedAction where
  | noopReviewOnly
  | markCompleted
  | markFailedRetryable
  | replayEvent
  | compensateLedger
  | keepQuarantined
  deriving DecidableEq, Repr

/-- What `create_case` is given; the arguments that no caller here passes stay at their defaults. -/
structure NewRecoveryCase where
  sourceKey : String
  caseType : RecoveryCaseType
  severity : String
  classification : String
  confidenceCandidate : Option Rat
  detectedBy : String
  proposedAction : RecoveryProposedAction
  approvalRequired : Bool := true
  status : RecoveryCaseStatus := .waitingApproval
  externalEventId : Option String := none
  idempotencyKeyHash : Option String := none
  accountId : Option Nat := none
  transactionEventId : Option Nat := none

/-- A row of `recovery_cases`; `status` is its `current_status`. -/
structure RecoveryCase extends NewRecoveryCase where
  caseId : String
  detectedAt : Time
  approvedBy : Option String := none
  approvedAt : Option Time := none
  approvalReason : Option String := none
  executingAt : Option Time := none
  executedAt : Option Time := none
  executionFailedAt : Option Time := none
  executionFailureType : Option String := none
  actionAttemptId : Option String := none
  afterSnapshotHash : Option String := none

/-- The exceptions of the service. `MultipleResultsFound` is the one of `one_or_none()`. -/
inductive RecoveryError where
  | recoveryCaseNotFound
  | invalidRecoveryCaseTransition (current next : RecoveryCaseStatus)
  | recoveryApprovalRequired
  | recoveryApprovalMissingActor
  | multipleResultsFound
  deriving DecidableEq, Repr

/-- `get_by_source_key`. -/
def RecoveryCaseRepository.getBySourceKey (sourceKey : String) (cases : List RecoveryCase) :
    Except RecoveryError (Option RecoveryCase) :=
  match cases.filter (fun rc => rc.sourceKey == sourceKey) with
  | [] => .ok none
  | [rc] => .ok (some rc)
  | _ => .error .multipleResultsFound

/-- The case that `create_case` adds. -/
def RecoveryCaseService.newCase (uuid : String) (now : Time) (new : NewRecoveryCase) : RecoveryCase :=
  { new with caseId := "rc-" ++ String.ofList (uuid.toList.take 16), detectedAt := now }

/-- `create_case`: the case of its source key is returned when there is one. -/
def RecoveryCaseService.createCase (uuid : String) (now : Time) (new : NewRecoveryCase) (cases : List RecoveryCase) :
    Except RecoveryError (RecoveryCase × List RecoveryCase) :=
  match RecoveryCaseRepository.getBySourceKey new.sourceKey cases with
  | .error x => .error x
  | .ok (some existing) => .ok (existing, cases)
  | .ok none => .ok (newCase uuid now new, cases ++ [newCase uuid now new])

/-- What the lookup has found: no case of the source key, the only one, or several. -/
theorem RecoveryCaseRepository.getBySourceKey_cases (sourceKey : String) (cases : List RecoveryCase) :
    ((∀ rc ∈ cases, rc.sourceKey ≠ sourceKey) ∧ getBySourceKey sourceKey cases = .ok none) ∨
    (∃ rc ∈ cases, cases.filter (fun rc => rc.sourceKey == sourceKey) = [rc] ∧ rc.sourceKey = sourceKey ∧
      getBySourceKey sourceKey cases = .ok (some rc)) ∨
    (1 < cases.countP (fun rc => rc.sourceKey == sourceKey) ∧
      getBySourceKey sourceKey cases = .error .multipleResultsFound) := by
  unfold getBySourceKey
  rw [List.countP_eq_length_filter]
  generalize hfound : cases.filter (fun rc => rc.sourceKey == sourceKey) = found
  match found with
  | [] => exact .inl ⟨by simpa using hfound, rfl⟩
  | [rc] =>
      have hmem : rc ∈ cases.filter (fun rc => rc.sourceKey == sourceKey) := hfound ▸ List.mem_singleton_self rc
      obtain ⟨hmem, hkey⟩ := List.mem_filter.mp hmem
      exact .inr (.inl ⟨rc, hmem, rfl, beq_iff_eq.mp hkey, rfl⟩)
  | _ :: _ :: _ => exact .inr (.inr ⟨by simp, rfl⟩)

/-- `ALLOWED_RECOVERY_TRANSITIONS`. -/
def allowedRecoveryTransitions : RecoveryCaseStatus → List RecoveryCaseStatus
  | .open => [.autoAnalyzed, .waitingApproval, .rejected, .closed]
  | .autoAnalyzed => [.waitingApproval, .approved, .rejected, .closed]
  | .waitingApproval => [.approved, .rejected, .closed]
  | .approved => [.executing, .rejected, .closed]
  | .executing => [.executed, .executionFailed]
  | .executionFailed => [.waitingApproval, .rejected, .closed]
  | .executed => [.closed]
  | .rejected => [.closed]
  | .closed => []

/-- `not value` of a string or `None`. -/
def missing (value : Option String) : Bool := value.getD "" == ""

namespace RecoveryCaseService

/-- `_get`, given the answer of `get_by_case_id`. -/
def get (found : Option RecoveryCase) : Except RecoveryError RecoveryCase :=
  found.elim (.error .recoveryCaseNotFound) .ok

/-- `_transition`. -/
def transition (rc : RecoveryCase) (next : RecoveryCaseStatus) : Except RecoveryError RecoveryCase :=
  if next ∈ allowedRecoveryTransitions rc.status then .ok { rc with status := next }
  else .error (.invalidRecoveryCaseTransition rc.status next)

def approve (found : Option RecoveryCase) (now : Time) (approvedBy : String) (approvalReason : Option String) :
    Except RecoveryError RecoveryCase := do
  if approvedBy = "" then throw .recoveryApprovalMissingActor
  else
    let rc ← transition (← get found) .approved
    return { rc with approvedBy := some approvedBy, approvedAt := some now, approvalReason := approvalReason }

def reject (found : Option RecoveryCase) (reason : Option String) : Except RecoveryError RecoveryCase := do
  let rc ← transition (← get found) .rejected
  return { rc with approvalReason := reason }

/-- `start_execution` has a check of its own instead of `_transition`. -/
def startExecution (found : Option RecoveryCase) (now : Time) (uuid : String) : Except RecoveryError RecoveryCase := do
  let rc ← get found
  if rc.status ≠ .approved then
    if rc.approvalRequired && missing rc.approvedBy && [.autoAnalyzed, .waitingApproval].contains rc.status then
      throw .recoveryApprovalRequired
    else throw (.invalidRecoveryCaseTransition rc.status .executing)
  else if rc.approvalRequired && missing rc.approvedBy then throw .recoveryApprovalRequired
  else
    let attempt := if missing rc.actionAttemptId then some ("attempt-" ++ String.ofList (uuid.toList.take 16))
      else rc.actionAttemptId
    return { rc with status := .executing, executingAt := some now, actionAttemptId := attempt }

def markExecuted (found : Option RecoveryCase) (now : Time) (afterSnapshotHash : Option String) :
    Except RecoveryError RecoveryCase := do
  let rc ← transition (← get found) .executed
  return { rc with executedAt := some now, afterSnapshotHash := afterSnapshotHash }

def markExecutionFailed (found : Option RecoveryCase) (now : Time) (failureType : String) :
    Except RecoveryError RecoveryCase := do
  let rc ← transition (← get found) .executionFailed
  return { rc with executionFailedAt := some now, executionFailureType := some failureType }

def close (found : Option RecoveryCase) : Except RecoveryError RecoveryCase := do
  transition (← get found) .closed

end RecoveryCaseService

/-- An operation and its arguments. -/
inductive RecoveryOperation where
  | approve (approvedBy : String) (approvalReason : Option String)
  | reject (reason : Option String)
  | startExecution
  | markExecuted (afterSnapshotHash : Option String)
  | markExecutionFailed (failureType : String)
  | close
  deriving DecidableEq, Repr

namespace RecoveryOperation

/-- The operation on the case that it finds, at the time `now`. -/
def apply (op : RecoveryOperation) (now : Time) (uuid : String) (found : Option RecoveryCase) :
    Except RecoveryError RecoveryCase :=
  match op with
  | approve approvedBy approvalReason => RecoveryCaseService.approve found now approvedBy approvalReason
  | reject reason => RecoveryCaseService.reject found reason
  | startExecution => RecoveryCaseService.startExecution found now uuid
  | markExecuted afterSnapshotHash => RecoveryCaseService.markExecuted found now afterSnapshotHash
  | markExecutionFailed failureType => RecoveryCaseService.markExecutionFailed found now failureType
  | close => RecoveryCaseService.close found

/-- The status that the operation moves a case to. -/
def target : RecoveryOperation → RecoveryCaseStatus
  | approve .. => .approved
  | reject _ => .rejected
  | startExecution => .executing
  | markExecuted _ => .executed
  | markExecutionFailed _ => .executionFailed
  | close => .closed

end RecoveryOperation

namespace RecoveryCaseService

/-- A transition and what else the operation sets. -/
theorem transition_map_ok {rc rc' : RecoveryCase} {next : RecoveryCaseStatus} {f : RecoveryCase → RecoveryCase}
    (h : (transition rc next).map f = .ok rc') :
    next ∈ allowedRecoveryTransitions rc.status ∧ rc' = f { rc with status := next } := by
  unfold transition at h
  split at h
  · rename_i hmem
    cases h
    exact ⟨hmem, rfl⟩
  · cases h

theorem startExecution_ok {rc rc' : RecoveryCase} {now : Time} {uuid : String}
    (h : startExecution (some rc) now uuid = .ok rc') :
    rc.status = .approved ∧ ∃ attempt, rc' = { rc with
      status := .executing, executingAt := some now, actionAttemptId := attempt } := by
  by_cases hs : rc.status = .approved
  · by_cases ha : (rc.approvalRequired && missing rc.approvedBy) = true
    · simp [startExecution, get, hs, ha, bind, Except.bind, throw, throwThe, MonadExceptOf.throw] at h
    · simp only [startExecution, get, Option.elim_some, hs, ne_eq, not_true_eq_false, if_false, ha, bind, Except.bind] at h
      cases h
      exact ⟨hs, _, rfl⟩
  · simp only [startExecution, get, Option.elim_some, hs, ne_eq, not_false_eq_true, if_true, bind, Except.bind] at h
    split at h <;> cases h

end RecoveryCaseService

/-- What an operation makes of a case: it moves it along the table, names an actor when it approves it, may give it an
attempt id when it starts the execution, and leaves the rest of a case that it closes. -/
structure RecoveryOperation.Moves (op : RecoveryOperation) (rc rc' : RecoveryCase) : Prop where
  allowed : op.target ∈ allowedRecoveryTransitions rc.status
  status : rc'.status = op.target
  caseId : rc'.caseId = rc.caseId
  sourceKey : rc'.sourceKey = rc.sourceKey
  attempt : op = .startExecution ∨ rc'.actionAttemptId = rc.actionAttemptId
  approvedBy : (∃ actor reason, op = .approve actor reason ∧ actor ≠ "" ∧ rc'.approvedBy = some actor) ∨
    op.target ≠ .approved ∧ rc'.approvedBy = rc.approvedBy
  closes : op = .close → rc' = { rc with status := .closed }

/-- **An operation that returns has moved the case that it has read.** -/
theorem RecoveryOperation.apply_moves {op : RecoveryOperation} {now : Time} {uuid : String} {rc rc' : RecoveryCase}
    (h : op.apply now uuid (some rc) = .ok rc') : op.Moves rc rc' := by
  cases op with
  | approve approvedBy approvalReason =>
      simp only [apply, RecoveryCaseService.approve] at h
      split at h
      · cases h
      · rename_i hactor
        obtain ⟨hmem, rfl⟩ := RecoveryCaseService.transition_map_ok (f := fun rc =>
          { rc with approvedBy := some approvedBy, approvedAt := some now, approvalReason := approvalReason }) h
        exact ⟨hmem, rfl, rfl, rfl, Or.inr rfl, Or.inl ⟨_, _, rfl, hactor, rfl⟩, by simp⟩
  | reject reason =>
      obtain ⟨hmem, rfl⟩ := RecoveryCaseService.transition_map_ok (f := fun rc => { rc with approvalReason := reason }) h
      exact ⟨hmem, rfl, rfl, rfl, Or.inr rfl, Or.inr ⟨by simp [target], rfl⟩, by simp⟩
  | startExecution =>
      obtain ⟨hs, attempt, rfl⟩ := RecoveryCaseService.startExecution_ok h
      have hmem : RecoveryCaseStatus.executing ∈ allowedRecoveryTransitions rc.status := by
        rw [hs]
        decide
      exact ⟨hmem, rfl, rfl, rfl, Or.inl rfl, Or.inr ⟨by simp [target], rfl⟩, by simp⟩
  | markExecuted afterSnapshotHash =>
      obtain ⟨hmem, rfl⟩ := RecoveryCaseService.transition_map_ok (f := fun rc =>
        { rc with executedAt := some now, afterSnapshotHash := afterSnapshotHash }) h
      exact ⟨hmem, rfl, rfl, rfl, Or.inr rfl, Or.inr ⟨by simp [target], rfl⟩, by simp⟩
  | markExecutionFailed failureType =>
      obtain ⟨hmem, rfl⟩ := RecoveryCaseService.transition_map_ok (f := fun rc =>
        { rc with executionFailedAt := some now, executionFailureType := some failureType }) h
      exact ⟨hmem, rfl, rfl, rfl, Or.inr rfl, Or.inr ⟨by simp [target], rfl⟩, by simp⟩
  | close =>
      have hid : (RecoveryCaseService.transition rc .closed).map id = .ok rc' := by
        rw [Except.map_id]
        exact h
      obtain ⟨hmem, rfl⟩ := RecoveryCaseService.transition_map_ok hid
      exact ⟨hmem, rfl, rfl, rfl, Or.inr rfl, Or.inr ⟨by simp [target], rfl⟩, fun _ => rfl⟩

/-- A column after an UPDATE: it is written only when the object's value differs from the one read. -/
def column {α : Type} [DecidableEq α] (read written current : α) : α := if written = read then current else written

/-- The row `current` after the UPDATE of the object `written` that was loaded as `read`. -/
def RecoveryCase.flush (read written current : RecoveryCase) : RecoveryCase :=
  { current with
    status := column read.status written.status current.status
    approvedBy := column read.approvedBy written.approvedBy current.approvedBy
    approvedAt := column read.approvedAt written.approvedAt current.approvedAt
    approvalReason := column read.approvalReason written.approvalReason current.approvalReason
    executingAt := column read.executingAt written.executingAt current.executingAt
    executedAt := column read.executedAt written.executedAt current.executedAt
    executionFailedAt := column read.executionFailedAt written.executionFailedAt current.executionFailedAt
    executionFailureType := column read.executionFailureType written.executionFailureType current.executionFailureType
    actionAttemptId := column read.actionAttemptId written.actionAttemptId current.actionAttemptId
    afterSnapshotHash := column read.afterSnapshotHash written.afterSnapshotHash current.afterSnapshotHash }

end EventConsistency
