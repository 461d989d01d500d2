import EventConsistency.Lib.Join
import EventConsistency.Services.Idempotency
import EventConsistency.Services.Quarantine
import EventConsistency.Services.RecoveryCase

/-!
# Reconciliation

`app/services/reconciliation_service.py`.

* `thresholdAt` : some minutes ago, if there is such a time;
* `detectStaleProcessing` : the PROCESSING records that are past their lock or have not moved for some minutes, each
  with the action that is proposed for it and, on request, a recovery case;
* `reconcile` : the seven counts and, on request, a recovery case for five of them, four with a quarantine;
* `duplicateLedgerCount_eq_zero` and its likes : what a count of zero means; `reconcile_clean` : with all of them zero
  no case is opened.
-/

namespace EventConsistency

open Lib

/-- `isoformat()` of a time in UTC. -/
def isoformatUtc (t : Time) : String := Datetime.isoformat ⟨t, none⟩ ++ "+00:00"

structure StaleProcessingCandidate where
  idempotencyRecordId : Nat
  idempotencyKeyHash : String
  status : IdempotencyStatus
  lockedUntil : Option String
  expiresAt : Option String
  createdAt : String
  updatedAt : String
  matchingTransactionEventExists : Bool
  matchingLedgerEntryExists : Bool
  accountBalanceCheck : String
  proposedAction : RecoveryProposedAction
  recoveryCaseId : Option String := none
  recoveryCaseSourceKey : Option String := none

/-- The exceptions of the service. -/
inductive ReconciliationError where
  | overflowError
  | valueError
  | recovery (x : RecoveryError)
  deriving DecidableEq, Repr

namespace ReconciliationService

/-- The minutes are a `timedelta`, which holds up to 999999999 days, and so many minutes ago is a `datetime`, one of the
years 1 to 9999. -/
def inRange (now : Time) (thresholdMinutes : Int) : Bool :=
  decide (-999999999 ≤ thresholdMinutes / 1440) && decide (thresholdMinutes / 1440 ≤ 999999999) &&
    decide (-62135596800000000 ≤ now - seconds (60 * thresholdMinutes)) &&
    decide (now - seconds (60 * thresholdMinutes) < 253402300800000000)

/-- `datetime.now(UTC) - timedelta(minutes=threshold_minutes)`. -/
def thresholdAt (now : Time) (thresholdMinutes : Int) : Except ReconciliationError Time :=
  if inRange now thresholdMinutes then .ok (now - seconds (60 * thresholdMinutes)) else .error .overflowError

/-- What the service draws from outside while it handles a record; the uuids are fresh. -/
structure Draws where
  uuid : Nat → String
  now : Nat → Time

/-- The event of the key with the smallest id. -/
def firstEvent (db : Db) (idempotencyKey : String) : Option TransactionEvent :=
  (db.events.filter (fun e => e.idempotencyKey == idempotencyKey)).foldl (fun best e => match best with
    | none => some e
    | some b => if e.id < b.id then some e else some b) none

/-- `_matching_event`, which psycopg2 reads. -/
def matchingEvent (db : Db) (idempotencyKey : String) : Except ReconciliationError (Option TransactionEvent) :=
  match firstEvent db idempotencyKey with
  | none => .ok none
  | some event => if event.occurredAt.readable then .ok (some event) else .error .valueError

def ledgerExistsForEvent (db : Db) (transactionEventId : Nat) : Bool :=
  db.ledger.any (fun r => r.transactionEventId == transactionEventId)

def proposedStaleAction (matchingEvent : Option TransactionEvent) (matchingLedger : Bool) : RecoveryProposedAction :=
  if matchingEvent.isSome && matchingLedger then .markCompleted else .markFailedRetryable

def createStaleRecoveryCase (st : Settings) (draws : Draws) (record : IdempotencyRecord)
    (matchingEvent : Option TransactionEvent) (proposedAction : RecoveryProposedAction) (cases : List RecoveryCase) :
    Except ReconciliationError (RecoveryCase × List RecoveryCase) :=
  (RecoveryCaseService.createCase (draws.uuid record.id) (draws.now record.id)
    { sourceKey := "ph5:stale:" ++ toString record.id
      caseType := .staleProcessing
      severity := "SEV2"
      classification := "STALE_PROCESSING_DETECTED"
      confidenceCandidate := some (4 / 5)
      detectedBy := "ph5_reconciliation"
      proposedAction := proposedAction
      transactionEventId := matchingEvent.map TransactionEvent.id
      accountId := matchingEvent.map TransactionEvent.accountId
      externalEventId := matchingEvent.map TransactionEvent.externalEventId
      idempotencyKeyHash := some (st.sha256 (utf8 record.idempotencyKey.toList)) }
    cases).mapError .recovery

/-- The filter of the query: PROCESSING, and past its lock or not updated since `thresholdAt`. -/
def stale (now thresholdAt : Time) (record : IdempotencyRecord) : Bool :=
  record.status == .processing &&
    ((match record.lockedUntil with | none => false | some t => decide (t < now))
      || decide (record.updatedAt < thresholdAt))

/-- The order of the query: by `updated_at`, then by `id`. -/
def staleOrder (r r' : IdempotencyRecord) : Bool :=
  decide (r.updatedAt < r'.updatedAt) || (r.updatedAt == r'.updatedAt && decide (r.id ≤ r'.id))

/-- One pass of the loop. -/
def staleCandidate (st : Settings) (draws : Draws) (createRecoveryCases : Bool) (db : Db) (record : IdempotencyRecord)
    (cases : List RecoveryCase) : Except ReconciliationError (StaleProcessingCandidate × List RecoveryCase) := do
  let event ← matchingEvent db record.idempotencyKey
  let ledger := match event with
    | none => false
    | some e => ledgerExistsForEvent db e.id
  let action := proposedStaleAction event ledger
  let (recoveryCase, cases) ← if createRecoveryCases then do
      let (rc, cases) ← createStaleRecoveryCase st draws record event action cases
      pure (some rc, cases)
    else pure (none, cases)
  return ({
    idempotencyRecordId := record.id
    idempotencyKeyHash := st.sha256 (utf8 record.idempotencyKey.toList)
    status := record.status
    lockedUntil := record.lockedUntil.map isoformatUtc
    expiresAt := record.expiresAt.map isoformatUtc
    createdAt := isoformatUtc record.createdAt
    updatedAt := isoformatUtc record.updatedAt
    matchingTransactionEventExists := event.isSome
    matchingLedgerEntryExists := ledger
    accountBalanceCheck := if event.isSome then "candidate_only" else "not_applicable"
    proposedAction := action
    recoveryCaseId := recoveryCase.map RecoveryCase.caseId
    recoveryCaseSourceKey := recoveryCase.map fun rc => rc.sourceKey }, cases)

def staleCandidates (st : Settings) (draws : Draws) (createRecoveryCases : Bool) (db : Db) : List IdempotencyRecord →
    List RecoveryCase → Except ReconciliationError (List StaleProcessingCandidate × List RecoveryCase)
  | [], cases => return ([], cases)
  | record :: rest, cases => do
      let (candidate, cases) ← staleCandidate st draws createRecoveryCases db record cases
      let (candidates, cases) ← staleCandidates st draws createRecoveryCases db rest cases
      return (candidate :: candidates, cases)

/-- `detect_stale_processing`: the candidates, and the recovery cases afterwards. -/
def detectStaleProcessing (st : Settings) (draws : Draws) (now : Time) (thresholdMinutes : Int)
    (createRecoveryCases : Bool) (db : Db) (cases : List RecoveryCase) :
    Except ReconciliationError (List StaleProcessingCandidate × List RecoveryCase) := do
  let thresholdAt ← thresholdAt now thresholdMinutes
  let records := (db.records.filter (stale now thresholdAt)).mergeSort staleOrder
  staleCandidates st draws createRecoveryCases db records cases

theorem thresholdAt_of_inRange {now : Time} {thresholdMinutes : Int} (fits : inRange now thresholdMinutes = true) :
    thresholdAt now thresholdMinutes = .ok (now - seconds (60 * thresholdMinutes)) := if_pos fits

theorem thresholdAt_overflow {now : Time} {thresholdMinutes : Int} (overflows : inRange now thresholdMinutes = false) :
    thresholdAt now thresholdMinutes = .error .overflowError := if_neg (by rw [overflows]; exact Bool.false_ne_true)

/-- Without PROCESSING records nothing is detected and no case is created, if there is a time to compare with. -/
theorem detectStaleProcessing_eq_nil {db : Db} (h : ∀ r ∈ db.records, r.status ≠ .processing) (st : Settings)
    (draws : Draws) (now : Time) (thresholdMinutes : Int) (createRecoveryCases : Bool) (cases : List RecoveryCase) :
    detectStaleProcessing st draws now thresholdMinutes createRecoveryCases db cases =
      (thresholdAt now thresholdMinutes).map fun _ => ([], cases) := by
  have hnone : ∀ t, db.records.filter (stale now t) = [] := by
    intro t
    refine List.filter_eq_nil_iff.mpr fun r hr => ?_
    simp [stale, h r hr]
  unfold detectStaleProcessing
  cases thresholdAt now thresholdMinutes with
  | error x => rfl
  | ok t =>
      show staleCandidates st draws createRecoveryCases db _ cases = .ok ([], cases)
      rw [hnone, List.mergeSort_nil]
      rfl

end ReconciliationService

/-! ## Counts -/

structure ReconciliationCounts where
  duplicateLedgerCount : Nat := 0
  duplicateExternalEventCount : Nat := 0
  completedIdempotencyWithoutTransactionEventCount : Nat := 0
  transactionEventWithoutLedgerCount : Nat := 0
  ledgerWithoutTransactionEventCount : Nat := 0
  accountBalanceMismatchCount : Nat := 0
  staleProcessingCount : Nat := 0
  deriving DecidableEq, Repr

structure RecoveryCaseLink where
  issueType : String
  caseType : RecoveryCaseType
  sourceKey : String
  caseId : String
  quarantineId : Option String := none
  deriving DecidableEq, Repr

namespace ReconciliationService

def duplicateLedgerCount (db : Db) : Nat := (groupDuplicates (db.ledger.map LedgerEntry.transactionEventId)).length

def duplicateExternalEventCount (db : Db) : Nat :=
  (groupDuplicates (db.events.map TransactionEvent.externalEventId)).length

def completedIdempotencyWithoutTransactionEventCount (db : Db) : Nat :=
  ((outerJoin (fun r e => e.idempotencyKey == r.idempotencyKey) db.records db.events).filter fun row =>
    row.2.isNone && row.1.status == .completed).length

def terminalWithoutLedgerStatuses : List TransactionStatus := [.completed, .cancelled, .settled]

def inProgressStatuses : List TransactionStatus := [.received, .validated, .processing]

def transactionEventWithoutLedgerCount (now : Time) (thresholdMinutes : Int) (db : Db) :
    Except ReconciliationError Nat := do
  let thresholdAt ← thresholdAt now thresholdMinutes
  return ((outerJoin (fun e l => l.transactionEventId == e.id) db.events db.ledger).filter fun row =>
    row.2.isNone && (terminalWithoutLedgerStatuses.contains row.1.status
      || (inProgressStatuses.contains row.1.status && decide (row.1.updatedAt < thresholdAt)))).length

def ledgerWithoutTransactionEventCount (db : Db) : Nat :=
  ((outerJoin (fun l e => e.id == l.transactionEventId) db.ledger db.events).filter fun row => row.2.isNone).length

/-- The sum of an account without entries is `NULL` in the join and taken as 0. -/
def accountBalanceMismatchCount (db : Db) : Nat :=
  let ledgerSum := sumBy LedgerEntry.accountId LedgerEntry.amount db.ledger
  ((outerJoin (fun a s => s.1 == a.id) db.accounts ledgerSum).filter fun row =>
    row.1.balance != (row.2.map Prod.snd).getD 0).length

/-- What the service draws from outside while it opens the case of an issue: ids and clock of the case and of the
quarantine; the ids are fresh. -/
structure ReconcileDraws extends Draws where
  caseUuid : String → String
  caseNow : String → Time
  quarantineRow : String → Nat
  quarantineUuid : String → String
  quarantineNow : String → Time

def countStaleProcessing (st : Settings) (draws : Draws) (now : Time) (thresholdMinutes : Int) (db : Db)
    (cases : List RecoveryCase) : Except ReconciliationError Nat :=
  (detectStaleProcessing st draws now thresholdMinutes false db cases).map fun found => found.1.length

/-- What works in a session that sees the tables and the recovery cases. -/
abbrev Work : Type → Type := StateT (Db × List RecoveryCase) (Except ReconciliationError)

/-- `_create_count_case`. -/
def createCountCase (draws : ReconcileDraws) (quarantineService : Bool) (issueType : String)
    (caseType : RecoveryCaseType) (proposedAction : RecoveryProposedAction) (severity : String)
    (quarantineGlobal : Bool) : Work RecoveryCaseLink := do
  let (db, cases) ← get
  let (recoveryCase, cases) ← (RecoveryCaseService.createCase (draws.caseUuid issueType) (draws.caseNow issueType)
    { sourceKey := "ph5:reconcile:" ++ issueType
      caseType := caseType
      severity := severity
      classification := issueType.toUpper ++ "_DETECTED"
      confidenceCandidate := some (17 / 20)
      detectedBy := "ph5_reconciliation"
      proposedAction := proposedAction }
    cases).mapError ReconciliationError.recovery
  let link : RecoveryCaseLink :=
    { issueType := issueType, caseType := caseType, sourceKey := recoveryCase.sourceKey, caseId := recoveryCase.caseId }
  if quarantineGlobal && quarantineService then
    let targetId := "ph5:" ++ issueType
    let (quarantine, inserted) := QuarantineService.createQuarantine
      (db.activeQuarantine QuarantineTargetType.globalWrite.value targetId) .globalWrite targetId
      (draws.quarantineRow issueType) (draws.quarantineUuid issueType) (draws.quarantineNow issueType)
    set ({ db with quarantines := db.quarantines ++ inserted.toList }, cases)
    return { link with quarantineId := some quarantine.quarantineId }
  else
    set (db, cases)
    return link

/-- `_create_reconciliation_cases`. -/
def createReconciliationCases (draws : ReconcileDraws) (quarantineService : Bool) (counts : ReconciliationCounts) :
    Work (List RecoveryCaseLink) := do
  let mut links := []
  if counts.duplicateLedgerCount > 0 then
    links := links ++ [← createCountCase draws quarantineService "duplicate_ledger" .duplicateLedger .keepQuarantined
      "SEV1" true]
  if counts.accountBalanceMismatchCount > 0 then
    links := links ++ [← createCountCase draws quarantineService "account_balance_mismatch" .balanceMismatch
      .keepQuarantined "SEV1" true]
  if counts.completedIdempotencyWithoutTransactionEventCount > 0 then
    links := links ++ [← createCountCase draws quarantineService "completed_idempotency_without_transaction_event"
      .orphanIdempotency .noopReviewOnly "SEV2" false]
  if counts.transactionEventWithoutLedgerCount > 0 then
    links := links ++ [← createCountCase draws quarantineService "transaction_event_without_ledger" .failoverInDoubt
      .keepQuarantined "SEV1" true]
  if counts.ledgerWithoutTransactionEventCount > 0 then
    links := links ++ [← createCountCase draws quarantineService "ledger_without_transaction_event"
      .consistencyIssueCandidate .keepQuarantined "SEV1" true]
  return links

/-- The counts of `reconcile`. The clock is read twice, by the query for events without an entry and by the one for
stale records. -/
def reconciliationCounts (st : Settings) (draws : Draws) (now now' : Time) (thresholdMinutes : Int) (db : Db)
    (cases : List RecoveryCase) : Except ReconciliationError ReconciliationCounts := do
  let withoutLedger ← transactionEventWithoutLedgerCount now thresholdMinutes db
  let stale ← countStaleProcessing st draws now' thresholdMinutes db cases
  return {
    duplicateLedgerCount := duplicateLedgerCount db
    duplicateExternalEventCount := duplicateExternalEventCount db
    completedIdempotencyWithoutTransactionEventCount := completedIdempotencyWithoutTransactionEventCount db
    transactionEventWithoutLedgerCount := withoutLedger
    ledgerWithoutTransactionEventCount := ledgerWithoutTransactionEventCount db
    accountBalanceMismatchCount := accountBalanceMismatchCount db
    staleProcessingCount := stale }

def reconcile (st : Settings) (draws : ReconcileDraws) (quarantineService : Bool) (now now' : Time)
    (thresholdMinutes : Int) (createRecoveryCases : Bool) :
    Work (ReconciliationCounts × List RecoveryCaseLink) := do
  let (db, cases) ← get
  let counts ← reconciliationCounts st draws.toDraws now now' thresholdMinutes db cases
  let mut links := []
  if createRecoveryCases then
    links := links ++ (← createReconciliationCases draws quarantineService counts)
  return (counts, links)

/-! ## What the counts say -/

section Counts

variable {db : Db}

theorem duplicateLedgerCount_eq_zero :
    duplicateLedgerCount db = 0 ↔ (db.ledger.map LedgerEntry.transactionEventId).Nodup := by
  unfold duplicateLedgerCount
  rw [List.length_eq_zero_iff, groupDuplicates_eq_nil]

theorem duplicateExternalEventCount_eq_zero :
    duplicateExternalEventCount db = 0 ↔ (db.events.map TransactionEvent.externalEventId).Nodup := by
  unfold duplicateExternalEventCount
  rw [List.length_eq_zero_iff, groupDuplicates_eq_nil]

theorem completedIdempotencyWithoutTransactionEventCount_eq_zero :
    completedIdempotencyWithoutTransactionEventCount db = 0 ↔
      ∀ r ∈ db.records, r.status = .completed → ∃ e ∈ db.events, e.idempotencyKey = r.idempotencyKey := by
  unfold completedIdempotencyWithoutTransactionEventCount
  rw [List.length_eq_zero_iff]
  refine (unmatched_eq_nil (p := fun r : IdempotencyRecord => r.status == .completed)).trans ?_
  simp only [beq_iff_eq]

/-- With no event in progress, the threshold does not matter. -/
theorem transactionEventWithoutLedgerCount_eq_zero {now : Time} {thresholdMinutes : Int}
    (h : ∀ e ∈ db.events, e.status ∉ inProgressStatuses) (fits : inRange now thresholdMinutes = true) :
    transactionEventWithoutLedgerCount now thresholdMinutes db = .ok 0 ↔
      ∀ e ∈ db.events, e.status ∈ terminalWithoutLedgerStatuses → ∃ l ∈ db.ledger, l.transactionEventId = e.id := by
  unfold transactionEventWithoutLedgerCount
  rw [thresholdAt_of_inRange fits]
  simp only [bind, Except.bind, pure, Except.pure, Except.ok.injEq, List.length_eq_zero_iff]
  refine (unmatched_eq_nil (p := fun e : TransactionEvent => terminalWithoutLedgerStatuses.contains e.status ||
    (inProgressStatuses.contains e.status && decide (e.updatedAt < now - seconds (60 * thresholdMinutes))))).trans ?_
  refine forall₂_congr fun e he => ?_
  simp [h e he]

theorem ledgerWithoutTransactionEventCount_eq_zero :
    ledgerWithoutTransactionEventCount db = 0 ↔ ∀ l ∈ db.ledger, ∃ e ∈ db.events, e.id = l.transactionEventId := by
  have hall : (fun row : LedgerEntry × Option TransactionEvent => row.2.isNone) = fun row => row.2.isNone && true := by
    simp
  unfold ledgerWithoutTransactionEventCount
  rw [List.length_eq_zero_iff, hall]
  refine (unmatched_eq_nil (p := fun _ => true)).trans ?_
  simp

theorem accountBalanceMismatchCount_eq_zero :
    accountBalanceMismatchCount db = 0 ↔
      ∀ a ∈ db.accounts, a.balance = ((db.ledger.filter fun l => l.accountId == a.id).map LedgerEntry.amount).sum := by
  unfold accountBalanceMismatchCount
  rw [List.length_eq_zero_iff, List.filter_eq_nil_iff]
  constructor
  · intro h a ha
    by_cases hex : ∃ l ∈ db.ledger, l.accountId = a.id
    · have hmem := h _ (mem_outerJoin_some.mpr ⟨ha, mem_sumBy.mpr ⟨hex, rfl⟩, beq_self_eq_true a.id⟩)
      simpa using hmem
    · have hnone : ∀ s ∈ sumBy LedgerEntry.accountId LedgerEntry.amount db.ledger, (s.1 == a.id) = false := by
        rintro ⟨k, n⟩ hs
        by_contra hk
        have hk : k = a.id := by simpa using hk
        exact hex (hk ▸ (mem_sumBy.mp hs).1)
      have hmem := h _ (mem_outerJoin_none.mpr ⟨ha, hnone⟩)
      have hnil : (db.ledger.filter fun l => l.accountId == a.id) = [] := by
        refine List.filter_eq_nil_iff.mpr fun l hl heq => hex ⟨l, hl, by simpa using heq⟩
      simpa [hnil] using hmem
  · rintro h ⟨a, o⟩ hmem
    cases o with
    | none =>
        obtain ⟨ha, hnone⟩ := mem_outerJoin_none.mp hmem
        have hnil : (db.ledger.filter fun l => l.accountId == a.id) = [] := by
          refine List.filter_eq_nil_iff.mpr fun l hl heq => ?_
          have hsum := hnone _ (mem_sumBy.mpr ⟨⟨l, hl, by simpa using heq⟩, rfl⟩)
          simp at hsum
        simpa [hnil] using h a ha
    | some s =>
        obtain ⟨ha, hs, hid⟩ := mem_outerJoin_some.mp hmem
        obtain ⟨k, n⟩ := s
        have hk : k = a.id := by simpa using hid
        subst hk
        simpa [(mem_sumBy.mp hs).2] using h a ha

section Reconcile

variable {st : Settings} {draws : ReconcileDraws} {quarantineService createRecoveryCases : Bool} {now now' : Time}
  {thresholdMinutes : Int} {cases : List RecoveryCase} {counts : ReconciliationCounts} {x : ReconciliationError}

/-- The record is the key of an event that psycopg2 cannot read. -/
def UnreadableEvent (db : Db) (record : IdempotencyRecord) : Prop :=
  ∃ event, firstEvent db record.idempotencyKey = some event ∧ event.occurredAt.readable = false

theorem staleCandidate_unreadable {record : IdempotencyRecord} (st : Settings) (draws : Draws) (createRecoveryCases : Bool)
    (h : UnreadableEvent db record) :
    staleCandidate st draws createRecoveryCases db record cases = .error .valueError := by
  obtain ⟨event, hfirst, hread⟩ := h
  unfold staleCandidate matchingEvent
  rw [hfirst]
  dsimp only
  rw [if_neg (ne_true_of_eq_false hread)]
  rfl

theorem staleCandidate_readable {record : IdempotencyRecord} (st : Settings) (draws : Draws) (cases : List RecoveryCase)
    (h : ¬ UnreadableEvent db record) :
    ∃ candidate, staleCandidate st draws false db record cases = .ok (candidate, cases) := by
  unfold staleCandidate matchingEvent
  cases hfirst : firstEvent db record.idempotencyKey with
  | none => exact ⟨_, rfl⟩
  | some event =>
      have hread : event.occurredAt.readable = true := by
        by_contra hread
        exact h ⟨event, hfirst, eq_false_of_ne_true hread⟩
      dsimp only
      rw [if_pos hread]
      exact ⟨_, rfl⟩

/-- Without recovery cases, the loop over the records ends at the first event that cannot be read. -/
theorem staleCandidates_false (st : Settings) (db : Db) (cases : List RecoveryCase) (draws : Draws)
    (records : List IdempotencyRecord) :
    (∀ record ∈ records, ¬ UnreadableEvent db record) ∧
      (∃ candidates, staleCandidates st draws false db records cases = .ok (candidates, cases)) ∨
    (∃ record ∈ records, UnreadableEvent db record) ∧ staleCandidates st draws false db records cases = .error .valueError := by
  induction records with
  | nil => exact .inl ⟨by simp, [], rfl⟩
  | cons record rest ih =>
      by_cases hrecord : UnreadableEvent db record
      · refine .inr ⟨⟨record, List.mem_cons_self, hrecord⟩, ?_⟩
        simp only [staleCandidates, staleCandidate_unreadable st draws false hrecord, bind, Except.bind]
      · obtain ⟨candidate, hfirst⟩ := staleCandidate_readable st draws cases hrecord
        obtain ⟨hall, candidates, hrest⟩ | ⟨⟨record', hmem, hrecord'⟩, hrest⟩ := ih
        · refine .inl ⟨List.forall_mem_cons.mpr ⟨hrecord, hall⟩, candidate :: candidates, ?_⟩
          simp only [staleCandidates, hfirst, hrest, bind, Except.bind, pure, Except.pure]
        · refine .inr ⟨⟨record', List.mem_cons_of_mem _ hmem, hrecord'⟩, ?_⟩
          simp only [staleCandidates, hfirst, hrest, bind, Except.bind]

/-- A record that is taken for stale has an event that cannot be read. -/
def Obscured (now : Time) (thresholdMinutes : Int) (db : Db) : Prop :=
  ∃ record ∈ db.records, stale now (now - seconds (60 * thresholdMinutes)) record = true ∧ UnreadableEvent db record

/-- The counts are there, or one of the thresholds cannot be computed, or an event cannot be read. -/
theorem reconciliationCounts_cases (st : Settings) (db : Db) (cases : List RecoveryCase) (now now' : Time)
    (thresholdMinutes : Int) (draws : Draws) :
    (inRange now thresholdMinutes = true ∧ inRange now' thresholdMinutes = true ∧ ¬ Obscured now' thresholdMinutes db ∧
      ∃ counts, reconciliationCounts st draws now now' thresholdMinutes db cases = .ok counts) ∨
    (inRange now thresholdMinutes = false ∨ inRange now' thresholdMinutes = false ∨ Obscured now' thresholdMinutes db) ∧
      ∃ x, reconciliationCounts st draws now now' thresholdMinutes db cases = .error x := by
  unfold reconciliationCounts transactionEventWithoutLedgerCount countStaleProcessing detectStaleProcessing
  cases fits : inRange now thresholdMinutes with
  | false =>
      rw [thresholdAt_overflow fits]
      exact .inr ⟨.inl rfl, _, rfl⟩
  | true =>
      cases fits' : inRange now' thresholdMinutes with
      | false =>
          rw [thresholdAt_of_inRange fits, thresholdAt_overflow fits']
          exact .inr ⟨.inr (.inl rfl), _, rfl⟩
      | true =>
          rw [thresholdAt_of_inRange fits, thresholdAt_of_inRange fits']
          have hstale : ∀ record, record ∈ (db.records.filter
              (stale now' (now' - seconds (60 * thresholdMinutes)))).mergeSort staleOrder ↔
              record ∈ db.records ∧ stale now' (now' - seconds (60 * thresholdMinutes)) record = true := by
            intro record
            rw [List.mem_mergeSort, List.mem_filter]
          obtain ⟨hall, candidates, hfound⟩ | ⟨⟨record, hmem, hrecord⟩, hfound⟩ := staleCandidates_false st db cases draws
            ((db.records.filter (stale now' (now' - seconds (60 * thresholdMinutes)))).mergeSort staleOrder)
          · refine .inl ⟨rfl, rfl, ?_, ?_⟩
            · rintro ⟨record, hmem, hpast, hrecord⟩
              exact hall record ((hstale record).mpr ⟨hmem, hpast⟩) hrecord
            · simp only [bind, Except.bind, pure, Except.pure, hfound, Except.map]
              exact ⟨_, rfl⟩
          · obtain ⟨hmem, hpast⟩ := (hstale record).mp hmem
            refine .inr ⟨.inr (.inr ⟨record, hmem, hpast, hrecord⟩), .valueError, ?_⟩
            simp only [bind, Except.bind, pure, Except.pure, hfound, Except.map]

theorem reconcile_error (h : reconciliationCounts st draws.toDraws now now' thresholdMinutes db cases = .error x) :
    reconcile st draws quarantineService now now' thresholdMinutes createRecoveryCases (db, cases) = .error x := by
  show Except.bind (Except.map _ (reconciliationCounts st draws.toDraws now now' thresholdMinutes db cases)) _ = _
  rw [h]
  rfl

/-- `reconcile` once it has its counts. -/
theorem reconcile_counted (h : reconciliationCounts st draws.toDraws now now' thresholdMinutes db cases = .ok counts) :
    reconcile st draws quarantineService now now' thresholdMinutes createRecoveryCases (db, cases) =
      if createRecoveryCases then (createReconciliationCases draws quarantineService counts (db, cases)).map
        fun out => ((counts, out.1), out.2)
      else .ok ((counts, []), (db, cases)) := by
  show Except.bind (Except.map _ (reconciliationCounts st draws.toDraws now now' thresholdMinutes db cases)) _ = _
  rw [h]
  cases createRecoveryCases with
  | false => rfl
  | true =>
      show Except.bind (createReconciliationCases draws quarantineService counts (db, cases)) _ = _
      cases createReconciliationCases draws quarantineService counts (db, cases) <;> rfl

/-- `reconcile` reports nothing exactly when every count is zero. -/
theorem reconcile_clean :
    (∃ s, reconcile st draws quarantineService now now' thresholdMinutes createRecoveryCases (db, cases) =
      .ok (({}, []), s)) ↔ reconciliationCounts st draws.toDraws now now' thresholdMinutes db cases = .ok {} := by
  cases hcounts : reconciliationCounts st draws.toDraws now now' thresholdMinutes db cases with
  | error x => simp [reconcile_error hcounts]
  | ok counts =>
      rw [reconcile_counted hcounts]
      constructor
      · rintro ⟨s, h⟩
        cases createRecoveryCases with
        | false => cases h; rfl
        | true =>
            cases hlinks : createReconciliationCases draws quarantineService counts (db, cases) with
            | error x =>
                rw [hlinks] at h
                cases h
            | ok out =>
                rw [hlinks] at h
                have hzero : counts = {} := congrArg (fun out => out.1.1) (Except.ok.inj h)
                rw [hzero]
      · intro h
        cases h
        cases createRecoveryCases with
        | false => exact ⟨_, rfl⟩
        | true => exact ⟨_, rfl⟩

end Reconcile

end Counts

end ReconciliationService

end EventConsistency
