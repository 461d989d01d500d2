import EventConsistency.Services.Idempotency

/-!
# Processing a transaction event

`app/services/transaction_event_service.py` with the ledger, state and quarantine services it calls.
`TransactionEventService.process` is the whole call; its `try`, `except` and `finally` blocks are
`tryCatch`, `handle` and `andFinally` on the programs of `Sql`.
-/

namespace EventConsistency

open Lib

/-! ## Repositories

All their statements are sent inside `_apply_started_request`. -/

def AccountRepository.getByAccountNoForUpdate (accountNo : String) : Py (Option Account) :=
  Py.sql .applyStartedRequest (.selectAccountForUpdate accountNo)

def AccountRepository.updateBalance (account : Account) (newBalance : Int) : Py Account :=
  Py.sql .applyStartedRequest (.updateBalance account newBalance)

def LedgerEntryRepository.getByTransactionEventId (eventId : Nat) : Py (Option LedgerEntry) :=
  Py.sql .applyStartedRequest (.selectLedger eventId)

def LedgerEntryRepository.create (transactionEventId accountId : Nat) (entryType : EntryType)
    (amount balanceAfter : Int) : Py LedgerEntry :=
  Py.sql .applyStartedRequest (.insertLedger transactionEventId accountId entryType amount balanceAfter)

/-- The row of an answer, read into an event. -/
def TransactionEventRepository.read : Option TransactionEvent → Except Exc (Option TransactionEvent)
  | none => .ok none
  | some event => if event.occurredAt.readable then .ok (some event) else .error yearRefused

theorem TransactionEventRepository.read_readable {event : TransactionEvent} (h : event.occurredAt.readable = true) :
    read (some event) = .ok (some event) := if_pos h

theorem TransactionEventRepository.read_refused {event : TransactionEvent} (h : event.occurredAt.readable = false) :
    read (some event) = .error yearRefused := if_neg (ne_true_of_eq_false h)

def TransactionEventRepository.getByExternalEventId (externalEventId : String) : Py (Option TransactionEvent) := do
  let row ← Py.sql .applyStartedRequest (.selectEvent externalEventId)
  .lift (TransactionEventRepository.read row)

def TransactionEventRepository.getOriginalForCancelForUpdate (externalEventId : String) :
    Py (Option TransactionEvent) := do
  let row ← Py.sql .applyStartedRequest (.selectEventForUpdate externalEventId)
  .lift (TransactionEventRepository.read row)

def TransactionEventRepository.createReceived (externalEventId idempotencyKey : String) (accountId : Nat)
    (eventType : EventType) (amount : Int) (currency : String) (occurredAt : Datetime) : Py TransactionEvent :=
  Py.sql .applyStartedRequest
    (.insertEvent externalEventId idempotencyKey accountId eventType amount currency occurredAt)

def QuarantineRepository.getActive (targetType targetId : String) : Py (Option QuarantineRecord) :=
  Py.sql .applyStartedRequest (.selectActiveQuarantine targetType targetId)

/-! ## Services -/

namespace TransactionStateService

/-- `change_status`: validate, add the history row and flush the new status. -/
def changeStatus (site : Site) (event : TransactionEvent) (next : TransactionStatus) (reason : Option String) :
    Py TransactionEvent := do
  .lift (TransactionStateMachine.validateTransition event.status next)
  Py.sql site (.updateEventStatus event next reason)

end TransactionStateService

namespace LedgerService

/-- `_validate_cancel_original`. -/
def validateCancelOriginal (cancel original : TransactionEvent) : Except Exc Unit :=
  if original.eventType ≠ .deposit ∧ original.eventType ≠ .withdraw then
    .error (.invalidTransactionEvent "CANCEL original must be DEPOSIT or WITHDRAW")
  else if original.status = .settled then .error .transactionAlreadySettled
  else if original.status = .cancelled then .error .transactionAlreadyCancelled
  else if original.status ≠ .completed then
    .error (.invalidTransactionEvent "CANCEL original must be COMPLETED")
  else if original.accountId ≠ cancel.accountId then
    .error (.invalidTransactionEvent "CANCEL account does not match original")
  else if original.amount ≠ cancel.amount then
    .error (.invalidTransactionEvent "CANCEL amount does not match original")
  else if original.currency ≠ cancel.currency then
    .error (.invalidTransactionEvent "CANCEL currency does not match original")
  else .ok ()

/-- The type of the original that `apply_event` computes with: none unless the event is a CANCEL. -/
def originalEventType (event : TransactionEvent) (original : Option TransactionEvent) :
    Except Exc (Option EventType) :=
  match event.eventType with
  | .cancel => match original with
    | none => .error (.invalidTransactionEvent "CANCEL requires original event")
    | some o => match validateCancelOriginal event o with
      | .error x => .error x
      | .ok () => .ok (some o.eventType)
  | _ => .ok none

/-- The checks of `apply_event`: the ledger amount and the new balance, before anything is written. -/
def ledgerAmount (account : Account) (event : TransactionEvent) (original : Option TransactionEvent) :
    Except Exc (Int × Int) :=
  match originalEventType event original with
  | .error x => .error x
  | .ok originalType => match calculateLedgerAmount event.eventType event.amount originalType with
    | .error x => .error x
    | .ok amount =>
        let newBalance := account.balance + amount
        if newBalance < 0 then .error .insufficientBalance else .ok (amount, newBalance)

def applyEvent (account : Account) (event : TransactionEvent) (original : Option TransactionEvent) :
    Py LedgerEntry := do
  let (amount, newBalance) ← Prog.lift (ledgerAmount account event original)
  let entryType := if amount > 0 then EntryType.credit else EntryType.debit
  let ledgerEntry ← LedgerEntryRepository.create event.id account.id entryType amount newBalance
  let _ ← AccountRepository.updateBalance account newBalance
  pure ledgerEntry

end LedgerService

namespace QuarantineService

def assertNotQuarantined (targetType : QuarantineTargetType) (targetId : String) : Py Unit := do
  match ← QuarantineRepository.getActive targetType.value targetId with
  | none => pure ()
  | some q => throw (.targetQuarantined targetType.value q.quarantineId)

end QuarantineService

/-- `dict(response_body or {})`. Only objects are ever stored; another value that is not falsy has no
conversion here. -/
def dictOf : Option Json → Except Exc (List (String × Json))
  | none | some .null | some (.bool false) | some (.int 0) | some (.str "") | some (.arr []) => .ok []
  | some (.obj kvs) => .ok kvs
  | some _ => .error (.typeError "cannot convert response_body to a dict")

namespace TransactionEventService

def alreadyProcessingResult : TransactionProcessingResult where
  statusCode := 202
  body := [("status", .str "PROCESSING"), ("message", .str "The same request is already being processed."),
    ("retry_after_seconds", .int 3), ("idempotency_key_status", .str "processing")]
  processed := false
  duplicated := true

def successBody (event : TransactionEvent) (ledger : LedgerEntry) (processed duplicated : Bool) :
    List (String × Json) :=
  [("event_id", .str (toString event.id)), ("external_event_id", .str event.externalEventId),
    ("status", .str event.status.value), ("processed", .bool processed), ("duplicated", .bool duplicated),
    ("balance_after", .int ledger.balanceAfter)]

def successResult (event : TransactionEvent) (ledger : LedgerEntry) (processed duplicated : Bool) :
    TransactionProcessingResult where
  statusCode := 200
  body := successBody event ledger processed duplicated
  processed := processed
  duplicated := duplicated

def errorBody (exc : Exc) : List (String × Json) :=
  [("status", .str "error"), ("code", .str exc.name), ("message", .str exc.message)]

def statusCodeForException : Exc → Nat
  | .accountNotFound | .originalTransactionNotFound => 404
  | .idempotencyConflict _ | .transactionAlreadyCancelled | .transactionAlreadySettled => 409
  | .targetQuarantined .. => 409
  | .insufficientBalance | .invalidTransactionEvent _ => 422
  | _ => 500

def isDomainFailure : Exc → Bool
  | .accountNotFound | .insufficientBalance | .invalidTransactionEvent _ | .originalTransactionNotFound
  | .targetQuarantined .. | .transactionAlreadyCancelled | .transactionAlreadySettled => true
  | _ => false

/-- `_datetimes_match`. -/
def datetimesMatch (existing incoming : Datetime) : Bool :=
  match existing.utcoffset, incoming.utcoffset with
  | some o, some o' => Datetime.timestamp (existing.wall - o) == Datetime.timestamp (incoming.wall - o')
  | _, _ => existing.wall == incoming.wall

def ensureDuplicateMatchesRequest (existing : TransactionEvent) (request : TransactionEventCreateRequest)
    (accountId : Nat) : Except Exc Unit :=
  if existing.accountId ≠ accountId then
    .error (.invalidTransactionEvent "external_event_id already exists with different account")
  else if existing.eventType ≠ request.eventType then
    .error (.invalidTransactionEvent "external_event_id already exists with different event_type")
  else if existing.amount ≠ request.amount then
    .error (.invalidTransactionEvent "external_event_id already exists with different amount")
  else if existing.currency ≠ request.currency then
    .error (.invalidTransactionEvent "external_event_id already exists with different currency")
  else if !datetimesMatch existing.occurredAt request.occurredAt then
    .error (.invalidTransactionEvent "external_event_id already exists with different occurred_at")
  else .ok ()

def duplicateResult (event : TransactionEvent) : Py TransactionProcessingResult := do
  match ← LedgerEntryRepository.getByTransactionEventId event.id with
  | none => throw (.invalidTransactionEvent "Duplicate event has no ledger entry")
  | some ledger => pure (successResult event ledger false true)

def getOriginalEventForCancel (request : TransactionEventCreateRequest) : Py (Option TransactionEvent) := do
  if request.eventType ≠ .cancel then pure none
  else match request.originalExternalEventId with
    | none => throw (.invalidTransactionEvent "CANCEL requires original_external_event_id")
    | some original =>
        match ← TransactionEventRepository.getOriginalForCancelForUpdate original with
        | none => throw .originalTransactionNotFound
        | some event => pure (some event)

/-- The part of `_apply_started_request` after `create_received`. -/
def runEvent (account : Account) (event : TransactionEvent) (original : Option TransactionEvent) :
    Py TransactionProcessingResult := do
  let site := Site.applyStartedRequest
  let event ← TransactionStateService.changeStatus site event .validated (some "basic validation succeeded")
  let event ← TransactionStateService.changeStatus site event .processing (some "ledger processing started")
  let ledger ← LedgerService.applyEvent account event original
  match event.eventType, original with
  | .cancel, some originalEvent => do
      let _ ← TransactionStateService.changeStatus site originalEvent .cancelled (some "cancel event completed")
      let event ← TransactionStateService.changeStatus site event .completed (some "ledger processing completed")
      pure (successResult event ledger true false)
  | _, _ => do
      let event ← TransactionStateService.changeStatus site event .completed (some "ledger processing completed")
      pure (successResult event ledger true false)

/-- The guard is skipped when no quarantine service is wired. -/
def checkQuarantine (svc : Service) (account : Account) : Py Unit :=
  if svc.quarantineService then QuarantineService.assertNotQuarantined .account (toString account.id)
  else pure ()

def applyStartedRequest (svc : Service) (key : String) (request : TransactionEventCreateRequest) :
    Py TransactionProcessingResult := do
  match ← AccountRepository.getByAccountNoForUpdate request.accountNo with
  | none => throw .accountNotFound
  | some account => do
      checkQuarantine svc account
      match ← TransactionEventRepository.getByExternalEventId request.externalEventId with
      | some existing => do
          .lift (ensureDuplicateMatchesRequest existing request account.id)
          duplicateResult existing
      | none => do
          let original ← getOriginalEventForCancel request
          let event ← TransactionEventRepository.createReceived request.externalEventId key account.id
            request.eventType request.amount request.currency request.occurredAt
          Prog.call (Op.setActiveEvent (some event))
          runEvent account event original

/-- The `try` of `_mark_active_event_failed`: whatever goes wrong in it is swallowed. -/
def tryMarkFailed (event : TransactionEvent) (exc : Exc) : Py Unit :=
  (TransactionStateService.changeStatus .markActiveEventFailed event .failed (some exc.message)).handle
    fun _ => pure ()

def markActiveEventFailed (exc : Exc) : Py Unit := do
  match ← Py.activeEvent with
  | none => pure ()
  | some event => if event.status = .failed then pure () else tryMarkFailed event exc

def markFailedIfDomain (exc : Exc) : Py Unit :=
  if isDomainFailure exc then markActiveEventFailed exc else pure ()

def failureResult (exc : Exc) : TransactionProcessingResult where
  statusCode := statusCodeForException exc
  body := errorBody exc
  processed := false
  duplicated := false

/-- The `except` block of `_process_started`. -/
def onFailure (svc : Service) (key : String) (payload : Json) (exc : Exc) : Py TransactionProcessingResult := do
  markFailedIfDomain exc
  let _ ← svc.fail key (statusCodeForException exc) (.obj (errorBody exc)) exc.message payload
  if isDomainFailure exc then pure (failureResult exc) else throw exc

def processStarted (svc : Service) (key : String) (request : TransactionEventCreateRequest) (payload : Json) :
    Py TransactionProcessingResult :=
  (tryCatch
    (do
      Prog.call (Op.setActiveEvent none)
      let result ← applyStartedRequest svc key request
      let _ ← svc.complete key result.statusCode (.obj result.body) payload
      pure result)
    (onFailure svc key payload)).andFinally (Prog.call (Op.setActiveEvent none))

def replayResult (responseCode : Option Nat) (responseBody : Option Json) (default : Nat) :
    Except Exc TransactionProcessingResult :=
  match dictOf responseBody with
  | .error x => .error x
  | .ok body => .ok ⟨codeOr responseCode default, body, false, true⟩

/-- The body of `with self.session.begin()`. -/
def attemptBody (svc : Service) (key : String) (request : TransactionEventCreateRequest) :
    Py TransactionProcessingResult := do
  let payload := request.modelDump
  let idem ← svc.checkOrStart key payload
  match idem.decision with
  | .alreadyProcessing => pure alreadyProcessingResult
  | .replayCompleted => .lift (replayResult idem.responseCode idem.responseBody 200)
  | .replayFailed => .lift (replayResult idem.responseCode idem.responseBody 422)
  | .started => processStarted svc key request payload

/-- `with session.begin(): return body`: commit on return, roll back on an exception of the body or of
the commit. -/
def withBegin (body : Py TransactionProcessingResult) : Py TransactionProcessingResult :=
  body.handle fun
    | .ok reply => do
        tryCatch (Prog.call (Op.commit reply)) (fun x => do Prog.call Op.rollback; throw x)
        pure reply
    | .error x => do
        Prog.call Op.rollback
        throw x

/-- `for attempt in range(2)`. -/
def attempts (svc : Service) (key : String) (request : TransactionEventCreateRequest) :
    List Nat → Py TransactionProcessingResult
  | [] => throw (.runtimeError "unreachable transaction retry state")
  | attempt :: rest =>
      tryCatch (withBegin (attemptBody svc key request)) fun
        | .integrityError => do
            Prog.call Op.rollback
            if attempt ≥ 1 then throw .integrityError
            else do
              Prog.call Op.recordRetry
              attempts svc key request rest
        | x => do
            Prog.call Op.rollback
            throw x

def processWithDbFallback (svc : Service) (key : String) (request : TransactionEventCreateRequest) :
    Py TransactionProcessingResult :=
  attempts svc key request [0, 1]

/-- The `finally` of `process`: release exactly the token that was acquired. -/
def releaseLock (lockKey : String) (lockResult : RedisLockResult) : Py Unit :=
  if lockResult.acquired then Py.lockRelease lockKey lockResult.token else pure ()

def process (svc : Service) (key : String) (request : TransactionEventCreateRequest) :
    Py TransactionProcessingResult :=
  if svc.redisLock then do
    let lockKey := idempotencyLockKey svc key
    let lockResult ← Py.lockAcquire lockKey
    if lockResult.redisAvailable && !lockResult.acquired then pure alreadyProcessingResult
    else (processWithDbFallback svc key request).andFinally (releaseLock lockKey lockResult)
  else processWithDbFallback svc key request

end TransactionEventService

end EventConsistency
