import EventConsistency.Growth

/-!
# What a call can commit

`Committed st opts w hit init db key request work reply` : a call that commits the changes `work` on the
database `db` and returns `reply` does one of six things. It replays a stored answer, from the record of its
key or from the cache entry it has `hit`; it refuses the request with a FAILED record; it answers a known
event with its first result; it records a failed event; or it applies the event to the ledger. Each case
carries what the call has read, as it still stands in `db` when it commits.
-/

namespace EventConsistency

open Lib TransactionEventService

def requestHash (st : Settings) (request : TransactionEventCreateRequest) : String :=
  generateRequestHash st.sha256 request.modelDump

/-! ## Rows that a call writes -/

def completedRecord (rec : IdempotencyRecord) (reply : TransactionProcessingResult) (t : Time) :
    IdempotencyRecord :=
  { rec with
    status := .completed, responseCode := some reply.statusCode, responseBody := some (.obj reply.body)
    completedAt := some t, updatedAt := t, lockedUntil := none }

def failedRecord (rec : IdempotencyRecord) (x : Exc) (t : Time) : IdempotencyRecord :=
  { rec with
    status := .failed, responseCode := some (statusCodeForException x), responseBody := some (.obj (errorBody x))
    errorMessage := some x.message, updatedAt := t, lockedUntil := none }

def receivedEvent (key : String) (request : TransactionEventCreateRequest) (account : Account) (id : Nat)
    (t : Time) : TransactionEvent where
  id := id
  externalEventId := request.externalEventId
  idempotencyKey := key
  accountId := account.id
  eventType := request.eventType
  amount := request.amount
  currency := request.currency
  status := .received
  occurredAt := request.occurredAt
  createdAt := t
  updatedAt := t

/-- The event after a change of its status in the transaction that started at `t`. -/
def withStatus (e : TransactionEvent) (status : TransactionStatus) (t : Time) : TransactionEvent :=
  { e with status := status, updatedAt := t }

@[simp] theorem withStatus_withStatus (e : TransactionEvent) (s s' : TransactionStatus) (t t' : Time) :
    withStatus (withStatus e s t) s' t' = withStatus e s' t' := rfl

/-- The history row of a change of status. -/
def historyRow (id : Nat) (e : TransactionEvent) (old new : TransactionStatus) (reason : String) (t : Time) :
    EventStateHistory :=
  ⟨id, e.id, some old, new, some reason, t⟩

def validatedRow (id : Nat) (e : TransactionEvent) (t : Time) : EventStateHistory :=
  historyRow id e .received .validated "basic validation succeeded" t

def processingRow (id : Nat) (e : TransactionEvent) (t : Time) : EventStateHistory :=
  historyRow id e .validated .processing "ledger processing started" t

def failedRow (id : Nat) (e : TransactionEvent) (x : Exc) (t : Time) : EventStateHistory :=
  historyRow id e .processing .failed x.message t

def cancelledRow (id : Nat) (e : TransactionEvent) (t : Time) : EventStateHistory :=
  historyRow id e .completed .cancelled "cancel event completed" t

def completedRow (id : Nat) (e : TransactionEvent) (t : Time) : EventStateHistory :=
  historyRow id e .processing .completed "ledger processing completed" t

def ledgerRow (id : Nat) (e : TransactionEvent) (account : Account) (amount newBalance : Int) (t : Time) :
    LedgerEntry :=
  ⟨id, e.id, account.id, if amount > 0 then .credit else .debit, amount, newBalance, t⟩

/-! ## What a call knows -/

/-- The record that the call has inserted for its key. -/
structure Opened (st : Settings) (db : Db) (key : String) (request : TransactionEventCreateRequest)
    (rec : IdempotencyRecord) : Prop where
  absent : db.recordByKey key = none
  fresh : ∀ r ∈ db.records, r.id ≠ rec.id
  key_eq : rec.idempotencyKey = key
  hash_eq : rec.requestHash = requestHash st request
  status_eq : rec.status = .processing
  message_eq : rec.errorMessage = none

/-- The account of the request, locked, and not quarantined as far as quarantines are fixed. -/
structure Located (opts : Opts) (w : Wiring) (db : Db) (request : TransactionEventCreateRequest) (a : Account) :
    Prop where
  found : db.accountByNo request.accountNo = some a
  clear : opts.quarantines = false → w.quarantineService = true →
    db.activeQuarantine "ACCOUNT" (toString a.id) = none
  sent : hasNul request.accountNo = false

/-- The original that a CANCEL names, locked; no other type has one. -/
inductive Original (db : Db) (request : TransactionEventCreateRequest) : Option TransactionEvent → Prop where
  | none (h : request.eventType ≠ .cancel) : Original db request none
  | some {x : String} {o : TransactionEvent} (h : request.eventType = .cancel)
      (hx : request.originalExternalEventId = some x) (ho : db.eventByExternalId x = some o)
      (hs : hasNul x = false) (hr : o.occurredAt.readable = true) : Original db request (some o)

/-- The event row that the call has inserted. -/
structure Created (db : Db) (key : String) (request : TransactionEventCreateRequest) (a : Account)
    (ev : TransactionEvent) (t : Time) : Prop where
  row : ev = receivedEvent key request a ev.id t
  absent : db.eventByExternalId request.externalEventId = none
  fresh : ∀ e ∈ db.events, e.id ≠ ev.id
  noLedger : ∀ r ∈ db.ledger, r.transactionEventId ≠ ev.id
  noHistory : ∀ h ∈ db.histories, h.transactionEventId ≠ ev.id
  fits : fitsEvent request.amount request.occurredAt = true
  sent : hasNul request.externalEventId = false ∧ hasNul request.currency = false

/-- History rows the call has inserted, in order. -/
structure NewHistories (db : Db) (hs : List EventStateHistory) : Prop where
  sorted : hs.Pairwise (fun h h' => h.id < h'.id)
  fresh : ∀ n ∈ hs, ∀ h ∈ db.histories, h.id ≠ n.id
  after : ∀ n ∈ hs, ∀ h ∈ db.histories, h.transactionEventId = n.transactionEventId → h.id < n.id

/-- The ledger row that the call has inserted. -/
structure NewLedger (db : Db) (r : LedgerEntry) : Prop where
  fresh : ∀ x ∈ db.ledger, x.id ≠ r.id
  after : ∀ x ∈ db.ledger, x.accountId = r.accountId → x.id < r.id
  fits : fitsBigInteger r.amount = true ∧ fitsBigInteger r.balanceAfter = true

/-- Why a request is refused before its event is created. `init` is the database at the start: an original
that was missing when it was looked for was missing then, too. -/
inductive Refusal (opts : Opts) (w : Wiring) (init db : Db) (request : TransactionEventCreateRequest) :
    Exc → Prop where
  | account (h : db.accountByNo request.accountNo = none) (hs : hasNul request.accountNo = false) :
      Refusal opts w init db request .accountNotFound
  | quarantined {a : Account} {q : QuarantineRecord} (ha : db.accountByNo request.accountNo = some a)
      (hw : w.quarantineService = true)
      (hq : opts.quarantines = false → db.activeQuarantine "ACCOUNT" (toString a.id) = some q)
      (hs : hasNul request.accountNo = false) :
      Refusal opts w init db request (.targetQuarantined "ACCOUNT" q.quarantineId)
  | mismatch {a : Account} {e : TransactionEvent} {x : Exc} (hl : Located opts w db request a)
      (he : db.eventByExternalId request.externalEventId = some e)
      (hx : ensureDuplicateMatchesRequest e request a.id = .error x) (hs : hasNul request.externalEventId = false)
      (hread : e.occurredAt.readable = true) :
      Refusal opts w init db request x
  | noLedger {a : Account} {e : TransactionEvent} (hl : Located opts w db request a)
      (he : db.eventByExternalId request.externalEventId = some e)
      (hx : ensureDuplicateMatchesRequest e request a.id = .ok ()) (hn : db.ledgerByEventId e.id = none)
      (hs : hasNul request.externalEventId = false) (hread : e.occurredAt.readable = true) :
      Refusal opts w init db request (.invalidTransactionEvent "Duplicate event has no ledger entry")
  | original {a : Account} {x : String} (hl : Located opts w db request a) (hc : request.eventType = .cancel)
      (hx : request.originalExternalEventId = some x)
      (he : init.eventByExternalId request.externalEventId = none) (ho : init.eventByExternalId x = none)
      (hs : hasNul request.externalEventId = false) (hs' : hasNul x = false) :
      Refusal opts w init db request .originalTransactionNotFound

/-- The answer that the record of a key gives to its own request. -/
def Replayed (r : IdempotencyRecord) (reply : TransactionProcessingResult) : Prop :=
  match r.status with
  | .processing => reply = alreadyProcessingResult
  | .completed => replayResult r.responseCode r.responseBody 200 = .ok reply
  | .failed => replayResult r.responseCode r.responseBody 422 = .ok reply

/-! ## The changes of a transaction -/

def refusedWork (rec : IdempotencyRecord) : Overlay := { records := ⟨[], [rec]⟩ }

def eventWork (rec : IdempotencyRecord) (ev : TransactionEvent) (hs : List EventStateHistory) : Overlay :=
  { records := ⟨[], [rec]⟩, events := ⟨[], [ev]⟩, histories := ⟨[], hs⟩ }

def appliedWork (rec : IdempotencyRecord) (ev : TransactionEvent) (cancelled : List TransactionEvent)
    (hs : List EventStateHistory) (a : Account) (r : LedgerEntry) : Overlay where
  records := ⟨[], [rec]⟩
  events := ⟨cancelled, [ev]⟩
  histories := ⟨[], hs⟩
  accounts := ⟨[a], []⟩
  ledger := ⟨[], [r]⟩

def cancelledRows (orig : Option TransactionEvent) (t : Time) : List TransactionEvent :=
  orig.toList.map fun o => withStatus o .cancelled t

def failedHistories (ev : TransactionEvent) (x : Exc) (i₁ i₂ i₃ : Nat) (t : Time) : List EventStateHistory :=
  [validatedRow i₁ ev t, processingRow i₂ ev t, failedRow i₃ ev x t]

def appliedHistories (ev : TransactionEvent) (orig : Option TransactionEvent) (i₁ i₂ i₃ i₄ : Nat) (t : Time) :
    List EventStateHistory :=
  [validatedRow i₁ ev t, processingRow i₂ ev t] ++ (orig.toList.map fun o => cancelledRow i₃ o t)
    ++ [completedRow i₄ ev t]

@[simp] theorem refusedWork_apply (rec : IdempotencyRecord) (db : Db) :
    (refusedWork rec).apply db = { db with records := db.records ++ [rec] } := by
  simp [Overlay.apply, refusedWork]

@[simp] theorem eventWork_apply (rec : IdempotencyRecord) (ev : TransactionEvent) (hs : List EventStateHistory)
    (db : Db) : (eventWork rec ev hs).apply db =
      { db with
        records := db.records ++ [rec], events := db.events ++ [ev], histories := db.histories ++ hs } := by
  simp [Overlay.apply, eventWork]

/-- The events after an applied one: the original, if there is one, in its new version, and the new event. -/
def appliedEvents (orig : Option TransactionEvent) (t : Time) (ev : TransactionEvent) (events : List TransactionEvent) :
    List TransactionEvent :=
  (match orig with
    | none => events
    | some o => Delta.replace (withStatus o .cancelled t) events) ++ [ev]

@[simp] theorem appliedWork_apply (rec : IdempotencyRecord) (ev : TransactionEvent) (orig : Option TransactionEvent)
    (t : Time) (hs : List EventStateHistory) (a : Account) (r : LedgerEntry) (db : Db) :
    (appliedWork rec ev (cancelledRows orig t) hs a r).apply db =
      { db with
        records := db.records ++ [rec], events := appliedEvents orig t ev db.events
        histories := db.histories ++ hs, accounts := Delta.replace a db.accounts, ledger := db.ledger ++ [r] } := by
  cases orig with
  | none => simp [Overlay.apply, appliedWork, cancelledRows, appliedEvents, Delta.apply_updated]
  | some o => simp [Overlay.apply, appliedWork, cancelledRows, appliedEvents, Delta.apply_updated]

/-- What a call can commit on `db`, and what it then returns. -/
inductive Committed (st : Settings) (opts : Opts) (w : Wiring) (hit : Option CacheEntry) (init db : Db)
    (key : String) (request : TransactionEventCreateRequest) : Overlay → TransactionProcessingResult → Prop where
  | replay {r : IdempotencyRecord} {reply : TransactionProcessingResult}
      (hr : opts.deletes = false → db.recordByKey key = some r) (hh : r.requestHash = requestHash st request)
      (h : Replayed r reply) : Committed st opts w hit init db key request {} reply
  | cached {e : CacheEntry} {reply : TransactionProcessingResult} (hw : w.responseCache = true)
      (he : hit = some e) (hh : e.response.requestHash = requestHash st request)
      (h : replayResult (some e.response.responseCode) e.response.responseBody 200 = .ok reply) :
      Committed st opts w hit init db key request {} reply
  | refused {rec : IdempotencyRecord} {x : Exc} {t : Time} (ho : Opened st db key request rec)
      (h : Refusal opts w init db request x) :
      Committed st opts w hit init db key request (refusedWork (failedRecord rec x t)) (failureResult x)
  | duplicate {rec : IdempotencyRecord} {a : Account} {e : TransactionEvent} {r : LedgerEntry} {t : Time}
      (ho : Opened st db key request rec) (hl : Located opts w db request a)
      (he : db.eventByExternalId request.externalEventId = some e)
      (hx : ensureDuplicateMatchesRequest e request a.id = .ok ()) (hr : db.ledgerByEventId e.id = some r)
      (hs : hasNul request.externalEventId = false) (hread : e.occurredAt.readable = true) :
      Committed st opts w hit init db key request
        (refusedWork (completedRecord rec (successResult e r false true) t)) (successResult e r false true)
  | failed {rec : IdempotencyRecord} {a : Account} {orig : Option TransactionEvent} {ev : TransactionEvent}
      {x : Exc} {i₁ i₂ i₃ : Nat} {t t' : Time} (ho : Opened st db key request rec)
      (hl : Located opts w db request a) (hr : Original db request orig) (hc : Created db key request a ev t)
      (hh : NewHistories db (failedHistories ev x i₁ i₂ i₃ t))
      (hx : LedgerService.ledgerAmount a ev orig = .error x) :
      Committed st opts w hit init db key request
        (eventWork (failedRecord rec x t') (withStatus ev .failed t) (failedHistories ev x i₁ i₂ i₃ t))
        (failureResult x)
  | applied {rec : IdempotencyRecord} {a : Account} {orig : Option TransactionEvent} {ev : TransactionEvent}
      {amount newBalance : Int} {i i₁ i₂ i₃ i₄ : Nat} {t t' : Time} (ho : Opened st db key request rec)
      (hl : Located opts w db request a) (hr : Original db request orig) (hc : Created db key request a ev t)
      (hx : LedgerService.ledgerAmount a ev orig = .ok (amount, newBalance))
      (hh : NewHistories db (appliedHistories ev orig i₁ i₂ i₃ i₄ t))
      (hn : NewLedger db (ledgerRow i ev a amount newBalance t)) :
      Committed st opts w hit init db key request
        (appliedWork (completedRecord rec
            (successResult (withStatus ev .completed t) (ledgerRow i ev a amount newBalance t) true false) t')
          (withStatus ev .completed t) (cancelledRows orig t) (appliedHistories ev orig i₁ i₂ i₃ i₄ t)
          { a with balance := newBalance } (ledgerRow i ev a amount newBalance t))
        (successResult (withStatus ev .completed t) (ledgerRow i ev a amount newBalance t) true false)

/-- A commit that writes nothing repeats the record of its key or the cache entry it has read. -/
theorem Committed.unwritten {st : Settings} {opts : Opts} {w : Wiring} {hit : Option CacheEntry} {init db : Db}
    {key : String} {request : TransactionEventCreateRequest} {reply : TransactionProcessingResult}
    (h : Committed st opts w hit init db key request {} reply) (hd : opts.deletes = false) :
    (∃ r, db.recordByKey key = some r ∧ r.requestHash = requestHash st request ∧ Replayed r reply) ∨
      ∃ e, w.responseCache = true ∧ hit = some e ∧ e.response.requestHash = requestHash st request ∧
        replayResult (some e.response.responseCode) e.response.responseBody 200 = .ok reply := by
  generalize hW : ({} : Overlay) = W at h
  cases h with
  | replay hr hh h => exact Or.inl ⟨_, hr hd, hh, h⟩
  | cached hc he hh h => exact Or.inr ⟨_, hc, he, hh, h⟩
  | refused _ _ => cases hW
  | duplicate _ _ _ _ _ _ => cases hW
  | failed _ _ _ _ _ _ => cases hW
  | applied _ _ _ _ _ _ _ => cases hW

end EventConsistency
