import EventConsistency.Models
import EventConsistency.Lib.Prog

/-!
# Statements, sessions and their execution

* `Stmt` : the queries and flushes that the repositories send, one constructor each; `Site` is the service
  method that sends one;
* `Op` : what a call does step by step: statements, commit and rollback, its own `_active_event`, the clock,
  and the Redis lock and response cache;
* `Session` : the state of one call, with its open transaction (`work`, row locks) and SQLAlchemy's failed
  state, and the log of the statement failures it has met;
* `Shared` : PostgreSQL and Redis as all calls see them;
* `exec` : one operation under READ COMMITTED: a statement sees the committed rows of the moment overlaid
  with the transaction's own changes;
* `blocked` : when a statement has to wait for another transaction: a row lock held to commit, or an
  uncommitted insert of the same unique key.
-/

namespace EventConsistency

open Lib

/-- The method that sends a statement. -/
inductive Site where
  | checkOrStart
  | applyStartedRequest
  | complete
  | markActiveEventFailed
  | fail
  | commit
  deriving DecidableEq, Repr

/-- One query or one flush. -/
inductive Stmt where
  | selectRecord (key : String)
  | insertRecord (key requestHash : String) (expiresAt lockedUntil : Time)
  | updateRecord (record : IdempotencyRecord)
  | selectAccountForUpdate (accountNo : String)
  | selectActiveQuarantine (targetType targetId : String)
  | selectEvent (externalEventId : String)
  | selectEventForUpdate (externalEventId : String)
  | insertEvent (externalEventId idempotencyKey : String) (accountId : Nat) (eventType : EventType)
      (amount : Int) (currency : String) (occurredAt : Datetime)
  | updateEventStatus (event : TransactionEvent) (status : TransactionStatus) (reason : Option String)
  | selectLedger (eventId : Nat)
  | insertLedger (transactionEventId accountId : Nat) (entryType : EntryType) (amount balanceAfter : Int)
  | updateBalance (account : Account) (balance : Int)

/-- What a statement gives back: the row or rows read, or the object flushed. -/
def Stmt.Res : Stmt → Type
  | selectRecord _ => Option IdempotencyRecord
  | insertRecord .. => IdempotencyRecord
  | updateRecord _ => IdempotencyRecord
  | selectAccountForUpdate _ => Option Account
  | selectActiveQuarantine .. => Option QuarantineRecord
  | selectEvent _ => Option TransactionEvent
  | selectEventForUpdate _ => Option TransactionEvent
  | insertEvent .. => TransactionEvent
  | updateEventStatus .. => TransactionEvent
  | selectLedger _ => Option LedgerEntry
  | insertLedger .. => LedgerEntry
  | updateBalance .. => Account

/-- Does the text hold a NUL? -/
def hasNul (text : String) : Bool := text.toList.contains (Char.ofNat 0)

/-- The texts of the request's body that a statement carries. The key comes from an HTTP header and the other texts from
the database, neither of which holds a NUL, or they are the services' own. -/
def Stmt.texts : Stmt → List String
  | .selectAccountForUpdate accountNo => [accountNo]
  | .selectEvent externalEventId => [externalEventId]
  | .selectEventForUpdate externalEventId => [externalEventId]
  | .insertEvent externalEventId _ _ _ _ currency _ => [externalEventId, currency]
  | _ => []

/-- psycopg2 takes the texts of the statement: none of them holds a NUL. -/
def Stmt.sendable (stmt : Stmt) : Bool := stmt.texts.all fun text => !hasNul text

/-- The statement is a flush. -/
def Stmt.flushes : Stmt → Bool
  | .insertRecord .. | .updateRecord _ | .insertEvent .. | .updateEventStatus .. | .insertLedger .. => true
  | .updateBalance .. => true
  | _ => false

/-- What psycopg2 raises for a text that it does not take. -/
def nulRefused : Exc := .valueError "A string literal cannot contain NUL (0x00) characters."

/-- What psycopg2 raises for the row of a time that it cannot read. -/
def yearRefused : Exc := .valueError "year 0 is out of range"

/-- `RedisLockResult`. -/
structure RedisLockResult where
  acquired : Bool
  token : Option Nat
  redisAvailable : Bool
  deriving DecidableEq, Repr

/-- `CachedIdempotencyResponse`. -/
structure CachedIdempotencyResponse where
  requestHash : String
  responseCode : Nat
  responseBody : Option Json
  deriving DecidableEq

/-- One step of a call. `commit` carries the result that the call returns once the commit is done, `cacheSet` the method
that sets the entry. -/
inductive Op where
  | sql (site : Site) (stmt : Stmt)
  | commit (reply : TransactionProcessingResult)
  | rollback
  | now
  | setActiveEvent (event : Option TransactionEvent)
  | activeEvent
  | recordRetry
  | lockAcquire (key : String)
  | lockRelease (key : String) (token : Option Nat)
  | cacheGet (key : String)
  | cacheSet (site : Site) (key : String) (response : CachedIdempotencyResponse)

def Op.Res : Op → Type
  | sql _ stmt => stmt.Res
  | commit _ => Unit
  | rollback => Unit
  | now => Time
  | setActiveEvent _ => Unit
  | activeEvent => Option TransactionEvent
  | recordRetry => Unit
  | lockAcquire _ => RedisLockResult
  | lockRelease .. => Unit
  | cacheGet _ => Option CachedIdempotencyResponse
  | cacheSet .. => Unit

/-- How the collaborators of a call are built: whether `build_idempotency_service` wraps the idempotency
service in the response cache, whether there is a Redis lock, and whether quarantines are checked. -/
structure Wiring where
  responseCache : Bool := false
  redisLock : Bool := false
  quarantineService : Bool := true
  deriving DecidableEq, Repr

/-- An entry of the response cache, with the call that wrote it and the method that did. -/
structure CacheEntry where
  response : CachedIdempotencyResponse
  writer : Nat
  site : Site
  deriving DecidableEq

/-- A committed transaction: the call, the cache entry it had read, its changes and the result it returns. -/
structure Commit where
  tid : Nat
  wiring : Wiring
  key : String
  request : TransactionEventCreateRequest
  cacheHit : Option CacheEntry
  work : Overlay
  reply : TransactionProcessingResult

/-- The next value of each primary-key sequence; sequences are not rolled back. -/
structure Sequences where
  event : Nat := 1
  ledger : Nat := 1
  history : Nat := 1
  record : Nat := 1
  deriving DecidableEq, Repr

/-- PostgreSQL, Redis and the clock. `init` is the database at the start and `log` the commits since,
in order; neither is read by any operation. -/
structure Shared where
  db : Db
  seqs : Sequences
  clock : Time
  locks : List (String × Nat) := []
  nextToken : Nat := 0
  cache : List (String × CacheEntry) := []
  init : Db
  log : List Commit := []

/-- One call: who it is, its open transaction, and what has gone wrong so far. -/
structure Session where
  tid : Nat
  wiring : Wiring
  key : String
  request : TransactionEventCreateRequest
  work : Overlay := {}
  accountLocks : List Nat := []
  eventLocks : List Nat := []
  /-- `now()` of the open transaction. -/
  startedAt : Option Time := none
  /-- A flush or the connection failed and `rollback()` was not called yet. -/
  failed : Bool := false
  activeEvent : Option TransactionEvent := none
  /-- The count this call adds to the `integrity_conflict` retry metric. -/
  retries : Nat := 0
  /-- Every statement of the call that PostgreSQL refused, and every flush that the driver did, with the exception. -/
  faults : List (Site × Exc) := []
  /-- The cache entry this call has read, and the one it has written. -/
  cacheHit : Option CacheEntry := none
  cacheWrote : Option CacheEntry := none

namespace Session

/-- The first statement of a transaction fixes its `now()`. -/
def begin (l : Session) (clock : Time) : Session := { l with startedAt := some (l.startedAt.getD clock) }

/-- `now()` inside the transaction. -/
def txnNow (l : Session) (clock : Time) : Time := l.startedAt.getD clock

/-- The end of a transaction without commit: its changes and row locks are gone. -/
def discard (l : Session) : Session :=
  { l with work := {}, accountLocks := [], eventLocks := [], startedAt := none }

/-- A refused statement: PostgreSQL rolls the transaction back and the session stays failed. -/
def fail (l : Session) (site : Site) (x : Exc) : Session :=
  { l.discard with failed := true, faults := l.faults ++ [(site, x)] }

/-- A statement that psycopg2 does not send: a query leaves the session as it is, a flush leaves it failed. -/
def unsent (l : Session) (site : Site) (stmt : Stmt) : Session :=
  if stmt.flushes then l.fail site nulRefused else l

end Session

/-- A `BigInteger` column holds signed 64-bit values. -/
def fitsBigInteger (n : Int) : Bool := decide (-(2 ^ 63) ≤ n) && decide (n < 2 ^ 63)

/-- The columns of an event hold the amount and the time. -/
def fitsEvent (amount : Int) (occurredAt : Datetime) : Bool := fitsBigInteger amount && occurredAt.zoneFits

/-- A statement that PostgreSQL receives, on a healthy connection and a session that has not failed. -/
def runStmt : (s : Stmt) → Shared → Session → Except Exc (s.Res × Shared × Session)
  | .selectRecord key, sh, l => .ok ((l.work.apply sh.db).recordByKey key, sh, l)
  | .insertRecord key requestHash expiresAt lockedUntil, sh, l =>
      if ((l.work.apply sh.db).recordByKey key).isSome then .error .integrityError
      else
        let row : IdempotencyRecord :=
          { id := sh.seqs.record, idempotencyKey := key, requestHash := requestHash, status := .processing,
            createdAt := l.txnNow sh.clock, updatedAt := l.txnNow sh.clock, lockedUntil := some lockedUntil,
            expiresAt := some expiresAt }
        .ok (row, { sh with seqs := { sh.seqs with record := sh.seqs.record + 1 } },
          { l with work := { l.work with records := l.work.records.insert row } })
  | .updateRecord record, sh, l =>
      .ok (record, sh, { l with work := { l.work with records := l.work.records.update record } })
  | .selectAccountForUpdate accountNo, sh, l =>
      match (l.work.apply sh.db).accountByNo accountNo with
      | none => .ok (none, sh, l)
      | some account => .ok (some account, sh, { l with accountLocks := l.accountLocks.insert account.id })
  | .selectActiveQuarantine targetType targetId, sh, l =>
      .ok (sh.db.activeQuarantine targetType targetId, sh, l)
  | .selectEvent externalEventId, sh, l => .ok ((l.work.apply sh.db).eventByExternalId externalEventId, sh, l)
  | .selectEventForUpdate externalEventId, sh, l =>
      match (l.work.apply sh.db).eventByExternalId externalEventId with
      | none => .ok (none, sh, l)
      | some event => .ok (some event, sh, { l with eventLocks := l.eventLocks.insert event.id })
  | .insertEvent externalEventId idempotencyKey accountId eventType amount currency occurredAt, sh, l =>
      if !fitsEvent amount occurredAt then .error .dataError
      else if ((l.work.apply sh.db).eventByExternalId externalEventId).isSome then .error .integrityError
      else
        let row : TransactionEvent :=
          { id := sh.seqs.event, externalEventId := externalEventId, idempotencyKey := idempotencyKey,
            accountId := accountId, eventType := eventType, amount := amount, currency := currency,
            status := .received, occurredAt := occurredAt, createdAt := l.txnNow sh.clock,
            updatedAt := l.txnNow sh.clock }
        .ok (row, { sh with seqs := { sh.seqs with event := sh.seqs.event + 1 } },
          { l with work := { l.work with events := l.work.events.insert row } })
  | .updateEventStatus event status reason, sh, l =>
      -- one flush: the history row is inserted and the status column updated; the identity map has one
      -- object for each row, so `_active_event` sees the new status
      let history : EventStateHistory :=
        { id := sh.seqs.history, transactionEventId := event.id, oldStatus := some event.status,
          newStatus := status, reason := reason, createdAt := l.txnNow sh.clock }
      let row := { event with status := status, updatedAt := l.txnNow sh.clock }
      .ok (row, { sh with seqs := { sh.seqs with history := sh.seqs.history + 1 } },
        { l with
          work := { l.work with
            events := l.work.events.update row
            histories := l.work.histories.insert history }
          activeEvent := l.activeEvent.map (fun a => if a.id = event.id then row else a)
          eventLocks := if l.work.events.inserted.any (fun e => e.id == event.id) then l.eventLocks
            else l.eventLocks.insert event.id })
  | .selectLedger eventId, sh, l => .ok ((l.work.apply sh.db).ledgerByEventId eventId, sh, l)
  | .insertLedger transactionEventId accountId entryType amount balanceAfter, sh, l =>
      if !fitsBigInteger amount || !fitsBigInteger balanceAfter then .error .dataError
      else if ((l.work.apply sh.db).ledgerByEventId transactionEventId).isSome then .error .integrityError
      else
        let row : LedgerEntry :=
          { id := sh.seqs.ledger, transactionEventId := transactionEventId, accountId := accountId,
            entryType := entryType, amount := amount, balanceAfter := balanceAfter,
            createdAt := l.txnNow sh.clock }
        .ok (row, { sh with seqs := { sh.seqs with ledger := sh.seqs.ledger + 1 } },
          { l with work := { l.work with ledger := l.work.ledger.insert row } })
  | .updateBalance account balance, sh, l =>
      if !fitsBigInteger balance then .error .dataError
      else
        let row := { account with balance := balance }
        .ok (row, sh, { l with
          work := { l.work with accounts := l.work.accounts.update row }
          accountLocks := l.accountLocks.insert account.id })

/-- One operation. `fault` is the environment's choice: PostgreSQL is lost at a statement or at the commit,
or Redis fails. -/
def exec (fault : Bool) : (o : Op) → Shared → Session → Except Exc o.Res × Shared × Session
  | .sql site stmt, sh, l =>
      if l.failed then (.error .pendingRollbackError, sh, l)
      -- the first statement of a transaction asks for a connection before psycopg2 sees its texts
      else if fault && (l.startedAt.isNone || stmt.sendable) then
        (.error .operationalError, sh, l.fail site .operationalError)
      else if !stmt.sendable then (.error nulRefused, sh, l.unsent site stmt)
      else match runStmt stmt sh (l.begin sh.clock) with
        | .ok (r, sh', l') => (.ok r, sh', l')
        | .error x => (.error x, sh, l.fail site x)
  | .commit reply, sh, l =>
      -- leaving `with session.begin()` with a failed transaction closes it without a word
      if l.failed then (.ok (), sh, { l.discard with failed := false })
      else if fault then (.error .operationalError, sh, l.fail .commit .operationalError)
      else (.ok (), { sh with
          db := l.work.apply sh.db
          log := sh.log ++ [⟨l.tid, l.wiring, l.key, l.request, l.cacheHit, l.work, reply⟩] },
        l.discard)
  | .rollback, sh, l => (.ok (), sh, { l.discard with failed := false })
  | .now, sh, l => (.ok sh.clock, sh, l)
  | .setActiveEvent event, sh, l => (.ok (), sh, { l with activeEvent := event })
  | .activeEvent, sh, l => (.ok l.activeEvent, sh, l)
  | .recordRetry, sh, l => (.ok (), sh, { l with retries := l.retries + 1 })
  | .lockAcquire key, sh, l =>
      if fault then (.ok { acquired := false, token := none, redisAvailable := false }, sh, l)
      else if (sh.locks.lookup key).isSome then
        (.ok { acquired := false, token := none, redisAvailable := true }, sh, l)
      else (.ok { acquired := true, token := some sh.nextToken, redisAvailable := true },
        { sh with locks := (key, sh.nextToken) :: sh.locks, nextToken := sh.nextToken + 1 }, l)
  | .lockRelease key token, sh, l =>
      -- the script deletes the key only while it still holds the caller's token
      if fault || token.isNone || sh.locks.lookup key != token then (.ok (), sh, l)
      else (.ok (), { sh with locks := sh.locks.filter (fun kv => kv.1 != key) }, l)
  | .cacheGet key, sh, l =>
      match if fault then none else sh.cache.lookup key with
      | none => (.ok none, sh, l)
      | some e => (.ok (some e.response), sh, { l with cacheHit := some e })
  | .cacheSet site key response, sh, l =>
      if fault then (.ok (), sh, l)
      else
        let e : CacheEntry := { response := response, writer := l.tid, site := site }
        (.ok (), { sh with cache := (key, e) :: sh.cache.filter (fun kv => kv.1 != key) },
          { l with cacheWrote := some e })

/-- A statement fails, which leaves the session as it was or failed, or PostgreSQL answers it. -/
theorem exec_sql_cases {fault : Bool} {site : Site} {stmt : Stmt} {sh sh' : Shared} {l l' : Session}
    {r : Except Exc stmt.Res} (h : exec fault (.sql site stmt) sh l = (r, sh', l')) :
    (∃ x, r = .error x ∧ sh' = sh ∧ (l' = l ∨ l' = l.fail site x)) ∨
      l.failed = false ∧ fault = false ∧ stmt.sendable = true ∧
        ∃ a, r = .ok a ∧ runStmt stmt sh (l.begin sh.clock) = .ok (a, sh', l') := by
  simp only [exec] at h
  split at h
  · cases h
    exact Or.inl ⟨_, rfl, rfl, Or.inl rfl⟩
  · rename_i hok
    split at h
    · cases h
      exact Or.inl ⟨_, rfl, rfl, Or.inr rfl⟩
    · rename_i hfault
      split at h
      · cases h
        refine Or.inl ⟨_, rfl, rfl, ?_⟩
        unfold Session.unsent
        split
        · exact Or.inr rfl
        · exact Or.inl rfl
      · rename_i hsend
        have hs : stmt.sendable = true := by simpa using hsend
        have hcalm : fault = false := by simpa [hs] using hfault
        split at h
        · rename_i a sh₁ l₁ hrun
          cases h
          exact Or.inr ⟨by simpa using hok, hcalm, hs, a, rfl, hrun⟩
        · cases h
          exact Or.inl ⟨_, rfl, rfl, Or.inr rfl⟩

/-- Does the operation wait for one of the other open transactions? -/
def blocked (others : List Session) : Op → Shared → Session → Bool
  | .sql _ stmt, sh, l =>
      !l.failed && stmt.sendable && match stmt with
        | .insertRecord key .. =>
            others.any (fun o => o.work.records.inserted.any (fun r => r.idempotencyKey == key))
        | .insertEvent externalEventId .. =>
            others.any (fun o => o.work.events.inserted.any (fun e => e.externalEventId == externalEventId))
        | .insertLedger eventId .. =>
            others.any (fun o => o.work.ledger.inserted.any (fun r => r.transactionEventId == eventId))
        | .selectAccountForUpdate accountNo =>
            match (l.work.apply sh.db).accountByNo accountNo with
            | none => false
            | some account => others.any (fun o => o.accountLocks.contains account.id)
        | .selectEventForUpdate externalEventId =>
            match (l.work.apply sh.db).eventByExternalId externalEventId with
            | none => false
            | some event => others.any (fun o => o.eventLocks.contains event.id)
        | .updateEventStatus event .. => others.any (fun o => o.eventLocks.contains event.id)
        | .updateBalance account _ => others.any (fun o => o.accountLocks.contains account.id)
        | _ => false
  | _, _, _ => false

/-- Programs of the services. -/
abbrev Py := Prog Op Op.Res Exc

def Py.sql (site : Site) (stmt : Stmt) : Py stmt.Res := Prog.call (Op.sql site stmt)

def Py.activeEvent : Py (Option TransactionEvent) := Prog.call Op.activeEvent

def Py.lockAcquire (key : String) : Py RedisLockResult := Prog.call (Op.lockAcquire key)

def Py.lockRelease (key : String) (token : Option Nat) : Py Unit := Prog.call (Op.lockRelease key token)

def Py.cacheGet (key : String) : Py (Option CachedIdempotencyResponse) := Prog.call (Op.cacheGet key)

/-- `datetime.now(UTC)`. -/
def Py.utcNow : Py Time := Prog.call Op.now

end EventConsistency
