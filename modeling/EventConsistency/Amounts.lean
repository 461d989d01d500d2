import EventConsistency.Alone
import EventConsistency.Serve

/-!
# Every request has an answer, as long as its values fit

* `Passes`, `Breaks`, `Stops` : a program that runs on a healthy database, one that ends with a refused value, and one
  that ends at a query that psycopg2 does not answer;
* `Starts`, `Finds`, `Enters`, `Arrives` : how far a request gets before its first write; `Unfit` : it gets to a text
  with a NUL, to an event whose time cannot be read, or to its writes with a time, an amount or a balance that no column
  holds;
* **`answered_unless_unfit`** : alone on any reachable database, a call returns a result or raises the conflict
  on its key unless its request is one of these, which raise `PendingRollbackError` or `ValueError`.
-/

namespace EventConsistency

open Lib TransactionEventService

/-! ## Running alone on a healthy database -/

/-- The end of the program when nothing outside fails. -/
def Lib.Prog.healthy {α : Type} (p : Py α) (sh : Shared) (l : Session) : Except Exc α × Shared × Session :=
  p.run exec (fun _ => false) sh l

/-- The program returns `a` and has only read. -/
def Reads {α : Type} (p : Py α) (sh : Shared) (l : Session) (a : α) : Prop :=
  ∃ l', p.healthy sh l = (.ok a, sh, l') ∧ l'.failed = false ∧ l'.work = l.work

/-- The program returns an `a` with `P a`. -/
def Passes {α : Type} (p : Py α) (sh : Shared) (l : Session) (P : α → Prop) : Prop :=
  ∃ a sh' l', p.healthy sh l = (.ok a, sh', l') ∧ l'.failed = false ∧ P a

/-- A flush of the program is refused, by PostgreSQL or by psycopg2. -/
def Breaks {α : Type} (p : Py α) (sh : Shared) (l : Session) : Prop :=
  ∃ x sh' l', p.healthy sh l = (.error x, sh', l') ∧ (x = .dataError ∨ x = nulRefused) ∧ l'.failed = true

/-- The program has only read when psycopg2 does not answer its next query. -/
def Stops {α : Type} (p : Py α) (sh : Shared) (l : Session) : Prop :=
  ∃ message l', p.healthy sh l = (.error (.valueError message), sh, l') ∧ l'.failed = false ∧ l'.work = l.work

def Fails {α : Type} (p : Py α) (sh : Shared) (l : Session) : Prop := Breaks p sh l ∨ Stops p sh l

section Healthy

variable {α β : Type} {p : Py α} {f : α → Py β} {sh sh' : Shared} {l l' : Session} {a : α} {P : α → Prop}
  {Q : β → Prop} {site : Site} {stmt : Stmt}

theorem healthy_handle {f : Except Exc α → Py β} :
    (p.handle f).healthy sh l =
      (f (p.healthy sh l).1).healthy (p.healthy sh l).2.1 (p.healthy sh l).2.2 := Prog.run_handle sh l

theorem healthy_tryCatch_ok {g : Exc → Py α} (h : p.healthy sh l = (.ok a, sh', l')) :
    (tryCatch p g).healthy sh l = (.ok a, sh', l') := by
  refine healthy_handle.trans ?_
  rw [h]
  rfl

theorem healthy_tryCatch_error {g : Exc → Py α} {x : Exc} (h : p.healthy sh l = (.error x, sh', l')) :
    (tryCatch p g).healthy sh l = (g x).healthy sh' l' := by
  refine healthy_handle.trans ?_
  rw [h]

theorem healthy_sql (hl : l.failed = false) (hs : stmt.sendable = true) :
    (Py.sql site stmt).healthy sh l = match runStmt stmt sh (l.begin sh.clock) with
      | .ok (r, sh', l') => (.ok r, sh', l')
      | .error x => (.error x, sh, l.fail site x) := by
  refine (Prog.run_call (Op.sql site stmt)).trans ?_
  simp only [exec, hl, hs, Bool.false_and, Bool.not_true, Bool.false_eq_true, if_false]
  rfl

/-- A statement that psycopg2 does not send. -/
theorem healthy_sql_unsent (hl : l.failed = false) (hs : stmt.sendable = false) :
    (Py.sql site stmt).healthy sh l = (.error nulRefused, sh, l.unsent site stmt) := by
  refine (Prog.run_call (Op.sql site stmt)).trans ?_
  simp only [exec, hl, hs, Bool.false_and, Bool.not_false, Bool.false_eq_true, if_false, if_true]
  rfl

/-- On a failed session no statement is sent. -/
theorem healthy_sql_failed (hl : l.failed = true) :
    (Py.sql site stmt).healthy sh l = (.error .pendingRollbackError, sh, l) := by
  refine (Prog.run_call (Op.sql site stmt)).trans ?_
  simp only [exec, hl, if_true]
  rfl

theorem Reads.sql {r : stmt.Res} (hl : l.failed = false) (hs : stmt.sendable = true)
    (h : runStmt stmt sh (l.begin sh.clock) = .ok (r, sh, l')) (hf : l'.failed = false) (hw : l'.work = l.work) :
    Reads (Py.sql site stmt) sh l r := by
  refine ⟨l', ?_, hf, hw⟩
  rw [healthy_sql hl hs, h]

theorem Passes.sql {P : stmt.Res → Prop} {r : stmt.Res} (hl : l.failed = false) (hs : stmt.sendable = true)
    (h : runStmt stmt sh (l.begin sh.clock) = .ok (r, sh', l')) (hf : l'.failed = false) (hP : P r) :
    Passes (Py.sql site stmt) sh l P := by
  refine ⟨r, sh', l', ?_, hf, hP⟩
  rw [healthy_sql hl hs, h]

theorem Breaks.sql (hl : l.failed = false) (hs : stmt.sendable = true)
    (h : runStmt stmt sh (l.begin sh.clock) = .error .dataError) : Breaks (Py.sql site stmt) sh l := by
  refine ⟨.dataError, sh, l.fail site .dataError, ?_, Or.inl rfl, rfl⟩
  rw [healthy_sql hl hs, h]

theorem Breaks.unsent (hl : l.failed = false) (hs : stmt.sendable = false) (hf : stmt.flushes = true) :
    Breaks (Py.sql site stmt) sh l := by
  refine ⟨nulRefused, sh, l.unsent site stmt, healthy_sql_unsent hl hs, Or.inr rfl, ?_⟩
  rw [Session.unsent, if_pos hf]
  rfl

theorem Stops.unsent (hl : l.failed = false) (hs : stmt.sendable = false) (hf : stmt.flushes = false) :
    Stops (Py.sql site stmt) sh l := by
  have hsame : l.unsent site stmt = l := if_neg (by simp [hf])
  exact ⟨_, l, (healthy_sql_unsent hl hs).trans (by rw [hsame]; rfl), hl, rfl⟩

/-- The row of an answer is read. -/
theorem Reads.read {p : Py (Option TransactionEvent)} {row : Option TransactionEvent} (h : Reads p sh l row)
    (hr : ∀ e ∈ row, e.occurredAt.readable = true) :
    Reads (do let row ← p; .lift (TransactionEventRepository.read row)) sh l row := by
  obtain ⟨l', hrun, hl, hw⟩ := h
  refine ⟨l', (Prog.run_bind_ok hrun).trans ?_, hl, hw⟩
  cases row with
  | none => rfl
  | some e =>
      rw [TransactionEventRepository.read_readable (hr e rfl)]
      rfl

/-- The row of an answer cannot be read. -/
theorem Stops.unread {p : Py (Option TransactionEvent)} {e : TransactionEvent} (h : Reads p sh l (some e))
    (hr : e.occurredAt.readable = false) :
    Stops (do let row ← p; .lift (TransactionEventRepository.read row)) sh l := by
  obtain ⟨l', hrun, hl, hw⟩ := h
  obtain ⟨message, hmessage⟩ : ∃ message, yearRefused = .valueError message := ⟨_, rfl⟩
  refine ⟨message, l', (Prog.run_bind_ok hrun).trans ?_, hl, hw⟩
  rw [TransactionEventRepository.read_refused hr, hmessage]
  rfl

theorem Reads.fails (h : Reads p sh l a) (hf : ∀ l', l'.failed = false → l'.work = l.work → Fails (f a) sh l') :
    Fails (p >>= f) sh l := by
  obtain ⟨l', hrun, hl, hw⟩ := h
  rcases hf l' hl hw with ⟨x, sh₁, l₁, hrest, h₁⟩ | ⟨message, l₁, hrest, hl₁, hw₁⟩
  · exact Or.inl ⟨x, sh₁, l₁, (Prog.run_bind_ok hrun).trans hrest, h₁⟩
  · exact Or.inr ⟨message, l₁, (Prog.run_bind_ok hrun).trans hrest, hl₁, hw₁.trans hw⟩

theorem Passes.bind (h : Passes p sh l P)
    (hf : ∀ a sh' l', P a → l'.failed = false → Passes (f a) sh' l' Q) : Passes (p >>= f) sh l Q := by
  obtain ⟨a, sh', l', hrun, hl, hP⟩ := h
  obtain ⟨b, sh₁, l₁, hrest, h₁⟩ := hf a sh' l' hP hl
  exact ⟨b, sh₁, l₁, (Prog.run_bind_ok hrun).trans hrest, h₁⟩

theorem Passes.breaks (h : Passes p sh l P)
    (hf : ∀ a sh' l', P a → l'.failed = false → Breaks (f a) sh' l') : Breaks (p >>= f) sh l := by
  obtain ⟨a, sh', l', hrun, hl, hP⟩ := h
  obtain ⟨x, sh₁, l₁, hrest, h₁⟩ := hf a sh' l' hP hl
  exact ⟨x, sh₁, l₁, (Prog.run_bind_ok hrun).trans hrest, h₁⟩

theorem Breaks.bind (h : Breaks p sh l) : Breaks (p >>= f) sh l := by
  obtain ⟨x, sh', l', hrun, hl⟩ := h
  exact ⟨x, sh', l', Prog.run_bind_error hrun, hl⟩

theorem Stops.bind (h : Stops p sh l) : Stops (p >>= f) sh l := by
  obtain ⟨message, l', hrun, hl⟩ := h
  exact ⟨message, l', Prog.run_bind_error hrun, hl⟩

end Healthy

/-! ## Requests that reach their writes -/

/-- Nothing answers the request before its account is looked up. -/
structure Starts (st : Settings) (sh : Shared) (call : Call) : Prop where
  unlocked : call.wiring.redisLock = true → sh.locks.lookup (idempotencyLockKey ⟨st, call.wiring⟩ call.key) = none
  uncached : call.wiring.responseCache = true →
    ∀ e, sh.cache.lookup (idempotencyCacheKey ⟨st, call.wiring⟩ call.key) = some e →
      e.response.requestHash ≠ requestHash st call.request
  unrecorded : sh.db.recordByKey call.key = none

/-- The request gets to the query of its external event id: its account `a` is there. -/
structure Finds (st : Settings) (sh : Shared) (call : Call) (a : Account) : Prop extends Starts st sh call where
  accountSent : hasNul call.request.accountNo = false
  found : sh.db.accountByNo call.request.accountNo = some a
  clear : call.wiring.quarantineService = true → sh.db.activeQuarantine "ACCOUNT" (toString a.id) = none

/-- The request gets to the query of its original: its event is new. -/
structure Enters (st : Settings) (sh : Shared) (call : Call) (a : Account) : Prop extends Finds st sh call a where
  eventSent : hasNul call.request.externalEventId = false
  unseen : sh.db.eventByExternalId call.request.externalEventId = none

/-- The request gets to its first write: its original is there. -/
structure Arrives (st : Settings) (sh : Shared) (call : Call) (a : Account) (orig : Option TransactionEvent) : Prop
    extends Enters st sh call a where
  original : Original sh.db call.request orig

/-- The amount of the request, or the balance it leads to, has no 64-bit value. -/
def Exceeds (call : Call) (a : Account) (orig : Option TransactionEvent) : Prop :=
  2 ^ 63 ≤ call.request.amount ∨ ∃ amount newBalance,
    LedgerService.ledgerAmount a (receivedEvent call.key call.request a 0 0) orig = .ok (amount, newBalance) ∧
    2 ^ 63 ≤ newBalance

/-- The request meets a value that does not fit: a text that psycopg2 does not take, a time that it cannot read, or a
time or a number that no column holds. -/
inductive Unfit (st : Settings) (sh : Shared) (call : Call) : Prop where
  | account (h : Starts st sh call) (hs : hasNul call.request.accountNo = true)
  | event {a : Account} (h : Finds st sh call a) (hs : hasNul call.request.externalEventId = true)
  | original {a : Account} {x : String} (h : Enters st sh call a) (hc : call.request.eventType = .cancel)
      (hx : call.request.originalExternalEventId = some x) (hs : hasNul x = true)
  | eventRow {a : Account} {e : TransactionEvent} (h : Finds st sh call a)
      (hs : hasNul call.request.externalEventId = false)
      (he : sh.db.eventByExternalId call.request.externalEventId = some e) (hr : e.occurredAt.readable = false)
  | originalRow {a : Account} {x : String} {o : TransactionEvent} (h : Enters st sh call a)
      (hc : call.request.eventType = .cancel) (hx : call.request.originalExternalEventId = some x)
      (hs : hasNul x = false) (ho : sh.db.eventByExternalId x = some o) (hr : o.occurredAt.readable = false)
  | currency {a : Account} {orig : Option TransactionEvent} (h : Arrives st sh call a orig)
      (hs : hasNul call.request.currency = true)
  | zone {a : Account} {orig : Option TransactionEvent} (h : Arrives st sh call a orig)
      (hz : call.request.occurredAt.zoneFits = false)
  | range {a : Account} {orig : Option TransactionEvent} (h : Arrives st sh call a orig) (hx : Exceeds call a orig)

theorem Unfit.starts {st : Settings} {sh : Shared} {call : Call} (h : Unfit st sh call) :
    Starts st sh call := by
  cases h with
  | account h _ => exact h
  | event h _ => exact h.toStarts
  | original h _ _ _ => exact h.toStarts
  | eventRow h _ _ _ => exact h.toStarts
  | originalRow h _ _ _ _ _ => exact h.toStarts
  | currency h _ => exact h.toStarts
  | zone h _ => exact h.toStarts
  | range h _ => exact h.toStarts

section Writes

variable {st : Settings} {sh : Shared} {l : Session} {call : Call} {a : Account} {orig : Option TransactionEvent}
  {ev : TransactionEvent} {svc : Service} {key : String} {request : TransactionEventCreateRequest}

theorem not_fits {n : Int} (h : 2 ^ 63 ≤ n) : fitsBigInteger n = false := by
  have hn : ¬ n < 2 ^ 63 := by omega
  simp only [fitsBigInteger, decide_eq_false hn, Bool.and_false]

/-- The row after a change of status, which the database never refuses. -/
theorem changeStatus_passes {next : TransactionStatus} {reason : Option String} (hl : l.failed = false)
    (hv : TransactionStateMachine.validateTransition ev.status next = .ok ()) :
    Passes (TransactionStateService.changeStatus .applyStartedRequest ev next reason) sh l
      fun e => ∃ t, e = withStatus ev next t := by
  unfold TransactionStateService.changeStatus
  rw [hv]
  exact Passes.sql hl rfl rfl hl ⟨_, rfl⟩

theorem applyEvent_breaks {amount newBalance : Int} (hl : l.failed = false)
    (h : LedgerService.ledgerAmount a ev orig = .ok (amount, newBalance)) (hbig : 2 ^ 63 ≤ newBalance) :
    Breaks (LedgerService.applyEvent a ev orig) sh l := by
  unfold LedgerService.applyEvent
  rw [h]
  have hledger : Breaks (LedgerEntryRepository.create ev.id a.id (if amount > 0 then .credit else .debit) amount
      newBalance) sh l := by
    refine Breaks.sql hl rfl ?_
    simp only [runStmt, not_fits hbig, Bool.not_false, Bool.or_true, if_true]
  exact hledger.bind

/-- The ledger is reached two changes of status after the event. -/
theorem runEvent_breaks {amount newBalance : Int} (hl : l.failed = false) (hs : ev.status = .received)
    (h : LedgerService.ledgerAmount a ev orig = .ok (amount, newBalance)) (hbig : 2 ^ 63 ≤ newBalance) :
    Breaks (runEvent a ev orig) sh l := by
  unfold runEvent
  refine (changeStatus_passes hl (by rw [hs]; rfl)).breaks fun e sh' l' he hl' => ?_
  obtain ⟨t, rfl⟩ := he
  refine (changeStatus_passes hl' rfl).breaks fun e sh' l' he hl' => ?_
  obtain ⟨t', rfl⟩ := he
  exact (applyEvent_breaks hl' h hbig).bind

theorem checkQuarantine_reads (hl : l.failed = false)
    (h : svc.quarantineService = true → sh.db.activeQuarantine "ACCOUNT" (toString a.id) = none) :
    Reads (checkQuarantine svc a) sh l () := by
  unfold checkQuarantine
  by_cases hq : svc.quarantineService = true
  · rw [if_pos hq]
    have hstmt : runStmt (.selectActiveQuarantine "ACCOUNT" (toString a.id)) sh (l.begin sh.clock) =
        .ok (none, sh, l.begin sh.clock) := by
      simp only [runStmt, h hq]
    have hread : Reads (QuarantineRepository.getActive "ACCOUNT" (toString a.id)) sh l none :=
      Reads.sql hl rfl hstmt hl rfl
    obtain ⟨l', hrun, hl', hw⟩ := hread
    exact ⟨l', Prog.run_bind_ok hrun, hl', hw⟩
  · rw [if_neg hq]
    exact ⟨l, rfl, hl, rfl⟩

theorem selectEvent_reads {x : String} {row : Option TransactionEvent} (hl : l.failed = false) (hs : hasNul x = false)
    (h : (l.work.apply sh.db).eventByExternalId x = row) : Reads (Py.sql site (.selectEvent x)) sh l row := by
  have hstmt : runStmt (.selectEvent x) sh (l.begin sh.clock) = .ok (row, sh, l.begin sh.clock) := by
    have hwork : (l.begin sh.clock).work = l.work := rfl
    simp only [runStmt, hwork, h]
  exact Reads.sql hl (by simp [Stmt.sendable, Stmt.texts, hs]) hstmt hl rfl

theorem selectEventForUpdate_reads {x : String} {o : TransactionEvent} (hl : l.failed = false) (hs : hasNul x = false)
    (h : (l.work.apply sh.db).eventByExternalId x = some o) :
    Reads (Py.sql site (.selectEventForUpdate x)) sh l (some o) := by
  have hstmt : runStmt (.selectEventForUpdate x) sh (l.begin sh.clock) =
      .ok (some o, sh, { l.begin sh.clock with eventLocks := l.eventLocks.insert o.id }) := by
    have hwork : (l.begin sh.clock).work = l.work := rfl
    simp only [runStmt, hwork, h]
    rfl
  exact Reads.sql hl (by simp [Stmt.sendable, Stmt.texts, hs]) hstmt hl rfl

theorem getOriginalEventForCancel_reads (hl : l.failed = false) (h : Original (l.work.apply sh.db) request orig) :
    Reads (getOriginalEventForCancel request) sh l orig := by
  unfold getOriginalEventForCancel
  cases h with
  | none hc =>
      rw [if_pos hc]
      exact ⟨l, rfl, hl, rfl⟩
  | @some x o hc hx ho hs hr =>
      rw [if_neg (not_not.mpr hc), hx]
      have hread : Reads (TransactionEventRepository.getOriginalForCancelForUpdate x) sh l (some o) :=
        (selectEventForUpdate_reads hl hs ho).read (by simpa using hr)
      obtain ⟨l', hrun, hl', hw⟩ := hread
      exact ⟨l', Prog.run_bind_ok hrun, hl', hw⟩

theorem getByAccountNoForUpdate_reads {accountNo : String} (hl : l.failed = false) (hs : hasNul accountNo = false)
    (h : (l.work.apply sh.db).accountByNo accountNo = some a) :
    Reads (AccountRepository.getByAccountNoForUpdate accountNo) sh l (some a) := by
  have hstmt : runStmt (.selectAccountForUpdate accountNo) sh (l.begin sh.clock) =
      .ok (some a, sh, { l.begin sh.clock with accountLocks := l.accountLocks.insert a.id }) := by
    have hwork : (l.begin sh.clock).work = l.work := rfl
    simp only [runStmt, hwork, h]
    rfl
  exact Reads.sql hl (by simp [Stmt.sendable, Stmt.texts, hs]) hstmt hl rfl

theorem getByExternalEventId_reads {x : String} (hl : l.failed = false) (hs : hasNul x = false)
    (h : (l.work.apply sh.db).eventByExternalId x = none) :
    Reads (TransactionEventRepository.getByExternalEventId x) sh l none :=
  (selectEvent_reads hl hs h).read (by simp)

theorem createReceived_passes (hl : l.failed = false) (hext : hasNul request.externalEventId = false)
    (hcurrency : hasNul request.currency = false) (hfit : fitsEvent request.amount request.occurredAt = true)
    (h : (l.work.apply sh.db).eventByExternalId request.externalEventId = none) :
    Passes (TransactionEventRepository.createReceived request.externalEventId key a.id request.eventType request.amount
        request.currency request.occurredAt) sh l fun e => ∃ id t, e = receivedEvent key request a id t := by
  have hstmt : ∃ row sh' l', runStmt (.insertEvent request.externalEventId key a.id request.eventType request.amount
      request.currency request.occurredAt) sh (l.begin sh.clock) = .ok (row, sh', l') ∧ l'.failed = false ∧
      ∃ id t, row = receivedEvent key request a id t := by
    have hwork : (l.begin sh.clock).work = l.work := rfl
    simp only [runStmt, hfit, hwork, h, Bool.not_true, Bool.false_eq_true, if_false, Option.isSome_none]
    exact ⟨_, _, _, rfl, hl, _, _, rfl⟩
  obtain ⟨row, sh', l', hrun, hl', hrow⟩ := hstmt
  exact Passes.sql hl (by simp [Stmt.sendable, Stmt.texts, hext, hcurrency]) hrun hl' hrow

/-- A transaction that has only its record so far reads the accounts and events of the database. -/
theorem accountByNo_opened {rec : IdempotencyRecord} {sh' : Shared} (hdb : sh'.db = sh.db)
    (hw : l.work = refusedWork rec) (no : String) :
    (l.work.apply sh'.db).accountByNo no = sh.db.accountByNo no := by
  rw [hw, hdb, refusedWork_apply]
  rfl

theorem eventByExternalId_opened {rec : IdempotencyRecord} {sh' : Shared} (hdb : sh'.db = sh.db)
    (hw : l.work = refusedWork rec) (x : String) :
    (l.work.apply sh'.db).eventByExternalId x = sh.db.eventByExternalId x := by
  rw [hw, hdb, refusedWork_apply]
  rfl

/-- The writes of a request whose currency, time, amount or balance is refused. -/
theorem Arrives.breaks {rec : IdempotencyRecord} {sh' : Shared} (ha : Arrives st sh call a orig)
    (hx : hasNul call.request.currency = true ∨ call.request.occurredAt.zoneFits = false ∨ Exceeds call a orig)
    (hl : l.failed = false) (hdb : sh'.db = sh.db) (hw : l.work = refusedWork rec) :
    Breaks (do
      let event ← TransactionEventRepository.createReceived call.request.externalEventId call.key a.id
        call.request.eventType call.request.amount call.request.currency call.request.occurredAt
      Prog.call (Op.setActiveEvent (some event))
      runEvent a event orig) sh' l := by
  cases hcurrency : hasNul call.request.currency with
  | true => exact (Breaks.unsent hl (by simp [Stmt.sendable, Stmt.texts, hcurrency]) rfl).bind
  | false =>
      have hover := hx.resolve_left (by simp [hcurrency])
      cases hfit : fitsEvent call.request.amount call.request.occurredAt with
      | false =>
        -- the INSERT of the event itself is refused
        refine (Breaks.sql hl (by simp [Stmt.sendable, Stmt.texts, ha.eventSent, hcurrency]) ?_).bind
        simp only [runStmt, hfit, Bool.not_false, if_true]
      | true =>
        obtain ⟨hamount, hzone⟩ := Bool.and_eq_true_iff.mp hfit
        have hsmall : ¬ 2 ^ 63 ≤ call.request.amount := fun hbig => by rw [not_fits hbig] at hamount; cases hamount
        obtain ⟨amount, newBalance, hledger, hbalance⟩ :=
          (hover.resolve_left (by simp [hzone])).resolve_left hsmall
        have hunseen := (eventByExternalId_opened hdb hw call.request.externalEventId).trans ha.unseen
        refine (createReceived_passes hl ha.eventSent hcurrency hfit hunseen).breaks fun ev sh₁ l₁ hev hl₁ => ?_
        obtain ⟨id, t, rfl⟩ := hev
        have hset : Passes (Prog.call (Op.setActiveEvent (some (receivedEvent call.key call.request a id t)))) sh₁ l₁
            fun _ => True := ⟨(), sh₁, _, rfl, hl₁, trivial⟩
        exact hset.breaks fun _ sh₂ l₂ _ hl₂ => runEvent_breaks hl₂ rfl hledger hbalance

/-- The `try` block of a request that meets such a value does not come to its end. -/
theorem Unfit.applyStartedRequest_fails {rec : IdempotencyRecord} {sh' : Shared} (h : Unfit st sh call)
    (hl : l.failed = false) (hdb : sh'.db = sh.db) (hw : l.work = refusedWork rec) :
    Fails (applyStartedRequest ⟨st, call.wiring⟩ call.key call.request) sh' l := by
  have hfound : ∀ {a : Account}, Finds st sh call a →
      Reads (AccountRepository.getByAccountNoForUpdate call.request.accountNo) sh' l (some a) := fun ha =>
    getByAccountNoForUpdate_reads hl ha.accountSent ((accountByNo_opened hdb hw _).trans ha.found)
  have hclear : ∀ {a : Account} {l' : Session}, Finds st sh call a → l'.failed = false →
      Reads (checkQuarantine ⟨st, call.wiring⟩ a) sh' l' () := fun ha hl' =>
    checkQuarantine_reads hl' (by rw [hdb]; exact ha.clear)
  have hnew : ∀ {a : Account} {l' : Session}, Enters st sh call a → l'.failed = false → l'.work = refusedWork rec →
      Reads (TransactionEventRepository.getByExternalEventId call.request.externalEventId) sh' l' none := fun ha hl' hw' =>
    getByExternalEventId_reads hl' ha.eventSent ((eventByExternalId_opened hdb hw' _).trans ha.unseen)
  have harrived : ∀ {a : Account} {orig : Option TransactionEvent}, Arrives st sh call a orig →
      hasNul call.request.currency = true ∨ call.request.occurredAt.zoneFits = false ∨ Exceeds call a orig →
      Fails (applyStartedRequest ⟨st, call.wiring⟩ call.key call.request) sh' l := by
    intro a orig ha hx
    unfold applyStartedRequest
    refine (hfound ha.toFinds).fails fun l₁ hl₁ hw₁ => ?_
    refine (hclear ha.toFinds hl₁).fails fun l₂ hl₂ hw₂ => ?_
    have hwork₂ : l₂.work = refusedWork rec := hw₂.trans (hw₁.trans hw)
    refine (hnew ha.toEnters hl₂ hwork₂).fails fun l₃ hl₃ hw₃ => ?_
    have hwork₃ : l₃.work = refusedWork rec := hw₃.trans hwork₂
    have horig : Original (l₃.work.apply sh'.db) call.request orig := by
      cases ha.original with
      | none hc => exact .none hc
      | some hc hy ho hs hr => exact .some hc hy ((eventByExternalId_opened hdb hwork₃ _).trans ho) hs hr
    exact (getOriginalEventForCancel_reads hl₃ horig).fails fun l₄ hl₄ hw₄ =>
      Or.inl (ha.breaks hx hl₄ hdb (hw₄.trans hwork₃))
  cases h with
  | account _ hs => exact Or.inr (Stops.unsent hl (by simp [Stmt.sendable, Stmt.texts, hs]) rfl).bind
  | event h hs =>
      refine (hfound h).fails fun l₁ hl₁ _ => ?_
      refine (hclear h hl₁).fails fun l₂ hl₂ _ => ?_
      exact Or.inr (Stops.unsent hl₂ (by simp [Stmt.sendable, Stmt.texts, hs]) rfl).bind.bind
  | eventRow h hs he hr =>
      refine (hfound h).fails fun l₁ hl₁ hw₁ => ?_
      refine (hclear h hl₁).fails fun l₂ hl₂ hw₂ => ?_
      have hview := (eventByExternalId_opened hdb (hw₂.trans (hw₁.trans hw)) _).trans he
      exact Or.inr (Stops.unread (selectEvent_reads hl₂ hs hview) hr).bind
  | originalRow h hc hx hs ho hr =>
      refine (hfound h.toFinds).fails fun l₁ hl₁ hw₁ => ?_
      refine (hclear h.toFinds hl₁).fails fun l₂ hl₂ hw₂ => ?_
      have hwork₂ : l₂.work = refusedWork rec := hw₂.trans (hw₁.trans hw)
      refine (hnew h hl₂ hwork₂).fails fun l₃ hl₃ hw₃ => ?_
      have hview := (eventByExternalId_opened hdb (hw₃.trans hwork₂) _).trans ho
      refine Or.inr (Stops.bind ?_)
      unfold getOriginalEventForCancel
      rw [if_neg (not_not.mpr hc), hx]
      exact (Stops.unread (selectEventForUpdate_reads hl₃ hs hview) hr).bind
  | original h hc hx hs =>
      refine (hfound h.toFinds).fails fun l₁ hl₁ hw₁ => ?_
      refine (hclear h.toFinds hl₁).fails fun l₂ hl₂ hw₂ => ?_
      refine (hnew h hl₂ (hw₂.trans (hw₁.trans hw))).fails fun l₃ hl₃ _ => ?_
      refine Or.inr (Stops.bind ?_)
      unfold getOriginalEventForCancel
      rw [if_neg (not_not.mpr hc), hx]
      exact (Stops.unsent hl₃ (by simp [Stmt.sendable, Stmt.texts, hs]) rfl).bind.bind
  | currency h hs => exact harrived h (Or.inl hs)
  | zone h hz => exact harrived h (Or.inr (Or.inl hz))
  | range h hx => exact harrived h (Or.inr (Or.inr hx))

end Writes

/-! ## The way out -/

/-- The program raises what no answer is: `PendingRollbackError`, or the `ValueError` of psycopg2. -/
def Escapes {α : Type} (p : Py α) (sh : Shared) (l : Session) : Prop :=
  (p.healthy sh l).1 = .error .pendingRollbackError ∨ ∃ message, (p.healthy sh l).1 = .error (.valueError message)

section Escape

variable {st : Settings} {sh : Shared} {l : Session} {call : Call} {a : Account} {orig : Option TransactionEvent}
  {svc : Service} {key : String} {request : TransactionEventCreateRequest} {body : Py TransactionProcessingResult}
  {rec : IdempotencyRecord} {payload : Json} {x : Exc}

/-- What raises the same. -/
theorem Escapes.of_eq {α : Type} {p q : Py α} {sh' : Shared} {l' : Session} (h : Escapes q sh' l')
    (hsame : (p.healthy sh l).1 = (q.healthy sh' l').1) : Escapes p sh l := by
  unfold Escapes
  rw [hsame]
  exact h

/-- `fail` is the next statement after the refused one. -/
theorem onFailure_escapes (hx : x = .dataError ∨ x = nulRefused) (hl : l.failed = true) (payload : Json) :
    Escapes (onFailure svc key payload x) sh l := by
  have hfail : (svc.fail key (statusCodeForException x) (.obj (errorBody x)) (Exc.message x) payload).healthy sh l =
      (.error .pendingRollbackError, sh, l) := by
    have hread : (IdempotencyRecordRepository.getByKey .fail key).healthy sh l = (.error .pendingRollbackError, sh, l) :=
      healthy_sql_failed hl
    exact Prog.run_bind_error (Prog.run_bind_error hread)
  have hmark : (markFailedIfDomain x).healthy sh l = (.ok (), sh, l) := by
    rcases hx with rfl | rfl <;> rfl
  have hrun : (onFailure svc key payload x).healthy sh l = (.error .pendingRollbackError, sh, l) :=
    (Prog.run_bind_ok hmark).trans (Prog.run_bind_error hfail)
  exact Or.inl (congrArg Prod.fst hrun)

/-- The record that the call has opened for the payload. -/
structure Opens (svc : Service) (key : String) (payload : Json) (rec : IdempotencyRecord) : Prop where
  key_eq : rec.idempotencyKey = key
  hash_eq : rec.requestHash = generateRequestHash svc.sha256 payload
  status_eq : rec.status = .processing

/-- On a healthy session `fail` closes the record of the call. -/
theorem fail_passes (hrec : Opens svc key payload rec) (habsent : sh.db.recordByKey key = none) (hl : l.failed = false)
    (hw : l.work = refusedWork rec) (code : Nat) (body : Json) (message : String) :
    Passes (svc.fail key code body message payload) sh l fun _ => True := by
  have hview : ((l.begin sh.clock).work.apply sh.db).recordByKey key = some rec := by
    have hwork : (l.begin sh.clock).work = refusedWork rec := hw
    have hnone : sh.db.records.find? (fun r => r.idempotencyKey == key) = none := habsent
    simp [hwork, Db.recordByKey, List.find?_append, hnone, hrec.key_eq]
  have hread : Passes (IdempotencyService.getExistingRecord .fail key) sh l fun r => r = rec := by
    refine Passes.bind (P := fun r => r = some rec) (Passes.sql hl rfl rfl hl hview) fun r sh₁ l₁ hr hl₁ => ?_
    subst hr
    exact ⟨rec, sh₁, l₁, rfl, hl₁, rfl⟩
  unfold Service.fail IdempotencyService.fail IdempotencyService.closeProcessing
  refine hread.bind fun r sh₁ l₁ hr hl₁ => ?_
  subst hr
  have hmatch : IdempotencyService.ensureCompletionMatchesRequest svc r (some payload) none = .ok () := by
    simp [IdempotencyService.ensureCompletionMatchesRequest, IdempotencyService.ensureSameRequestHash, hrec.hash_eq]
  have hopen : IdempotencyService.isTerminalNoop r .failed = false := by
    simp [IdempotencyService.isTerminalNoop, hrec.status_eq]
  have hcan : IdempotencyService.ensureCanCloseProcessing r .failed = .ok () := by
    simp [IdempotencyService.ensureCanCloseProcessing, hrec.status_eq]
  have hlift : ∀ {sh : Shared} {l : Session}, l.failed = false →
      Passes (Prog.lift (.ok ()) : Py Unit) sh l fun _ => True := fun hl => ⟨(), _, _, rfl, hl, trivial⟩
  rw [hmatch, hopen, hcan]
  refine (hlift hl₁).bind fun _ sh₂ l₂ _ hl₂ => ?_
  rw [if_neg (by decide)]
  refine (hlift hl₂).bind fun _ sh₃ l₃ _ hl₃ => ?_
  have hnow : Passes Py.utcNow sh₃ l₃ fun _ => True := ⟨sh₃.clock, sh₃, l₃, rfl, hl₃, trivial⟩
  exact hnow.bind fun _ _ l₄ _ hl₄ => Passes.sql hl₄ rfl rfl hl₄ trivial

/-- After a query that was not answered `fail` does its work, and the exception goes on. -/
theorem onFailure_unanswered (hrec : Opens svc key payload rec) (habsent : sh.db.recordByKey key = none)
    (hl : l.failed = false) (hw : l.work = refusedWork rec) (message : String) :
    Escapes (onFailure svc key payload (.valueError message)) sh l := by
  obtain ⟨_, sh₁, l₁, hfail, _, _⟩ := fail_passes hrec habsent hl hw (statusCodeForException (.valueError message))
    (.obj (errorBody (.valueError message))) (Exc.message (.valueError message))
  have hrun : (onFailure svc key payload (.valueError message)).healthy sh l = (.error (.valueError message), sh₁, l₁) :=
    (Prog.run_bind_ok rfl).trans (Prog.run_bind_ok hfail)
  exact Or.inr ⟨message, congrArg Prod.fst hrun⟩

theorem processStarted_escapes (hrec : Opens svc key payload rec) (habsent : sh.db.recordByKey key = none)
    (hl : l.failed = false) (hw : l.work = refusedWork rec)
    (h : ∀ l', l'.failed = false → l'.work = refusedWork rec → Fails (applyStartedRequest svc key request) sh l') :
    Escapes (processStarted svc key request payload) sh l := by
  have hset : (Prog.call (Op.setActiveEvent none) : Py Unit).run exec (fun _ => false) sh l =
      (.ok (), sh, { l with activeEvent := none }) := rfl
  have hbody : ∃ x sh₁ l₁, Prog.healthy (do
      Prog.call (Op.setActiveEvent none)
      let result ← applyStartedRequest svc key request
      let _ ← svc.complete key result.statusCode (.obj result.body) payload
      pure result) sh l = (.error x, sh₁, l₁) ∧ Escapes (onFailure svc key payload x) sh₁ l₁ := by
    rcases h { l with activeEvent := none } hl hw with ⟨x, sh₁, l₁, hrun, hx, hl₁⟩ | ⟨message, l₁, hrun, hl₁, hw₁⟩
    · exact ⟨x, sh₁, l₁, (Prog.run_bind_ok hset).trans (Prog.run_bind_error hrun), onFailure_escapes hx hl₁ payload⟩
    · exact ⟨_, sh, l₁, (Prog.run_bind_ok hset).trans (Prog.run_bind_error hrun),
        onFailure_unanswered hrec habsent hl₁ (hw₁.trans hw) message⟩
  obtain ⟨x, sh₁, l₁, hrun, hfailure⟩ := hbody
  unfold Escapes processStarted Prog.andFinally
  rw [healthy_handle, healthy_tryCatch_error hrun]
  rcases hfailure with hfailure | ⟨message, hfailure⟩
  · rw [hfailure]
    exact Or.inl rfl
  · rw [hfailure]
    exact Or.inr ⟨message, rfl⟩

theorem withBegin_escapes (h : Escapes body sh l) : Escapes (withBegin body) sh l := by
  unfold Escapes withBegin
  rw [healthy_handle]
  rcases h with h | ⟨message, h⟩
  · rw [h]
    exact Or.inl rfl
  · rw [h]
    exact Or.inr ⟨message, rfl⟩

theorem processWithDbFallback_escapes (h : Escapes (attemptBody svc key request) sh l) :
    Escapes (processWithDbFallback svc key request) sh l := by
  unfold processWithDbFallback attempts
  rcases withBegin_escapes h with hbegin | ⟨message, hbegin⟩
  · refine Or.inl ((congrArg Prod.fst healthy_handle).trans ?_)
    rw [hbegin]
    rfl
  · refine Or.inr ⟨message, (congrArg Prod.fst healthy_handle).trans ?_⟩
    rw [hbegin]
    rfl

theorem withBegin_returns {reply : TransactionProcessingResult} {sh' : Shared} {l' : Session}
    (h : body.healthy sh l = (.ok reply, sh', l')) : ((withBegin body).healthy sh l).1 = .ok reply := by
  have hanswer : (exec false (.commit reply) sh' l').1 = .ok () := by
    cases hl : l'.failed with
    | true => simp only [exec, hl, if_true]
    | false => simp only [exec, hl, Bool.false_eq_true, if_false]
  have hcommit : (Prog.call (Op.commit reply) : Py Unit).healthy sh' l' =
      (.ok (), (exec false (.commit reply) sh' l').2.1, (exec false (.commit reply) sh' l').2.2) :=
    (Prog.run_call (Op.commit reply)).trans (Prod.ext hanswer rfl)
  unfold withBegin
  rw [healthy_handle, h]
  exact congrArg Prod.fst (Prog.run_bind_ok (healthy_tryCatch_ok hcommit))

theorem processWithDbFallback_returns {reply : TransactionProcessingResult} {sh' : Shared} {l' : Session}
    (h : (attemptBody svc key request).healthy sh l = (.ok reply, sh', l')) :
    ((processWithDbFallback svc key request).healthy sh l).1 = .ok reply := by
  have hbegin : ((withBegin (attemptBody svc key request)).healthy sh l).1 = .ok reply := withBegin_returns h
  unfold processWithDbFallback attempts
  refine (congrArg Prod.fst healthy_handle).trans ?_
  rw [hbegin]
  rfl

end Escape

/-! ## From the start of a call to its writes -/

section Start

variable {α : Type} {st : Settings} {sh sh' : Shared} {l : Session} {call : Call} {a : Account}
  {orig : Option TransactionEvent} {svc : Service} {key : String} {request : TransactionEventCreateRequest}

theorem healthy_eq_alone {p : Py α} : p.healthy sh l = p.run alone (fun _ => ⟨false, false⟩) sh l := by
  unfold Prog.healthy
  induction p generalizing sh l with
  | ret _ => rfl
  | raise _ => rfl
  | op o k ih =>
      have hstep : alone ⟨false, false⟩ o = exec false o := by
        unfold alone RedisFaults.hit
        cases o <;> rfl
      simp only [Prog.run, hstep]
      exact ih _

theorem cacheGet_none {cacheKey : String} (h : sh.cache.lookup cacheKey = none) :
    (Py.cacheGet cacheKey).run alone (fun _ => ⟨false, false⟩) sh l = (.ok none, sh, l) :=
  run_cacheGet_none (if_neg (by decide) |>.trans h) l

theorem cacheGet_some {cacheKey : String} {e : CacheEntry} (h : sh.cache.lookup cacheKey = some e) :
    (Py.cacheGet cacheKey).run alone (fun _ => ⟨false, false⟩) sh l =
      (.ok (some e.response), sh, { l with cacheHit := some e }) :=
  run_cacheGet_some (if_neg (by decide) |>.trans h) l

/-- Nothing in the cache answers the request, and its key has no record. -/
theorem checkOrStart_starts (hl : l.Idle) (hkey : sh.db.recordByKey key = none) (payload : Json)
    (hcache : svc.responseCache = true → ∀ e, sh.cache.lookup (idempotencyCacheKey svc key) = some e →
      e.response.requestHash ≠ generateRequestHash svc.sha256 payload) :
    ∃ i sh₁ l₁, (svc.checkOrStart key payload).healthy sh l = (.ok ⟨.started, some i, none, none⟩, sh₁, l₁) ∧
      sh₁.db = sh.db ∧ l₁.failed = false ∧ l₁.work = refusedWork (newRecord svc sh key payload) := by
  have hplain : ∀ {l : Session}, l.Idle → ∃ l₁, (IdempotencyService.checkOrStart svc key payload).run alone
      (fun _ => ⟨false, false⟩) sh l = (.ok ⟨.started, some sh.seqs.record, none, none⟩,
        { sh with seqs := { sh.seqs with record := sh.seqs.record + 1 } }, l₁) ∧ l₁.failed = false ∧
      l₁.work = refusedWork (newRecord svc sh key payload) := by
    intro l hl
    exact ⟨_, run_checkOrStart_none hl payload hkey, hl.failed, rfl⟩
  have hfromDb : ∀ {l : Session}, l.Idle → ∃ l₁, (CachedIdempotencyService.checkOrStartFromDb svc key payload).run alone
      (fun _ => ⟨false, false⟩) sh l = (.ok ⟨.started, some sh.seqs.record, none, none⟩,
        { sh with seqs := { sh.seqs with record := sh.seqs.record + 1 } }, l₁) ∧ l₁.failed = false ∧
      l₁.work = refusedWork (newRecord svc sh key payload) := by
    intro l hl
    obtain ⟨l₁, hrun, hrest⟩ := hplain hl
    exact ⟨l₁, (Prog.run_bind_ok hrun).trans rfl, hrest⟩
  rw [healthy_eq_alone]
  unfold Service.checkOrStart
  cases hc : svc.responseCache with
  | false =>
      rw [if_neg (by decide)]
      obtain ⟨l₁, hrun, hl₁, hw₁⟩ := hplain hl
      exact ⟨_, _, l₁, hrun, rfl, hl₁, hw₁⟩
  | true =>
      rw [if_pos rfl]
      unfold CachedIdempotencyService.checkOrStart
      cases hfound : sh.cache.lookup (idempotencyCacheKey svc key) with
      | none =>
          obtain ⟨l₁, hrun, hl₁, hw₁⟩ := hfromDb hl
          exact ⟨_, _, l₁, (Prog.run_bind_ok (cacheGet_none hfound)).trans hrun, rfl, hl₁, hw₁⟩
      | some e =>
          have hidle : Session.Idle { l with cacheHit := some e } := ⟨hl.work, hl.failed, hl.startedAt⟩
          obtain ⟨l₁, hrun, hl₁, hw₁⟩ := hfromDb hidle
          refine ⟨sh.seqs.record, { sh with seqs := { sh.seqs with record := sh.seqs.record + 1 } }, l₁, ?_, rfl, hl₁,
            hw₁⟩
          refine (Prog.run_bind_ok (cacheGet_some hfound)).trans ?_
          dsimp only
          rw [if_neg (hcache hc e hfound)]
          exact hrun

theorem attemptBody_escapes (h : Unfit st sh call) (hl : l.Idle) (hdb : sh'.db = sh.db)
    (hcache : sh'.cache = sh.cache) : Escapes (attemptBody ⟨st, call.wiring⟩ call.key call.request) sh' l := by
  have hkey : sh'.db.recordByKey call.key = none := by rw [hdb]; exact h.starts.unrecorded
  have hmiss : call.wiring.responseCache = true →
      ∀ e, sh'.cache.lookup (idempotencyCacheKey ⟨st, call.wiring⟩ call.key) = some e →
        e.response.requestHash ≠ generateRequestHash st.sha256 call.request.modelDump := by
    rw [hcache]
    exact h.starts.uncached
  obtain ⟨i, sh₁, l₁, hrun, hdb₁, hl₁, hw₁⟩ : ∃ i sh₁ l₁,
      (Service.checkOrStart ⟨st, call.wiring⟩ call.key call.request.modelDump).healthy sh' l =
        (.ok ⟨.started, some i, none, none⟩, sh₁, l₁) ∧
      sh₁.db = sh'.db ∧ l₁.failed = false ∧
        l₁.work = refusedWork (newRecord ⟨st, call.wiring⟩ sh' call.key call.request.modelDump) :=
    checkOrStart_starts hl hkey _ hmiss
  have hstarted : Escapes (processStarted ⟨st, call.wiring⟩ call.key call.request call.request.modelDump) sh₁ l₁ :=
    processStarted_escapes ⟨rfl, rfl, rfl⟩ (by rw [hdb₁]; exact hkey) hl₁ hw₁ fun l' hl' hw' =>
      h.applyStartedRequest_fails hl' (hdb₁.trans hdb) hw'
  exact hstarted.of_eq (congrArg Prod.fst (Prog.run_bind_ok hrun))

theorem healthy_andFinally {p : Py α} {q : Py Unit} (hq : ∀ sh l, (q.healthy sh l).1 = .ok ()) :
    ((p.andFinally q).healthy sh l).1 = (p.healthy sh l).1 := by
  unfold Prog.andFinally
  rw [healthy_handle, healthy_handle, hq]
  dsimp only
  cases (p.healthy sh l).1 <;> rfl

theorem releaseLock_returns (lockKey : String) (lockResult : RedisLockResult) (sh : Shared) (l : Session) :
    ((releaseLock lockKey lockResult).healthy sh l).1 = .ok () := by
  unfold releaseLock
  by_cases ha : lockResult.acquired = true
  · rw [if_pos ha]
    refine (congrArg Prod.fst (Prog.run_call (Op.lockRelease lockKey lockResult.token))).trans ?_
    simp only [exec]
    split <;> rfl
  · rw [if_neg ha]
    rfl

/-- Behind a free lock the answer is that of the database. -/
theorem process_unlocked (h : svc.redisLock = true → sh.locks.lookup (idempotencyLockKey svc key) = none) :
    ∃ sh', sh'.db = sh.db ∧ sh'.cache = sh.cache ∧
      ((process svc key request).healthy sh l).1 = ((processWithDbFallback svc key request).healthy sh' l).1 := by
  unfold process
  by_cases hr : svc.redisLock = true
  · have hacquire : (Py.lockAcquire (idempotencyLockKey svc key)).healthy sh l =
        (.ok { acquired := true, token := some sh.nextToken, redisAvailable := true },
          { sh with locks := (idempotencyLockKey svc key, sh.nextToken) :: sh.locks, nextToken := sh.nextToken + 1 },
          l) := by
      refine (Prog.run_call (Op.lockAcquire (idempotencyLockKey svc key))).trans ?_
      simp only [exec, h hr, Bool.false_eq_true, if_false, Option.isSome_none]
      rfl
    refine ⟨{ sh with locks := (idempotencyLockKey svc key, sh.nextToken) :: sh.locks, nextToken := sh.nextToken + 1 },
      rfl, rfl, ?_⟩
    rw [if_pos hr]
    refine (congrArg Prod.fst (Prog.run_bind_ok hacquire)).trans ?_
    exact healthy_andFinally fun sh l => releaseLock_returns _ _ sh l
  · rw [if_neg hr]
    exact ⟨sh, rfl, rfl, rfl⟩

end Start

/-! ## The answer of a call -/

/-- Every amount and every balance among the changes has a 64-bit value. -/
structure Overlay.Fits (W : Overlay) : Prop where
  events : ∀ e ∈ W.events.inserted, fitsBigInteger e.amount = true
  ledger : ∀ r ∈ W.ledger.inserted, fitsBigInteger r.amount = true ∧ fitsBigInteger r.balanceAfter = true
  balances : ∀ a ∈ W.accounts.updated, fitsBigInteger a.balance = true

/-- The state as the next call finds it. -/
def Shared.next (sh : Shared) : Shared := { sh with init := sh.db, log := [] }

section Answer

variable {st : Settings} {opts : Opts} {sh : Shared} {call : Call} {calls : List Call} {c : Config}

theorem Overlay.fits_empty : ({} : Overlay).Fits := by
  constructor <;> simp

theorem Committed.fits {w : Wiring} {hit : Option CacheEntry} {init db : Db} {key : String}
    {request : TransactionEventCreateRequest} {W : Overlay} {reply : TransactionProcessingResult}
    (h : Committed st opts w hit init db key request W reply) : W.Fits := by
  cases h with
  | replay _ _ _ => exact Overlay.fits_empty
  | cached _ _ _ _ => exact Overlay.fits_empty
  | refused _ _ => exact { Overlay.fits_empty with }
  | duplicate _ _ _ _ _ => exact { Overlay.fits_empty with }
  | failed _ _ _ hc _ _ =>
      refine { Overlay.fits_empty with events := fun e he => ?_ }
      rw [List.mem_singleton.mp he, hc.row]
      exact (Bool.and_eq_true_iff.mp hc.fits).1
  | applied _ _ _ hc _ _ hn =>
      refine ⟨fun e he => ?_, fun r hr => ?_, fun a ha => ?_⟩
      · rw [List.mem_singleton.mp he, hc.row]
        exact (Bool.and_eq_true_iff.mp hc.fits).1
      · rw [List.mem_singleton.mp hr]
        exact hn.fits
      · rw [List.mem_singleton.mp ha]
        exact hn.fits.2

/-- A request that meets such a value ends with one of two exceptions. -/
theorem Unfit.raises (h : Unfit st sh call) : Escapes (call.program st) sh (call.session 0) := by
  obtain ⟨sh', hdb, hcache, hrun⟩ : ∃ sh', sh'.db = sh.db ∧ sh'.cache = sh.cache ∧
      ((call.program st).healthy sh (call.session 0)).1 =
        ((processWithDbFallback ⟨st, call.wiring⟩ call.key call.request).healthy sh' (call.session 0)).1 :=
    process_unlocked h.starts.unlocked
  have hidle : (call.session 0).Idle := ⟨rfl, rfl, rfl⟩
  exact (processWithDbFallback_escapes (attemptBody_escapes h hidle hdb hcache)).of_eq hrun

/-- The ledger amount is the amount of the request, up to its sign. -/
theorem ledgerAmount_natAbs {a : Account} {ev : TransactionEvent} {orig : Option TransactionEvent}
    {amount newBalance : Int} (h : LedgerService.ledgerAmount a ev orig = .ok (amount, newBalance)) :
    (amount = ev.amount ∨ amount = -ev.amount) ∧ 0 ≤ newBalance := by
  unfold LedgerService.ledgerAmount at h
  split at h
  · cases h
  · split at h
    · cases h
    · rename_i hcalc
      dsimp only at h
      split at h
      · cases h
      · rename_i hneg
        cases h
        refine ⟨?_, by omega⟩
        unfold calculateLedgerAmount at hcalc
        repeat' split at hcalc
        all_goals cases hcalc
        all_goals first | exact Or.inl rfl | exact Or.inr rfl

/-- A number that a column refuses is too large. -/
theorem Overflow.exceeds {a : Account} {orig : Option TransactionEvent}
    (h : fitsEvent call.request.amount call.request.occurredAt = false ∨ ∃ id t amount newBalance,
      LedgerService.ledgerAmount a (receivedEvent call.key call.request a id t) orig = .ok (amount, newBalance) ∧
        (fitsBigInteger amount = false ∨ fitsBigInteger newBalance = false)) :
    call.request.occurredAt.zoneFits = false ∨ Exceeds call a orig := by
  have hpos := call.request.amount_pos
  have hfit : ∀ {n : Int}, fitsBigInteger n = false → n < -(2 ^ 63) ∨ 2 ^ 63 ≤ n := by
    intro n hn
    simp only [fitsBigInteger, Bool.and_eq_false_iff, decide_eq_false_iff_not] at hn
    omega
  rcases h with h | ⟨id, t, amount, newBalance, hx, h⟩
  · rcases Bool.and_eq_false_iff.mp h with hamount | hzone
    · have hout := hfit hamount
      exact Or.inr (Or.inl (by omega))
    · exact Or.inl hzone
  · obtain ⟨hamount, hnew⟩ := ledgerAmount_natAbs hx
    have hevent : (receivedEvent call.key call.request a id t).amount = call.request.amount := rfl
    rw [hevent] at hamount
    rcases h with h | h
    · have hout := hfit h
      exact Or.inr (Or.inl (by omega))
    · have hout := hfit h
      exact Or.inr (Or.inr ⟨amount, newBalance, hx, by omega⟩)

/-- An account that the request has found. -/
theorem Starts.finds {opts : Opts} {c : Session} (h : Starts st sh call) (hq : opts.quarantines = false)
    (hc : c = call.session 0) {a : Account} (hl : Located opts c.wiring sh.db c.request a) : Finds st sh call a := by
  subst hc
  exact { h with accountSent := hl.sent, found := hl.found, clear := hl.clear hq }

/-- A query that was not sent. -/
theorem Unanswerable.unfit {opts : Opts} {c : Session} (h : Unanswerable opts c sh.db) (hq : opts.quarantines = false)
    (hc : c = call.session 0) (hstart : sh.db.recordByKey call.key = none → Starts st sh call) :
    Unfit st sh call := by
  subst hc
  cases h with
  | account hn hs => exact .account (hstart hn) hs
  | event hn hl hs => exact .event ((hstart hn).finds hq rfl hl) hs
  | original hn hl he hcancel hx hs =>
      have hfinds := (hstart hn).finds hq rfl hl
      cases hext : hasNul call.request.externalEventId with
      | true => exact .event hfinds hext
      | false => exact .original { hfinds with eventSent := hext, unseen := he } hcancel hx hs
  | eventRow hn hl he hr =>
      have hfinds := (hstart hn).finds hq rfl hl
      cases hext : hasNul call.request.externalEventId with
      | true => exact .event hfinds hext
      | false => exact .eventRow hfinds hext he hr
  | @originalRow a x o hn hl he hcancel hx ho hr =>
      have hfinds := (hstart hn).finds hq rfl hl
      cases hext : hasNul call.request.externalEventId with
      | true => exact .event hfinds hext
      | false =>
          have henters : Enters st sh call a := { hfinds with eventSent := hext, unseen := he }
          cases hs : hasNul x with
          | true => exact .original henters hcancel hx hs
          | false => exact .originalRow henters hcancel hx hs ho hr

/-- The next call starts from the committed state. -/
theorem Reaches.next (h₀ : Initial sh) (hb : BodiesOk sh.db) (hk : CachedOk sh.cache)
    (h : Reaches anyStep (start st sh calls) c) :
    Initial c.shared.next ∧ BodiesOk c.shared.next.db ∧ CachedOk c.shared.next.cache := by
  have hadmits : Admits { everything with dicts := true } sh := ⟨fun h => absurd h (by decide), fun _ => ⟨hb, hk⟩⟩
  have hall : Reaches (permits { everything with dicts := true }) (start st sh calls) c := by
    refine h.mono fun c label _ => ?_
    have hany := permits_everything c label
    cases label <;> exact hany
  have hinv := (hall.inv rfl h₀ hadmits).coh
  exact ⟨⟨rfl, rfl, hinv.valid, { hinv.kept.drawn with }⟩, hinv.kept.bodies rfl⟩

namespace Sample

end Sample

end Answer

end EventConsistency
