import EventConsistency.Amounts

/-!
# What a call makes of a request

* `verdict w db key request` : what a call decides on a database that nobody else changes;
* `Heeds` : the changes and the answer that a verdict leads to, with any new ids and any times;
* `Committed.heeds` : a commit heeds the verdict on the database that it changes, unless it answers that an original
  is missing (`Missing`): then it may have been so at the start only;
* **`Call.alone_answers`**, **`Call.alone_heeds`** : a call alone, with a free Redis lock, heeds the verdict on the
  database it finds.
-/

namespace EventConsistency

open Lib TransactionEventService

/-! ## Verdicts -/

inductive Verdict where
  | replayed (record : IdempotencyRecord)
  | refused (exc : Exc)
  | duplicate (event : TransactionEvent) (ledger : LedgerEntry)
  | failed (account : Account) (exc : Exc)
  | applied (account : Account) (original : Option TransactionEvent) (amount newBalance : Int)
  | unanswered

/-- The original that a CANCEL names; no other type has one. -/
def originalOf (db : Db) (request : TransactionEventCreateRequest) : Except Exc (Option TransactionEvent) :=
  if request.eventType ≠ .cancel then .ok none
  else match request.originalExternalEventId with
    | none => .error (.invalidTransactionEvent "CANCEL requires original_external_event_id")
    | some original => match db.eventByExternalId original with
      | none => .error .originalTransactionNotFound
      | some event => .ok (some event)

/-- psycopg2 does not take the id of the original. -/
def originalUnsent (request : TransactionEventCreateRequest) : Bool :=
  request.eventType == .cancel && request.originalExternalEventId.any hasNul

/-- The verdict on an event that counts as `original` says. -/
def verdictOnLedger (key : String) (request : TransactionEventCreateRequest) (account : Account)
    (original : Option TransactionEvent) : Verdict :=
  match LedgerService.ledgerAmount account (receivedEvent key request account 0 0) original with
  | .error x => .failed account x
  | .ok amounts => .applied account original amounts.1 amounts.2

/-- psycopg2 cannot read the original, or does not take the currency. -/
def unwritten (request : TransactionEventCreateRequest) (original : Option TransactionEvent) : Bool :=
  original.any (fun o => !o.occurredAt.readable) || hasNul request.currency

/-- The verdict on an event that is not there yet. -/
def verdictOnNew (db : Db) (key : String) (request : TransactionEventCreateRequest) (account : Account) : Verdict :=
  if originalUnsent request then .unanswered
  else match originalOf db request with
    | .error x => .refused x
    | .ok original => if unwritten request original then .unanswered else verdictOnLedger key request account original

/-- The verdict on an event that is there already. -/
def verdictOnKnown (db : Db) (request : TransactionEventCreateRequest) (account : Account) (event : TransactionEvent) :
    Verdict :=
  match ensureDuplicateMatchesRequest event request account.id with
  | .error x => .refused x
  | .ok () => match db.ledgerByEventId event.id with
    | none => .refused (.invalidTransactionEvent "Duplicate event has no ledger entry")
    | some ledger => .duplicate event ledger

/-- The quarantine that the call looks at, if it looks. -/
def quarantineOf (w : Wiring) (db : Db) (account : Account) : Option QuarantineRecord :=
  if w.quarantineService then db.activeQuarantine "ACCOUNT" (toString account.id) else none

/-- The verdict on a request of an account without quarantine. -/
def verdictOnEvent (db : Db) (key : String) (request : TransactionEventCreateRequest) (account : Account) : Verdict :=
  if hasNul request.externalEventId then .unanswered
  else match db.eventByExternalId request.externalEventId with
    | some event => if !event.occurredAt.readable then .unanswered else verdictOnKnown db request account event
    | none => verdictOnNew db key request account

/-- The verdict on a request of an account. -/
def verdictOn (w : Wiring) (db : Db) (key : String) (request : TransactionEventCreateRequest) (account : Account) :
    Verdict :=
  match quarantineOf w db account with
  | some q => .refused (.targetQuarantined "ACCOUNT" q.quarantineId)
  | none => verdictOnEvent db key request account

def verdict (w : Wiring) (db : Db) (key : String) (request : TransactionEventCreateRequest) : Verdict :=
  match db.recordByKey key with
  | some record => .replayed record
  | none =>
    if hasNul request.accountNo then .unanswered
    else match db.accountByNo request.accountNo with
      | none => .refused .accountNotFound
      | some account => verdictOn w db key request account

/-! ## Following a verdict -/

/-- The record that a call opens for its key. -/
structure NewRecord (st : Settings) (key : String) (request : TransactionEventCreateRequest) (rec : IdempotencyRecord) :
    Prop where
  key_eq : rec.idempotencyKey = key
  hash_eq : rec.requestHash = requestHash st request
  message_eq : rec.errorMessage = none

/-- The changes and the answer that a verdict leads to. -/
inductive Heeds (st : Settings) (key : String) (request : TransactionEventCreateRequest) :
    Verdict → Overlay → TransactionProcessingResult → Prop where
  | replayed {r : IdempotencyRecord} {reply : TransactionProcessingResult} (hh : r.requestHash = requestHash st request)
      (h : Replayed r reply) : Heeds st key request (.replayed r) {} reply
  | refused {rec : IdempotencyRecord} {x : Exc} {t : Time} (ho : NewRecord st key request rec) :
      Heeds st key request (.refused x) (refusedWork (failedRecord rec x t)) (failureResult x)
  | duplicate {rec : IdempotencyRecord} {e : TransactionEvent} {r : LedgerEntry} {t : Time}
      (ho : NewRecord st key request rec) :
      Heeds st key request (.duplicate e r) (refusedWork (completedRecord rec (successResult e r false true) t))
        (successResult e r false true)
  | failed {rec : IdempotencyRecord} {a : Account} {ev : TransactionEvent} {x : Exc} {i₁ i₂ i₃ : Nat} {t t' : Time}
      (ho : NewRecord st key request rec) (row : ev = receivedEvent key request a ev.id t)
      (fits : fitsEvent request.amount request.occurredAt = true) :
      Heeds st key request (.failed a x)
        (eventWork (failedRecord rec x t') (withStatus ev .failed t) (failedHistories ev x i₁ i₂ i₃ t)) (failureResult x)
  | applied {rec : IdempotencyRecord} {a : Account} {orig : Option TransactionEvent} {ev : TransactionEvent}
      {amount newBalance : Int} {i i₁ i₂ i₃ i₄ : Nat} {t t' : Time} (ho : NewRecord st key request rec)
      (row : ev = receivedEvent key request a ev.id t) (fits : fitsEvent request.amount request.occurredAt = true)
      (amounts : fitsBigInteger amount = true ∧ fitsBigInteger newBalance = true) :
      Heeds st key request (.applied a orig amount newBalance)
        (appliedWork (completedRecord rec
            (successResult (withStatus ev .completed t) (ledgerRow i ev a amount newBalance t) true false) t')
          (withStatus ev .completed t) (cancelledRows orig t) (appliedHistories ev orig i₁ i₂ i₃ i₄ t)
          { a with balance := newBalance } (ledgerRow i ev a amount newBalance t))
        (successResult (withStatus ev .completed t) (ledgerRow i ev a amount newBalance t) true false)

/-- The call answers that the original of its CANCEL is missing, as it was at the start. -/
structure Missing (st : Settings) (w : Wiring) (init db : Db) (key : String) (request : TransactionEventCreateRequest)
    (W : Overlay) (reply : TransactionProcessingResult) : Prop where
  work : ∃ rec t, NewRecord st key request rec ∧ W = refusedWork (failedRecord rec .originalTransactionNotFound t)
  answer : reply = failureResult .originalTransactionNotFound
  absent : db.recordByKey key = none
  account : ∃ a, db.accountByNo request.accountNo = some a ∧ quarantineOf w db a = none
  event : init.eventByExternalId request.externalEventId = none
  original : request.eventType = .cancel ∧
    ∃ x, request.originalExternalEventId = some x ∧ init.eventByExternalId x = none ∧ hasNul x = false
  sent : hasNul request.accountNo = false ∧ hasNul request.externalEventId = false

section Heeds

variable {st : Settings} {opts : Opts} {w : Wiring} {hit : Option CacheEntry} {init db : Db} {key : String}
  {request : TransactionEventCreateRequest} {W : Overlay} {reply : TransactionProcessingResult} {a : Account}

/-- What is answered has met no value that does not fit. -/
theorem Heeds.fit {unfit : Bool} {v : Verdict} (h : Heeds st key request (if unfit then .unanswered else v) W reply) :
    Heeds st key request v W reply := by
  cases unfit with
  | true => cases h
  | false => exact h

theorem Opened.newRecord {rec : IdempotencyRecord} (h : Opened st db key request rec) : NewRecord st key request rec :=
  ⟨h.key_eq, h.hash_eq, h.message_eq⟩

theorem Located.quarantineOf_eq (h : Located opts w db request a) (hq : opts.quarantines = false) :
    quarantineOf w db a = none := by
  unfold quarantineOf
  split_ifs with wired
  · exact h.clear hq wired
  · rfl

theorem verdict_sent (absent : db.recordByKey key = none) (sent : hasNul request.accountNo = false) :
    verdict w db key request = match db.accountByNo request.accountNo with
      | none => .refused .accountNotFound
      | some account => verdictOn w db key request account := by
  unfold verdict
  rw [absent]
  dsimp only
  rw [sent]
  rfl

theorem verdict_account (absent : db.recordByKey key = none) (sent : hasNul request.accountNo = false)
    (found : db.accountByNo request.accountNo = some a) :
    verdict w db key request = verdictOn w db key request a := by
  rw [verdict_sent absent sent, found]

theorem verdict_located (absent : db.recordByKey key = none) (sent : hasNul request.accountNo = false)
    (found : db.accountByNo request.accountNo = some a) (clear : quarantineOf w db a = none) :
    verdict w db key request = verdictOnEvent db key request a := by
  rw [verdict_account absent sent found, verdictOn, clear]

theorem Located.verdict_eq (h : Located opts w db request a) (absent : db.recordByKey key = none)
    (hq : opts.quarantines = false) : verdict w db key request = verdictOnEvent db key request a :=
  verdict_located absent h.sent h.found (h.quarantineOf_eq hq)

theorem verdictOnEvent_known {e : TransactionEvent} (sent : hasNul request.externalEventId = false)
    (he : db.eventByExternalId request.externalEventId = some e) (read : e.occurredAt.readable = true) :
    verdictOnEvent db key request a = verdictOnKnown db request a e := by
  rw [verdictOnEvent, sent, he]
  dsimp only
  rw [read]
  rfl

theorem verdictOnEvent_new (sent : hasNul request.externalEventId = false)
    (he : db.eventByExternalId request.externalEventId = none) :
    verdictOnEvent db key request a = verdictOnNew db key request a := by
  rw [verdictOnEvent, sent, he]
  rfl

theorem Original.originalOf_eq {orig : Option TransactionEvent} (h : Original db request orig) :
    originalOf db request = .ok orig := by
  unfold originalOf
  cases h with
  | none other => rw [if_pos other]
  | some cancel named found _ _ =>
      rw [if_neg fun other => other cancel, named]
      dsimp only
      rw [found]

theorem Original.sent {orig : Option TransactionEvent} (h : Original db request orig) :
    originalUnsent request = false := by
  unfold originalUnsent
  cases h with
  | none other => rw [beq_false_of_ne other, Bool.false_and]
  | some cancel named found sent _ =>
      rw [named, Option.any_some, sent, Bool.and_false]

theorem Original.unwritten_eq {orig : Option TransactionEvent} (h : Original db request orig) :
    unwritten request orig = hasNul request.currency := by
  unfold unwritten
  cases h with
  | none _ => rfl
  | some _ _ _ _ read => rw [Option.any_some, read, Bool.not_true, Bool.false_or]

theorem Original.verdictOnNew_eq {orig : Option TransactionEvent} (h : Original db request orig) :
    verdictOnNew db key request a =
      if hasNul request.currency then .unanswered else verdictOnLedger key request a orig := by
  rw [verdictOnNew, h.sent, h.originalOf_eq, ← h.unwritten_eq]
  rfl

/-- The new event counts with what the request says of it. -/
theorem ledgerAmount_received {ev : TransactionEvent} {t : Time} (row : ev = receivedEvent key request a ev.id t)
    (orig : Option TransactionEvent) : LedgerService.ledgerAmount a ev orig =
      LedgerService.ledgerAmount a (receivedEvent key request a 0 0) orig := by
  rw [row]
  rfl

theorem Created.verdictOnEvent_eq {ev : TransactionEvent} {t : Time} {orig : Option TransactionEvent}
    (h : Created db key request a ev t) (hr : Original db request orig) :
    verdictOnEvent db key request a = verdictOnLedger key request a orig := by
  rw [verdictOnEvent_new h.sent.1 h.absent, hr.verdictOnNew_eq, h.sent.2]
  rfl

theorem Missing.verdict_eq (h : Missing st w db db key request W reply) :
    verdict w db key request = .refused .originalTransactionNotFound := by
  obtain ⟨a, found, clear⟩ := h.account
  obtain ⟨cancel, x, named, absent, sent⟩ := h.original
  have missing : originalOf db request = .error .originalTransactionNotFound := by
    unfold originalOf
    rw [if_neg fun other => other cancel, named]
    dsimp only
    rw [absent]
  have asked : originalUnsent request = false := by
    unfold originalUnsent
    rw [named, Option.any_some, sent, Bool.and_false]
  rw [verdict_located h.absent h.sent.1 found clear, verdictOnEvent_new h.sent.2 h.event, verdictOnNew, asked, missing]
  rfl

theorem Missing.heeds (h : Missing st w db db key request W reply) :
    Heeds st key request (verdict w db key request) W reply := by
  obtain ⟨rec, t, new, rfl⟩ := h.work
  rw [h.verdict_eq, h.answer]
  exact .refused new

/-- **A commit heeds the verdict on the database that it changes, or answers that an original is missing.** -/
theorem Committed.heeds (h : Committed st opts w hit init db key request W reply) (hd : opts.deletes = false)
    (hq : opts.quarantines = false) (hw : w.responseCache = false) :
    Heeds st key request (verdict w db key request) W reply ∨ Missing st w init db key request W reply := by
  cases h with
  | @replay r _ hr hh h =>
      left
      have found : verdict w db key request = .replayed r := by
        unfold verdict
        rw [hr hd]
      rw [found]
      exact .replayed hh h
  | cached hc _ _ _ =>
      rw [hw] at hc
      cases hc
  | @refused rec x t ho h =>
      cases h with
      | account absent hs =>
          left
          have found : verdict w db key request = .refused .accountNotFound := by
            rw [verdict_sent ho.absent hs, absent]
          rw [found]
          exact .refused ho.newRecord
      | @quarantined a q ha wired active hs =>
          left
          have found : verdict w db key request = .refused (.targetQuarantined "ACCOUNT" q.quarantineId) := by
            rw [verdict_account ho.absent hs ha, verdictOn, quarantineOf, if_pos wired, active hq]
          rw [found]
          exact .refused ho.newRecord
      | mismatch hl he hx hs read =>
          left
          rw [hl.verdict_eq ho.absent hq, verdictOnEvent_known hs he read, verdictOnKnown, hx]
          exact .refused ho.newRecord
      | noLedger hl he hx hn hs read =>
          left
          rw [hl.verdict_eq ho.absent hq, verdictOnEvent_known hs he read, verdictOnKnown, hx]
          dsimp only
          rw [hn]
          exact .refused ho.newRecord
      | original hl hc hx he hn hs hs' =>
          right
          exact
            { work := ⟨rec, t, ho.newRecord, rfl⟩
              answer := rfl
              absent := ho.absent
              account := ⟨_, hl.found, hl.quarantineOf_eq hq⟩
              event := he
              original := ⟨hc, _, hx, hn, hs'⟩
              sent := ⟨hl.sent, hs⟩ }
  | duplicate ho hl he hx hr hs read =>
      left
      rw [hl.verdict_eq ho.absent hq, verdictOnEvent_known hs he read, verdictOnKnown, hx]
      dsimp only
      rw [hr]
      exact .duplicate ho.newRecord
  | failed ho hl hr hc hh hx =>
      left
      rw [hl.verdict_eq ho.absent hq, hc.verdictOnEvent_eq hr, verdictOnLedger, ← ledgerAmount_received hc.row, hx]
      exact .failed ho.newRecord hc.row hc.fits
  | applied ho hl hr hc hx hh hn =>
      left
      rw [hl.verdict_eq ho.absent hq, hc.verdictOnEvent_eq hr, verdictOnLedger, ← ledgerAmount_received hc.row, hx]
      exact .applied ho.newRecord hc.row hc.fits hn.fits

end Heeds

/-! ## A call alone -/

/-- A verdict that does not end in an exception: the record has an answer for this request, and what it writes fits. -/
def Proceeds (st : Settings) (request : TransactionEventCreateRequest) : Verdict → Prop
  | .replayed r => r.requestHash = requestHash st request ∧ ∃ reply, Replayed r reply
  | .refused _ | .duplicate .. => True
  | .failed .. => fitsEvent request.amount request.occurredAt = true
  | .applied _ _ amount newBalance =>
      fitsEvent request.amount request.occurredAt = true ∧ fitsBigInteger amount = true ∧ fitsBigInteger newBalance = true
  | .unanswered => False

theorem Heeds.proceeds {st : Settings} {key : String} {request : TransactionEventCreateRequest} {v : Verdict}
    {W : Overlay} {reply : TransactionProcessingResult} (h : Heeds st key request v W reply) :
    Proceeds st request v := by
  cases h with
  | replayed hh h => exact ⟨hh, _, h⟩
  | refused _ => trivial
  | duplicate _ => trivial
  | failed _ _ fits => exact fits
  | applied _ _ fits amounts => exact ⟨fits, amounts⟩

/-- Nobody else is there, and nothing is lost. -/
def solo : Opts := { quiet := true, outages := false }

section Alone

variable {st : Settings} {c l : Session} {sh : Shared} {svc : Service} {call : Call} {w : Wiring} {key : String}
  {request : TransactionEventCreateRequest} {a : Account}

/-- The transaction of a call alone: it commits, or its first attempt fails. -/
theorem processWithDbFallback_solo (svc : Service) (c : Session) (hsvc : svc.toSettings = st) (hw : svc.toWiring = c.wiring)
    (h : Idle solo c [] 0 sh l) (hc : l.cacheWrote = none) :
    (logic st solo).wp (processWithDbFallback svc c.key c.request)
      (Outcome (fun reply sh l => ∃ W, Done st solo c [] 0 W reply sh l)
        (AttemptFailed st solo c [] 0 fun _ _ => True)) sh l := by
  have start : At solo c [] 0 {} [] [] l.activeEvent none (fun _ _ => True) sh l :=
    h.start hc trivial fun _ _ _ _ _ => trivial
  unfold processWithDbFallback attempts
  refine Logic.wp_tryCatch (withBegin_wp hsvc hw start) (fun reply sh l h => ?_) (fun z sh l h => ?_)
  · obtain ⟨W, -, h⟩ := h
    exact ⟨W, h⟩
  · split
    · have conflict := h.integrity.1
      cases conflict
    · refine Logic.wp_bind h.rollback (fun _ sh l h => ?_) (fun _ _ _ hf => hf.elim)
      exact Logic.wp_throw fun sh' hr => AttemptFailed.stable h hr

theorem releaseLock_healthy (lockKey : String) (lockResult : RedisLockResult) (sh : Shared) (l : Session) :
    ((releaseLock lockKey lockResult).healthy sh l).1 = .ok () ∧
      ((releaseLock lockKey lockResult).healthy sh l).2.1.db = sh.db := by
  refine ⟨releaseLock_returns lockKey lockResult sh l, ?_⟩
  unfold releaseLock
  by_cases ha : lockResult.acquired = true
  · rw [if_pos ha]
    refine (congrArg (fun out : Except Exc Unit × Shared × Session => out.2.1.db)
      (Prog.run_call (Op.lockRelease lockKey lockResult.token))).trans ?_
    simp only [exec]
    split <;> rfl
  · rw [if_neg ha]
    rfl

theorem andFinally_healthy {α : Type} {p : Py α} {q : Py Unit}
    (hq : ∀ sh l, (q.healthy sh l).1 = .ok () ∧ (q.healthy sh l).2.1.db = sh.db) (sh : Shared) (l : Session) :
    ((p.andFinally q).healthy sh l).1 = (p.healthy sh l).1 ∧
      ((p.andFinally q).healthy sh l).2.1.db = (p.healthy sh l).2.1.db := by
  unfold Prog.andFinally
  rw [healthy_handle, healthy_handle, (hq _ _).1]
  dsimp only
  have settled := (hq (p.healthy sh l).2.1 (p.healthy sh l).2.2).2
  cases (p.healthy sh l).1 with
  | ok a => exact ⟨rfl, settled⟩
  | error x => exact ⟨rfl, settled⟩

/-- Behind a free Redis lock a call is its transaction. -/
theorem process_healthy (svc : Service) (key : String) (request : TransactionEventCreateRequest) (sh : Shared)
    (l : Session) (free : svc.redisLock = true → sh.locks.lookup (idempotencyLockKey svc key) = none) :
    ∃ locks token,
    ((process svc key request).healthy sh l).1 =
        ((processWithDbFallback svc key request).healthy { sh with locks := locks, nextToken := token } l).1 ∧
      ((process svc key request).healthy sh l).2.1.db =
        ((processWithDbFallback svc key request).healthy { sh with locks := locks, nextToken := token } l).2.1.db := by
  unfold process
  by_cases hr : svc.redisLock = true
  · have acquired : (Py.lockAcquire (idempotencyLockKey svc key)).healthy sh l =
        (.ok { acquired := true, token := some sh.nextToken, redisAvailable := true },
          { sh with locks := (idempotencyLockKey svc key, sh.nextToken) :: sh.locks, nextToken := sh.nextToken + 1 },
          l) := by
      refine (Prog.run_call (Op.lockAcquire (idempotencyLockKey svc key))).trans ?_
      simp only [exec, free hr, Bool.false_eq_true, if_false, Option.isSome_none]
      rfl
    have finished := andFinally_healthy (p := processWithDbFallback svc key request) (releaseLock_healthy
        (idempotencyLockKey svc key) { acquired := true, token := some sh.nextToken, redisAvailable := true })
      { sh with locks := (idempotencyLockKey svc key, sh.nextToken) :: sh.locks, nextToken := sh.nextToken + 1 } l
    rw [if_pos hr]
    refine ⟨(idempotencyLockKey svc key, sh.nextToken) :: sh.locks, sh.nextToken + 1, ?_⟩
    refine ⟨(congrArg Prod.fst (Prog.run_bind_ok acquired)).trans finished.1, ?_⟩
    exact (congrArg (fun out : Except Exc TransactionProcessingResult × Shared × Session => out.2.1.db)
      (Prog.run_bind_ok acquired)).trans finished.2
  · rw [if_neg hr]
    exact ⟨sh.locks, sh.nextToken, rfl, rfl⟩

theorem healthy_wp {α : Type} {p : Py α} {Q : Except Exc α → Shared → Session → Prop}
    (h : (logic st solo).wp p Q sh l) : Q (p.healthy sh l).1 (p.healthy sh l).2.1 (p.healthy sh l).2.2 := by
  have allowed : ∀ (fault : Bool) (o : Op) (s : Shared) (l : Session), fault = false →
      (logic st solo).exec o s l (exec fault o s l).1 (exec fault o s l).2.1 (exec fault o s l).2.2 := by
    intro fault o s l healthy
    exact ⟨fault, ⟨fun _ _ => healthy, fun duplicates => by cases duplicates⟩, rfl⟩
  exact Logic.wp_run allowed (fun _ => rfl) h

theorem healthy_init {α : Type} (p : Py α) (sh : Shared) (l : Session) : (p.healthy sh l).2.1.init = sh.init :=
  Prog.run_init p _ sh l

/-- A call whose verdict does not end in an exception: what it sends is taken. -/
theorem Proceeds.sent {db : Db} (h : Proceeds st request (verdict w db key request))
    (absent : db.recordByKey key = none) : hasNul request.accountNo = false := by
  cases unsent : hasNul request.accountNo with
  | false => rfl
  | true =>
      unfold verdict at h
      rw [absent] at h
      dsimp only at h
      rw [unsent] at h
      exact h.elim

theorem Proceeds.on_event {db : Db} (h : Proceeds st request (verdict w db key request))
    (absent : db.recordByKey key = none) (located : Located solo w db request a) :
    Proceeds st request (verdictOnEvent db key request a) := by
  rw [located.verdict_eq absent rfl] at h
  exact h

theorem Proceeds.sent_event {db : Db} (h : Proceeds st request (verdict w db key request))
    (absent : db.recordByKey key = none) (located : Located solo w db request a) :
    hasNul request.externalEventId = false := by
  replace h := h.on_event absent located
  rw [verdictOnEvent] at h
  cases unsent : hasNul request.externalEventId with
  | false => rfl
  | true =>
      rw [unsent] at h
      exact h.elim

theorem Proceeds.on_new {db : Db} (h : Proceeds st request (verdict w db key request))
    (absent : db.recordByKey key = none) (located : Located solo w db request a)
    (unseen : db.eventByExternalId request.externalEventId = none) :
    Proceeds st request (verdictOnNew db key request a) := by
  have event := h.on_event absent located
  rw [verdictOnEvent_new (h.sent_event absent located) unseen] at event
  exact event

theorem Proceeds.on_ledger {db : Db} {orig : Option TransactionEvent}
    (h : Proceeds st request (verdict w db key request)) (absent : db.recordByKey key = none)
    (located : Located solo w db request a) (unseen : db.eventByExternalId request.externalEventId = none)
    (original : Original db request orig) :
    hasNul request.currency = false ∧ Proceeds st request (verdictOnLedger key request a orig) := by
  have new := h.on_new absent located unseen
  rw [original.verdictOnNew_eq] at new
  cases unsent : hasNul request.currency with
  | false =>
      rw [unsent] at new
      exact ⟨rfl, new⟩
  | true =>
      rw [unsent] at new
      exact new.elim

theorem Proceeds.not_unanswerable {db : Db} {i : Nat}
    (h : Proceeds st call.request (verdict call.wiring db call.key call.request)) :
    ¬ Unanswerable solo (call.session i) db := by
  intro unsendable
  cases unsendable with
  | account absent nul =>
      have sent : hasNul call.request.accountNo = false := h.sent absent
      exact Bool.false_ne_true (sent.symm.trans nul)
  | event absent located nul =>
      have sent : hasNul call.request.externalEventId = false := h.sent_event absent located
      exact Bool.false_ne_true (sent.symm.trans nul)
  | @original a x absent located unseen cancel named nul =>
      have new : Proceeds st call.request (verdictOnNew db call.key call.request a) := h.on_new absent located unseen
      change call.request.eventType = .cancel at cancel
      change call.request.originalExternalEventId = some x at named
      have unsent : originalUnsent call.request = true := by
        unfold originalUnsent
        rw [cancel, named, Option.any_some, nul]
        rfl
      rw [verdictOnNew, unsent] at new
      exact new.elim
  | eventRow absent located found unread =>
      have known : Proceeds st call.request (verdictOnEvent db call.key call.request _) :=
        h.on_event absent located
      have sent : hasNul call.request.externalEventId = false := h.sent_event absent located
      change db.eventByExternalId call.request.externalEventId = _ at found
      rw [verdictOnEvent, sent, found] at known
      dsimp only at known
      rw [unread] at known
      exact known.elim
  | @originalRow a x o absent located unseen cancel named found unread =>
      have new : Proceeds st call.request (verdictOnNew db call.key call.request a) := h.on_new absent located unseen
      change call.request.eventType = .cancel at cancel
      change call.request.originalExternalEventId = some x at named
      have original : originalOf db call.request = .ok (some o) := by
        unfold originalOf
        rw [if_neg fun other => other cancel, named]
        dsimp only
        rw [found]
      have unfit : unwritten call.request (some o) = true := by
        unfold unwritten
        rw [Option.any_some, unread]
        rfl
      rw [verdictOnNew, original] at new
      dsimp only at new
      rw [unfit] at new
      cases asked : originalUnsent call.request with
      | true =>
          rw [asked] at new
          exact new.elim
      | false =>
          rw [asked] at new
          exact new.elim

theorem Proceeds.not_unwritable {db : Db} {i : Nat}
    (h : Proceeds st call.request (verdict call.wiring db call.key call.request)) :
    ¬ Unwritable solo (call.session i) db := by
  rintro ⟨absent, unseen, ⟨a, orig, located, original⟩, nul⟩
  have sent : hasNul call.request.currency = false := (h.on_ledger absent located unseen original).1
  exact Bool.false_ne_true (sent.symm.trans nul)

/-- A call whose verdict does not end in an exception meets no value that a column cannot hold. -/
theorem Proceeds.not_overflow {db : Db} {i : Nat}
    (h : Proceeds st call.request (verdict call.wiring db call.key call.request)) :
    ¬ Overflow solo (call.session i) db := by
  rintro ⟨absent, unseen, a, orig, located, original, large⟩
  replace h : Proceeds st call.request (verdictOnLedger call.key call.request a orig) :=
    (h.on_ledger absent located unseen original).2
  rw [verdictOnLedger] at h
  cases counted : LedgerService.ledgerAmount a (receivedEvent call.key call.request a 0 0) orig with
  | error x =>
      rw [counted] at h
      change fitsEvent call.request.amount call.request.occurredAt = true at h
      obtain small | ⟨id, t, amount, newBalance, counted', _⟩ := large
      · change fitsEvent call.request.amount call.request.occurredAt = false at small
        rw [h] at small
        cases small
      · have same : LedgerService.ledgerAmount a (receivedEvent call.key call.request a 0 0) orig =
            .ok (amount, newBalance) := counted'
        rw [counted] at same
        cases same
  | ok amounts =>
      rw [counted] at h
      obtain ⟨fits, amount_fits, balance_fits⟩ := h
      obtain small | ⟨id, t, amount, newBalance, counted', small⟩ := large
      · change fitsEvent call.request.amount call.request.occurredAt = false at small
        rw [fits] at small
        cases small
      · have same : LedgerService.ledgerAmount a (receivedEvent call.key call.request a 0 0) orig =
            .ok (amount, newBalance) := counted'
        rw [counted] at same
        cases same
        obtain small | small := small
        · rw [amount_fits] at small
          cases small
        · rw [balance_fits] at small
          cases small

/-- The record of the key answers. -/
theorem attemptBody_replays {r : IdempotencyRecord} {reply : TransactionProcessingResult} {key : String}
    {request : TransactionEventCreateRequest} (svc : Service) (idle : l.Idle) (plain : svc.responseCache = false)
    (known : sh.db.recordByKey key = some r) (same : r.requestHash = generateRequestHash svc.sha256 request.modelDump)
    (h : Replayed r reply) : ∃ l', (attemptBody svc key request).healthy sh l = (.ok reply, sh, l') := by
  have consulted : (svc.checkOrStart key request.modelDump).healthy sh l =
      (IdempotencyService.decide r (generateRequestHash svc.sha256 request.modelDump), sh, l.begin sh.clock) := by
    rw [healthy_eq_alone]
    unfold Service.checkOrStart
    rw [plain, if_neg (by decide)]
    exact run_checkOrStart_some idle _ known
  have agreed : IdempotencyService.ensureSameRequestHash r (generateRequestHash svc.sha256 request.modelDump) = .ok () := by
    unfold IdempotencyService.ensureSameRequestHash
    rw [if_neg (not_not_intro same)]
  refine ⟨l.begin sh.clock, ?_⟩
  unfold IdempotencyService.decide at consulted
  unfold Replayed at h
  rw [agreed] at consulted
  unfold attemptBody
  cases stored : r.status with
  | processing =>
      rw [stored] at h consulted
      rw [h]
      exact (Prog.run_bind_ok consulted).trans rfl
  | completed =>
      rw [stored] at h consulted
      refine (Prog.run_bind_ok consulted).trans ?_
      dsimp only
      rw [h]
      rfl
  | failed =>
      rw [stored] at h consulted
      refine (Prog.run_bind_ok consulted).trans ?_
      dsimp only
      rw [h]
      rfl

/-- The key is new, and no exception is the verdict. -/
theorem attemptBody_proceeds (h : Idle solo (call.session 0) [] 0 sh (call.session 0))
    (plain : call.wiring.responseCache = false) (absent : sh.db.recordByKey call.key = none)
    (proceeds : Proceeds st call.request (verdict call.wiring sh.db call.key call.request)) :
    ∃ reply sh' l', (attemptBody ⟨st, call.wiring⟩ call.key call.request).healthy sh (call.session 0) =
      (.ok reply, sh', l') := by
  have start : At solo (call.session 0) [] 0 {} [] [] none none (fun _ _ => True) sh (call.session 0) :=
    h.start rfl trivial fun _ _ _ _ _ => trivial
  have uncached : call.wiring.responseCache = true →
      ∀ e, sh.cache.lookup (idempotencyCacheKey ⟨st, call.wiring⟩ call.key) = some e →
        e.response.requestHash ≠ generateRequestHash st.sha256 call.request.modelDump := by
    rw [plain]
    intro cached
    cases cached
  obtain ⟨i, sh₁, l₁, opened, same, _⟩ : ∃ i sh₁ l₁,
      (Service.checkOrStart ⟨st, call.wiring⟩ call.key call.request.modelDump).healthy sh (call.session 0) =
        (.ok ⟨.started, some i, none, none⟩, sh₁, l₁) ∧
      sh₁.db = sh.db ∧ l₁.failed = false ∧
      l₁.work = refusedWork (newRecord ⟨st, call.wiring⟩ sh call.key call.request.modelDump) :=
    checkOrStart_starts ⟨rfl, rfl, rfl⟩ absent _ uncached
  have checking : (logic st solo).wp (Service.checkOrStart ⟨st, call.wiring⟩ call.key call.request.modelDump)
      (Outcome (Checked st solo (call.session 0) [] 0 none fun _ _ => True)
        (CheckFailed st solo (call.session 0) [] 0 fun _ _ => True)) sh (call.session 0) :=
    checkOrStart_wp (c := call.session 0) rfl rfl start
  have checked := healthy_wp checking
  rw [opened] at checked
  obtain ⟨_, _, rec, t, started⟩ | ⟨other, _⟩ := checked
  · have begun : (attemptBody ⟨st, call.wiring⟩ call.key call.request).healthy sh (call.session 0) =
        (processStarted ⟨st, call.wiring⟩ call.key call.request call.request.modelDump).healthy sh₁ l₁ := by
      unfold attemptBody
      exact (Prog.run_bind_ok opened).trans rfl
    have working : (logic st solo).wp
        (processStarted ⟨st, call.wiring⟩ call.key call.request call.request.modelDump)
        (Outcome (Ready st solo (call.session 0) [] 0) (Escaping solo (call.session 0) [] 0)) sh₁ l₁ :=
      processStarted_wp (c := call.session 0) rfl rfl started
    have ended := healthy_wp working
    have since := healthy_init (processStarted ⟨st, call.wiring⟩ call.key call.request call.request.modelDump) sh₁ l₁
    rw [begun]
    generalize (processStarted ⟨st, call.wiring⟩ call.key call.request call.request.modelDump).healthy sh₁ l₁ = out
      at ended since ⊢
    obtain ⟨r, sh', l'⟩ := out
    cases r with
    | ok reply => exact ⟨reply, sh', l', rfl⟩
    | error x =>
        obtain ⟨site, y, _, _, broken⟩ | withheld := ended
        · have same' : sh'.db = sh.db := by
            rw [(broken.still rfl).1, since, ← (started.still rfl).1, same]
          have kind := broken.kind
          rw [same'] at kind
          cases kind with
          | operational h => cases h
          | record h _ => cases h
          | event h _ => cases h
          | data h => exact (proceeds.not_overflow (h rfl)).elim
          | text h => exact (proceeds.not_unwritable (h rfl)).elim
        · have same' : sh'.db = sh.db := by
            rw [(withheld.still rfl).1, since, ← (started.still rfl).1, same]
          have unsent := withheld.why.2 rfl
          rw [same'] at unsent
          exact (proceeds.not_unanswerable unsent).elim
  · exact absurd rfl other

/-- A call alone gets an answer from its first attempt, unless its verdict is an exception. -/
theorem attemptBody_returns (h : Idle solo (call.session 0) [] 0 sh (call.session 0))
    (plain : call.wiring.responseCache = false)
    (proceeds : Proceeds st call.request (verdict call.wiring sh.db call.key call.request)) :
    ∃ reply sh' l', (attemptBody ⟨st, call.wiring⟩ call.key call.request).healthy sh (call.session 0) =
      (.ok reply, sh', l') := by
  cases known : sh.db.recordByKey call.key with
  | none => exact attemptBody_proceeds h plain known proceeds
  | some r =>
      have found : verdict call.wiring sh.db call.key call.request = .replayed r := by
        unfold verdict
        rw [known]
      rw [found] at proceeds
      obtain ⟨same, reply, replayed⟩ := proceeds
      obtain ⟨l', ran⟩ := attemptBody_replays (l := call.session 0) ⟨st, call.wiring⟩ ⟨rfl, rfl, rfl⟩ plain known same
        replayed
      exact ⟨reply, sh, l', ran⟩

theorem transaction_alone (st : Settings) (h : Idle solo (call.session 0) [] 0 sh (call.session 0)) :
    Outcome (fun reply sh l => ∃ W, Done st solo (call.session 0) [] 0 W reply sh l)
      (AttemptFailed st solo (call.session 0) [] 0 fun _ _ => True)
      ((processWithDbFallback ⟨st, call.wiring⟩ call.key call.request).healthy sh (call.session 0)).1
      ((processWithDbFallback ⟨st, call.wiring⟩ call.key call.request).healthy sh (call.session 0)).2.1
      ((processWithDbFallback ⟨st, call.wiring⟩ call.key call.request).healthy sh (call.session 0)).2.2 := by
  have begun : (logic st solo).wp (processWithDbFallback ⟨st, call.wiring⟩ call.key call.request)
      (Outcome (fun reply sh l => ∃ W, Done st solo (call.session 0) [] 0 W reply sh l)
        (AttemptFailed st solo (call.session 0) [] 0 fun _ _ => True)) sh (call.session 0) :=
    processWithDbFallback_solo ⟨st, call.wiring⟩ (call.session 0) rfl rfl h rfl
  exact healthy_wp begun

/-- The answer and the database of a call alone are those of its transaction. -/
theorem Call.alone_eq (call : Call) (st : Settings) (free : sh.locks = []) :
    ∃ locks token, (call.alone st (fun _ => false) sh).1 =
        ((processWithDbFallback ⟨st, call.wiring⟩ call.key call.request).healthy
          { sh with locks := locks, nextToken := token } (call.session 0)).1 ∧
      (call.alone st (fun _ => false) sh).2.1.db =
        ((processWithDbFallback ⟨st, call.wiring⟩ call.key call.request).healthy
          { sh with locks := locks, nextToken := token } (call.session 0)).2.1.db := by
  have unlocked : call.wiring.redisLock = true →
      sh.locks.lookup (idempotencyLockKey ⟨st, call.wiring⟩ call.key) = none := by
    intro _
    rw [free]
    rfl
  obtain ⟨locks, token, answer, written⟩ :=
    process_healthy ⟨st, call.wiring⟩ call.key call.request sh (call.session 0) unlocked
  have alone : call.alone st (fun _ => false) sh =
      (process ⟨st, call.wiring⟩ call.key call.request).healthy sh (call.session 0) := rfl
  rw [alone]
  exact ⟨locks, token, answer, written⟩

/-- A call alone gets an answer, unless its verdict is an exception. -/
theorem Call.alone_answers (call : Call) (h₀ : Initial sh) (free : sh.locks = [])
    (plain : call.wiring.responseCache = false)
    (proceeds : Proceeds st call.request (verdict call.wiring sh.db call.key call.request)) :
    ∃ reply, (call.alone st (fun _ => false) sh).1 = .ok reply := by
  obtain ⟨locks, token, answer, _⟩ := call.alone_eq st free
  have idle : Idle solo (call.session 0) [] 0 { sh with locks := locks, nextToken := token } (call.session 0) :=
    (idle_start call (h₀.wellKept (Admits.any rfl rfl)) h₀.log_eq fun _ => h₀.init_eq.symm).relock locks token
  obtain ⟨reply, _, _, returned⟩ := attemptBody_returns idle plain proceeds
  rw [answer]
  exact ⟨reply, processWithDbFallback_returns returned⟩

/-- **A call alone that gets an answer heeds its verdict.** -/
theorem Call.alone_heeds (call : Call) (h₀ : Initial sh) (free : sh.locks = []) (plain : call.wiring.responseCache = false)
    {reply : TransactionProcessingResult} (answered : (call.alone st (fun _ => false) sh).1 = .ok reply) :
    ∃ W, (call.alone st (fun _ => false) sh).2.1.db = W.apply sh.db ∧
      Heeds st call.key call.request (verdict call.wiring sh.db call.key call.request) W reply := by
  obtain ⟨locks, token, answer, written⟩ := call.alone_eq st free
  have idle : Idle solo (call.session 0) [] 0 { sh with locks := locks, nextToken := token } (call.session 0) :=
    (idle_start call (h₀.wellKept (Admits.any rfl rfl)) h₀.log_eq fun _ => h₀.init_eq.symm).relock locks token
  rw [answer] at answered
  rw [written]
  have ended := transaction_alone st idle
  have start := healthy_init (processWithDbFallback ⟨st, call.wiring⟩ call.key call.request)
    { sh with locks := locks, nextToken := token } (call.session 0)
  generalize (processWithDbFallback ⟨st, call.wiring⟩ call.key call.request).healthy
    { sh with locks := locks, nextToken := token } (call.session 0) = out at answered ended start ⊢
  obtain ⟨r, sh', l'⟩ := out
  change r = .ok reply at answered
  subst answered
  obtain ⟨W, done⟩ := ended
  obtain ⟨written, hit, committed⟩ := done.alone rfl
  have since : sh'.init = sh.db := start.trans h₀.init_eq
  rw [since] at written committed
  refine ⟨W, written, ?_⟩
  obtain heeds | missing := committed.heeds rfl rfl plain
  · exact heeds
  · exact missing.heeds

theorem blocked_nil (o : Op) (sh : Shared) (l : Session) : blocked [] o sh l = false := by
  unfold blocked
  cases o with
  | sql site stmt => cases stmt <;> simp <;> split <;> simp
  | _ => rfl

/-- A call alone is a run of the system with no other call. -/
theorem run_reaches {p : Py TransactionProcessingResult} {c : Config} {outage : Nat → Bool}
    (h : Reaches (permits {}) c ⟨sh, [⟨l, p⟩]⟩) :
    ∃ t, Reaches (permits {}) c ⟨(p.run exec outage sh l).2.1, [t]⟩ := by
  induction p generalizing outage sh l with
  | ret _ => exact ⟨_, h⟩
  | raise _ => exact ⟨_, h⟩
  | op o k ih =>
      refine ih (exec (outage 0) o sh l).1 ?_
      cases met : outage 0 with
      | true =>
          have allowed : permits {} ⟨sh, [⟨l, .op o k⟩]⟩ (.outage 0) := fun none => by cases none
          exact .step h allowed rfl
      | false =>
          have allowed : permits {} ⟨sh, [⟨l, .op o k⟩]⟩ (.run 0) := fun none => by cases none
          refine .step h allowed ?_
          show (if blocked (others ⟨sh, [⟨l, .op o k⟩]⟩ 0) o sh l then none else _) = _
          have alone : others ⟨sh, [⟨l, .op o k⟩]⟩ 0 = [] := rfl
          rw [alone, blocked_nil]
          rfl

theorem Call.alone_reaches (st : Settings) (call : Call) (outage : Nat → Bool) (sh : Shared) :
    ∃ t, Reaches (permits {}) (start st sh [call]) ⟨(call.alone st outage sh).2.1, [t]⟩ :=
  run_reaches .refl

/-- Behind a call alone the next one finds such a state again. -/
theorem Call.alone_initial (h₀ : Initial sh) (outage : Nat → Bool) : Initial (call.alone st outage sh).2.1.next := by
  obtain ⟨t, reached⟩ := Call.alone_reaches st call outage sh
  have coherent := (reached.inv rfl h₀ (Admits.any rfl rfl)).coh
  exact ⟨rfl, rfl, coherent.valid, { coherent.kept.drawn with }⟩

end Alone

end EventConsistency
