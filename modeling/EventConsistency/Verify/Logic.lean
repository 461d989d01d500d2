import EventConsistency.Verify.Stable

/-!
# The program logic of a call

* `Owed` : what a call owes when it commits; `logic` : the rely-guarantee logic of the system's calls;
* `At` : a call in an open transaction, with its changes `W`, its row locks and the faults it has met so far,
  all of whose inserted rows are new to the database and whose changes are covered by its locks;
* `Broken` : a call whose statement was refused at `site` with `x`, before `rollback()`;
* `At.wp_sql` : a statement leads from `At` to its result or to `Broken`; `Broken.wp_sql` : any further one
  raises `PendingRollbackError`.
-/

namespace EventConsistency

open Lib TransactionEventService

/-- The locks `al` on accounts and `el` on events protect the changes `W`. -/
structure Covered (W : Overlay) (al el : List Nat) : Prop where
  noAccounts : W.accounts.inserted = []
  noLedgerUpdates : W.ledger.updated = []
  noHistoryUpdates : W.histories.updated = []
  noRecordUpdates : W.records.updated = []
  accounts : ∀ a ∈ W.accounts.updated, a.id ∈ al
  newEvents : ∀ e ∈ W.events.inserted, e.accountId ∈ al
  events : ∀ e ∈ W.events.updated, e.id ∈ el ∧ e.accountId ∈ al
  ledger : ∀ r ∈ W.ledger.inserted, r.accountId ∈ al ∧ r.transactionEventId ∈ W.events.inserted.map (·.id)
  histories : ∀ h ∈ W.histories.inserted,
    h.transactionEventId ∈ W.events.inserted.map (·.id) ∨ h.transactionEventId ∈ el

/-- The cached response repeats the record of the key. -/
def Repeats (db : Db) (key : String) (response : CachedIdempotencyResponse) : Prop :=
  ∃ r, db.recordByKey key = some r ∧ r.status = .completed ∧ r.requestHash = response.requestHash ∧
    r.responseBody = response.responseBody ∧ codeOr r.responseCode 200 = response.responseCode

/-- A cache entry that the call has written answers as the call's record will. -/
def CacheKept (opts : Opts) (sh : Shared) (l : Session) : Prop :=
  ∀ e, l.cacheWrote = some e → e.writer = l.tid ∧
    (opts.deletes = false → Repeats (l.work.apply sh.db) l.key e.response)

/-- What a call owes when it commits. -/
structure Owed (st : Settings) (opts : Opts) (reply : TransactionProcessingResult) (sh : Shared) (l : Session) :
    Prop where
  ok : l.failed = false
  fresh : ∀ c ∈ sh.log, c.tid ≠ l.tid
  shape : Committed st opts l.wiring l.cacheHit sh.init sh.db l.key l.request l.work reply
  covered : Covered l.work l.accountLocks l.eventLocks
  cache : CacheKept opts sh l

/-- An update keeps the unique columns of the call's own rows; only own or locked events are updated. -/
def Stmt.owes : Stmt → Session → Prop
  | .updateRecord record, l =>
      ∃ r, l.work.records.inserted = [r] ∧ record.id = r.id ∧ record.idempotencyKey = r.idempotencyKey
  | .updateEventStatus event .., l =>
      (∀ e ∈ l.work.events.inserted, e.id = event.id → e.externalEventId = event.externalEventId) ∧
        (event.id ∈ l.eventIds ∨ event.id ∈ l.eventLocks)
  | _, _ => True

/-- What a call owes before an operation: a commit commits what it should, and a cache entry is its first one, has a
body and, unless `complete` sets it, repeats the committed record. -/
def owes (st : Settings) (opts : Opts) : Op → Shared → Session → Prop
  | .sql _ stmt, _, l => l.failed = false → stmt.owes l
  | .commit reply, sh, l => Owed st opts reply sh l
  | .cacheSet site _ response, sh, l => (∀ x ∈ sh.log, x.tid ≠ l.tid) ∧ l.cacheWrote = none ∧
      (opts.dicts = true → BodyOk response.responseBody) ∧
      (opts.deletes = false → site ≠ .complete → Repeats sh.db l.key response)
  | _, _, _ => True

/-- The operation is a statement or a commit. -/
def Op.usesDatabase : Op → Bool
  | .sql .. | .commit _ => true
  | _ => false

/-- The operation inserts an event whose external id is taken. -/
def Op.meetsDuplicate : Op → Shared → Session → Bool
  | .sql _ (.insertEvent externalEventId _ _ _ amount _ occurredAt), sh, l =>
      fitsEvent amount occurredAt && ((l.work.apply sh.db).eventByExternalId externalEventId).isSome
  | _, _, _ => false

/-- The surroundings let the operation happen so. -/
structure Allowed (opts : Opts) (fault : Bool) (o : Op) (sh : Shared) (l : Session) : Prop where
  outage : opts.outages = false → o.usesDatabase = true → fault = false
  duplicate : opts.duplicates = false → fault = false → o.meetsDuplicate sh l = false

def logic (st : Settings) (opts : Opts) : Logic Op Op.Res Exc Shared Session where
  exec o sh l r sh' l' := ∃ fault, Allowed opts fault o sh l ∧ exec fault o sh l = (r, sh', l')
  pre := owes st opts
  rely := Rely opts
  rely_refl := Rely.refl
  rely_trans := Rely.trans

/-! ## Where a call is -/

/-- The call `c` after the faults `F`, not committed yet. -/
structure Running (opts : Opts) (c : Session) (F : List (Site × Exc)) (n : Nat) (sh : Shared) (l : Session) :
    Prop where
  tid : l.tid = c.tid
  wiring : l.wiring = c.wiring
  key : l.key = c.key
  request : l.request = c.request
  kept : WellKept opts sh
  fresh : ∀ x ∈ sh.log, x.tid ≠ l.tid
  faults : l.faults = F
  retries : l.retries = n
  still : opts.quiet = true → sh.db = sh.init ∧ sh.log = []

/-- The inserted rows of `W` are new to the database. -/
structure Fresh (sh : Shared) (W : Overlay) (al el : List Nat) : Prop where
  covered : Covered W al el
  histories : NewHistories sh.db W.histories.inserted
  historySeq : ∀ h ∈ W.histories.inserted, h.id < sh.seqs.history
  ledger : ∀ r ∈ W.ledger.inserted, NewLedger sh.db r

/-- What a call may know: a fact of the database at the start and of the database now. -/
abbrev Fact := Db → Db → Prop

/-- `P` is protected by what `l` holds. -/
def Guarded (opts : Opts) (l : Session) (P : Fact) : Prop :=
  ∀ sh sh', Rely opts l sh sh' → WellKept opts sh → P sh.init sh.db → P sh'.init sh'.db

theorem Guarded.anti {opts : Opts} {l l' : Session} {P : Fact} (h : Guarded opts l P) (hl : l.Holds l') :
    Guarded opts l' P :=
  fun _ _ hr => h _ _ (hr.anti hl)

theorem Session.holds_begin (l : Session) (clock : Time) : l.Holds (l.begin clock) :=
  ⟨rfl, fun _ h => h, fun _ h => h, fun _ h => h, fun _ h => h, fun _ h => h, fun _ h => h, fun _ h => h,
    fun _ h => h⟩

/-- The call `c` in an open transaction with changes `W` and row locks `al`, `el`, knowing `P`. -/
structure At (opts : Opts) (c : Session) (F : List (Site × Exc)) (n : Nat) (W : Overlay) (al el : List Nat)
    (act : Option TransactionEvent) (τ : Option Time) (P : Fact) (sh : Shared) (l : Session) : Prop
    extends Running opts c F n sh l, Fresh sh W al el where
  ok : l.failed = false
  work : l.work = W
  accountLocks : l.accountLocks = al
  eventLocks : l.eventLocks = el
  active : l.activeEvent = act
  started : l.startedAt = τ
  wrote : l.cacheWrote = none
  facts : P sh.init sh.db
  guard : Guarded opts l P

/-- The call gets to its writes with a value that some column cannot hold. -/
def Overflow (opts : Opts) (c : Session) (db : Db) : Prop :=
  db.recordByKey c.key = none ∧ db.eventByExternalId c.request.externalEventId = none ∧
    ∃ a orig, Located opts c.wiring db c.request a ∧ Original db c.request orig ∧
      (fitsEvent c.request.amount c.request.occurredAt = false ∨
        ∃ id t amount newBalance,
          LedgerService.ledgerAmount a (receivedEvent c.key c.request a id t) orig = .ok (amount, newBalance) ∧
          (fitsBigInteger amount = false ∨ fitsBigInteger newBalance = false))

/-- The call gets to a query that psycopg2 does not answer: it does not take the text, or cannot read the row. -/
inductive Unanswerable (opts : Opts) (c : Session) (db : Db) : Prop where
  | account (hn : db.recordByKey c.key = none) (h : hasNul c.request.accountNo = true)
  | event {a : Account} (hn : db.recordByKey c.key = none) (hl : Located opts c.wiring db c.request a)
      (h : hasNul c.request.externalEventId = true)
  | original {a : Account} {x : String} (hn : db.recordByKey c.key = none) (hl : Located opts c.wiring db c.request a)
      (he : db.eventByExternalId c.request.externalEventId = none) (hc : c.request.eventType = .cancel)
      (hx : c.request.originalExternalEventId = some x) (h : hasNul x = true)
  | eventRow {a : Account} {e : TransactionEvent} (hn : db.recordByKey c.key = none)
      (hl : Located opts c.wiring db c.request a) (he : db.eventByExternalId c.request.externalEventId = some e)
      (h : e.occurredAt.readable = false)
  | originalRow {a : Account} {x : String} {o : TransactionEvent} (hn : db.recordByKey c.key = none)
      (hl : Located opts c.wiring db c.request a) (he : db.eventByExternalId c.request.externalEventId = none)
      (hc : c.request.eventType = .cancel) (hx : c.request.originalExternalEventId = some x)
      (ho : db.eventByExternalId x = some o) (h : o.occurredAt.readable = false)

/-- The call gets to the insertion of its event with a currency that psycopg2 does not take. -/
def Unwritable (opts : Opts) (c : Session) (db : Db) : Prop :=
  db.recordByKey c.key = none ∧ db.eventByExternalId c.request.externalEventId = none ∧
    (∃ a orig, Located opts c.wiring db c.request a ∧ Original db c.request orig) ∧ hasNul c.request.currency = true

/-- A fault is an outage, a conflict with another call, a value out of range, or a text that is not sent. -/
inductive FaultKind (opts : Opts) (c : Session) (db : Db) : Site → Exc → Prop where
  | operational {site : Site} (h : opts.outages = true) : FaultKind opts c db site .operationalError
  | record (h : opts.quiet = false) (hr : opts.deletes = false → (db.recordByKey c.key).isSome = true) :
      FaultKind opts c db .checkOrStart .integrityError
  | event (h : opts.quiet = false) (hd : opts.duplicates = true) :
      FaultKind opts c db .applyStartedRequest .integrityError
  | data (h : opts.quiet = true → Overflow opts c db) : FaultKind opts c db .applyStartedRequest .dataError
  | text (h : opts.quiet = true → Unwritable opts c db) : FaultKind opts c db .applyStartedRequest nulRefused

/-- The call `c` after a statement was refused at `site` with `x`. -/
structure Broken (opts : Opts) (c : Session) (F : List (Site × Exc)) (n : Nat) (site : Site) (x : Exc)
    (sh : Shared) (l : Session) : Prop extends Running opts c (F ++ [(site, x)]) n sh l where
  failed : l.failed = true
  work : l.work = {}
  accountLocks : l.accountLocks = []
  eventLocks : l.eventLocks = []
  wrote : site ≠ .commit → l.cacheWrote = none
  kind : FaultKind opts c sh.db site x

section Stability

variable {opts : Opts} {c l : Session} {F : List (Site × Exc)} {n : Nat} {sh sh' : Shared} {W : Overlay}
  {al el : List Nat} {act : Option TransactionEvent} {τ : Option Time} {P : Fact}

theorem Running.stable (h : Running opts c F n sh l) (hr : Rely opts l sh sh') : Running opts c F n sh' l :=
  { h with
    kept := hr.wellKept h.kept
    fresh := hr.log_fresh h.fresh
    still := fun hq => by rw [hr.quiet hq]; exact h.still hq }

theorem Fresh.stable (h : Fresh sh W al el) (hW : l.work = W) (hal : l.accountLocks = al)
    (hel : l.eventLocks = el) (hr : Rely opts l sh sh') : Fresh sh' W al el := by
  subst hW hal hel
  exact
    { covered := h.covered
      histories := h.histories.stable hr (fun _ hn => List.mem_map_of_mem hn) h.covered.histories
      historySeq := fun r hmem => Nat.lt_of_lt_of_le (h.historySeq r hmem) hr.historySeq
      ledger := fun r hmem =>
        (h.ledger r hmem).stable hr (List.mem_map_of_mem hmem) (h.covered.ledger r hmem).1 }

theorem At.stable (h : At opts c F n W al el act τ P sh l) (hr : Rely opts l sh sh') :
    At opts c F n W al el act τ P sh' l :=
  { h with
    toRunning := h.toRunning.stable hr
    toFresh := h.toFresh.stable h.work h.accountLocks h.eventLocks hr
    facts := h.guard _ _ hr h.kept h.facts }

theorem FaultKind.stable {site : Site} {x : Exc} (h : FaultKind opts c sh.db site x) (hr : Rely opts l sh sh') :
    FaultKind opts c sh'.db site x := by
  cases h with
  | operational h => exact .operational h
  | record h hk =>
      refine .record h fun hd => ?_
      obtain ⟨r, hf⟩ := Option.isSome_iff_exists.mp (hk hd)
      rw [hr.recordByKey_some hd hf]
      rfl
  | event h hd => exact .event h hd
  | data h => exact .data fun hq => by rw [hr.quiet hq]; exact h hq
  | text h => exact .text fun hq => by rw [hr.quiet hq]; exact h hq

theorem Broken.stable {site : Site} {x : Exc} (h : Broken opts c F n site x sh l) (hr : Rely opts l sh sh') :
    Broken opts c F n site x sh' l :=
  { h with toRunning := h.toRunning.stable hr, kind := h.kind.stable hr }

theorem At.broken (h : At opts c F n W al el act τ P sh l) (site : Site) {x : Exc}
    (hx : FaultKind opts c sh.db site x) :
    Broken opts c F n site x sh (l.fail site x) where
  tid := h.tid
  wiring := h.wiring
  key := h.key
  request := h.request
  kept := h.kept
  fresh := h.fresh
  faults := by simp [Session.fail, Session.discard, h.faults]
  retries := h.retries
  still := h.still
  failed := rfl
  work := rfl
  accountLocks := rfl
  eventLocks := rfl
  wrote _ := h.wrote
  kind := hx

theorem At.begin (h : At opts c F n W al el act τ P sh l) (clock : Time) :
    At opts c F n W al el act (some (τ.getD clock)) P sh (l.begin clock) where
  tid := h.tid
  wiring := h.wiring
  key := h.key
  request := h.request
  kept := h.kept
  fresh := h.fresh
  faults := h.faults
  retries := h.retries
  still := h.still
  toFresh := h.toFresh
  ok := h.ok
  work := h.work
  accountLocks := h.accountLocks
  eventLocks := h.eventLocks
  active := h.active
  started := by simp [Session.begin, h.started]
  wrote := h.wrote
  facts := h.facts
  guard := h.guard.anti (l.holds_begin clock)

end Stability

/-! ## Statements -/

section Statements

variable {st : Settings} {opts : Opts} {c l : Session} {F : List (Site × Exc)} {n : Nat} {sh : Shared}
  {W : Overlay} {al el : List Nat} {act : Option TransactionEvent} {τ : Option Time} {P : Fact}

/-- A statement in an open transaction: its answer on a healthy connection, or a refusal; one that is not sent breaks the
call if it is a flush, and leaves it where it was if it is a query. -/
theorem At.wp_stmt {site : Site} {stmt : Stmt} {Q : Except Exc stmt.Res → Shared → Session → Prop}
    (h : At opts c F n W al el act τ P sh l) (hpre : ∀ l₁ : Session, l₁.work = W → l₁.eventLocks = el → stmt.owes l₁)
    (hok : stmt.sendable = true → ∀ sh₁, Rely opts l sh sh₁ → ∀ l₁,
      At opts c F n W al el act (some (τ.getD sh₁.clock)) P sh₁ l₁ →
      (opts.duplicates = false → (Op.sql site stmt).meetsDuplicate sh₁ l₁ = false) →
      match runStmt stmt sh₁ l₁ with
      | .ok (r, sh₂, l₂) => ∀ sh₃, Rely opts l₂ sh₂ sh₃ → Q (.ok r) sh₃ l₂
      | .error x => FaultKind opts c sh₁.db site x)
    (herr : ∀ x sh' l', Broken opts c F n site x sh' l' →
      (x = .operationalError ∨ x = nulRefused ∧ stmt.sendable = false ∨ ∃ sh₁ l₁, runStmt stmt sh₁ l₁ = .error x) →
      Q (.error x) sh' l')
    (hunsent : stmt.sendable = false → ∀ sh₁, At opts c F n W al el act τ P sh₁ l →
      if stmt.flushes then FaultKind opts c sh₁.db site nulRefused else Q (.error nulRefused) sh₁ l) :
    (logic st opts).wp (Py.sql site stmt) Q sh l := by
  refine Logic.wp_call fun sh₁ hr => ⟨fun _ => hpre l h.work h.eventLocks, ?_⟩
  rintro r sh₂ l₂ ⟨fault, hal, hx⟩ sh₃ hr'
  have h₁ := h.stable hr
  simp only [exec, h.ok, Bool.false_eq_true, if_false] at hx
  split at hx
  · rename_i hfault
    simp only [Prod.mk.injEq] at hx
    obtain ⟨rfl, rfl, rfl⟩ := hx
    have hout : opts.outages = true := by
      cases ho : opts.outages with
      | true => rfl
      | false => rw [hal.outage ho rfl] at hfault; cases hfault
    exact herr _ _ _ ((h₁.broken site (.operational hout)).stable hr') (Or.inl rfl)
  · rename_i hfault
    cases hs : stmt.sendable with
    | false =>
        simp only [hs, Bool.not_false, if_true, Prod.mk.injEq] at hx
        obtain ⟨rfl, rfl, rfl⟩ := hx
        cases hf : stmt.flushes with
        | true =>
            have hkind := hunsent hs sh₁ h₁
            rw [if_pos hf] at hkind
            rw [Session.unsent, if_pos hf] at hr' ⊢
            exact herr _ _ _ ((h₁.broken site hkind).stable hr') (Or.inr (Or.inl ⟨rfl, hs⟩))
        | false =>
            rw [Session.unsent, if_neg (by simp [hf])] at hr' ⊢
            have hans := hunsent hs sh₃ (h₁.stable hr')
            rw [if_neg (by simp [hf])] at hans
            exact hans
    | true =>
        have hcalm : fault = false := by simpa [hs] using hfault
        have hdup : opts.duplicates = false → (Op.sql site stmt).meetsDuplicate sh₁ (l.begin sh₁.clock) = false := by
          intro hd
          have := hal.duplicate hd hcalm
          cases stmt <;> first | rfl | exact this
        have hans := hok hs sh₁ hr _ (h₁.begin sh₁.clock) hdup
        simp only [hs, Bool.not_true, Bool.false_eq_true, if_false] at hx
        split at hx
        · rename_i r' sh' l' heq
          rw [heq] at hans
          simp only [Prod.mk.injEq] at hx
          obtain ⟨rfl, rfl, rfl⟩ := hx
          exact hans sh₃ hr'
        · rename_i x heq
          rw [heq] at hans
          simp only [Prod.mk.injEq] at hx
          obtain ⟨rfl, rfl, rfl⟩ := hx
          exact herr _ _ _ ((h₁.broken site hans).stable hr') (Or.inr (Or.inr ⟨_, _, heq⟩))

/-- A statement that psycopg2 sends. -/
theorem At.wp_sql {site : Site} {stmt : Stmt} {Q : Except Exc stmt.Res → Shared → Session → Prop}
    (h : At opts c F n W al el act τ P sh l) (hs : stmt.sendable = true)
    (hpre : ∀ l₁ : Session, l₁.work = W → l₁.eventLocks = el → stmt.owes l₁)
    (hok : ∀ sh₁, Rely opts l sh sh₁ → ∀ l₁, At opts c F n W al el act (some (τ.getD sh₁.clock)) P sh₁ l₁ →
      match runStmt stmt sh₁ l₁ with
      | .ok (r, sh₂, l₂) => ∀ sh₃, Rely opts l₂ sh₂ sh₃ → Q (.ok r) sh₃ l₂
      | .error x => FaultKind opts c sh₁.db site x)
    (herr : ∀ x sh' l', Broken opts c F n site x sh' l' → Q (.error x) sh' l') :
    (logic st opts).wp (Py.sql site stmt) Q sh l :=
  h.wp_stmt hpre (fun _ sh₁ hr l₁ h₁ _ => hok sh₁ hr l₁ h₁) (fun x sh' l' hb _ => herr x sh' l' hb)
    fun hf => by rw [hs] at hf; cases hf

/-- SQLAlchemy's rule: on a failed session every statement raises `PendingRollbackError`. -/
theorem Broken.wp_sql {site site' : Site} {x : Exc} {stmt : Stmt}
    {Q : Except Exc stmt.Res → Shared → Session → Prop} (h : Broken opts c F n site x sh l)
    (herr : ∀ sh' l', Broken opts c F n site x sh' l' → Q (.error .pendingRollbackError) sh' l') :
    (logic st opts).wp (Py.sql site' stmt) Q sh l := by
  refine Logic.wp_call fun sh₁ hr => ⟨fun hf => absurd hf (by simp [h.failed]), ?_⟩
  rintro r sh₂ l₂ ⟨fault, _, hx⟩ sh₃ hr'
  simp only [exec, h.failed, if_true, Prod.mk.injEq] at hx
  obtain ⟨rfl, rfl, rfl⟩ := hx
  exact herr _ _ ((h.stable hr).stable hr')

end Statements

end EventConsistency
