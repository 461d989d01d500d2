import EventConsistency.Lib.Simulation
import EventConsistency.Runs
import EventConsistency.Verify.Discipline
import Mathlib.Data.List.InsertIdx

/-!
# The status of an account

The `status` column of `app/models/account.py` is set by hand; no service reads it.

* `AccountLabel` : a step of the system, or a change of one account's status while nobody holds its row;
* `activated` : a state with every account ACTIVE; `Op.Mirrors` : operations that differ in statuses at most;
* `process_mirrored` : `process` goes the same way on both; **`Mirrors.stepped`** : so does the system;
* **`statuses_play_no_part`** : whatever the statuses do, a run gives the results, the ledger and the balances that it
  gives on ACTIVE accounts, and writes only to accounts that are locked for it.
-/

namespace EventConsistency

open Lib TransactionEventService

/-! ## Runs in which statuses change -/

inductive AccountStatus where
  | active
  | locked
  | closed
  deriving DecidableEq, Repr

def AccountStatus.value : AccountStatus → String
  | .active => "ACTIVE"
  | .locked => "LOCKED"
  | .closed => "CLOSED"

def Db.setStatus (db : Db) (accountId : Nat) (status : AccountStatus) : Db :=
  { db with accounts := db.accounts.map fun a => if a.id = accountId then { a with status := status.value } else a }

/-- A step of the system, or an UPDATE of the status of an account. -/
inductive AccountLabel where
  | system (label : Label)
  | setStatus (accountId : Nat) (status : AccountStatus)

/-- An UPDATE waits for the lock on its row. -/
def accountStep (c : Config) : AccountLabel → Option Config
  | .system label => step c label
  | .setStatus accountId status =>
      if c.locs.any fun l => l.accountLocks.contains accountId then none
      else some ⟨{ c.shared with db := c.shared.db.setStatus accountId status }, c.threads⟩

def followAccounts (c : Config) : List AccountLabel → Option Config
  | [] => some c
  | label :: rest => match accountStep c label with
      | none => none
      | some c' => followAccounts c' rest

/-- The steps of the system among the labels. -/
def systemSteps (labels : List AccountLabel) : List Label :=
  labels.filterMap fun
    | .system label => some label
    | .setStatus .. => none

/-! ## States with every account ACTIVE -/

def Account.activated (a : Account) : Account := { a with status := AccountStatus.active.value }

def Db.activated (db : Db) : Db := { db with accounts := db.accounts.map Account.activated }

def Overlay.activated (W : Overlay) : Overlay :=
  { W with accounts := ⟨W.accounts.updated.map Account.activated, W.accounts.inserted.map Account.activated⟩ }

def Commit.activated (x : Commit) : Commit := { x with work := x.work.activated }

def Shared.activated (sh : Shared) : Shared :=
  { sh with db := sh.db.activated, init := sh.init.activated, log := sh.log.map Commit.activated }

def Session.activated (l : Session) : Session := { l with work := l.work.activated }

section Activated

variable {sh : Shared} {l : Session} {W : Overlay} {db : Db}

theorem version_activated (d : Delta Account) (a : Account) :
    (⟨d.updated.map Account.activated, d.inserted.map Account.activated⟩ : Delta Account).version a.activated =
      (d.version a).activated := by
  unfold Delta.version
  rw [List.find?_map]
  have hsame : (fun u : Account => Row.rowId u == Row.rowId a.activated) ∘ Account.activated =
      fun u => Row.rowId u == Row.rowId a := rfl
  rw [hsame]
  cases d.updated.find? (fun u => Row.rowId u == Row.rowId a) <;> rfl

theorem Overlay.apply_activated : W.activated.apply db.activated = (W.apply db).activated := by
  have haccounts : W.activated.accounts.apply db.activated.accounts =
      (W.accounts.apply db.accounts).map Account.activated := by
    unfold Delta.apply Overlay.activated Db.activated
    rw [List.map_append, List.map_map, List.map_map]
    congr 1
    refine List.map_congr_left fun a _ => ?_
    exact version_activated W.accounts a
  unfold Overlay.apply
  rw [haccounts]
  rfl

theorem accountByNo_activated (accountNo : String) :
    db.activated.accountByNo accountNo = (db.accountByNo accountNo).map Account.activated := by
  unfold Db.accountByNo Db.activated
  rw [List.find?_map]
  rfl

theorem update_activated (d : Delta Account) (a : Account) :
    (⟨d.updated.map Account.activated, d.inserted.map Account.activated⟩ : Delta Account).update a.activated =
      ⟨(d.update a).updated.map Account.activated, (d.update a).inserted.map Account.activated⟩ := by
  unfold Delta.update
  have hany : (d.inserted.map Account.activated).any (fun u => Row.rowId u == Row.rowId a.activated) =
      d.inserted.any (fun u => Row.rowId u == Row.rowId a) := by
    rw [List.any_map]
    rfl
  rw [hany]
  split
  · refine congrArg (Delta.mk _) ?_
    rw [List.map_map, List.map_map]
    refine List.map_congr_left fun u _ => ?_
    show (if Row.rowId u == Row.rowId a then a.activated else u.activated) =
      (if Row.rowId u == Row.rowId a then a else u).activated
    split <;> rfl
  · rfl

end Activated

/-! ## Operations on both -/

/-- The statement gives back or writes a row of the accounts. -/
def Stmt.usesAccount : Stmt → Bool
  | .selectAccountForUpdate _ | .updateBalance .. => true
  | _ => false

def Op.usesAccount : Op → Bool
  | .sql _ stmt => stmt.usesAccount
  | _ => false

/-- The operation on the one state and on the other, and how their answers are related. -/
inductive Op.Mirrors : (o o' : Op) → (o.Res → o'.Res → Prop) → Prop where
  | same {o : Op} (h : o.usesAccount = false) : Op.Mirrors o o Eq
  | selectAccountForUpdate (site : Site) (accountNo : String) :
      Op.Mirrors (.sql site (.selectAccountForUpdate accountNo)) (.sql site (.selectAccountForUpdate accountNo))
        fun r r' => (r' : Option Account) = (r : Option Account).map Account.activated
  | updateBalance (site : Site) (account : Account) (balance : Int) :
      Op.Mirrors (.sql site (.updateBalance account balance)) (.sql site (.updateBalance account.activated balance))
        fun r r' => (r' : Account) = (r : Account).activated

section Operations

variable {sh : Shared} {l : Session} {fault : Bool}

/-- A statement's outcome on the other state. -/
def activatedStmt {α : Type} (f : α → α) (out : Except Exc (α × Shared × Session)) : Except Exc (α × Shared × Session) :=
  out.map fun r => (f r.1, r.2.1.activated, r.2.2.activated)

theorem runStmt_activated {stmt : Stmt} (h : stmt.usesAccount = false) :
    runStmt stmt sh.activated l.activated = activatedStmt id (runStmt stmt sh l) := by
  have happly : l.activated.work.apply sh.activated.db = (l.work.apply sh.db).activated := Overlay.apply_activated
  cases stmt with
  | selectAccountForUpdate _ => cases h
  | updateBalance _ _ => cases h
  | selectRecord key => simp only [runStmt, happly]; rfl
  | insertRecord key requestHash expiresAt lockedUntil =>
      simp only [runStmt, happly]
      have hsame : (l.work.apply sh.db).activated.recordByKey key = (l.work.apply sh.db).recordByKey key := rfl
      rw [hsame]
      split <;> rfl
  | updateRecord record => rfl
  | selectActiveQuarantine targetType targetId => rfl
  | selectEvent externalEventId => simp only [runStmt, happly]; rfl
  | selectEventForUpdate externalEventId =>
      simp only [runStmt, happly]
      have hsame : (l.work.apply sh.db).activated.eventByExternalId externalEventId =
        (l.work.apply sh.db).eventByExternalId externalEventId := rfl
      rw [hsame]
      split <;> rfl
  | insertEvent externalEventId idempotencyKey accountId eventType amount currency occurredAt =>
      simp only [runStmt, happly]
      have hsame : (l.work.apply sh.db).activated.eventByExternalId externalEventId =
        (l.work.apply sh.db).eventByExternalId externalEventId := rfl
      rw [hsame]
      split
      · rfl
      · split <;> rfl
  | updateEventStatus event status reason => rfl
  | selectLedger eventId => simp only [runStmt, happly]; rfl
  | insertLedger transactionEventId accountId entryType amount balanceAfter =>
      simp only [runStmt, happly]
      have hsame : (l.work.apply sh.db).activated.ledgerByEventId transactionEventId =
        (l.work.apply sh.db).ledgerByEventId transactionEventId := rfl
      rw [hsame]
      split
      · rfl
      · split <;> rfl

theorem runStmt_selectAccount (accountNo : String) :
    runStmt (.selectAccountForUpdate accountNo) sh.activated l.activated =
      activatedStmt (fun r : Option Account => r.map Account.activated)
        (runStmt (.selectAccountForUpdate accountNo) sh l) := by
  have happly : l.activated.work.apply sh.activated.db = (l.work.apply sh.db).activated := Overlay.apply_activated
  simp only [runStmt, happly, accountByNo_activated]
  cases (l.work.apply sh.db).accountByNo accountNo <;> rfl

theorem runStmt_updateBalance (account : Account) (balance : Int) :
    runStmt (.updateBalance account.activated balance) sh.activated l.activated =
      activatedStmt (fun r : Account => r.activated) (runStmt (.updateBalance account balance) sh l) := by
  simp only [runStmt]
  split
  · rfl
  · have hupdate := update_activated l.work.accounts { account with balance := balance }
    have hrow : ({ account.activated with balance := balance } : Account) = { account with balance := balance }.activated :=
      rfl
    rw [hrow]
    simp only [activatedStmt, Except.map, Session.activated, Overlay.activated, hupdate]
    rfl

/-- A statement of both sessions. -/
theorem exec_sql_activated {site : Site} (stmt stmt' : Stmt) (f : stmt.Res → stmt'.Res)
    (htexts : stmt'.texts = stmt.texts) (hflushes : stmt'.flushes = stmt.flushes)
    (h : ∀ l : Session, runStmt stmt' sh.activated l.activated =
      (runStmt stmt sh l).map fun r => (f r.1, r.2.1.activated, r.2.2.activated)) :
    Agree (fun a b => b = f a) (exec fault (.sql site stmt) sh l).1
        (exec fault (.sql site stmt') sh.activated l.activated).1 ∧
      (exec fault (.sql site stmt') sh.activated l.activated).2 =
        ((exec fault (.sql site stmt) sh l).2.1.activated, (exec fault (.sql site stmt) sh l).2.2.activated) := by
  have hfailed : l.activated.failed = l.failed := rfl
  have hbegin : l.activated.begin sh.activated.clock = (l.begin sh.clock).activated := rfl
  have hstarted : l.activated.startedAt = l.startedAt := rfl
  have hsend : stmt'.sendable = stmt.sendable := by
    unfold Stmt.sendable
    rw [htexts]
  have hunsent : l.activated.unsent site stmt' = (l.unsent site stmt).activated := by
    unfold Session.unsent
    rw [hflushes]
    split <;> rfl
  simp only [exec, hfailed, hbegin, hstarted, hsend, hunsent, h]
  split
  · exact ⟨.error _, rfl⟩
  · split
    · exact ⟨.error _, rfl⟩
    · split
      · exact ⟨.error _, rfl⟩
      · cases runStmt stmt sh (l.begin sh.clock) with
        | ok r => exact ⟨.ok rfl, rfl⟩
        | error x => exact ⟨.error x, rfl⟩

/-- **An operation does the same on both.** -/
theorem Op.Mirrors.exec {o o' : Op} {A : o.Res → o'.Res → Prop} (h : o.Mirrors o' A) :
    Agree A (exec fault o sh l).1 (exec fault o' sh.activated l.activated).1 ∧
      (exec fault o' sh.activated l.activated).2 =
        ((exec fault o sh l).2.1.activated, (exec fault o sh l).2.2.activated) := by
  cases h with
  | selectAccountForUpdate site accountNo =>
      exact exec_sql_activated (.selectAccountForUpdate accountNo) (.selectAccountForUpdate accountNo)
        (fun r : Option Account => r.map Account.activated) rfl rfl fun _ => runStmt_selectAccount accountNo
  | updateBalance site account balance =>
      exact exec_sql_activated (.updateBalance account balance) (.updateBalance account.activated balance)
        (fun r : Account => r.activated) rfl rfl fun _ => runStmt_updateBalance account balance
  | same h =>
      cases o with
      | sql site stmt =>
          have hboth : Agree (fun a b => b = id a) (EventConsistency.exec fault (.sql site stmt) sh l).1
              (EventConsistency.exec fault (.sql site stmt) sh.activated l.activated).1 ∧ _ :=
            exec_sql_activated stmt stmt id rfl rfl fun _ => runStmt_activated h
          exact ⟨hboth.1.mono fun a b hab => hab.symm, hboth.2⟩
      | commit reply =>
          have happly : l.activated.work.apply sh.activated.db = (l.work.apply sh.db).activated :=
            Overlay.apply_activated
          have hfailed : l.activated.failed = l.failed := rfl
          simp only [EventConsistency.exec, hfailed, happly]
          split
          · exact ⟨.ok rfl, rfl⟩
          · split
            · exact ⟨.error _, rfl⟩
            · refine ⟨.ok rfl, ?_⟩
              simp only [Shared.activated, List.map_append, List.map_cons, List.map_nil]
              rfl
      | rollback => exact ⟨.ok rfl, rfl⟩
      | now => exact ⟨.ok rfl, rfl⟩
      | setActiveEvent _ => exact ⟨.ok rfl, rfl⟩
      | activeEvent => exact ⟨.ok rfl, rfl⟩
      | recordRetry => exact ⟨.ok rfl, rfl⟩
      | lockAcquire key =>
          have hlocks : sh.activated.locks = sh.locks := rfl
          simp only [EventConsistency.exec, hlocks]
          split
          · exact ⟨.ok rfl, rfl⟩
          · split <;> exact ⟨.ok rfl, rfl⟩
      | lockRelease key token =>
          have hlocks : sh.activated.locks = sh.locks := rfl
          simp only [EventConsistency.exec, hlocks]
          split <;> exact ⟨.ok rfl, rfl⟩
      | cacheGet key =>
          have hcache : sh.activated.cache = sh.cache := rfl
          simp only [EventConsistency.exec, hcache]
          split <;> exact ⟨.ok rfl, rfl⟩
      | cacheSet site key response =>
          simp only [EventConsistency.exec]
          split <;> exact ⟨.ok rfl, rfl⟩

end Operations

/-! ## Programs on both -/

/-- The program does the same on both. -/
abbrev Mirrored {α : Type} (p p' : Py α) : Prop := Alike Op.Mirrors Eq p p'

section Programs

variable {α β : Type} {p : Py α} {svc : Service} {key : String} {request : TransactionEventCreateRequest}

/-- A program that neither reads nor writes an account. -/
theorem Mirrored.refl (h : p.Each fun o => o.usesAccount = false) : Mirrored p p :=
  Alike.refl (h.mono fun _ _ ho => .same ho)

theorem Passive.mirrored (h : Passive p) : Mirrored p p := by
  refine Mirrored.refl (h.mono fun o _ ho => ?_)
  have hn := (Op.passive_cases ho).1
  cases o with
  | sql site stmt => cases stmt <;> first | rfl | cases hn
  | _ => rfl

theorem Mirrored.bind {f f' : α → Py β} {p' : Py α} (h : Mirrored p p') (hf : ∀ a, Mirrored (f a) (f' a)) :
    Mirrored (p >>= f) (p' >>= f') :=
  Alike.bind h fun a _ hab => hab ▸ hf a

theorem ledgerAmount_activated (account : Account) (event : TransactionEvent) (original : Option TransactionEvent) :
    LedgerService.ledgerAmount account.activated event original = LedgerService.ledgerAmount account event original := rfl

theorem applyEvent_mirrored (account : Account) (event : TransactionEvent) (original : Option TransactionEvent) :
    Mirrored (LedgerService.applyEvent account event original)
      (LedgerService.applyEvent account.activated event original) := by
  unfold LedgerService.applyEvent
  rw [ledgerAmount_activated]
  refine Mirrored.bind (Mirrored.refl (Prog.Each.lift _)) fun v => ?_
  refine Mirrored.bind (Mirrored.refl (Prog.Each.call rfl)) fun ledger => ?_
  refine Alike.bind (Alike.call (Op.Mirrors.updateBalance .applyStartedRequest account v.2)) fun _ _ _ => ?_
  exact .ret rfl

theorem runEvent_mirrored (account : Account) (event : TransactionEvent) (original : Option TransactionEvent) :
    Mirrored (runEvent account event original) (runEvent account.activated event original) := by
  refine Mirrored.bind (changeStatus_passive _ _ _).mirrored fun event => ?_
  refine Mirrored.bind (changeStatus_passive _ _ _).mirrored fun event => ?_
  refine Mirrored.bind (applyEvent_mirrored account event original) fun ledger => Passive.mirrored ?_
  split
  · exact Prog.Each.bind (changeStatus_passive _ _ _) fun _ => Prog.Each.bind (changeStatus_passive _ _ _) fun _ => trivial
  · exact Prog.Each.bind (changeStatus_passive _ _ _) fun _ => trivial

theorem checkQuarantine_mirrored (svc : Service) (account : Account) :
    Mirrored (checkQuarantine svc account) (checkQuarantine svc account.activated) := by
  have hsame : checkQuarantine svc account.activated = checkQuarantine svc account := rfl
  rw [hsame]
  refine Mirrored.refl ?_
  unfold checkQuarantine
  split
  · refine Prog.Each.bind (Prog.Each.call rfl) fun q => ?_
    cases q <;> trivial
  · trivial

theorem getOriginalEventForCancel_mirrored (request : TransactionEventCreateRequest) :
    Mirrored (getOriginalEventForCancel request) (getOriginalEventForCancel request) := by
  refine Mirrored.refl ?_
  unfold getOriginalEventForCancel
  split
  · trivial
  · split
    · trivial
    · refine Prog.Each.bind (Prog.Each.bind (Prog.Each.call rfl) fun _ => Prog.Each.lift _) fun e => ?_
      cases e <;> trivial

/-- The account with its status is read here, and only its id, its number and its balance are used. -/
theorem applyStartedRequest_mirrored :
    Mirrored (applyStartedRequest svc key request) (applyStartedRequest svc key request) := by
  refine Alike.bind (Alike.call (Op.Mirrors.selectAccountForUpdate .applyStartedRequest request.accountNo)) ?_
  rintro r _ rfl
  cases r with
  | none => exact .raise _
  | some account =>
      refine Mirrored.bind (checkQuarantine_mirrored svc account) fun _ => ?_
      refine Mirrored.bind (Mirrored.refl (Prog.Each.bind (Prog.Each.call rfl) fun _ => Prog.Each.lift _)) fun existing => ?_
      cases existing with
      | some existing =>
          refine Mirrored.refl (Prog.Each.bind (Prog.Each.lift _) fun _ => Prog.Each.bind (Prog.Each.call rfl) fun r => ?_)
          cases r <;> trivial
      | none =>
          refine Mirrored.bind (getOriginalEventForCancel_mirrored request) fun original => ?_
          refine Mirrored.bind (Mirrored.refl (Prog.Each.call rfl)) fun event => ?_
          refine Mirrored.bind (Mirrored.refl (Prog.Each.call rfl)) fun _ => ?_
          exact runEvent_mirrored account event original

theorem processStarted_mirrored (payload : Json) :
    Mirrored (processStarted svc key request payload) (processStarted svc key request payload) := by
  refine Alike.andFinally (Alike.tryCatch ?_ fun x => (onFailure_passive svc key payload x).mirrored)
    (Mirrored.refl (Prog.Each.call rfl))
  refine Mirrored.bind (Mirrored.refl (Prog.Each.call rfl)) fun _ => ?_
  refine Mirrored.bind applyStartedRequest_mirrored fun result => ?_
  exact Mirrored.bind (complete_passive _ _ _ _ _).mirrored fun _ => .ret rfl

theorem checkOrStart_mirrored (payload : Json) : Mirrored (svc.checkOrStart key payload) (svc.checkOrStart key payload) := by
  have hplain : (IdempotencyService.checkOrStart svc key payload).Each fun o => o.usesAccount = false := by
    refine Prog.Each.bind (Prog.Each.call rfl) fun _ => Prog.Each.bind (Prog.Each.call rfl) fun r => ?_
    cases r with
    | none => exact Prog.Each.bind (Prog.Each.call rfl) fun _ => trivial
    | some r => exact Prog.Each.lift _
  have hfromDb : (CachedIdempotencyService.checkOrStartFromDb svc key payload).Each fun o => o.usesAccount = false := by
    refine Prog.Each.bind hplain fun result => ?_
    split
    · exact Prog.Each.bind (Prog.Each.call rfl) fun _ => trivial
    · trivial
  refine Mirrored.refl ?_
  unfold Service.checkOrStart
  split
  · refine Prog.Each.bind (Prog.Each.call rfl) fun cached => ?_
    cases cached with
    | none => exact hfromDb
    | some cached =>
        dsimp only
        split
        · trivial
        · exact hfromDb
  · exact hplain

theorem attemptBody_mirrored : Mirrored (attemptBody svc key request) (attemptBody svc key request) := by
  refine Mirrored.bind (checkOrStart_mirrored _) fun idem => ?_
  cases idem.decision with
  | started => exact processStarted_mirrored _
  | alreadyProcessing => exact .ret rfl
  | replayCompleted => exact Mirrored.refl (Prog.Each.lift _)
  | replayFailed => exact Mirrored.refl (Prog.Each.lift _)

theorem withBegin_mirrored {body : Py TransactionProcessingResult} (h : Mirrored body body) :
    Mirrored (withBegin body) (withBegin body) := by
  have hrollback : ∀ x, Mirrored (do Prog.call Op.rollback; throw x : Py TransactionProcessingResult)
      (do Prog.call Op.rollback; throw x) := fun x =>
    Mirrored.refl (Prog.Each.bind (Prog.Each.call rfl) fun _ => trivial)
  refine Alike.handle h fun r r' hr => ?_
  cases hr with
  | ok hreply =>
      subst hreply
      refine Mirrored.refl (Prog.Each.bind (Prog.Each.tryCatch (Prog.Each.call rfl) fun x => ?_) fun _ => trivial)
      exact Prog.Each.bind (Prog.Each.call rfl) fun _ => trivial
  | error x => exact hrollback x

theorem attempts_mirrored (ns : List Nat) : Mirrored (attempts svc key request ns) (attempts svc key request ns) := by
  induction ns with
  | nil => exact .raise _
  | cons n ns ih =>
      unfold attempts
      refine Alike.tryCatch (withBegin_mirrored attemptBody_mirrored) fun x => ?_
      split
      · refine Mirrored.bind (Mirrored.refl (Prog.Each.call rfl)) fun _ => ?_
        split
        · exact .raise _
        · exact Mirrored.bind (Mirrored.refl (Prog.Each.call rfl)) fun _ => ih
      · exact Mirrored.refl (Prog.Each.bind (Prog.Each.call rfl) fun _ => trivial)

theorem process_mirrored : Mirrored (process svc key request) (process svc key request) := by
  have hrelease : ∀ lockKey lockResult, Mirrored (releaseLock lockKey lockResult) (releaseLock lockKey lockResult) := by
    intro lockKey lockResult
    refine Mirrored.refl ?_
    unfold releaseLock
    split
    · exact Prog.Each.call rfl
    · trivial
  unfold process
  split
  · refine Mirrored.bind (Mirrored.refl (Prog.Each.call rfl)) fun lockResult => ?_
    split
    · exact .ret rfl
    · exact Alike.andFinally (attempts_mirrored _) (hrelease _ _)
  · exact attempts_mirrored _

end Programs

/-! ## The system on both -/

/-- `c'` is `c` with every account ACTIVE, and the calls are at the same place. -/
structure Mirrors (c c' : Config) : Prop where
  shared : c'.shared = c.shared.activated
  length : c'.threads.length = c.threads.length
  threads : ∀ (i : Nat) (t t' : Thread Op Op.Res Exc Session TransactionProcessingResult), c.threads[i]? = some t →
    c'.threads[i]? = some t' → t'.loc = t.loc.activated ∧ Mirrored t.prog t'.prog

section System

variable {st : Settings} {sh : Shared} {l : Session} {c c' c₁ : Config} {calls : List Call} {ms : List Session}

theorem Op.Mirrors.blocked {o o' : Op} {A : o.Res → o'.Res → Prop} (h : o.Mirrors o' A) :
    blocked (ms.map Session.activated) o' sh.activated l.activated = blocked ms o sh l := by
  have hany : ∀ P : Session → Bool, (∀ m : Session, P m.activated = P m) →
      (ms.map Session.activated).any P = ms.any P := by
    intro P hP
    rw [List.any_map]
    congr 1
    funext m
    exact hP m
  have happly : l.activated.work.apply sh.activated.db = (l.work.apply sh.db).activated := Overlay.apply_activated
  have hfailed : l.activated.failed = l.failed := rfl
  have hguard : ∀ (stmt : Stmt) {b b' : Bool}, b = b' →
      (!l.failed && stmt.sendable && b) = (!l.failed && stmt.sendable && b') :=
    fun stmt _ _ hb => congrArg (!l.failed && stmt.sendable && ·) hb
  cases h with
  | selectAccountForUpdate site accountNo =>
      simp only [EventConsistency.blocked, hfailed, happly, accountByNo_activated]
      cases (l.work.apply sh.db).accountByNo accountNo with
      | none => rfl
      | some a => exact hguard _ (hany _ fun _ => rfl)
  | updateBalance site account balance => exact hguard (.updateBalance account balance) (hany _ fun _ => rfl)
  | same h =>
      cases o with
      | sql site stmt =>
          cases stmt with
          | selectAccountForUpdate _ => cases h
          | updateBalance _ _ => cases h
          | insertRecord key hash e u => exact hguard (.insertRecord key hash e u) (hany _ fun _ => rfl)
          | insertEvent x k a t n y d => exact hguard (.insertEvent x k a t n y d) (hany _ fun _ => rfl)
          | insertLedger e a t n b => exact hguard (.insertLedger e a t n b) (hany _ fun _ => rfl)
          | updateEventStatus e s r => exact hguard (.updateEventStatus e s r) (hany _ fun _ => rfl)
          | selectEventForUpdate x =>
              have hsame : (l.work.apply sh.db).activated.eventByExternalId x =
                (l.work.apply sh.db).eventByExternalId x := rfl
              simp only [EventConsistency.blocked, hfailed, happly, hsame]
              cases (l.work.apply sh.db).eventByExternalId x with
              | none => rfl
              | some e => exact hguard _ (hany _ fun _ => rfl)
          | _ => rfl
      | _ => rfl

theorem Mirrors.locs (h : Mirrors c c') : c'.locs = c.locs.map Session.activated := by
  refine List.ext_getElem? fun i => ?_
  simp only [Pool.locs, List.getElem?_map]
  cases ht : c.threads[i]? with
  | none =>
      have hnone : c'.threads[i]? = none := by
        rw [List.getElem?_eq_none_iff, h.length, ← List.getElem?_eq_none_iff]
        exact ht
      rw [hnone]
      rfl
  | some t =>
      obtain ⟨t', ht'⟩ : ∃ t', c'.threads[i]? = some t' := by
        have hlt : i < c.threads.length := (List.getElem?_eq_some_iff.mp ht).1
        exact ⟨_, List.getElem?_eq_getElem (by rw [h.length]; exact hlt)⟩
      rw [ht', Option.map_some, Option.map_some, Option.map_some, (h.threads i t t' ht ht').1]

/-- The call at the same place of the other configuration. -/
theorem Mirrors.thread (h : Mirrors c c') {i : Nat} {p : Py TransactionProcessingResult}
    (ht : c.threads[i]? = some ⟨l, p⟩) : ∃ p', c'.threads[i]? = some ⟨l.activated, p'⟩ ∧ Mirrored p p' := by
  have hlt : i < c'.threads.length := by
    rw [h.length]
    exact (List.getElem?_eq_some_iff.mp ht).1
  obtain ⟨hloc, hprog⟩ := h.threads i _ _ ht (List.getElem?_eq_getElem hlt)
  refine ⟨c'.threads[i].prog, ?_, hprog⟩
  rw [List.getElem?_eq_getElem hlt, ← hloc]

/-- One call of both has moved on. -/
theorem Mirrors.set (h : Mirrors c c') {i : Nat} {shared shared' : Shared} {p p' : Py TransactionProcessingResult}
    {l' : Session} (hs : shared' = shared.activated) (hl : l' = l.activated) (hp : Mirrored p p') :
    Mirrors ⟨shared, c.threads.set i ⟨l, p⟩⟩ ⟨shared', c'.threads.set i ⟨l', p'⟩⟩ := by
  refine ⟨hs, by simp [h.length], fun j t t' ht ht' => ?_⟩
  rw [List.getElem?_set] at ht ht'
  by_cases hij : i = j
  · rw [if_pos hij] at ht ht'
    by_cases hlt : i < c.threads.length
    · rw [if_pos hlt] at ht
      rw [if_pos (by rw [h.length]; exact hlt)] at ht'
      cases ht
      cases ht'
      exact ⟨hl, hp⟩
    · rw [if_neg hlt] at ht
      cases ht
  · rw [if_neg hij] at ht ht'
    exact h.threads j t t' ht ht'

theorem Mirrors.others_eq (h : Mirrors c c') (i : Nat) : others c' i = (others c i).map Session.activated := by
  unfold others
  rw [h.locs]
  exact List.eraseIdx_map _ _ _

/-- One operation of a call of both. -/
theorem Mirrors.operate (h : Mirrors c c') {i : Nat} {o : Op} {k : Except Exc o.Res → Py TransactionProcessingResult}
    (fault : Bool) (ht : c.threads[i]? = some ⟨l, .op o k⟩) :
    ∃ o' k', c'.threads[i]? = some ⟨l.activated, .op o' k'⟩ ∧
      blocked (others c' i) o' c'.shared l.activated = blocked (others c i) o c.shared l ∧
      Mirrors ⟨(exec fault o c.shared l).2.1, c.threads.set i ⟨(exec fault o c.shared l).2.2, k (exec fault o c.shared l).1⟩⟩
        ⟨(exec fault o' c'.shared l.activated).2.1, c'.threads.set i
          ⟨(exec fault o' c'.shared l.activated).2.2, k' (exec fault o' c'.shared l.activated).1⟩⟩ := by
  obtain ⟨p', ht', hp⟩ := h.thread ht
  cases hp with
  | @op _ o' A _ k' ho hk =>
      obtain ⟨hagree, hrest⟩ : Agree A (exec fault o c.shared l).1 (exec fault o' c'.shared l.activated).1 ∧
          (exec fault o' c'.shared l.activated).2 =
            ((exec fault o c.shared l).2.1.activated, (exec fault o c.shared l).2.2.activated) := by
        rw [h.shared]
        exact ho.exec
      refine ⟨o', k', ht', ?_, h.set ?_ ?_ (hk _ _ hagree)⟩
      · rw [h.others_eq, h.shared]
        exact ho.blocked
      · rw [hrest]
      · rw [hrest]

/-- **A step of the system does the same on both.** -/
theorem Mirrors.stepped {label : Label} (h : Mirrors c c') (hs : step c label = some c₁) :
    ∃ c₁', step c' label = some c₁' ∧ Mirrors c₁ c₁' := by
  cases label with
  | run i =>
      obtain ⟨l, o, k, ht, hb, rfl⟩ := step_run hs
      obtain ⟨o', k', ht', hb', hm⟩ := h.operate false ht
      refine ⟨_, ?_, hm⟩
      simp only [step, ht', hb', hb, Bool.false_eq_true, if_false]
  | outage i =>
      obtain ⟨l, o, k, ht, rfl⟩ := step_outage hs
      obtain ⟨o', k', ht', _, hm⟩ := h.operate true ht
      refine ⟨_, ?_, hm⟩
      simp only [step, ht']
  | crash i =>
      obtain ⟨l, o, k, ht, rfl⟩ := step_crash hs
      obtain ⟨o', k', ht', _, _⟩ := h.operate false ht
      refine ⟨⟨c'.shared, c'.threads.set i ⟨l.activated.crash, .raise .crashed⟩⟩, ?_, h.set h.shared rfl (.raise _)⟩
      simp only [step, ht']
  | _ =>
      cases hs
      refine ⟨_, rfl, ?_, h.length, h.threads⟩
      rw [h.shared]
      rfl

/-- A change of status is nothing to the other configuration. -/
theorem Mirrors.setStatus (h : Mirrors c c') (accountId : Nat) (status : AccountStatus) :
    Mirrors ⟨{ c.shared with db := c.shared.db.setStatus accountId status }, c.threads⟩ c' := by
  refine ⟨?_, h.length, h.threads⟩
  have haccounts : (c.shared.db.setStatus accountId status).activated = c.shared.db.activated := by
    unfold Db.setStatus Db.activated
    rw [List.map_map]
    congr 1
    refine List.map_congr_left fun a _ => ?_
    show (if a.id = accountId then { a with status := status.value } else a).activated = a.activated
    split <;> rfl
  rw [h.shared]
  unfold Shared.activated
  rw [haccounts]

theorem Mirrors.of_start (st : Settings) (sh : Shared) (calls : List Call) :
    Mirrors (start st sh calls) (start st sh.activated calls) := by
  refine ⟨rfl, rfl, fun i t t' ht ht' => ?_⟩
  have hsame : (start st sh.activated calls).threads = (start st sh calls).threads := rfl
  rw [hsame, ht] at ht'
  cases ht'
  obtain ⟨call, _, rfl⟩ := getElem?_start ht
  exact ⟨rfl, process_mirrored⟩

/-- A run in which statuses change, and the same run without the changes. -/
theorem Mirrors.followed {labels : List AccountLabel} (h : Mirrors c c') (hf : followAccounts c labels = some c₁) :
    ∃ c₁', follow c' (systemSteps labels) = some c₁' ∧ Mirrors c₁ c₁' := by
  induction labels generalizing c c' with
  | nil =>
      cases hf
      exact ⟨c', rfl, h⟩
  | cons label rest ih =>
      unfold followAccounts at hf
      split at hf
      · cases hf
      · rename_i c₂ hs
        cases label with
        | system label =>
            obtain ⟨c₂', hs', hm⟩ := h.stepped hs
            obtain ⟨c₁', hf', hm'⟩ := ih hm hf
            refine ⟨c₁', ?_, hm'⟩
            show follow c' (label :: systemSteps rest) = some c₁'
            simp only [follow, hs']
            exact hf'
        | setStatus accountId status =>
            unfold accountStep at hs
            dsimp only at hs
            split at hs
            · cases hs
            · cases hs
              exact ih (h.setStatus accountId status) hf

/-- A call of both has ended alike. -/
theorem Mirrors.ended (h : Mirrors c c') {i : Nat} {r : Except Exc TransactionProcessingResult}
    (ht : c.threads[i]? = some ⟨l, .lift r⟩) : c'.threads[i]? = some ⟨l.activated, .lift r⟩ := by
  obtain ⟨p', ht', hp⟩ := h.thread ht
  rw [ht']
  cases r with
  | ok reply =>
      cases hp with
      | ret hr => rw [hr]; rfl
  | error x =>
      cases hp with
      | raise x => rfl

/-- The rows of both differ in statuses alone. -/
theorem Mirrors.tables (h : Mirrors c c') :
    c'.shared.db.ledger = c.shared.db.ledger ∧
      c'.shared.db.accounts.map (fun a => (a.id, a.balance)) = c.shared.db.accounts.map fun a => (a.id, a.balance) := by
  rw [h.shared]
  refine ⟨rfl, ?_⟩
  show (c.shared.db.accounts.map Account.activated).map (fun a => (a.id, a.balance)) = _
  rw [List.map_map]
  rfl

end System

/-! ## What the statuses do -/

/-- The step writes to the account: it adds a ledger entry of its own or changes its balance. -/
def WritesTo (c c₁ : Config) (accountId : Nat) : Prop :=
  (∃ r ∈ c₁.shared.db.ledger, r ∉ c.shared.db.ledger ∧ r.accountId = accountId) ∨
    ∃ a ∈ c₁.shared.db.accounts, a.id = accountId ∧ (accountId, a.balance) ∉ c.shared.db.accounts.map fun a => (a.id, a.balance)

section Statuses

variable {st : Settings} {sh : Shared} {c c' c₁ : Config} {calls : List Call}

theorem Initial.activated (h : Initial sh) : Initial sh.activated where
  init_eq := congrArg Db.activated h.init_eq
  log_eq := by
    show sh.log.map Commit.activated = []
    rw [h.log_eq]
    rfl
  valid :=
    { h.valid with
      account_id := by
        show ((sh.db.accounts.map Account.activated).map Account.id).Nodup
        rw [List.map_map]
        exact h.valid.account_id
      account_no := by
        show ((sh.db.accounts.map Account.activated).map Account.accountNo).Nodup
        rw [List.map_map]
        exact h.valid.account_no }
  drawn := { h.drawn with }

/-- A step of the system writes only to accounts that the writing call has locked. -/
theorem writes_locked {label : Label} {accountId : Nat} (h₀ : Initial sh) (h : Reaches anyStep (start st sh calls) c)
    (hs : step c label = some c₁) (hw : WritesTo c c₁ accountId) :
    ∃ i l p, label = .run i ∧ c.threads[i]? = some ⟨l, p⟩ ∧ accountId ∈ l.accountLocks := by
  have hinv := (h.mono fun c label _ => permits_everything c label).inv rfl h₀ (Admits.any rfl rfl)
  rcases step_tables hinv (permits_everything c label) hs with ⟨ha, _, hl, _⟩ | ⟨i, l, reply, k, rfl, ht, howed, hsh⟩
  · rcases hw with ⟨r, hr, hnew, _⟩ | ⟨a, ha', rfl, hnew⟩
    · rw [hl] at hr
      exact absurd hr hnew
    · rw [ha] at ha'
      exact absurd (List.mem_map.mpr ⟨a, ha', rfl⟩) hnew
  · refine ⟨i, l, _, rfl, ht, ?_⟩
    have hdb : c₁.shared.db = l.work.apply c.shared.db := by rw [hsh]; rfl
    rcases hw with ⟨r, hr, hnew, rfl⟩ | ⟨a, ha', rfl, hnew⟩
    · rw [hdb] at hr
      rcases Delta.mem_apply.mp hr with ⟨r₀, hr₀, rfl⟩ | hr
      · rw [Delta.version_of_updated_nil howed.covered.noLedgerUpdates] at hnew
        exact absurd hr₀ hnew
      · exact (howed.covered.ledger r hr).1
    · rw [hdb] at ha'
      rcases Delta.mem_apply.mp ha' with ⟨a₀, ha₀, rfl⟩ | ha'
      · rcases l.work.accounts.version_cases a₀ with hsame | ⟨u, hu, _, hversion⟩
        · rw [hsame] at hnew
          exact absurd (List.mem_map.mpr ⟨a₀, ha₀, rfl⟩) hnew
        · rw [hversion]
          exact howed.covered.accounts u hu
      · rw [howed.covered.noAccounts] at ha'
        cases ha'

theorem reaches_follow {labels : List Label} (h : follow c labels = some c₁) : Reaches anyStep c c₁ := by
  have hreach : Reaches anyStep c ((follow c labels).getD c) := Reaches.followed c fun _ _ _ => trivial
  rw [h] at hreach
  exact hreach

/-- What is written on the one is written on the other. -/
theorem Mirrors.writesTo {c₁' : Config} {accountId : Nat} (h : Mirrors c c') (h₁ : Mirrors c₁ c₁')
    (hw : WritesTo c c₁ accountId) : WritesTo c' c₁' accountId := by
  rcases hw with ⟨r, hr, hnew, hid⟩ | ⟨a, ha, hid, hnew⟩
  · left
    refine ⟨r, ?_, ?_, hid⟩
    · rw [h₁.tables.1]
      exact hr
    · rw [h.tables.1]
      exact hnew
  · right
    refine ⟨a.activated, ?_, hid, ?_⟩
    · rw [h₁.shared]
      exact List.mem_map_of_mem ha
    · rw [h.tables.2]
      exact hnew

/-- A change of status is no write. -/
theorem setStatus_writes {id accountId : Nat} {status : AccountStatus}
    (hs : accountStep c (.setStatus id status) = some c₁) : ¬ WritesTo c c₁ accountId := by
  unfold accountStep at hs
  dsimp only at hs
  split at hs
  · cases hs
  · cases hs
    rintro (⟨r, hr, hnew, _⟩ | ⟨a, ha, rfl, hnew⟩)
    · exact hnew hr
    · obtain ⟨a₀, ha₀, rfl⟩ := List.mem_map.mp ha
      refine hnew (List.mem_map.mpr ⟨a₀, ha₀, ?_⟩)
      split <;> rfl

/-- **The status of an account plays no part.** -/
theorem statuses_play_no_part (h₀ : Initial sh) {labels : List AccountLabel}
    (h : followAccounts (start st sh calls) labels = some c) :
    (∃ c', follow (start st sh.activated calls) (systemSteps labels) = some c' ∧
      (∀ (i : Nat) (l : Session) (r : Except Exc TransactionProcessingResult),
        c.threads[i]? = some ⟨l, .lift r⟩ → ∃ l' : Session, c'.threads[i]? = some ⟨l', .lift r⟩) ∧
      c'.shared.db.ledger = c.shared.db.ledger ∧
      c'.shared.db.accounts.map (fun a => (a.id, a.balance)) = c.shared.db.accounts.map fun a => (a.id, a.balance)) ∧
    ∀ label c₁ accountId, accountStep c label = some c₁ → WritesTo c c₁ accountId →
      ∃ (i : Nat) (l : Session) (p : Py TransactionProcessingResult), label = .system (.run i) ∧
        c.threads[i]? = some ⟨l, p⟩ ∧ accountId ∈ l.accountLocks := by
  obtain ⟨c', hf, hm⟩ := (Mirrors.of_start st sh calls).followed h
  refine ⟨⟨c', hf, fun i l r ht => ⟨_, hm.ended ht⟩, hm.tables⟩, fun label c₁ accountId hs hw => ?_⟩
  cases label with
  | system label =>
      obtain ⟨c₁', hs', hm₁⟩ := hm.stepped hs
      obtain ⟨i, l', p', rfl, ht', hlock⟩ := writes_locked h₀.activated (reaches_follow hf) hs' (hm.writesTo hm₁ hw)
      obtain ⟨l, o, k, ht, _, _⟩ := step_run hs
      obtain ⟨p'', ht'', _⟩ := hm.thread ht
      rw [ht''] at ht'
      cases ht'
      exact ⟨i, l, _, rfl, ht, hlock⟩
  | setStatus id status => exact absurd hw (setStatus_writes hs)

namespace Sample

/-- One deposit, on an account that was locked before. -/
def depositor : Config := start settings shared [plainCall "key-1" deposit]

def lockedRun (n : Nat) : List AccountLabel := .setStatus 1 .locked :: List.replicate n (.system (.run 0))

end Sample

theorem statuses_play_no_part_locked :
    ∃ c c', followAccounts Sample.depositor (Sample.lockedRun 21) = some c ∧
      follow (start Sample.settings Sample.shared.activated [Sample.plainCall "key-1" Sample.deposit])
        (systemSteps (Sample.lockedRun 21)) = some c' ∧
      c'.shared.db.ledger = c.shared.db.ledger ∧ c.shared.db.ledger.length = 1 := by
  have hledger : (followAccounts Sample.depositor (Sample.lockedRun 21)).map (fun c => c.shared.db.ledger.length) =
      some 1 := by decide +kernel
  obtain ⟨c, hc, hlength⟩ := Option.map_eq_some_iff.mp hledger
  obtain ⟨⟨c', hf, _, hsame, _⟩, _⟩ := statuses_play_no_part Sample.initial hc
  exact ⟨c, c', hc, hf, hsame, hlength⟩

/-- The account is LOCKED, the call holds its row, and the commit posts the deposit. -/
theorem locked_account_takes_deposit :
    ∃ c c₁, followAccounts Sample.depositor (Sample.lockedRun 19) = some c ∧
      accountStep c (.system (.run 0)) = some c₁ ∧
      (∃ l p, c.threads[0]? = some ⟨l, p⟩ ∧ 1 ∈ l.accountLocks) ∧
      (∃ a ∈ c.shared.db.accounts, a.id = 1 ∧ a.status = "LOCKED") ∧ WritesTo c c₁ 1 := by
  have hbefore : (followAccounts Sample.depositor (Sample.lockedRun 19)).map (fun c =>
      (c.shared.db.accounts, c.shared.db.ledger, c.threads[0]?.map (fun t => t.loc.accountLocks))) =
        some ([⟨1, "ACC-1", 1000, "LOCKED"⟩, ⟨2, "ACC-2", 0, "ACTIVE"⟩], [], some [1]) := by decide +kernel
  have hafter : (followAccounts Sample.depositor (Sample.lockedRun 19)).bind (fun c =>
      (accountStep c (.system (.run 0))).map fun c₁ => c₁.shared.db.accounts) =
        some [⟨1, "ACC-1", 1500, "LOCKED"⟩, ⟨2, "ACC-2", 0, "ACTIVE"⟩] := by decide +kernel
  obtain ⟨c, hc, hstate⟩ := Option.map_eq_some_iff.mp hbefore
  obtain ⟨haccounts, _, hlocks⟩ := Prod.mk.inj hstate |>.imp_right Prod.mk.inj
  rw [hc] at hafter
  obtain ⟨c₁, hc₁, haccounts₁⟩ := Option.map_eq_some_iff.mp hafter
  obtain ⟨t, ht, hlock⟩ := Option.map_eq_some_iff.mp hlocks
  refine ⟨c, c₁, hc, hc₁, ⟨t.loc, t.prog, ht, ?_⟩, ?_, Or.inr ?_⟩
  · rw [hlock]
    exact List.mem_cons_self
  · rw [haccounts]
    exact ⟨_, List.mem_cons_self, rfl, rfl⟩
  · rw [haccounts, haccounts₁]
    exact ⟨_, List.mem_cons_self, rfl, by decide⟩

end Statuses

end EventConsistency
