import EventConsistency.Records
import EventConsistency.Verify.Discipline

/-!
# One key, one answer

* `KeyHistory` : what the log of a run says about one key: at most one call ever writes a record for it, and all others
  repeat its answer;
* `Raises` : a program that can only roll back, release its lock and raise; `process_settles` : a call that reads the
  record of another request does so;
* **`idempotent_replay`** : every call with a key gets the answer of the first that committed a record for it.
-/

namespace EventConsistency

open Lib TransactionEventService

/-! ## The record of a key -/

/-- A record answers every request of its hash as `reply`. -/
def AnswersAs (r : IdempotencyRecord) (reply : TransactionProcessingResult) : Prop :=
  ∀ reply', Replayed r reply' → reply'.statusCode = reply.statusCode ∧ reply'.body = reply.body

section Answers

variable {st : Settings} {opts : Opts} {w : Wiring} {hit : Option CacheEntry} {init db : Db} {key : String}
  {request : TransactionEventCreateRequest} {W : Overlay} {reply : TransactionProcessingResult}

theorem codeOr_some {n d : Nat} (h : n ≠ 0) : codeOr (some n) d = n := by
  simp [codeOr, h]

theorem answersAs_failed {rec : IdempotencyRecord} {x : Exc} {t : Time} (h : isDomainFailure x = true) :
    AnswersAs (failedRecord rec x t) (failureResult x) := by
  intro reply' hr
  have hne : statusCodeForException x ≠ 0 := by
    rcases statusCode_of_domain h with hc | hc | hc <;> rw [hc] <;> decide
  have heq : replayResult (some (statusCodeForException x)) (some (.obj (errorBody x))) 422 = .ok reply' := hr
  simp only [replayResult, dictOf, codeOr_some hne] at heq
  cases heq
  exact ⟨rfl, rfl⟩

theorem answersAs_completed {rec : IdempotencyRecord} {t : Time} (h : reply.statusCode = 200) :
    AnswersAs (completedRecord rec reply t) reply := by
  intro reply' hr
  have heq : replayResult (some reply.statusCode) (some (.obj reply.body)) 200 = .ok reply' := hr
  simp only [replayResult, dictOf, codeOr_some (n := reply.statusCode) (by rw [h]; decide)] at heq
  cases heq
  exact ⟨rfl, rfl⟩

/-- A commit writes nothing at all, or the record of its key, which answers as the call did. -/
theorem Committed.record (h : Committed st opts w hit init db key request W reply) :
    W = {} ∨ ∃ r, W.records = ⟨[], [r]⟩ ∧ db.recordByKey key = none ∧ r.idempotencyKey = key ∧
      r.requestHash = requestHash st request ∧ AnswersAs r reply := by
  cases h with
  | replay _ _ _ => exact Or.inl rfl
  | cached _ _ _ _ => exact Or.inl rfl
  | refused ho hx => exact Or.inr ⟨_, rfl, ho.absent, ho.key_eq, ho.hash_eq, answersAs_failed hx.domain⟩
  | duplicate ho _ _ _ _ => exact Or.inr ⟨_, rfl, ho.absent, ho.key_eq, ho.hash_eq, answersAs_completed rfl⟩
  | failed ho _ _ _ _ hx => exact Or.inr ⟨_, rfl, ho.absent, ho.key_eq, ho.hash_eq, answersAs_failed (ledgerAmount_error hx)⟩
  | applied ho _ _ _ _ _ _ => exact Or.inr ⟨_, rfl, ho.absent, ho.key_eq, ho.hash_eq, answersAs_completed rfl⟩

/-- A commit of a call without response cache that writes nothing repeats the record of its key. -/
theorem Committed.replayed (h : Committed st opts w hit init db key request {} reply) (hd : opts.deletes = false)
    (hw : w.responseCache = false) :
    ∃ r, db.recordByKey key = some r ∧ r.requestHash = requestHash st request ∧ Replayed r reply := by
  refine (h.unwritten hd).resolve_right ?_
  rintro ⟨_, hc, _⟩
  rw [hw] at hc
  cases hc

end Answers

/-- What the commits of a log have done for the key `k`. -/
inductive KeyHistory (st : Settings) (k : String) : List Commit → Db → Prop where
  | unused {log : List Commit} {db : Db} (h : ∀ y ∈ log, y.key ≠ k) (hn : db.recordByKey k = none) :
      KeyHistory st k log db
  | old {log : List Commit} {db : Db} {r : IdempotencyRecord} (hr : db.recordByKey k = some r)
      (h : ∀ y ∈ log, y.key = k → y.work = {}) : KeyHistory st k log db
  | made {before after : List Commit} {x : Commit} {db : Db} {r : IdempotencyRecord} (hb : ∀ y ∈ before, y.key ≠ k)
      (hk : x.key = k) (hw : x.work.records = ⟨[], [r]⟩) (hh : r.requestHash = requestHash st x.request)
      (ha : AnswersAs r x.reply) (hr : db.recordByKey k = some r)
      (h : ∀ y ∈ after, y.key = k → y.work = {} ∧ requestHash st y.request = requestHash st x.request ∧
        y.reply.statusCode = x.reply.statusCode ∧ y.reply.body = x.reply.body) :
      KeyHistory st k (before ++ x :: after) db

namespace KeyHistory

variable {st : Settings} {opts : Opts} {init db : Db} {k : String} {log : List Commit} {x : Commit}

/-- One more commit. -/
theorem commit {al el : List Nat} (h : KeyHistory st k log db) (hd : opts.deletes = false)
    (hx : Committed st opts x.wiring x.cacheHit init db x.key x.request x.work x.reply) (hc : Covered x.work al el)
    (hw : x.key = k → x.wiring.responseCache = false) : KeyHistory st k (log ++ [x]) (x.work.apply db) := by
  by_cases hk : x.key = k
  · subst hk
    rcases hx.record with hW | ⟨r, hW, hn, hrk, hrh, hra⟩
    · -- it repeats the record of the key, so there is one
      rw [hW] at hx
      obtain ⟨r, hr, hh, hrep⟩ := hx.replayed hd (hw rfl)
      rw [hW, Overlay.apply_empty]
      cases h with
      | unused _ hn => rw [hn] at hr; cases hr
      | old hr' h =>
          refine .old hr' fun y hy hyk => ?_
          rcases List.mem_append.mp hy with hy | hy
          · exact h y hy hyk
          · rw [List.mem_singleton.mp hy]; exact hW
      | made hb hk' hw' hh' ha hr' h =>
          rw [hr] at hr'
          cases hr'
          rw [List.append_assoc, List.cons_append]
          refine .made hb hk' hw' hh' ha hr fun y hy hyk => ?_
          rcases List.mem_append.mp hy with hy | hy
          · exact h y hy hyk
          · rw [List.mem_singleton.mp hy]
            exact ⟨hW, hh.symm.trans hh', (ha _ hrep).1, (ha _ hrep).2⟩
    · -- it writes the record, so there was none
      cases h with
      | unused h _ =>
          refine .made h rfl hW hrh hra ?_ (by simp)
          rw [recordByKey_apply hc, hn, hW]
          simp [hrk]
      | old hr _ => rw [hn] at hr; cases hr
      | made _ _ _ _ _ hr _ => rw [hn] at hr; cases hr
  · -- another key
    have hnew : x.work.records.inserted.find? (fun r => r.idempotencyKey == k) = none := by
      rw [List.find?_eq_none]
      intro r hr heq
      rcases hx.record with hW | ⟨r', hW, _, hrk, _⟩
      · rw [hW] at hr; cases hr
      · rw [hW] at hr
        rw [List.mem_singleton.mp hr] at heq
        exact hk (hrk.symm.trans (beq_iff_eq.mp heq))
    have hrec : (x.work.apply db).recordByKey k = db.recordByKey k := by
      rw [recordByKey_apply hc, hnew, Option.or_none]
    cases h with
    | unused h hn =>
        refine .unused (fun y hy => ?_) (hrec.trans hn)
        rcases List.mem_append.mp hy with hy | hy
        · exact h y hy
        · rw [List.mem_singleton.mp hy]; exact hk
    | old hr h =>
        refine .old (hrec.trans hr) fun y hy hyk => ?_
        rcases List.mem_append.mp hy with hy | hy
        · exact h y hy hyk
        · rw [List.mem_singleton.mp hy] at hyk; exact absurd hyk hk
    | made hb hk' hw' hh' ha hr h =>
        rw [List.append_assoc, List.cons_append]
        refine .made hb hk' hw' hh' ha (hrec.trans hr) fun y hy hyk => ?_
        rcases List.mem_append.mp hy with hy | hy
        · exact h y hy hyk
        · rw [List.mem_singleton.mp hy] at hyk; exact absurd hyk hk

theorem chain (h : Chain st opts init log db) (hd : opts.deletes = false)
    (hw : ∀ y ∈ log, y.key = k → y.wiring.responseCache = false) : KeyHistory st k log db := by
  induction h with
  | nil =>
      cases hr : init.recordByKey k with
      | none => exact .unused (by simp) hr
      | some r => exact .old hr (by simp)
  | commit _ _ hx hc ih =>
      exact (ih fun y hy => hw y (List.mem_append_left _ hy)).commit hd hx hc
        (hw _ (List.mem_append_right _ List.mem_cons_self))
  | deleteExpired _ hdel _ _ _ => rw [hd] at hdel; cases hdel
  | setQuarantines _ _ _ ih =>
      cases ih hw with
      | unused h hn => exact .unused h hn
      | old hr h => exact .old hr h
      | made hb hk hw' hh ha hr h => exact .made hb hk hw' hh ha hr h

end KeyHistory

/-! ## A call that reads the record of another request -/

/-- The program can only roll back, release its lock and raise `x`. -/
inductive Raises {α : Type} (x : Exc) : Py α → Prop where
  | raise : Raises x (.raise x)
  | rollback {k : Except Exc (Op.rollback.Res) → Py α} (h : Raises x (k (.ok ()))) : Raises x (.op .rollback k)
  | release {key : String} {token : Option Nat} {k : Except Exc (Op.lockRelease key token).Res → Py α}
      (h : Raises x (k (.ok ()))) : Raises x (.op (.lockRelease key token) k)

/-- If the operation reads, in `check_or_start`, a record with another hash than `hash`, a conflict follows. -/
def Settles {α : Type} (hash : String) : (o : Op) → (Except Exc o.Res → Py α) → Prop
  | .sql .checkOrStart (.selectRecord _), k => ∀ r : IdempotencyRecord, r.requestHash ≠ hash →
      Raises (.idempotencyConflict r.idempotencyKey) (k (.ok (some r)))
  | _, _ => True

/-- The program does not read a record in `check_or_start`. -/
def NoCheck {α : Type} (p : Py α) : Prop := p.All fun o _ => o.checks = false

section Settles

variable {α β : Type} {hash : String} {x y : Exc} {p : Py α} {f : Except Exc α → Py β}

theorem Raises.handle (hp : Raises x p) (hf : Raises y (f (.error x))) : Raises y (p.handle f) := by
  induction hp with
  | raise => exact hf
  | rollback _ ih => exact .rollback ih
  | release _ ih => exact .release ih

theorem Op.eq_of_checks {o : Op} (h : o.checks = true) : ∃ key, o = .sql .checkOrStart (.selectRecord key) := by
  unfold Op.checks at h
  split at h
  · exact ⟨_, rfl⟩
  · cases h

theorem settles_of_not_checks {o : Op} {k : Except Exc o.Res → Py α} (h : o.checks = false) : Settles hash o k := by
  unfold Settles
  split
  · cases h
  · trivial

theorem NoCheck.settles (h : NoCheck p) : p.All (Settles hash) := by
  induction p with
  | ret _ => trivial
  | raise _ => trivial
  | op o k ih => exact ⟨settles_of_not_checks h.1, fun r => ih r (h.2 r)⟩

/-- A handler that lets conflicts through. -/
theorem settles_handle (hp : p.All (Settles hash)) (hf : ∀ r, (f r).All (Settles hash))
    (hpass : ∀ key, Raises (.idempotencyConflict key) (f (.error (.idempotencyConflict key)))) :
    (p.handle f).All (Settles hash) := by
  induction p with
  | ret _ => exact hf _
  | raise _ => exact hf _
  | op o k ih =>
      refine ⟨?_, fun r => ih r (hp.2 r)⟩
      by_cases hc : o.checks = true
      · obtain ⟨key, rfl⟩ := Op.eq_of_checks hc
        exact fun r hr => (hp.1 r hr).handle (hpass _)
      · exact settles_of_not_checks (by simpa using hc)

theorem NoCheck.call {o : Op} (h : o.checks = false) : NoCheck (.call o) := Prog.Each.call h

/-- A program that takes nothing does not read a record in `check_or_start` either. -/
theorem Passive.noCheck (h : Passive p) : NoCheck p := h.mono fun _ _ ho => (Op.passive_cases ho).2

theorem runEvent_noCheck (account : Account) (event : TransactionEvent) (original : Option TransactionEvent) :
    NoCheck (runEvent account event original) := by
  refine Prog.Each.bind (changeStatus_passive _ _ _).noCheck fun event => Prog.Each.bind (changeStatus_passive _ _ _).noCheck fun event =>
    Prog.Each.bind ?_ fun ledger => ?_
  · exact Prog.Each.bind (Prog.Each.lift _) fun _ => Prog.Each.bind (Prog.Each.call rfl) fun _ =>
      Prog.Each.bind (Prog.Each.call rfl) fun _ => trivial
  · split
    · exact Prog.Each.bind (changeStatus_passive _ _ _).noCheck fun _ => Prog.Each.bind (changeStatus_passive _ _ _).noCheck fun _ => trivial
    · exact Prog.Each.bind (changeStatus_passive _ _ _).noCheck fun _ => trivial

theorem applyStartedRequest_noCheck (svc : Service) (key : String) (request : TransactionEventCreateRequest) :
    NoCheck (applyStartedRequest svc key request) := by
  refine Prog.Each.bind (Prog.Each.call rfl) fun account => ?_
  cases account with
  | none => trivial
  | some account =>
      refine Prog.Each.bind ?_ fun _ => Prog.Each.bind
        (Prog.Each.bind (Prog.Each.call rfl) fun _ => Prog.Each.lift _) fun existing => ?_
      · unfold checkQuarantine
        split
        · refine Prog.Each.bind (Prog.Each.call rfl) fun q => ?_
          cases q <;> trivial
        · trivial
      · cases existing with
        | some existing =>
            refine Prog.Each.bind (Prog.Each.lift _) fun _ => Prog.Each.bind (Prog.Each.call rfl) fun ledger => ?_
            cases ledger <;> trivial
        | none =>
            refine Prog.Each.bind ?_ fun original => Prog.Each.bind (Prog.Each.call rfl) fun event =>
              Prog.Each.bind (Prog.Each.call rfl) fun _ => runEvent_noCheck _ _ _
            unfold getOriginalEventForCancel
            split
            · trivial
            · split
              · trivial
              · refine Prog.Each.bind (Prog.Each.bind (Prog.Each.call rfl) fun _ => Prog.Each.lift _) fun e => ?_
                cases e <;> trivial

theorem processStarted_noCheck (svc : Service) (key : String) (request : TransactionEventCreateRequest)
    (payload : Json) : NoCheck (processStarted svc key request payload) := by
  refine Prog.Each.andFinally (Prog.Each.tryCatch ?_ fun x => (onFailure_passive svc key payload x).noCheck) (Prog.Each.call rfl)
  exact Prog.Each.bind (Prog.Each.call rfl) fun _ => Prog.Each.bind (applyStartedRequest_noCheck _ _ _) fun _ =>
    Prog.Each.bind (complete_passive _ _ _ _ _).noCheck fun _ => trivial

/-- An exception goes through a `bind`. -/
theorem settles_bind {g : α → Py β} (hp : p.All (Settles hash)) (hg : ∀ a, (g a).All (Settles hash)) :
    (p >>= g).All (Settles hash) := by
  refine settles_handle hp (fun r => ?_) fun key => .raise
  cases r with
  | ok a => exact hg a
  | error x => trivial

theorem decide_conflict {r : IdempotencyRecord} (h : r.requestHash ≠ hash) :
    IdempotencyService.decide r hash = .error (.idempotencyConflict r.idempotencyKey) := by
  simp [IdempotencyService.decide, IdempotencyService.ensureSameRequestHash, h, bind, Except.bind]

theorem checkOrStart_settles (svc : Service) (key : String) (payload : Json) :
    (svc.checkOrStart key payload).All (Settles (generateRequestHash svc.sha256 payload)) := by
  have hplain : (IdempotencyService.checkOrStart svc key payload).All
      (Settles (generateRequestHash svc.sha256 payload)) := by
    refine settles_bind (NoCheck.call rfl).settles fun t => ?_
    refine ⟨fun r hr => ?_, fun r => ?_⟩
    · change Raises _ (Prog.lift (IdempotencyService.decide r (generateRequestHash svc.sha256 payload)))
      rw [decide_conflict hr]
      exact .raise
    · cases r with
      | error x => trivial
      | ok r =>
          cases r with
          | none =>
              exact settles_bind (p := IdempotencyRecordRepository.createProcessing _ _ _ _ _)
                (NoCheck.call rfl).settles fun _ => trivial
          | some r => exact NoCheck.settles (Prog.Each.lift _)
  have hdb : (CachedIdempotencyService.checkOrStartFromDb svc key payload).All
      (Settles (generateRequestHash svc.sha256 payload)) := by
    refine settles_bind hplain fun result => NoCheck.settles ?_
    split
    · exact Prog.Each.bind (Prog.Each.call rfl) fun _ => trivial
    · trivial
  unfold Service.checkOrStart
  split
  · refine settles_bind (NoCheck.call rfl).settles fun cached => ?_
    cases cached with
    | none => exact hdb
    | some cached =>
        dsimp only
        split
        · trivial
        · exact hdb
  · exact hplain

theorem attempts_settles (svc : Service) (key : String) (request : TransactionEventCreateRequest) (ns : List Nat) :
    (attempts svc key request ns).All (Settles (generateRequestHash svc.sha256 request.modelDump)) := by
  induction ns with
  | nil => trivial
  | cons n ns ih =>
      have hbody : (withBegin (attemptBody svc key request)).All
          (Settles (generateRequestHash svc.sha256 request.modelDump)) := by
        refine settles_handle ?_ (fun r => NoCheck.settles ?_) fun key => .rollback .raise
        · refine settles_bind (checkOrStart_settles svc key _) fun idem => NoCheck.settles ?_
          split
          · trivial
          · exact Prog.Each.lift _
          · exact Prog.Each.lift _
          · exact processStarted_noCheck _ _ _ _
        · cases r with
          | ok reply =>
              exact Prog.Each.bind (Prog.Each.tryCatch (Prog.Each.call rfl) fun x =>
                Prog.Each.bind (Prog.Each.call rfl) fun _ => trivial) fun _ => trivial
          | error x => exact Prog.Each.bind (Prog.Each.call rfl) fun _ => trivial
      refine settles_handle hbody (fun r => ?_) fun key => .rollback .raise
      cases r with
      | ok reply => trivial
      | error x =>
          dsimp only
          split
          · refine settles_bind (NoCheck.call rfl).settles fun _ => ?_
            split
            · trivial
            · exact settles_bind (NoCheck.call rfl).settles fun _ => ih
          · exact NoCheck.settles (Prog.Each.bind (Prog.Each.call rfl) fun _ => trivial)

/-- **A call that reads the record of another request in `check_or_start` raises a conflict.** -/
theorem process_settles (svc : Service) (key : String) (request : TransactionEventCreateRequest) :
    (process svc key request).All (Settles (generateRequestHash svc.sha256 request.modelDump)) := by
  have hrun := attempts_settles svc key request [0, 1]
  unfold process
  split
  · refine settles_bind (NoCheck.call rfl).settles fun lock => ?_
    split
    · trivial
    · refine settles_handle hrun (fun r => NoCheck.settles ?_) fun key => ?_
      · refine Prog.Each.handle ?_ fun u => ?_
        · unfold releaseLock
          split
          · exact Prog.Each.call rfl
          · trivial
        · cases u with
          | ok _ => exact Prog.Each.lift r
          | error _ => trivial
      · unfold releaseLock
        split
        · exact .release .raise
        · exact .raise
  · exact hrun

end Settles

/-! ## Whole runs -/

section Runs

variable {st : Settings} {calls : List Call} {sh : Shared} {c : Config} {k : String} {before after : List Commit}
  {x : Commit}

/-- The call that writes the record of a key is the one of its history. -/
theorem KeyHistory.first {db : Db} (h : KeyHistory st k (before ++ x :: after) db) (hk : x.key = k)
    (hx : x.work.records.inserted ≠ []) (honce : ((before ++ x :: after).map Commit.tid).Nodup) :
    (∀ y ∈ before ++ after, y.key = k → y.work = {}) ∧ ∀ y ∈ before ++ x :: after, y.key = k →
      requestHash st y.request = requestHash st x.request ∧ y.reply.statusCode = x.reply.statusCode ∧
        y.reply.body = x.reply.body := by
  have hxm : x ∈ before ++ x :: after := by simp
  generalize hlog : before ++ x :: after = log at h hxm honce
  cases h with
  | unused h _ => exact absurd hk (h x hxm)
  | old _ h => exact absurd (by rw [h x hxm hk]) hx
  | @made b a x' _ r hb hk' hw hh ha hr h =>
      have hxx : x = x' := by
        rcases List.mem_append.mp hxm with hm | hm
        · exact absurd hk (hb x hm)
        · rcases List.mem_cons.mp hm with hm | hm
          · exact hm
          · exact absurd (by rw [(h x hm hk).1]) hx
      subst hxx
      -- `x` occurs once, so the two ways to split the log at it are the same
      have hnot : ∀ y ∈ before ++ after, y ≠ x := by
        rintro y hy rfl
        rw [← hlog, List.map_append, List.map_cons, List.nodup_middle] at honce
        refine (List.nodup_cons.mp honce).1 ?_
        rw [← List.map_append]
        exact List.mem_map_of_mem hy
      have hsame : ∀ y ∈ b ++ x :: a, y.key = k → y ≠ x → y ∈ a := by
        intro y hy hyk hne
        rcases List.mem_append.mp hy with hm | hm
        · exact absurd hyk (hb y hm)
        · exact (List.mem_cons.mp hm).resolve_left hne
      refine ⟨fun y hy hyk => ?_, fun y hy hyk => ?_⟩
      · refine (h y (hsame y ?_ hyk (hnot y hy)) hyk).1
        rw [← hlog]
        rcases List.mem_append.mp hy with hm | hm
        · exact List.mem_append_left _ hm
        · exact List.mem_append_right _ (List.mem_cons_of_mem _ hm)
      · by_cases hyx : y = x
        · subst hyx; exact ⟨rfl, rfl, rfl⟩
        · exact (h y (hsame y (hlog ▸ hy) hyk hyx) hyk).2

/-- **Idempotent replay.** Without response cache and without deletion of records, let `x` be the commit of a record for
the key `k`; there is no second one, so it is the first. Every call with this key that returns something else than 202 has the request hash of `x` and
returns its status code and body; a call with another hash that reads the record of `x` raises a conflict; and no other
call with this key changes any row. -/
theorem idempotent_replay (h₀ : Initial sh)
    (hplain : ∀ call ∈ calls, call.key = k → call.wiring.responseCache = false)
    (h : Reaches (fun _ label => label.deletes = false) (start st sh calls) c)
    (hlog : c.shared.log = before ++ x :: after) (hk : x.key = k) (hx : x.work.records.inserted ≠ []) :
    (∀ (i : Nat) l reply, c.threads[i]? = some ⟨l, .ret reply⟩ → l.key = k → reply.statusCode ≠ 202 →
      requestHash st l.request = requestHash st x.request ∧ reply.statusCode = x.reply.statusCode ∧
        reply.body = x.reply.body) ∧
    (∀ (i : Nat) l next r, c.threads[i]? = some ⟨l, .op (.sql .checkOrStart (.selectRecord k)) next⟩ →
      requestHash st l.request ≠ requestHash st x.request →
      (exec false (.sql .checkOrStart (.selectRecord k)) c.shared l).1 = .ok (some r) →
      r ∈ x.work.records.inserted → Raises (.idempotencyConflict k) (next (.ok (some r)))) ∧
    ∀ y ∈ before ++ after, y.key = k → y.work = {} := by
  have h' : Reaches (permits keeping) (start st sh calls) c := h.mono fun c _ hd => permits_keeping c hd
  have hinv := h'.inv rfl h₀ (Admits.any rfl rfl)
  have hcoh := hinv.coh
  have hhist : KeyHistory st k c.shared.log c.shared.db := by
    refine KeyHistory.chain (h'.chain rfl h₀ (Admits.any rfl rfl)) rfl fun y hy hyk => ?_
    exact hplain _ (List.mem_of_getElem? (hcoh.logged y hy)) hyk
  have honce := hcoh.once
  rw [hlog] at hhist honce
  obtain ⟨hwork, hreply⟩ := hhist.first hk hx honce
  refine ⟨fun i l reply ht hlk hne => ?_, fun i l next r ht hne hread hr => ?_, hwork⟩
  · obtain ⟨y, hy, _, _, hyk, hyr, rfl⟩ := h'.returned rfl h₀ (Admits.any rfl rfl) ht hne
    rw [hlog] at hy
    have := hreply y hy (hyk.trans hlk)
    rwa [hyr] at this
  · have hall := h'.all (P := fun i o next => ∀ call, calls[i]? = some call → Settles (requestHash st call.request) o next)
      (fun i call hc => (process_settles ⟨st, call.wiring⟩ call.key call.request).mono fun o next hs call' hc' => by
        rw [hc] at hc'
        cases hc'
        exact hs) i _ ht
    have hmade := (hcoh.made i l (by simp [Pool.locs, ht])).2
    have hrk : r.idempotencyKey = k ∧ r.requestHash = requestHash st x.request := by
      have hcom : ∃ db, Committed st keeping x.wiring x.cacheHit sh.db db x.key x.request x.work x.reply := by
        have hch := h'.chain rfl h₀ (Admits.any rfl rfl)
        exact hch.committed (by rw [hlog]; simp)
      obtain ⟨db, hcom⟩ := hcom
      rcases hcom.record with hW | ⟨r', hW, _, hk', hh', _⟩
      · rw [hW] at hr; cases hr
      · rw [hW] at hr
        rw [List.mem_singleton.mp hr]
        exact ⟨hk'.trans hk, hh'⟩
    have := hall.1 _ hmade r (by rw [hrk.2]; exact hne.symm)
    rwa [hrk.1] at this

/-- A deposit, the same request again, and another request with the same key. -/
theorem idempotent_replay_deposit :
    let c := Sample.run [Sample.plainCall "key-1" Sample.deposit, Sample.plainCall "key-1" Sample.deposit,
      Sample.plainCall "key-1" Sample.rival]
      (List.replicate 21 (.run 0) ++ List.replicate 5 (.run 1) ++ List.replicate 3 (.run 2))
    ∃ x y, c.shared.log = [x, y] ∧ y.work = {} ∧
      ∀ (i : Nat) l reply, c.threads[i]? = some ⟨l, .ret reply⟩ → l.key = "key-1" → reply.statusCode ≠ 202 →
        requestHash Sample.settings l.request = requestHash Sample.settings x.request ∧
          reply.statusCode = x.reply.statusCode ∧ reply.body = x.reply.body := by
  intro c
  have hkeys : c.shared.log.map (fun x => (x.key, x.work.records.inserted.length)) = [("key-1", 1), ("key-1", 0)] := by
    decide +kernel
  obtain ⟨x, rest, hlog, hx, hrest⟩ := List.map_eq_cons_iff.mp hkeys
  obtain ⟨y, rest', rfl, hy, hrest⟩ := List.map_eq_cons_iff.mp hrest
  obtain rfl := List.map_eq_nil_iff.mp hrest
  obtain ⟨hxk, hxr⟩ := Prod.mk.inj hx
  have hreach : Reaches (fun _ label => label.deletes = false) (start Sample.settings Sample.shared
      [Sample.plainCall "key-1" Sample.deposit, Sample.plainCall "key-1" Sample.deposit,
        Sample.plainCall "key-1" Sample.rival]) c := Sample.reaches_run_of _ (by decide)
  have hsplit : c.shared.log = [] ++ x :: [y] := hlog
  have h := idempotent_replay Sample.initial (by simp [Sample.plainCall]) hreach hsplit hxk
    (fun hnil => by rw [hnil] at hxr; cases hxr)
  exact ⟨x, y, hlog, h.2.2 y (by simp) (Prod.mk.inj hy).1, h.1⟩

end Runs

end EventConsistency
