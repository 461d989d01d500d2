import EventConsistency.Verify.Statements

/-!
# The idempotency services keep their part

* `Ready` : a call that owes nothing any more but its commit; `Rejected` : one that was refused by the record
  of its key; `Withheld` : one whose query was not answered; `Prepared` : one that has only its record left to close;
* `checkOrStart_wp` : a call is started, has its answer, or is rejected;
* `complete_wp`, `fail_wp` : a prepared call becomes ready.
-/

namespace EventConsistency

open Lib TransactionEventService

/-- A call whose changes are complete: whatever the others do now, it may commit and return `reply`. -/
structure Ready (st : Settings) (opts : Opts) (c : Session) (F : List (Site × Exc)) (n : Nat)
    (reply : TransactionProcessingResult) (sh : Shared) (l : Session) : Prop extends Running opts c F n sh l where
  ok : l.failed = false
  covered : Covered l.work l.accountLocks l.eventLocks
  shape : ∀ sh', Rely opts l sh sh' →
    Committed st opts l.wiring l.cacheHit sh'.init sh'.db l.key l.request l.work reply
  cache : ∀ sh', Rely opts l sh sh' → CacheKept opts sh' l

/-- Why the record of its key refuses a call: it belongs to another request, or its body is no object. -/
inductive Rejection (st : Settings) (opts : Opts) (c : Session) (init db : Db) : Exc → Prop where
  | conflict {r : IdempotencyRecord} (hk : r.idempotencyKey = c.key)
      (hr : opts.deletes = false → db.recordByKey c.key = some r) (hh : r.requestHash ≠ requestHash st c.request) :
      Rejection st opts c init db (.idempotencyConflict c.key)
  | body {m : String} (h : opts.dicts = false) : Rejection st opts c init db (.typeError m)

structure Rejected (st : Settings) (opts : Opts) (c : Session) (F : List (Site × Exc)) (n : Nat) (x : Exc)
    (sh : Shared) (l : Session) : Prop extends Running opts c F n sh l where
  why : Rejection st opts c sh.init sh.db x

/-- psycopg2 has not answered a query of the call; a call alone got to it with such a text or to such a row. -/
def Unanswered (opts : Opts) (c : Session) (db : Db) (z : Exc) : Prop :=
  (∃ message, z = .valueError message) ∧ (opts.quiet = true → Unanswerable opts c db)

/-- A call that ends with `z` because a query was not answered. -/
structure Withheld (opts : Opts) (c : Session) (F : List (Site × Exc)) (n : Nat) (z : Exc) (sh : Shared) (l : Session) :
    Prop extends Running opts c F n sh l where
  why : Unanswered opts c sh.db z

/-- The call has only its record `rec` left to close, as `close` does. -/
structure Prepared (st : Settings) (opts : Opts) (c : Session) (F : List (Site × Exc)) (n : Nat)
    (rec : IdempotencyRecord) (close : Time → IdempotencyRecord) (reply : TransactionProcessingResult)
    (W : Overlay) (al el : List Nat) (act : Option TransactionEvent) (t : Time) (P : Fact)
    (sh : Shared) (l : Session) : Prop where
  at_ : At opts c F n W al el act (some t) P sh l
  record : W.records = ⟨[], [rec]⟩
  opened : ∀ init db, P init db → Opened st db c.key c.request rec
  shape : ∀ init db, P init db → ∀ hit t', Committed st opts c.wiring hit init db c.key c.request
    { W with records := ⟨[], [close t']⟩ } reply

section Idempotency

variable {st : Settings} {opts : Opts} {c l : Session} {F : List (Site × Exc)} {n : Nat} {sh sh' : Shared}
  {W : Overlay} {al el : List Nat} {act : Option TransactionEvent} {t : Time} {P : Fact} {site : Site}
  {reply : TransactionProcessingResult} {rec : IdempotencyRecord}

theorem Ready.stable (h : Ready st opts c F n reply sh l) (hr : Rely opts l sh sh') :
    Ready st opts c F n reply sh' l :=
  { h with
    toRunning := h.toRunning.stable hr
    shape := fun sh'' hr' => h.shape sh'' (hr.trans hr')
    cache := fun sh'' hr' => h.cache sh'' (hr.trans hr') }

theorem Rejection.stable {x : Exc} (h : Rejection st opts c sh.init sh.db x) (hr : Rely opts l sh sh') :
    Rejection st opts c sh'.init sh'.db x := by
  cases h with
  | conflict hk hf hh => exact .conflict hk (fun hd => hr.recordByKey_some hd (hf hd)) hh
  | body h => exact .body h

theorem Rejected.stable {x : Exc} (h : Rejected st opts c F n x sh l) (hr : Rely opts l sh sh') :
    Rejected st opts c F n x sh' l :=
  { h with toRunning := h.toRunning.stable hr, why := h.why.stable hr }

theorem Unanswered.stable {x : Exc} (h : Unanswered opts c sh.db x) (hr : Rely opts l sh sh') : Unanswered opts c sh'.db x :=
  ⟨h.1, fun hq => by rw [hr.quiet hq]; exact h.2 hq⟩

theorem Withheld.stable {x : Exc} (h : Withheld opts c F n x sh l) (hr : Rely opts l sh sh') :
    Withheld opts c F n x sh' l :=
  { h with toRunning := h.toRunning.stable hr, why := h.why.stable hr }

/-- Knowledge lasts. -/
theorem At.lasting {τ : Option Time} (h : At opts c F n W al el act τ P sh l) (hr : Rely opts l sh sh') :
    P sh'.init sh'.db := (h.stable hr).facts

theorem At.ready {τ : Option Time} (h : At opts c F n W al el act τ P sh l)
    (hs : ∀ init db, P init db → ∀ hit, Committed st opts c.wiring hit init db c.key c.request W reply) :
    Ready st opts c F n reply sh l :=
  { h.toRunning with
    ok := h.ok
    covered := by rw [h.work, h.accountLocks, h.eventLocks]; exact h.covered
    shape := fun sh' hr => by
      rw [h.work, h.wiring, h.key, h.request]
      exact hs _ _ (h.lasting hr) _
    cache := fun _ _ e he => by rw [h.wrote] at he; cases he }

theorem At.rejected {τ : Option Time} {x : Exc} (h : At opts c F n W al el act τ P sh l)
    (hs : ∀ init db, P init db → Rejection st opts c init db x) : Rejected st opts c F n x sh l :=
  { h.toRunning with why := hs _ _ h.facts }

/-! ## The idempotency service -/

/-- The answer of a record to its own request. -/
def answer (idem : IdempotencyCheckResult) : Except Exc TransactionProcessingResult :=
  match idem.decision with
  | .alreadyProcessing | .started => .ok alreadyProcessingResult
  | .replayCompleted => replayResult idem.responseCode idem.responseBody 200
  | .replayFailed => replayResult idem.responseCode idem.responseBody 422

/-- Ready to return the answer, or rejected. -/
def Answered (st : Settings) (opts : Opts) (c : Session) (F : List (Site × Exc)) (n : Nat) :
    Except Exc TransactionProcessingResult → Shared → Session → Prop :=
  Outcome (Ready st opts c F n) (Rejected st opts c F n)

/-- What `check_or_start` leads to from `P`: a started call, or one that has its answer. -/
def Checked (st : Settings) (opts : Opts) (c : Session) (F : List (Site × Exc)) (n : Nat)
    (act : Option TransactionEvent) (P : Fact) (idem : IdempotencyCheckResult) (sh : Shared) (l : Session) : Prop :=
  (idem.decision = .started ∧ Vacant c.key P ∧ ∃ rec t, At opts c F n (refusedWork rec) [] [] act (some t)
      (fun _ db => Opened st db c.key c.request rec) sh l) ∨
    (idem.decision ≠ .started ∧ l.work = {} ∧ Answered st opts c F n (answer idem) sh l)

theorem decide_error {r : IdempotencyRecord} {h : String} {x : Exc} (hx : IdempotencyService.decide r h = .error x) :
    r.requestHash ≠ h ∧ x = .idempotencyConflict r.idempotencyKey := by
  by_cases hh : r.requestHash = h
  · cases hs : r.status <;>
      simp [IdempotencyService.decide, IdempotencyService.ensureSameRequestHash, hh, hs, bind, Except.bind, pure,
        Except.pure] at hx
  · simp [IdempotencyService.decide, IdempotencyService.ensureSameRequestHash, hh, bind, Except.bind] at hx
    exact ⟨hh, hx.symm⟩

theorem decide_ok {r : IdempotencyRecord} {h : String} {idem : IdempotencyCheckResult}
    (hx : IdempotencyService.decide r h = .ok idem) :
    r.requestHash = h ∧ idem.decision ≠ .started ∧ (∀ reply, answer idem = .ok reply → Replayed r reply) ∧
      (idem.decision = .replayCompleted → r.status = .completed ∧ idem.responseCode = r.responseCode) ∧
      (idem.decision ≠ .alreadyProcessing → idem.responseBody = r.responseBody) := by
  by_cases hh : r.requestHash = h
  · cases hs : r.status <;>
      simp [IdempotencyService.decide, IdempotencyService.ensureSameRequestHash, hh, hs, bind, Except.bind, pure,
        Except.pure] at hx <;>
      subst hx <;> simp [answer, Replayed, hs, hh, eq_comm]
  · simp [IdempotencyService.decide, IdempotencyService.ensureSameRequestHash, hh, bind, Except.bind] at hx

theorem dictOf_error {body : Option Json} {x : Exc} (h : dictOf body = .error x) : ∃ m, x = .typeError m := by
  unfold dictOf at h
  split at h <;> cases h
  exact ⟨_, rfl⟩

theorem replayResult_error {code : Option Nat} {body : Option Json} {default : Nat} {x : Exc}
    (h : replayResult code body default = .error x) : (∃ m, x = .typeError m) ∧ ¬ BodyOk body := by
  unfold replayResult at h
  split at h
  · rename_i y hd
    cases h
    refine ⟨dictOf_error hd, ?_⟩
    rintro ⟨kvs, hk⟩
    rw [hd] at hk
    cases hk
  · cases h

theorem answer_error {idem : IdempotencyCheckResult} {x : Exc} (hx : answer idem = .error x) :
    (∃ m, x = .typeError m) ∧ ¬ BodyOk idem.responseBody ∧ idem.decision ≠ .alreadyProcessing := by
  unfold answer at hx
  split at hx
  · cases hx
  · cases hx
  · rename_i hd
    exact ⟨(replayResult_error hx).1, (replayResult_error hx).2, by rw [hd]; decide⟩
  · rename_i hd
    exact ⟨(replayResult_error hx).1, (replayResult_error hx).2, by rw [hd]; decide⟩

/-- A call that has read the record of its key has its answer. -/
theorem At.answered {r : IdempotencyRecord} {idem : IdempotencyCheckResult}
    (h : At opts c F n {} al el act (some t) P sh l)
    (hP : ∀ init db, P init db → RecordRead opts c.key (some r) init db)
    (hd : IdempotencyService.decide r (requestHash st c.request) = .ok idem) :
    Answered st opts c F n (answer idem) sh l := by
  obtain ⟨hh, _, hreplay, _, hbody⟩ := decide_ok hd
  cases ha : answer idem with
  | ok reply =>
      refine h.ready fun init db hp hit => ?_
      obtain ⟨_, _, hr⟩ := hP init db hp
      exact .replay hr hh (hreplay reply ha)
  | error x =>
      obtain ⟨⟨m, rfl⟩, hb, hne⟩ := answer_error ha
      refine h.rejected fun init db hp => .body (Bool.eq_false_iff.mpr fun hok => hb ?_)
      rw [hbody hne]
      exact (hP init db hp).2.1 hok

/-- What can go wrong in `check_or_start`. -/
def CheckFailed (st : Settings) (opts : Opts) (c : Session) (F : List (Site × Exc)) (n : Nat) (P : Fact) (x : Exc)
    (sh : Shared) (l : Session) : Prop :=
  Rejected st opts c F n x sh l ∨
    (x = .operationalError ∨ Vacant c.key P) ∧ Broken opts c F n .checkOrStart x sh l

/-- A call that has just read the record of its key, if there is one, with its answer. -/
def Consulted (st : Settings) (opts : Opts) (c : Session) (F : List (Site × Exc)) (n : Nat)
    (act : Option TransactionEvent) (P : Fact) (idem : IdempotencyCheckResult) (sh : Shared) (l : Session) : Prop :=
  (idem.decision = .started ∧ Vacant c.key P ∧ ∃ rec t, At opts c F n (refusedWork rec) [] [] act (some t)
      (fun _ db => Opened st db c.key c.request rec) sh l) ∨
    ∃ r t P, IdempotencyService.decide r (requestHash st c.request) = .ok idem ∧
      (∀ init db, P init db → RecordRead opts c.key (some r) init db) ∧
      At opts c F n {} [] [] act (some t) P sh l

theorem IdempotencyService.checkOrStart_wp {svc : Service} {τ : Option Time} (hsvc : svc.toSettings = st)
    (h : At opts c F n {} [] [] act τ P sh l) :
    (logic st opts).wp (IdempotencyService.checkOrStart svc c.key c.request.modelDump)
      (Outcome (Consulted st opts c F n act P) (CheckFailed st opts c F n P)) sh l := by
  subst hsvc
  unfold IdempotencyService.checkOrStart
  refine Logic.wp_bind h.utcNow (fun now sh l h => ?_) (fun _ _ _ hf => hf.elim)
  refine Logic.wp_bind (At.getByKey c.key h) (fun r sh l h => ?_) (fun _ _ _ hb => Or.inr ⟨Or.inl hb.1, hb.2⟩)
  obtain ⟨hv, t, h⟩ := h
  cases r with
  | none =>
      refine Logic.wp_bind (At.createProcessing h fun init db hp => hp.2) (fun rec sh l h => ?_)
        (fun _ _ _ hb => Or.inr ⟨Or.inr (hv rfl), hb⟩)
      exact Logic.wp_pure fun sh' hr => Or.inl ⟨rfl, hv rfl, rec, t, h.stable hr⟩
  | some r =>
      refine Logic.wp_lift.mpr fun sh' hr => ?_
      have h' := h.stable hr
      cases hd : IdempotencyService.decide r (generateRequestHash svc.sha256 c.request.modelDump) with
      | ok idem => exact Or.inr ⟨r, t, _, hd, fun init db hp => hp.2, h'⟩
      | error x =>
          obtain ⟨hne, rfl⟩ := decide_error hd
          refine Or.inl (h'.rejected fun init db hp => ?_)
          obtain ⟨hk, _, hf⟩ := hp.2
          rw [hk]
          exact .conflict hk hf hne

/-! ## The response cache -/

theorem At.cacheGet {τ : Option Time} (key : String) (h : At opts c F n W al el act τ P sh l) :
    (logic st opts).wp (Py.cacheGet key)
      (Outcome (fun r sh l => At opts c F n W al el act τ P sh l ∧ ∀ resp ∈ r, ∃ e, l.cacheHit = some e ∧
          e.response = resp ∧ (opts.dicts = true → BodyOk resp.responseBody))
        (fun _ _ _ => False)) sh l := by
  refine Logic.wp_call fun sh₁ hr => ⟨trivial, ?_⟩
  rintro r sh₂ l₂ ⟨fault, _, hx⟩ sh₃ hr'
  have h₁ := h.stable hr
  simp only [exec] at hx
  split at hx
  · simp only [Prod.mk.injEq] at hx
    obtain ⟨rfl, rfl, rfl⟩ := hx
    exact ⟨h₁.stable hr', by simp⟩
  · rename_i e he
    simp only [Prod.mk.injEq] at hx
    obtain ⟨rfl, rfl, rfl⟩ := hx
    have hmem : (key, e) ∈ sh₁.cache := by
      cases fault with
      | true => cases he
      | false =>
          obtain ⟨l₁, l₂, heq, _⟩ := List.lookup_eq_some_iff.mp he
          rw [heq]
          exact List.mem_append_right _ List.mem_cons_self
    refine ⟨At.stable { h₁ with guard := h₁.guard.anti ?_ } hr', ?_⟩
    · exact ⟨rfl, fun _ h => h, fun _ h => h, fun _ h => h, fun _ h => h, fun _ h => h, fun _ h => h,
        fun _ h => h, fun _ h => h⟩
    · intro resp hresp
      cases Option.mem_some.mp hresp
      exact ⟨e, rfl, rfl, fun hb => (h₁.kept.bodies hb).2 _ hmem⟩

/-- The record that a cache entry repeats is the call's own or the one it has read. -/
theorem At.cacheSet {site : Site} {key : String} {resp : CachedIdempotencyResponse}
    (h : At opts c F n W al el act (some t) P sh l)
    (hb : ∀ init db, P init db → opts.dicts = true → BodyOk resp.responseBody)
    (hkept : ∀ init db, P init db → opts.deletes = false → Repeats (W.apply db) c.key resp)
    (hempty : site ≠ .complete → W = {}) :
    (logic st opts).wp (Prog.call (Op.cacheSet site key resp))
      (Outcome (fun _ sh l => l.work = W ∧
          (∀ reply, (∀ init db, P init db → ∀ hit,
            Committed st opts c.wiring hit init db c.key c.request W reply) → Ready st opts c F n reply sh l) ∧
          ∀ x, (∀ init db, P init db → Rejection st opts c init db x) → Rejected st opts c F n x sh l)
        (fun _ _ _ => False)) sh l := by
  have hrepeats : ∀ sh₁, Rely opts l sh sh₁ → opts.deletes = false → site ≠ .complete → Repeats sh₁.db l.key resp := by
    intro sh₁ hr hd hsite
    have hown := hkept _ _ (h.lasting hr) hd
    rw [hempty hsite, Overlay.apply_empty] at hown
    rw [h.key]
    exact hown
  refine Logic.wp_call fun sh₁ hr => ⟨⟨(h.stable hr).fresh, h.wrote, hb _ _ (h.lasting hr), hrepeats sh₁ hr⟩, ?_⟩
  rintro r sh₂ l₂ ⟨fault, _, hx⟩ sh₃ hr'
  have h₁ := h.stable hr
  cases fault with
  | true =>
      simp only [exec, if_true, Prod.mk.injEq] at hx
      obtain ⟨rfl, rfl, rfl⟩ := hx
      exact ⟨h.work, fun reply hs => (h₁.stable hr').ready hs, fun x hs => (h₁.stable hr').rejected hs⟩
  | false =>
      simp only [exec, Bool.false_eq_true, if_false, Prod.mk.injEq] at hx
      obtain ⟨rfl, rfl, rfl⟩ := hx
      have hguard : Guarded opts { l with cacheWrote := some ⟨resp, l.tid, site⟩ } P := h.guard.anti
        ⟨rfl, fun _ h => h, fun _ h => h, fun _ h => h, fun _ h => h, fun _ h => h, fun _ h => h,
          fun _ h => h, fun _ h => h⟩
      have hkeep := h₁.kept.setCache key (e := ⟨resp, l.tid, site⟩) (hb _ _ h₁.facts)
      have hrun : Running opts c F n sh₃ { l with cacheWrote := some ⟨resp, l.tid, site⟩ } :=
        Running.stable { h₁.toRunning with kept := hkeep } hr'
      have hfacts : ∀ sh', Rely opts { l with cacheWrote := some ⟨resp, l.tid, site⟩ } sh₃ sh' → P sh'.init sh'.db :=
        fun sh' hr'' => hguard _ sh' (hr'.trans hr'') hkeep h₁.facts
      refine ⟨h.work, fun reply hs => ?_, fun x hs => { hrun with why := hs _ _ (hfacts sh₃ (Rely.refl _ _)) }⟩
      refine { hrun with ok := h.ok, covered := ?_, shape := fun sh' hr'' => ?_, cache := fun sh' hr'' => ?_ }
      · rw [h.work, h.accountLocks, h.eventLocks]
        exact h.covered
      · rw [h.work, h.wiring, h.key, h.request]
        exact hs _ _ (hfacts sh' hr'') _
      · intro e he
        cases he
        refine ⟨rfl, fun hd => ?_⟩
        rw [h.work, h.key]
        exact hkept _ _ (hfacts sh' hr'') hd

/-- A consulted record gives its answer. -/
theorem Consulted.checked {idem : IdempotencyCheckResult} (h : Consulted st opts c F n act P idem sh l) :
    Checked st opts c F n act P idem sh l := by
  rcases h with h | ⟨r, t, P, hd, hP, h⟩
  · exact Or.inl h
  · exact Or.inr ⟨(decide_ok hd).2.1, h.work, h.answered hP hd⟩

theorem CachedIdempotencyService.checkOrStartFromDb_wp {svc : Service} {τ : Option Time}
    (hsvc : svc.toSettings = st) (h : At opts c F n {} [] [] act τ P sh l) :
    (logic st opts).wp (CachedIdempotencyService.checkOrStartFromDb svc c.key c.request.modelDump)
      (Outcome (Checked st opts c F n act P) (CheckFailed st opts c F n P)) sh l := by
  unfold CachedIdempotencyService.checkOrStartFromDb
  refine Logic.wp_bind (IdempotencyService.checkOrStart_wp hsvc h) (fun idem sh l h => ?_) (fun _ _ _ hf => hf)
  by_cases hdec : idem.decision = .replayCompleted
  · rw [if_pos hdec]
    rcases h with ⟨hstart, _⟩ | ⟨r, t, P, hd, hP, h⟩
    · rw [hstart] at hdec; cases hdec
    · obtain ⟨hh, hns, hreplay, hcomp, hbody⟩ := decide_ok hd
      have hbody := hbody (by rw [hdec]; decide)
      refine Logic.wp_bind (h.cacheSet ?_ ?_ fun _ => rfl) (fun _ sh l h => ?_) (fun _ _ _ hf => hf.elim)
      · intro init db hp
        rw [hbody]
        exact (hP init db hp).2.1
      · intro init db hp hdel
        refine ⟨r, ?_, (hcomp hdec).1, ?_, hbody.symm, by rw [(hcomp hdec).2]⟩
        · rw [Overlay.apply_empty]
          exact (hP init db hp).2.2 hdel
        · subst hsvc
          exact hh
      · refine Logic.wp_pure fun sh' hr => Or.inr ⟨hns, h.1, ?_⟩
        cases ha : answer idem with
        | ok reply =>
            refine (h.2.1 reply fun init db hp hit => ?_).stable hr
            exact .replay (hP init db hp).2.2 hh (hreplay reply ha)
        | error x =>
            obtain ⟨⟨m, rfl⟩, hb, _⟩ := answer_error ha
            refine (h.2.2 _ fun init db hp => .body (Bool.eq_false_iff.mpr fun hok => hb ?_)).stable hr
            rw [hbody]
            exact (hP init db hp).2.1 hok
  · rw [if_neg hdec]
    refine Logic.wp_pure fun sh' hr => ?_
    rcases h.checked with ⟨hs, hv, rec, t, h⟩ | ⟨hs, hW, h⟩
    · exact Or.inl ⟨hs, hv, rec, t, h.stable hr⟩
    · refine Or.inr ⟨hs, hW, ?_⟩
      cases ha : answer idem with
      | ok reply => rw [ha] at h; exact Ready.stable h hr
      | error x => rw [ha] at h; exact Rejected.stable h hr

theorem CachedIdempotencyService.checkOrStart_wp {svc : Service} {τ : Option Time}
    (hsvc : svc.toSettings = st) (hw : svc.toWiring = c.wiring) (hc : svc.responseCache = true)
    (h : At opts c F n {} [] [] act τ P sh l) :
    (logic st opts).wp (CachedIdempotencyService.checkOrStart svc c.key c.request.modelDump)
      (Outcome (Checked st opts c F n act P) (CheckFailed st opts c F n P)) sh l := by
  unfold CachedIdempotencyService.checkOrStart
  refine Logic.wp_bind (h.cacheGet _) (fun r sh l h => ?_) (fun _ _ _ hf => hf.elim)
  obtain ⟨h, hhit⟩ := h
  cases r with
  | none => exact CachedIdempotencyService.checkOrStartFromDb_wp hsvc h
  | some resp =>
      obtain ⟨e, hl, rfl, hb⟩ := hhit resp rfl
      dsimp only
      by_cases hh : e.response.requestHash = generateRequestHash svc.sha256 c.request.modelDump
      · rw [if_pos hh]
        refine Logic.wp_pure fun sh' hr => Or.inr ⟨by simp, h.work, ?_⟩
        have h' := h.stable hr
        cases ha : replayResult (some e.response.responseCode) e.response.responseBody 200 with
        | ok reply =>
            have hshape : ∀ sh'' : Shared, Committed st opts l.wiring l.cacheHit sh''.init sh''.db l.key l.request l.work
                reply := by
              intro sh''
              rw [h.work, hl]
              refine .cached ?_ rfl ?_ ha
              · rw [h.wiring, ← hw]; exact hc
              · subst hsvc; rw [h.request]; exact hh
            simp only [answer, ha]
            exact
              { h'.toRunning with
                ok := h'.ok
                covered := by rw [h'.work, h'.accountLocks, h'.eventLocks]; exact h'.covered
                shape := fun sh'' _ => hshape sh''
                cache := fun _ _ e he => by rw [h'.wrote] at he; cases he }
        | error x =>
            obtain ⟨⟨m, rfl⟩, hbad⟩ := replayResult_error ha
            simp only [answer, ha]
            exact { h'.toRunning with why := .body (Bool.eq_false_iff.mpr fun hok => hbad (hb hok)) }
      · rw [if_neg hh]
        exact CachedIdempotencyService.checkOrStartFromDb_wp hsvc h

theorem checkOrStart_wp {svc : Service} {τ : Option Time} (hsvc : svc.toSettings = st)
    (hw : svc.toWiring = c.wiring) (h : At opts c F n {} [] [] act τ P sh l) :
    (logic st opts).wp (svc.checkOrStart c.key c.request.modelDump)
      (Outcome (Checked st opts c F n act P) (CheckFailed st opts c F n P)) sh l := by
  unfold Service.checkOrStart
  by_cases hc : svc.responseCache = true
  · rw [if_pos hc]
    exact CachedIdempotencyService.checkOrStart_wp hsvc hw hc h
  · rw [if_neg hc]
    refine Logic.wp_mono (IdempotencyService.checkOrStart_wp hsvc h) fun r sh l h => ?_
    cases r with
    | ok idem => exact Consulted.checked h
    | error x => exact h

/-! ## Closing the record -/

theorem Opened.completionMatches {svc : Service} {db : Db} (h : Opened svc.toSettings db c.key c.request rec) :
    IdempotencyService.ensureCompletionMatchesRequest svc rec (some c.request.modelDump) none = .ok () := by
  simp [IdempotencyService.ensureCompletionMatchesRequest, IdempotencyService.ensureSameRequestHash, h.hash_eq,
    requestHash]

/-- Closing an open record: the record is read back, passes the checks, and is updated. -/
theorem closeProcessing_wp (svc : Service) (site : Site) (attempted : IdempotencyStatus)
    (mark : IdempotencyRecord → Time → Py IdempotencyRecord) (close : Time → IdempotencyRecord)
    (hmark : ∀ t', mark rec t' = Py.sql site (.updateRecord (close t')))
    (hclose : ∀ t', (close t').id = rec.id ∧ (close t').idempotencyKey = rec.idempotencyKey)
    (hatt : attempted ≠ .processing) (hsvc : svc.toSettings = st)
    (h : At opts c F n W al el act (some t) P sh l) (hW : W.records = ⟨[], [rec]⟩)
    (ho : ∀ init db, P init db → Opened st db c.key c.request rec) :
    (logic st opts).wp
      (IdempotencyService.closeProcessing svc site c.key (some c.request.modelDump) none attempted mark)
      (Outcome (fun _ sh l => ∃ t', At opts c F n { W with records := ⟨[], [close t']⟩ } al el act (some t) P sh l)
        (Broken opts c F n site)) sh l := by
  subst hsvc
  have hopen := ho _ _ h.facts
  unfold IdempotencyService.closeProcessing
  refine Logic.wp_bind (h.getOwnRecord hW ho) (fun r sh l h => ?_) (fun _ _ _ hb => hb)
  obtain ⟨rfl, h⟩ := h
  rw [hopen.completionMatches]
  refine Logic.wp_bind (P := Outcome (fun _ => At opts c F n W al el act (some t) P) (fun _ _ _ => False))
    (Logic.wp_lift.mpr fun sh' hr => h.stable hr) (fun _ sh l h => ?_) (fun _ _ _ hf => hf.elim)
  have hnoop : IdempotencyService.isTerminalNoop r attempted = false := by
    simpa [IdempotencyService.isTerminalNoop, hopen.status_eq] using hatt.symm
  have hcan : IdempotencyService.ensureCanCloseProcessing r attempted = .ok () := by
    simp [IdempotencyService.ensureCanCloseProcessing, hopen.status_eq]
  rw [if_neg (by simp [hnoop]), hcan]
  refine Logic.wp_bind (P := Outcome (fun _ => At opts c F n W al el act (some t) P) (fun _ _ _ => False))
    (Logic.wp_lift.mpr fun sh' hr => h.stable hr) (fun _ sh l h => ?_) (fun _ _ _ hf => hf.elim)
  refine Logic.wp_bind h.utcNow (fun now sh l h => ?_) (fun _ _ _ hf => hf.elim)
  rw [hmark now]
  refine Logic.wp_mono (h.updateRecord hW (hclose now).1 (hclose now).2) fun r sh l h => ?_
  cases r with
  | ok r => exact ⟨now, h.2⟩
  | error x => exact h

/-- A success answer, stored and perhaps cached. -/
theorem complete_wp {svc : Service} (hsvc : svc.toSettings = st) (hcode : reply.statusCode = 200)
    (h : Prepared st opts c F n rec (completedRecord rec reply) reply W al el act t P sh l) :
    (logic st opts).wp (svc.complete c.key reply.statusCode (.obj reply.body) c.request.modelDump)
      (Outcome (fun _ => Ready st opts c F n reply) (Broken opts c F n .complete)) sh l := by
  have hclose := closeProcessing_wp svc .complete .completed
    (fun record completedAt => IdempotencyRecordRepository.markCompleted .complete record
      reply.statusCode (some (.obj reply.body)) completedAt)
    (completedRecord rec reply) (fun _ => rfl) (fun _ => ⟨rfl, rfl⟩) (by decide) hsvc h.at_ h.record h.opened
  unfold Service.complete
  by_cases hc : svc.responseCache = true
  · rw [if_pos hc]
    refine Logic.wp_bind hclose (fun _ sh l h' => ?_) (fun _ _ _ hb => hb)
    obtain ⟨t', h'⟩ := h'
    refine Logic.wp_bind (h'.cacheSet (fun _ _ _ _ => ⟨_, rfl⟩) (fun init db hp _ => ?_) (absurd rfl)) (fun _ sh l h' => ?_)
      (fun _ _ _ hf => hf.elim)
    · have hopen := h.opened init db hp
      have habs : db.records.find? (fun r => r.idempotencyKey == c.key) = none := hopen.absent
      refine ⟨completedRecord rec reply t', ?_, rfl, ?_, rfl, ?_⟩
      · simp [Overlay.apply, Db.recordByKey, List.find?_append, habs, completedRecord, hopen.key_eq]
      · subst hsvc
        exact hopen.hash_eq
      · simp [completedRecord, codeOr, hcode]
    · exact Logic.wp_pure fun sh' hr => (h'.2.1 reply fun init db hp hit => h.shape init db hp hit t').stable hr
  · rw [if_neg hc]
    refine Logic.wp_mono hclose fun r sh l h' => ?_
    cases r with
    | error x => exact h'
    | ok r =>
        obtain ⟨t', h'⟩ := h'
        exact h'.ready fun init db hp hit => h.shape init db hp hit t'

/-- `fail` closes the open record. -/
theorem At.fail {svc : Service} (x : Exc) (hsvc : svc.toSettings = st)
    (h : At opts c F n W al el act (some t) P sh l) (hW : W.records = ⟨[], [rec]⟩)
    (ho : ∀ init db, P init db → Opened st db c.key c.request rec) :
    (logic st opts).wp
      (svc.fail c.key (statusCodeForException x) (.obj (errorBody x)) x.message c.request.modelDump)
      (Outcome (fun _ sh l => ∃ t', At opts c F n { W with records := ⟨[], [failedRecord rec x t']⟩ } al el act (some t)
          P sh l)
        (Broken opts c F n .fail)) sh l :=
  closeProcessing_wp svc .fail .failed
    (fun record failedAt => IdempotencyRecordRepository.markFailed .fail record failedAt
      (some (statusCodeForException x)) (some (.obj (errorBody x))) (some x.message))
    (failedRecord rec x) (fun _ => rfl) (fun _ => ⟨rfl, rfl⟩) (by decide) hsvc h hW ho

/-- A failure answer, stored. -/
theorem fail_wp {svc : Service} {x : Exc} (hsvc : svc.toSettings = st)
    (h : Prepared st opts c F n rec (failedRecord rec x) reply W al el act t P sh l) :
    (logic st opts).wp
      (svc.fail c.key (statusCodeForException x) (.obj (errorBody x)) x.message c.request.modelDump)
      (Outcome (fun _ => Ready st opts c F n reply) (Broken opts c F n .fail)) sh l := by
  refine Logic.wp_mono (h.at_.fail x hsvc h.record h.opened) fun r sh l h' => ?_
  cases r with
  | error x => exact h'
  | ok r =>
      obtain ⟨t', h'⟩ := h'
      exact h'.ready fun init db hp hit => h.shape init db hp hit t'

/-- On a failed session `fail` raises `PendingRollbackError`. -/
theorem Broken.fail_wp {svc : Service} {x y : Exc} (h : Broken opts c F n site y sh l) :
    (logic st opts).wp
      (svc.fail c.key (statusCodeForException x) (.obj (errorBody x)) x.message c.request.modelDump)
      (Outcome (fun _ _ _ => False) (fun z sh l => z = .pendingRollbackError ∧ Broken opts c F n site y sh l))
      sh l := by
  unfold Service.fail IdempotencyService.fail IdempotencyService.closeProcessing
  refine Logic.wp_bind (P := Outcome (fun _ _ _ => False)
    (fun z sh l => z = .pendingRollbackError ∧ Broken opts c F n site y sh l)) ?_ (fun _ _ _ hf => hf.elim)
    (fun _ _ _ h => h)
  exact Logic.wp_bind (P := Outcome (fun _ _ _ => False)
    (fun z sh l => z = .pendingRollbackError ∧ Broken opts c F n site y sh l))
    (h.wp_sql fun sh' l' hb => ⟨rfl, hb⟩) (fun _ _ _ hf => hf.elim) (fun _ _ _ h => h)

/-- A call whose query was not answered goes through `fail`, which closes its record, and raises what it had to. -/
theorem Withheld.fail_wp {svc : Service} {x : Exc} (hsvc : svc.toSettings = st)
    (h : At opts c F n W al el act (some t) P sh l) (hW : W.records = ⟨[], [rec]⟩)
    (ho : ∀ init db, P init db → Opened st db c.key c.request rec) (hx : ∃ message, x = .valueError message)
    (htext : ∀ init db, P init db → opts.quiet = true → Unanswerable opts c db) :
    (logic st opts).wp
      (svc.fail c.key (statusCodeForException x) (.obj (errorBody x)) x.message c.request.modelDump)
      (Outcome (fun _ => Withheld opts c F n x) (Broken opts c F n .fail)) sh l := by
  refine Logic.wp_mono (h.fail x hsvc hW ho) fun r sh l h' => ?_
  cases r with
  | error y => exact h'
  | ok r =>
      obtain ⟨t', h'⟩ := h'
      exact { h'.toRunning with why := ⟨hx, htext _ _ h'.facts⟩ }

end Idempotency

end EventConsistency
