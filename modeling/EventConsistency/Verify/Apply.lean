import EventConsistency.Verify.Idempotency

/-!
# `_apply_started_request` keeps its part

* `Applying` : the call between `create_received` and the ledger, knowing its account, original and event;
* `Interrupted` : the event is PROCESSING and the ledger refuses it;
* `Unread` : psycopg2 has not answered a query of the call;
* **`applyStartedRequest_wp`** : a started call ends prepared to store its success, prepared to store a refusal,
  interrupted, broken, or at a query that is not answered.
-/

namespace EventConsistency

open Lib TransactionEventService

section Apply

variable {st : Settings} {opts : Opts} {c l : Session} {F : List (Site × Exc)} {n : Nat} {sh sh' : Shared}
  {W : Overlay} {al el : List Nat} {act : Option TransactionEvent} {t : Time} {P : Fact} {site : Site}
  {reply : TransactionProcessingResult} {rec : IdempotencyRecord} {a : Account}
  {orig : Option TransactionEvent} {ev : TransactionEvent} {x : Exc}

/-- The account, the original and the event of a call that is being applied. -/
structure Applying (st : Settings) (opts : Opts) (c : Session) (rec : IdempotencyRecord) (a : Account)
    (orig : Option TransactionEvent) (ev : TransactionEvent) (t : Time) (init db : Db) : Prop where
  opened : Opened st db c.key c.request rec
  located : Located opts c.wiring db c.request a
  original : Original db c.request orig
  created : Created db c.key c.request a ev t

/-- Prepared to store the failure `x` without an event. -/
def Refused (st : Settings) (opts : Opts) (c : Session) (F : List (Site × Exc)) (n : Nat)
    (rec : IdempotencyRecord) (x : Exc) (sh : Shared) (l : Session) : Prop :=
  isDomainFailure x = true ∧ ∃ al el t P,
    Prepared st opts c F n rec (failedRecord rec x) (failureResult x) (refusedWork rec) al el none t P sh l

/-- The event of the call is PROCESSING, and the ledger has refused it with `x`. -/
def Interrupted (st : Settings) (opts : Opts) (c : Session) (F : List (Site × Exc)) (n : Nat)
    (rec : IdempotencyRecord) (x : Exc) (sh : Shared) (l : Session) : Prop :=
  isDomainFailure x = true ∧ ∃ a orig ev i₁ i₂ al el t P,
    (∀ init db, P init db → Applying st opts c rec a orig ev t init db) ∧
    LedgerService.ledgerAmount a ev orig = .error x ∧
    At opts c F n (eventWork rec (withStatus ev .processing t) [validatedRow i₁ ev t, processingRow i₂ ev t]) al el
      (some (withStatus ev .processing t)) (some t) P sh l

/-- Prepared to store the success `reply`. -/
def Succeeded (st : Settings) (opts : Opts) (c : Session) (F : List (Site × Exc)) (n : Nat)
    (rec : IdempotencyRecord) (reply : TransactionProcessingResult) (sh : Shared) (l : Session) : Prop :=
  reply.statusCode = 200 ∧ ∃ W al el act t P,
    Prepared st opts c F n rec (completedRecord rec reply) reply W al el act t P sh l

/-- psycopg2 has not answered a query of the call; its record is still open. -/
def Unread (st : Settings) (opts : Opts) (c : Session) (F : List (Site × Exc)) (n : Nat)
    (rec : IdempotencyRecord) (x : Exc) (sh : Shared) (l : Session) : Prop :=
  (∃ message, x = .valueError message) ∧ ∃ al el t P, At opts c F n (refusedWork rec) al el none (some t) P sh l ∧
    (∀ init db, P init db → Opened st db c.key c.request rec) ∧
    ∀ init db, P init db → opts.quiet = true → Unanswerable opts c db

/-- What can go wrong in `_apply_started_request`. -/
def ApplyFailed (st : Settings) (opts : Opts) (c : Session) (F : List (Site × Exc)) (n : Nat)
    (rec : IdempotencyRecord) (x : Exc) (sh : Shared) (l : Session) : Prop :=
  Refused st opts c F n rec x sh l ∨ Interrupted st opts c F n rec x sh l ∨
    Broken opts c F n .applyStartedRequest x sh l ∨ Unread st opts c F n rec x sh l

/-! ## The ledger -/

theorem validateCancelOriginal_error {e o : TransactionEvent}
    (h : LedgerService.validateCancelOriginal e o = .error x) : isDomainFailure x = true := by
  unfold LedgerService.validateCancelOriginal at h
  repeat' split at h
  all_goals cases h <;> rfl

theorem calculateLedgerAmount_error {type : EventType} {amount : Int} {original : Option EventType}
    (h : calculateLedgerAmount type amount original = .error x) : isDomainFailure x = true := by
  unfold calculateLedgerAmount at h
  repeat' split at h
  all_goals cases h <;> rfl

theorem ledgerAmount_error (h : LedgerService.ledgerAmount a ev orig = .error x) : isDomainFailure x = true := by
  unfold LedgerService.ledgerAmount at h
  split at h
  · rename_i y ho
    cases h
    unfold LedgerService.originalEventType at ho
    repeat' split at ho
    · cases ho; rfl
    · rename_i hv
      cases ho
      exact validateCancelOriginal_error hv
    · cases ho
    · cases ho
  · split at h
    · rename_i hc
      cases h
      exact calculateLedgerAmount_error hc
    · dsimp only at h
      split at h
      · cases h; rfl
      · cases h

/-- An original that the ledger accepts is a COMPLETED event of the same account. -/
theorem validateCancelOriginal_ok {e o : TransactionEvent} (h : LedgerService.validateCancelOriginal e o = .ok ()) :
    (o.eventType = .deposit ∨ o.eventType = .withdraw) ∧ o.status = .completed ∧ o.accountId = e.accountId ∧
      o.amount = e.amount ∧ o.currency = e.currency := by
  unfold LedgerService.validateCancelOriginal at h
  repeat' split at h
  all_goals try cases h
  rename_i h1 _ _ h4 h5 h6 h7
  refine ⟨?_, not_not.mp h4, not_not.mp h5, not_not.mp h6, not_not.mp h7⟩
  by_cases hd : o.eventType = .deposit
  · exact Or.inl hd
  · exact Or.inr (not_not.mp fun hw => h1 ⟨hd, hw⟩)

/-- A CANCEL that the ledger accepts has a valid original. -/
theorem ledgerAmount_cancel {o : TransactionEvent} {v : Int × Int}
    (h : LedgerService.ledgerAmount a ev (some o) = .ok v) (hc : ev.eventType = .cancel) :
    (o.eventType = .deposit ∨ o.eventType = .withdraw) ∧ o.status = .completed ∧ o.accountId = ev.accountId ∧
      o.amount = ev.amount ∧ o.currency = ev.currency := by
  apply validateCancelOriginal_ok
  cases hv : LedgerService.validateCancelOriginal ev o with
  | ok u => rfl
  | error x => simp [LedgerService.ledgerAmount, LedgerService.originalEventType, hc, hv] at h

/-- A call knows that its inserted rows are new. -/
theorem At.knowFresh {τ : Option Time} (h : At opts c F n W al el act τ P sh l) :
    At opts c F n W al el act τ
      (P.and fun _ db => NewHistories db W.histories.inserted ∧ ∀ r ∈ W.ledger.inserted, NewLedger db r) sh l := by
  refine h.learn ⟨h.histories, h.ledger⟩ ?_
  rintro sh₁ sh₂ hr _ ⟨hh, hl⟩
  have hc := h.covered
  rw [← h.work, ← h.accountLocks, ← h.eventLocks] at hc
  rw [← h.work] at hh hl ⊢
  exact ⟨hh.stable hr (fun _ hn => List.mem_map_of_mem hn) hc.histories,
    fun r hmem => (hl r hmem).stable hr (List.mem_map_of_mem hmem) (hc.ledger r hmem).1⟩

/-- What a call that applies its event may do wrong: the ledger refuses, or a statement is refused. -/
def RunFailed (st : Settings) (opts : Opts) (c : Session) (F : List (Site × Exc)) (n : Nat)
    (rec : IdempotencyRecord) (x : Exc) (sh : Shared) (l : Session) : Prop :=
  Interrupted st opts c F n rec x sh l ∨ Broken opts c F n .applyStartedRequest x sh l

/-- The ledger and the balance are written. -/
theorem applyEvent_wp {i₁ i₂ : Nat}
    (h : At opts c F n (eventWork rec (withStatus ev .processing t) [validatedRow i₁ ev t, processingRow i₂ ev t])
      al el (some (withStatus ev .processing t)) (some t) P sh l)
    (hP : ∀ init db, P init db → Applying st opts c rec a orig ev t init db) (ha : a.id ∈ al) :
    (logic st opts).wp (LedgerService.applyEvent a (withStatus ev .processing t) orig)
      (Outcome (fun r sh l => ∃ i amount newBalance, LedgerService.ledgerAmount a ev orig = .ok (amount, newBalance) ∧
          r = ledgerRow i ev a amount newBalance t ∧
          At opts c F n (appliedWork rec (withStatus ev .processing t) []
              [validatedRow i₁ ev t, processingRow i₂ ev t] { a with balance := newBalance } r) al el
            (some (withStatus ev .processing t)) (some t) P sh l)
        (RunFailed st opts c F n rec)) sh l := by
  unfold LedgerService.applyEvent
  have hsame : LedgerService.ledgerAmount a (withStatus ev .processing t) orig =
      LedgerService.ledgerAmount a ev orig := rfl
  rw [hsame]
  cases hx : LedgerService.ledgerAmount a ev orig with
  | error x =>
      exact fun sh' hr => Or.inl ⟨ledgerAmount_error hx, a, orig, ev, i₁, i₂, al, el, t, P, hP, hx, h.stable hr⟩
  | ok v =>
      obtain ⟨amount, newBalance⟩ := v
      refine Logic.wp_bind (P := Outcome (fun v sh l => v = (amount, newBalance) ∧ At opts c F n
        (eventWork rec (withStatus ev .processing t) [validatedRow i₁ ev t, processingRow i₂ ev t])
        al el (some (withStatus ev .processing t)) (some t) P sh l) (fun _ _ _ => False))
        (Logic.wp_lift.mpr fun sh' hr => ⟨rfl, h.stable hr⟩) ?_ (fun _ _ _ hf => hf.elim)
      rintro _ sh l ⟨rfl, h⟩
      refine Logic.wp_bind (h.createLedger (withStatus ev .processing t) rfl List.mem_cons_self ha ?_ ?_)
        (fun r sh l h => ?_) (fun _ _ _ hb => Or.inr hb)
      · exact fun init db hp => (hP init db hp).created.noLedger
      · intro hfit init db hp _
        have happ := hP init db hp
        refine ⟨happ.opened.absent, happ.created.absent, a, orig, happ.located, happ.original,
          Or.inr ⟨ev.id, t, amount, newBalance, ?_, hfit⟩⟩
        rw [← happ.created.row]
        exact hx
      · obtain ⟨i, rfl, h⟩ := h
        have hfit := (h.ledger _ List.mem_cons_self).fits.2
        refine Logic.wp_bind (h.updateBalance rfl ha hfit) (fun _ sh l h => ?_) (fun _ _ _ hb => Or.inr hb)
        exact Logic.wp_pure fun sh' hr => ⟨i, amount, newBalance, rfl, rfl, h.stable hr⟩

/-- The completion of an applied event makes the call ready to store its success. -/
theorem complete_applied (i i₁ i₂ i₃ : Nat) {amount newBalance : Int}
    (hx : LedgerService.ledgerAmount a ev orig = .ok (amount, newBalance))
    (hP : ∀ init db, P init db → Applying st opts c rec a orig ev t init db)
    (h : At opts c F n (appliedWork rec (withStatus ev .processing t) (cancelledRows orig t)
        ([validatedRow i₁ ev t, processingRow i₂ ev t] ++ orig.toList.map fun o => cancelledRow i₃ o t)
        { a with balance := newBalance } (ledgerRow i ev a amount newBalance t)) al el
      (some (withStatus ev .processing t)) (some t) P sh l) :
    (logic st opts).wp
      (do
        let event ← TransactionStateService.changeStatus .applyStartedRequest (withStatus ev .processing t) .completed
          (some "ledger processing completed")
        pure (successResult event (ledgerRow i ev a amount newBalance t) true false))
      (Outcome (Succeeded st opts c F n rec) (RunFailed st opts c F n rec)) sh l := by
  refine Logic.wp_bind (h.changeOwn rfl rfl) ?_ (fun _ _ _ hb => Or.inr hb)
  rintro _ sh l ⟨rfl, i₄, h⟩
  refine Logic.wp_pure fun sh' hr => ⟨rfl, _, al, el, _, t, _, (h.stable hr).knowFresh, rfl, ?_, ?_⟩
  · exact fun init db hp => (hP init db hp.1).opened
  · intro init db hp hit t'
    have happ := hP init db hp.1
    change Committed st opts c.wiring hit init db c.key c.request
      (appliedWork (completedRecord rec
          (successResult (withStatus ev .completed t) (ledgerRow i ev a amount newBalance t) true false) t')
        (withStatus ev .completed t) (cancelledRows orig t) (appliedHistories ev orig i₁ i₂ i₃ i₄ t)
        { a with balance := newBalance } (ledgerRow i ev a amount newBalance t))
      (successResult (withStatus ev .completed t) (ledgerRow i ev a amount newBalance t) true false)
    exact .applied happ.opened happ.located happ.original happ.created hx hp.2.1 (hp.2.2 _ List.mem_cons_self)

theorem runEvent_wp (h : At opts c F n (eventWork rec ev []) al el (some ev) (some t) P sh l)
    (hP : ∀ init db, P init db → Applying st opts c rec a orig ev t init db) (ha : a.id ∈ al)
    (ho : ∀ o ∈ orig, o.id ∈ el) :
    (logic st opts).wp (runEvent a ev orig)
      (Outcome (Succeeded st opts c F n rec) (RunFailed st opts c F n rec)) sh l := by
  have hst : ev.status = .received := by rw [(hP _ _ h.facts).created.row]; rfl
  unfold runEvent
  refine Logic.wp_bind (h.changeOwn rfl (by rw [hst]; rfl)) ?_ (fun _ _ _ hb => Or.inr hb)
  rintro _ sh l ⟨rfl, i₁, h⟩
  have hrow : (eventWork rec ev []).ownStatus ev .validated "basic validation succeeded" i₁ t =
      eventWork rec (withStatus ev .validated t) [validatedRow i₁ ev t] := by
    simp only [Overlay.ownStatus, hst]
    rfl
  rw [hrow] at h
  refine Logic.wp_bind (h.changeOwn rfl rfl) ?_ (fun _ _ _ hb => Or.inr hb)
  rintro _ sh l ⟨rfl, i₂, h⟩
  have h : At opts c F n
      (eventWork rec (withStatus ev .processing t) [validatedRow i₁ ev t, processingRow i₂ ev t]) al el
      (some (withStatus ev .processing t)) (some t) P sh l := h
  simp only [withStatus_withStatus]
  refine Logic.wp_bind (applyEvent_wp h hP ha) ?_ (fun _ _ _ hb => hb)
  rintro _ sh l ⟨i, amount, newBalance, hx, rfl, h⟩
  have happ := hP _ _ h.facts
  have hrow := happ.created.row
  have horig := happ.original
  cases horig with
  | none _ =>
      have hlast := complete_applied i i₁ i₂ 0 hx hP h
      cases hty : (withStatus ev .processing t).eventType <;> exact hlast
  | @some y o hc _ hf =>
      have hty : (withStatus ev .processing t).eventType = .cancel := by rw [hrow]; exact hc
      have hne : ev.id ≠ o.id := fun he => happ.created.fresh o (event_mem hf) he.symm
      have hval := ledgerAmount_cancel hx (by rw [hrow]; exact hc)
      have hacc : o.accountId ∈ al := by
        rw [hval.2.2.1, hrow]
        exact ha
      rw [hty]
      refine Logic.wp_bind (h.changeOriginal ?_ ?_ (ho o rfl) hacc ?_) ?_ (fun _ _ _ hb => Or.inr hb)
      · simpa [appliedWork, withStatus] using hne
      · simpa [withStatus] using hne
      · rw [hval.2.1]; rfl
      · rintro _ sh l ⟨i₃, h⟩
        have hsame : (appliedWork rec (withStatus ev .processing t) [] [validatedRow i₁ ev t, processingRow i₂ ev t]
              { a with balance := newBalance } (ledgerRow i ev a amount newBalance t)).otherStatus o .cancelled
              "cancel event completed" i₃ t =
            appliedWork rec (withStatus ev .processing t) (cancelledRows (some o) t)
              ([validatedRow i₁ ev t, processingRow i₂ ev t] ++ (some o).toList.map fun o => cancelledRow i₃ o t)
              { a with balance := newBalance } (ledgerRow i ev a amount newBalance t) := by
          simp only [Overlay.otherStatus, hval.2.1]
          rfl
        rw [hsame] at h
        exact complete_applied i i₁ i₂ i₃ hx hP h

/-! ## The whole of it -/

/-- A call that has its account knows that its record is open and where the account is. -/
structure Placed (st : Settings) (opts : Opts) (c : Session) (rec : IdempotencyRecord) (a : Account)
    (db : Db) : Prop where
  opened : Opened st db c.key c.request rec
  located : Located opts c.wiring db c.request a

theorem At.refused (h : At opts c F n (refusedWork rec) al el none (some t) P sh l) (hx : isDomainFailure x = true)
    (ho : ∀ init db, P init db → Opened st db c.key c.request rec)
    (hr : ∀ init db, P init db → Refusal opts c.wiring init db c.request x) :
    Refused st opts c F n rec x sh l :=
  ⟨hx, al, el, t, P, h, rfl, ho, fun init db hp _ _ => .refused (ho init db hp) (hr init db hp)⟩

/-- A failed query of a call that has only opened its record. -/
theorem QueryFailed.apply {why : Db → Prop}
    (h : QueryFailed opts c F n (refusedWork rec) none (some t) P .applyStartedRequest why x sh l)
    (ho : ∀ init db, P init db → Opened st db c.key c.request rec)
    (hwhy : ∀ init db, P init db → why db → opts.quiet = true → Unanswerable opts c db) :
    ApplyFailed st opts c F n rec x sh l := by
  rcases h with hb | ⟨hx, al, el, P', h, hp⟩
  · exact Or.inr (Or.inr (Or.inl hb))
  · refine Or.inr (Or.inr (Or.inr ⟨hx, al, el, t, P', h, fun init db hp' => ho init db (hp init db hp').1, ?_⟩))
    exact fun init db hp' => hwhy init db (hp init db hp').1 (hp init db hp').2

theorem checkQuarantine_wp {svc : Service} (hw : svc.toWiring = c.wiring)
    (h : At opts c F n (refusedWork rec) [a.id] [] none (some t)
      (Fact.and (fun _ db => Opened st db c.key c.request rec) (AccountRead c.request.accountNo (some a))) sh l) :
    (logic st opts).wp (checkQuarantine svc a)
      (Outcome (fun _ => At opts c F n (refusedWork rec) [a.id] [] none (some t)
          (fun _ db => Placed st opts c rec a db))
        (ApplyFailed st opts c F n rec)) sh l := by
  have hguard : ∀ {l : Session}, l.work = refusedWork rec → l.accountLocks = [a.id] →
      Guarded opts l (fun _ db => Placed st opts c rec a db) := by
    intro l hW hal sh sh' hr _ hp
    refine ⟨hp.opened.stable hr ?_ ?_, hp.located.stable hr (by simp [hal])⟩
    · simp [Session.keys, hW, refusedWork, hp.opened.key_eq]
    · simp [Session.recordIds, hW, refusedWork]
  unfold checkQuarantine
  by_cases hq : svc.quarantineService = true
  · rw [if_pos hq]
    refine Logic.wp_bind (h.getActive _ _) (fun q sh l h => ?_) (fun _ _ _ hb => Or.inr (Or.inr (Or.inl hb)))
    obtain ⟨⟨ho, ha, hs⟩, hr⟩ := h.facts
    cases q with
    | none =>
        refine Logic.wp_pure fun sh' hrel => ?_
        exact (h.know ⟨ho, ⟨ha, fun hf _ => hr hf, hs⟩⟩ (hguard h.work h.accountLocks)).stable hrel
    | some q =>
        refine Logic.wp_throw fun sh' hrel => Or.inl ((h.stable hrel).refused rfl (fun _ _ hp => hp.1.1) ?_)
        exact fun init db hp => .quarantined hp.1.2.1 (by rw [← hw]; exact hq) hp.2 hp.1.2.2
  · rw [if_neg hq]
    refine Logic.wp_pure fun sh' hrel => ?_
    obtain ⟨ho, ha, hs⟩ := h.facts
    refine (h.know ⟨ho, ⟨ha, fun _ hw' => ?_, hs⟩⟩ (hguard h.work h.accountLocks)).stable hrel
    rw [← hw] at hw'
    exact absurd hw' hq

theorem ensureDuplicate_error {e : TransactionEvent} {r : TransactionEventCreateRequest} {i : Nat}
    (h : ensureDuplicateMatchesRequest e r i = .error x) : isDomainFailure x = true := by
  unfold ensureDuplicateMatchesRequest at h
  repeat' split at h
  all_goals cases h <;> rfl

theorem ensureDuplicate_account {e : TransactionEvent} {r : TransactionEventCreateRequest} {i : Nat}
    (h : ensureDuplicateMatchesRequest e r i = .ok ()) : e.accountId = i := by
  unfold ensureDuplicateMatchesRequest at h
  split at h
  · cases h
  · rename_i hne
    exact not_not.mp hne

/-- A known event: the request repeats it, or is refused. -/
theorem duplicate_wp {e : TransactionEvent}
    (h : At opts c F n (refusedWork rec) [a.id] [] none (some t)
      (Fact.and (fun _ db => Placed st opts c rec a db)
        (EventRead opts [a.id] c.request.externalEventId (some e))) sh l)
    (hread : e.occurredAt.readable = true) :
    (logic st opts).wp
      (do
        Prog.lift (ensureDuplicateMatchesRequest e c.request a.id)
        duplicateResult e)
      (Outcome (Succeeded st opts c F n rec) (ApplyFailed st opts c F n rec)) sh l := by
  cases hx : ensureDuplicateMatchesRequest e c.request a.id with
  | error x =>
      refine fun sh' hr => Or.inl ((h.stable hr).refused (ensureDuplicate_error hx) (fun _ _ hp => hp.1.opened) ?_)
      intro init db hp
      obtain ⟨hsent, e', hs, _, hf⟩ := hp.2
      refine .mismatch hp.1.located hf ?_ hsent ?_
      · rw [hs.ensureDuplicate_eq]
        exact hx
      · rw [hs.occurredAt_eq]
        exact hread
  | ok _ =>
      have hacc := ensureDuplicate_account hx
      have hfound : ∀ init db, Fact.and (fun _ db => Placed st opts c rec a db)
          (EventRead opts [a.id] c.request.externalEventId (some e)) init db →
          db.eventByExternalId c.request.externalEventId = some e := by
        intro init db hp
        obtain ⟨_, e', _, heq, hf⟩ := hp.2
        rw [heq (by simp [hacc])] at hf
        exact hf
      refine Logic.wp_bind (P := Outcome (fun _ => At opts c F n (refusedWork rec) [a.id] [] none (some t) _)
        (fun _ _ _ => False)) (Logic.wp_lift.mpr fun sh' hr => h.stable hr) (fun _ sh l h => ?_)
        (fun _ _ _ hf => hf.elim)
      unfold duplicateResult
      refine Logic.wp_bind (h.getByTransactionEventId e.id rfl ?_) (fun r sh l h => ?_)
        (fun _ _ _ hb => Or.inr (Or.inr (Or.inl hb)))
      · exact fun init db hp => ⟨e, event_mem (hfound init db hp), rfl⟩
      cases r with
      | none =>
          refine Logic.wp_throw fun sh' hr => Or.inl ((h.stable hr).refused rfl (fun _ _ hp => hp.1.1.opened) ?_)
          exact fun init db hp => .noLedger hp.1.1.located (hfound init db hp.1) hx hp.2.2 hp.1.2.1 hread
      | some r =>
          refine Logic.wp_pure fun sh' hr => ⟨rfl, refusedWork rec, [a.id], [], none, t, _, h.stable hr, rfl, ?_, ?_⟩
          · exact fun _ _ hp => hp.1.1.opened
          · intro init db hp hit t'
            exact .duplicate hp.1.1.opened hp.1.1.located (hfound init db hp.1) hx hp.2.2 hp.1.2.1 hread

/-- What a call knows of an event it is about to create. -/
def Unseen (st : Settings) (opts : Opts) (c : Session) (rec : IdempotencyRecord) (a : Account) : Fact :=
  Fact.and (fun _ db => Placed st opts c rec a db) (EventRead opts [a.id] c.request.externalEventId none)

theorem getOriginalEventForCancel_wp
    (h : At opts c F n (refusedWork rec) [a.id] [] none (some t) (Unseen st opts c rec a) sh l) :
    (logic st opts).wp (getOriginalEventForCancel c.request)
      (Outcome (fun orig => At opts c F n (refusedWork rec) [a.id] (orig.toList.map TransactionEvent.id) none
          (some t) ((Unseen st opts c rec a).and fun _ db => Original db c.request orig))
        (ApplyFailed st opts c F n rec)) sh l := by
  unfold getOriginalEventForCancel
  by_cases hc : c.request.eventType = .cancel
  · obtain ⟨y, hy, _⟩ := c.request.cancel_reference.mp hc
    rw [if_neg (not_not.mpr hc), hy]
    refine Logic.wp_bind (h.getOriginalForCancelForUpdate y rfl) (fun e sh l he => ?_) fun _ _ _ hb =>
      hb.apply (fun _ _ hp => hp.1.opened) fun init db hp hwhy hq => ?_
    rotate_left
    · rcases hwhy with hs | ⟨o, ho, hread⟩
      · exact .original hp.1.opened.absent hp.1.located (hp.2.2.2 hq) hc hy hs
      · exact .originalRow hp.1.opened.absent hp.1.located (hp.2.2.2 hq) hc hy ho hread
    obtain ⟨hread, h⟩ := he
    cases e with
    | none =>
        refine Logic.wp_throw fun sh' hr => Or.inl ((h.stable hr).refused rfl (fun _ _ hp => hp.1.1.opened) ?_)
        exact fun init db hp => .original hp.1.1.located hc hy hp.1.2.2.1 hp.2.2 hp.1.2.1 hp.2.1
    | some e =>
        have hread : e.occurredAt.readable = true := hread e rfl
        refine Logic.wp_pure fun sh' hr => (h.know ⟨h.facts.1, .some hc hy h.facts.2.2 h.facts.2.1 hread⟩ ?_).stable hr
        intro sh sh' hr hw hp
        have hlock : e.id ∈ l.eventLocks := by rw [h.eventLocks]; simp
        obtain ⟨h₁, h₂⟩ := h.guard sh sh' hr hw ⟨hp.1, by
          cases hp.2 with
          | some _ hy' hf hs _ => rw [hy] at hy'; cases hy'; exact ⟨hs, hf⟩⟩
        exact ⟨h₁, .some hc hy h₂.2 h₂.1 hread⟩
  · rw [if_pos hc]
    refine Logic.wp_pure fun sh' hr => (h.learn (R := fun _ db => Original db c.request none) (.none hc) ?_).stable hr
    exact fun _ _ hr _ ho => ho.stable hr (by simp)

/-- **A started call is applied: it succeeds, is refused, is interrupted by the ledger, breaks, or is not answered.** -/
theorem applyStartedRequest_wp {svc : Service} (hw : svc.toWiring = c.wiring)
    (h : At opts c F n (refusedWork rec) [] [] none (some t) (fun _ db => Opened st db c.key c.request rec) sh l) :
    (logic st opts).wp (applyStartedRequest svc c.key c.request)
      (Outcome (Succeeded st opts c F n rec) (ApplyFailed st opts c F n rec)) sh l := by
  unfold applyStartedRequest
  refine Logic.wp_bind (h.getByAccountNoForUpdate c.request.accountNo rfl) (fun r sh l h => ?_) fun _ _ _ hb =>
    hb.apply (fun _ _ hp => hp) fun _ _ hp hs _ => .account hp.absent hs
  cases r with
  | none =>
      refine Logic.wp_throw fun sh' hr => Or.inl ((h.stable hr).refused rfl (fun _ _ hp => hp.1) ?_)
      exact fun init db hp => .account hp.2.1 hp.2.2
  | some a =>
      refine Logic.wp_bind (checkQuarantine_wp hw h) (fun _ sh l h => ?_) (fun _ _ _ hb => hb)
      refine Logic.wp_bind (h.getByExternalEventId _ rfl) (fun e sh l he => ?_) fun _ _ _ hb =>
        hb.apply (fun _ _ hp => hp.opened) fun init db hp hwhy _ => ?_
      rotate_left
      · rcases hwhy with hs | ⟨e, he, hread⟩
        · exact .event hp.opened.absent hp.located hs
        · exact .eventRow hp.opened.absent hp.located he hread
      obtain ⟨hread, h⟩ := he
      cases e with
      | some e => exact duplicate_wp h (hread e rfl)
      | none =>
          refine Logic.wp_bind (getOriginalEventForCancel_wp h) (fun orig sh l h => ?_) (fun _ _ _ hb => hb)
          refine Logic.wp_bind (h.createReceived (List.mem_singleton.mpr rfl) ?_ h.facts.1.2.1 ?_ ?_) (fun ev sh l h => ?_)
            (fun _ _ _ hb => Or.inr (Or.inr (Or.inl hb)))
          · exact fun init db hp => hp.1.2.2.2
          · intro hs init db hp hq
            exact ⟨hp.1.1.opened.absent, hp.1.2.2.2 hq, ⟨a, orig, hp.1.1.located, hp.2⟩, hs⟩
          · intro hfit init db hp hq
            exact ⟨hp.1.1.opened.absent, hp.1.2.2.2 hq, a, orig, hp.1.1.located, hp.2, Or.inl hfit⟩
          refine Logic.wp_bind (h.setActiveEvent (some ev)) (fun _ sh l h => ?_) (fun _ _ _ hf => hf.elim)
          refine Logic.wp_mono (runEvent_wp h ?_ (List.mem_singleton.mpr rfl) ?_) fun r sh l h => ?_
          · exact fun init db hp => ⟨hp.1.1.1.opened, hp.1.1.1.located, hp.1.2, hp.2⟩
          · rintro o ho
            exact List.mem_map_of_mem (by simpa using ho)
          · cases r with
            | ok reply => exact h
            | error x => exact Or.inr (h.imp_right Or.inl)

end Apply

end EventConsistency
