import EventConsistency.Verify.Apply

/-!
# What a call does

From the handlers of `_process_started` up to `process`.

* `escape` : the exception that leaves the transaction's body when a statement of `site` was refused;
* `processStarted_wp`, `attemptBody_wp`, `withBegin_wp` : one attempt;
* `Done` : a committed call; `Failed` : one whose attempt was rolled back;
* `Ended` : how a whole call can end, with at most one retry behind it;
* **`process_wp`** : every call, among any others, commits only what it may and ends so.
-/

namespace EventConsistency

open Lib TransactionEventService

/-- The exception that leaves the body of the transaction after a statement of `site` was refused with `x`:
behind `_apply_started_request`, `complete` and `_mark_active_event_failed` stands `fail`, which sends one
more statement. -/
def escape : Site → Exc → Exc
  | .applyStartedRequest, _ | .complete, _ | .markActiveEventFailed, _ => .pendingRollbackError
  | .checkOrStart, x | .fail, x | .commit, x => x

section Process

variable {st : Settings} {opts : Opts} {c l : Session} {F : List (Site × Exc)} {n : Nat} {sh sh' : Shared}
  {P : Fact} {site : Site} {reply : TransactionProcessingResult} {rec : IdempotencyRecord} {x : Exc} {svc : Service}
  {act : Option TransactionEvent} {τ : Option Time}

theorem FaultKind.not_domain {db : Db} (h : FaultKind opts c db site x) : isDomainFailure x = false := by
  cases h <;> rfl

/-! ## The handlers of `_process_started` -/

theorem Ready.setActiveEvent (h : Ready st opts c F n reply sh l) (e : Option TransactionEvent) :
    (logic st opts).wp (Prog.call (Op.setActiveEvent e))
      (Outcome (fun _ => Ready st opts c F n reply) (fun _ _ _ => False)) sh l := by
  refine Logic.wp_call fun sh₁ hr => ⟨trivial, ?_⟩
  rintro r sh₂ l₂ ⟨fault, _, hx⟩ sh₃ hr'
  simp only [exec, Prod.mk.injEq] at hx
  obtain ⟨rfl, rfl, rfl⟩ := hx
  have hl : l.Holds { l with activeEvent := e } :=
    ⟨rfl, fun _ h => h, fun _ h => h, fun _ h => h, fun _ h => h, fun _ h => h, fun _ h => h,
      fun _ h => h, fun _ h => h⟩
  have h₁ := h.stable hr
  refine Ready.stable { toRunning := ?_, ok := h₁.ok, covered := h₁.covered, shape := ?_, cache := ?_ } hr'
  · exact { h₁.toRunning with }
  · exact fun sh' hr => h₁.shape sh' (hr.anti hl)
  · exact fun sh' hr => h₁.cache sh' (hr.anti hl)

theorem Broken.setActiveEvent (h : Broken opts c F n site x sh l) (e : Option TransactionEvent) :
    (logic st opts).wp (Prog.call (Op.setActiveEvent e))
      (Outcome (fun _ => Broken opts c F n site x) (fun _ _ _ => False)) sh l := by
  refine Logic.wp_call fun sh₁ hr => ⟨trivial, ?_⟩
  rintro r sh₂ l₂ ⟨fault, _, hx⟩ sh₃ hr'
  simp only [exec, Prod.mk.injEq] at hx
  obtain ⟨rfl, rfl, rfl⟩ := hx
  exact Broken.stable { h.stable hr with } hr'

theorem Withheld.setActiveEvent (h : Withheld opts c F n x sh l) (e : Option TransactionEvent) :
    (logic st opts).wp (Prog.call (Op.setActiveEvent e))
      (Outcome (fun _ => Withheld opts c F n x) (fun _ _ _ => False)) sh l := by
  refine Logic.wp_call fun sh₁ hr => ⟨trivial, ?_⟩
  rintro r sh₂ l₂ ⟨fault, _, hx⟩ sh₃ hr'
  simp only [exec, Prod.mk.injEq] at hx
  obtain ⟨rfl, rfl, rfl⟩ := hx
  exact Withheld.stable { h.stable hr with } hr'

/-- Prepared to store the failure `x`, with or without an event. -/
def Closing (st : Settings) (opts : Opts) (c : Session) (F : List (Site × Exc)) (n : Nat)
    (rec : IdempotencyRecord) (x : Exc) (sh : Shared) (l : Session) : Prop :=
  isDomainFailure x = true ∧ ∃ W al el act t P,
    Prepared st opts c F n rec (failedRecord rec x) (failureResult x) W al el act t P sh l

/-- The sites from which `fail` is reached. -/
def Site.inner : Site → Bool
  | .applyStartedRequest | .complete | .markActiveEventFailed => true
  | _ => false

/-- How the `try` block of `_process_started` fails with `x`. -/
def StartedFailed (st : Settings) (opts : Opts) (c : Session) (F : List (Site × Exc)) (n : Nat)
    (rec : IdempotencyRecord) (x : Exc) (sh : Shared) (l : Session) : Prop :=
  (Refused st opts c F n rec x sh l ∨ Interrupted st opts c F n rec x sh l ∨
    ∃ site, site.inner = true ∧ Broken opts c F n site x sh l) ∨ Unread st opts c F n rec x sh l

theorem markFailedIfDomain_wp
    (h : Refused st opts c F n rec x sh l ∨ Interrupted st opts c F n rec x sh l ∨
      ∃ site, site.inner = true ∧ Broken opts c F n site x sh l) :
    (logic st opts).wp (markFailedIfDomain x)
      (Outcome (fun _ sh l => Closing st opts c F n rec x sh l ∨
          ∃ site y, site.inner = true ∧ Broken opts c F n site y sh l)
        (fun _ _ _ => False)) sh l := by
  unfold markFailedIfDomain
  rcases h with ⟨hd, al, el, t, P, h⟩ | ⟨hd, a, orig, ev, i₁, i₂, al, el, t, P, hP, hx, h⟩ | ⟨site, hs, h⟩
  · rw [if_pos hd]
    refine Logic.wp_bind h.at_.activeEvent ?_ (fun _ _ _ hf => hf.elim)
    rintro _ sh l ⟨rfl, h'⟩
    refine Logic.wp_pure fun sh' hr => Or.inl ⟨hd, _, al, el, none, t, P, { h with at_ := h'.stable hr }⟩
  · rw [if_pos hd]
    refine Logic.wp_bind h.activeEvent ?_ (fun _ _ _ hf => hf.elim)
    rintro _ sh l ⟨rfl, h⟩
    change (logic st opts).wp (tryMarkFailed (withStatus ev .processing t) x) _ sh l
    refine Logic.wp_handle (h.changeOwn rfl rfl) fun r sh l h => ?_
    cases r with
    | error y => exact Logic.wp_pure fun sh' hr => Or.inr ⟨_, y, rfl, Broken.stable h hr⟩
    | ok e =>
        obtain ⟨_, i₃, h⟩ := h
        refine Logic.wp_pure fun sh' hr => Or.inl ⟨hd, _, al, el, _, t, _, (h.stable hr).knowFresh, rfl, ?_, ?_⟩
        · exact fun init db hp => (hP init db hp.1).opened
        · intro init db hp hit t'
          have happ := hP init db hp.1
          change Committed st opts c.wiring hit init db c.key c.request
            (eventWork (failedRecord rec x t') (withStatus ev .failed t) (failedHistories ev x i₁ i₂ i₃ t))
            (failureResult x)
          exact .failed happ.opened happ.located happ.original happ.created hp.2.1 hx
  · rw [if_neg (by rw [h.kind.not_domain]; decide)]
    exact Logic.wp_pure fun sh' hr => Or.inr ⟨site, x, hs, h.stable hr⟩

/-- An exception on its way out of the transaction's body, with the session still failed or with a query not answered. -/
def Escaping (opts : Opts) (c : Session) (F : List (Site × Exc)) (n : Nat) (z : Exc) (sh : Shared) (l : Session) :
    Prop :=
  (∃ site y, (site.inner = true ∨ site = .fail) ∧ z = escape site y ∧ Broken opts c F n site y sh l) ∨
    Withheld opts c F n z sh l

theorem Escaping.stable {z : Exc} (h : Escaping opts c F n z sh l) (hr : Rely opts l sh sh') :
    Escaping opts c F n z sh' l := by
  rcases h with ⟨site, y, hs, hz, h⟩ | h
  · exact Or.inl ⟨site, y, hs, hz, h.stable hr⟩
  · exact Or.inr (h.stable hr)

theorem Escaping.setActiveEvent {z : Exc} (h : Escaping opts c F n z sh l) (e : Option TransactionEvent) :
    (logic st opts).wp (Prog.call (Op.setActiveEvent e))
      (Outcome (fun _ => Escaping opts c F n z) (fun _ _ _ => False)) sh l := by
  rcases h with ⟨site, y, hs, hz, h⟩ | h
  · refine Logic.wp_mono (h.setActiveEvent e) fun u sh l h => ?_
    cases u with
    | ok _ => exact Or.inl ⟨site, y, hs, hz, h⟩
    | error _ => exact h
  · refine Logic.wp_mono (h.setActiveEvent e) fun u sh l h => ?_
    cases u with
    | ok _ => exact Or.inr h
    | error _ => exact h

/-- `fail` closes the record of a call whose query was not answered, and the exception goes on. -/
theorem Unread.onFailure_wp (hsvc : svc.toSettings = st) (h : Unread st opts c F n rec x sh l) :
    (logic st opts).wp (onFailure svc c.key c.request.modelDump x)
      (Outcome (Ready st opts c F n) (Escaping opts c F n)) sh l := by
  obtain ⟨⟨message, rfl⟩, al, el, t, P, h, ho, htext⟩ := h
  refine Logic.wp_bind (P := Outcome (fun _ => At opts c F n (refusedWork rec) al el none (some t) P) (fun _ _ _ => False))
    (Logic.wp_pure fun sh' hr => h.stable hr) (fun _ sh l h => ?_) (fun _ _ _ hf => hf.elim)
  refine Logic.wp_bind (Withheld.fail_wp hsvc h rfl ho ⟨message, rfl⟩ htext) (fun _ sh l h => ?_)
    (fun y _ _ hb => Or.inl ⟨.fail, y, Or.inr rfl, rfl, hb⟩)
  exact Logic.wp_throw fun sh' hr => Or.inr (h.stable hr)

theorem onFailure_wp (hsvc : svc.toSettings = st) (h : StartedFailed st opts c F n rec x sh l) :
    (logic st opts).wp (onFailure svc c.key c.request.modelDump x)
      (Outcome (Ready st opts c F n) (Escaping opts c F n)) sh l := by
  rcases h with h | h
  rotate_left
  · exact h.onFailure_wp hsvc
  unfold onFailure
  refine Logic.wp_bind (markFailedIfDomain_wp h) (fun _ sh l h => ?_) (fun _ _ _ hf => hf.elim)
  rcases h with ⟨hd, W, al, el, act, t, P, h⟩ | ⟨site, y, hs, h⟩
  · refine Logic.wp_bind (fail_wp hsvc h) (fun _ sh l h => ?_) (fun y _ _ hb => Or.inl ⟨.fail, y, Or.inr rfl, rfl, hb⟩)
    rw [if_pos hd]
    exact Logic.wp_pure fun sh' hr => Ready.stable h hr
  · refine Logic.wp_bind h.fail_wp (fun _ _ _ hf => hf.elim) ?_
    rintro _ sh l ⟨rfl, h⟩
    refine Or.inl ⟨site, y, Or.inl hs, ?_, h⟩
    cases site <;> first | rfl | cases hs

theorem processStarted_wp {t : Time} (hsvc : svc.toSettings = st) (hw : svc.toWiring = c.wiring)
    (h : At opts c F n (refusedWork rec) [] [] act (some t) (fun _ db => Opened st db c.key c.request rec) sh l) :
    (logic st opts).wp (processStarted svc c.key c.request c.request.modelDump)
      (Outcome (Ready st opts c F n) (Escaping opts c F n)) sh l := by
  have hbody : (logic st opts).wp
      (do
        Prog.call (Op.setActiveEvent none)
        let result ← applyStartedRequest svc c.key c.request
        let _ ← svc.complete c.key result.statusCode (.obj result.body) c.request.modelDump
        pure result)
      (Outcome (Ready st opts c F n) (StartedFailed st opts c F n rec)) sh l := by
    refine Logic.wp_bind (h.setActiveEvent none) (fun _ sh l h => ?_) (fun _ _ _ hf => hf.elim)
    refine Logic.wp_bind (applyStartedRequest_wp hw h) (fun reply sh l h => ?_) ?_
    · obtain ⟨hcode, W, al, el, act, t, P, h⟩ := h
      refine Logic.wp_bind (complete_wp hsvc hcode h) (fun _ sh l h => ?_)
        (fun _ _ _ hb => Or.inl (Or.inr (Or.inr ⟨_, rfl, hb⟩)))
      exact Logic.wp_pure fun sh' hr => Ready.stable h hr
    · rintro x sh l (h | h | h | h)
      · exact Or.inl (Or.inl h)
      · exact Or.inl (Or.inr (Or.inl h))
      · exact Or.inl (Or.inr (Or.inr ⟨_, rfl, h⟩))
      · exact Or.inr h
  unfold processStarted
  refine Logic.wp_andFinally (P := Outcome (Ready st opts c F n) (Escaping opts c F n))
    (Logic.wp_tryCatch hbody (fun _ _ _ h => h) fun x sh l h => onFailure_wp hsvc h) fun r sh l h => ?_
  cases r with
  | ok reply =>
      refine Logic.wp_mono (Ready.setActiveEvent h none) fun u sh l h => ?_
      cases u with
      | ok _ => exact fun sh' hr => Ready.stable h hr
      | error _ => exact h.elim
  | error z =>
      refine Logic.wp_mono (Escaping.setActiveEvent h none) fun u sh l h => ?_
      cases u with
      | ok _ => exact fun sh' hr => Escaping.stable h hr
      | error _ => exact h.elim

/-! ## One attempt -/

/-- What can leave the body of the transaction that starts from `P`. -/
def BodyFailed (st : Settings) (opts : Opts) (c : Session) (F : List (Site × Exc)) (n : Nat) (P : Fact) (z : Exc)
    (sh : Shared) (l : Session) : Prop :=
  Rejected st opts c F n z sh l ∨ (∃ site y, site ≠ .commit ∧ z = escape site y ∧
    (y = .operationalError ∧ site = .checkOrStart ∨ Vacant c.key P) ∧ Broken opts c F n site y sh l) ∨
    Vacant c.key P ∧ Withheld opts c F n z sh l

theorem attemptBody_wp (hsvc : svc.toSettings = st) (hw : svc.toWiring = c.wiring)
    (h : At opts c F n {} [] [] act τ P sh l) :
    (logic st opts).wp (attemptBody svc c.key c.request)
      (Outcome (fun reply sh l => (l.work = {} ∨ Vacant c.key P) ∧ Ready st opts c F n reply sh l)
        (BodyFailed st opts c F n P)) sh l := by
  unfold attemptBody
  refine Logic.wp_bind (checkOrStart_wp hsvc hw h) (fun idem sh l h => ?_) ?_
  · rcases h with ⟨hd, hv, rec, t, h⟩ | ⟨hd, hW, h⟩
    · rw [hd]
      refine Logic.wp_mono (processStarted_wp hsvc hw h) fun r sh l h => ?_
      cases r with
      | ok reply => exact ⟨Or.inr hv, h⟩
      | error z =>
          rcases h with ⟨site, y, hs, rfl, h⟩ | h
          · refine Or.inr (Or.inl ⟨site, y, ?_, rfl, Or.inr hv, h⟩)
            rintro rfl
            rcases hs with hs | hs <;> cases hs
          · exact Or.inr (Or.inr ⟨hv, h⟩)
    · have hlift : (logic st opts).wp (.lift (answer idem))
          (Outcome (fun reply sh l => (l.work = {} ∨ Vacant c.key P) ∧ Ready st opts c F n reply sh l)
            (BodyFailed st opts c F n P)) sh l := by
        refine Logic.wp_lift.mpr fun sh' hr => ?_
        cases ha : answer idem with
        | ok reply => rw [ha] at h; exact ⟨Or.inl hW, Ready.stable h hr⟩
        | error x => rw [ha] at h; exact Or.inl (Rejected.stable h hr)
      unfold answer at hlift
      cases hdec : idem.decision with
      | started => exact absurd hdec hd
      | alreadyProcessing => rw [hdec] at hlift; exact hlift
      | replayCompleted => rw [hdec] at hlift; exact hlift
      | replayFailed => rw [hdec] at hlift; exact hlift
  · rintro x sh l (h | ⟨hx, h⟩)
    · exact Or.inl h
    · refine Or.inr (Or.inl ⟨.checkOrStart, x, by decide, rfl, ?_, h⟩)
      exact hx.imp_left fun hx => ⟨hx, rfl⟩

/-- The call has committed `W` and returns `reply`. -/
structure Done (st : Settings) (opts : Opts) (c : Session) (F : List (Site × Exc)) (n : Nat) (W : Overlay)
    (reply : TransactionProcessingResult) (sh : Shared) (l : Session) : Prop where
  tid : l.tid = c.tid
  wiring : l.wiring = c.wiring
  key : l.key = c.key
  request : l.request = c.request
  faults : l.faults = F
  retries : l.retries = n
  logged : ∃ x ∈ sh.log, x.tid = c.tid ∧ x.wiring = c.wiring ∧ x.key = c.key ∧ x.request = c.request ∧
    x.work = W ∧ x.reply = reply
  alone : opts.quiet = true → sh.db = W.apply sh.init ∧
    ∃ hit, Committed st opts c.wiring hit sh.init sh.init c.key c.request W reply

theorem Done.stable {W : Overlay} (h : Done st opts c F n W reply sh l) (hr : Rely opts l sh sh') :
    Done st opts c F n W reply sh' l :=
  { h with
    logged := by
      obtain ⟨x, hmem, hx⟩ := h.logged
      exact ⟨x, hr.log_mem hmem, hx⟩
    alone := fun hq => by rw [hr.quiet hq]; exact h.alone hq }

/-- The call outside of any transaction, not committed. -/
structure Idle (opts : Opts) (c : Session) (F : List (Site × Exc)) (n : Nat) (sh : Shared) (l : Session) : Prop
    extends Running opts c F n sh l where
  ok : l.failed = false
  work : l.work = {}
  accountLocks : l.accountLocks = []
  eventLocks : l.eventLocks = []
  started : l.startedAt = none

theorem Idle.stable (h : Idle opts c F n sh l) (hr : Rely opts l sh sh') : Idle opts c F n sh' l :=
  { h with toRunning := h.toRunning.stable hr }

/-- A rolled back attempt: the record of the key rejects the call, a statement was refused, or a query was not answered. -/
def AttemptFailed (st : Settings) (opts : Opts) (c : Session) (F : List (Site × Exc)) (n : Nat) (P : Fact) (z : Exc)
    (sh : Shared) (l : Session) : Prop :=
  (Idle opts c F n sh l ∧ Rejection st opts c sh.init sh.db z) ∨
    (∃ site y, z = escape site y ∧ (y = .operationalError ∧ (site = .checkOrStart ∨ site = .commit) ∨ Vacant c.key P) ∧
      FaultKind opts c sh.db site y ∧ (site ≠ .commit → l.cacheWrote = none) ∧
      Idle opts c (F ++ [(site, y)]) n sh l) ∨
    Vacant c.key P ∧ Unanswered opts c sh.db z ∧ Idle opts c F n sh l

theorem AttemptFailed.stable {z : Exc} (h : AttemptFailed st opts c F n P z sh l) (hr : Rely opts l sh sh') :
    AttemptFailed st opts c F n P z sh' l := by
  rcases h with ⟨h, hz⟩ | ⟨site, y, hz, hv, hk, hc, h⟩ | ⟨hv, hh, h⟩
  · exact Or.inl ⟨h.stable hr, hz.stable hr⟩
  · exact Or.inr (Or.inl ⟨site, y, hz, hv, hk.stable hr, hc, h.stable hr⟩)
  · exact Or.inr (Or.inr ⟨hv, hh.stable hr, h.stable hr⟩)

/-- `rollback()` ends the transaction of a call that has not committed. -/
theorem Running.rollback (h : Running opts c F n sh l) :
    (logic st opts).wp (Prog.call Op.rollback)
      (Outcome (fun _ sh' l' => l'.cacheWrote = l.cacheWrote ∧ Idle opts c F n sh' l' ∧
          ∃ sh₁, Rely opts l sh sh₁ ∧ Rely opts l' sh₁ sh')
        (fun _ _ _ => False)) sh l := by
  refine Logic.wp_call fun sh₁ hr => ⟨trivial, ?_⟩
  rintro r sh₂ l₂ ⟨fault, _, hx⟩ sh₃ hr'
  simp only [exec, Prod.mk.injEq] at hx
  obtain ⟨rfl, rfl, rfl⟩ := hx
  refine ⟨rfl, Idle.stable ?_ hr', sh₁, hr, hr'⟩
  exact { h.stable hr with ok := rfl, work := rfl, accountLocks := rfl, eventLocks := rfl, started := rfl }

theorem BodyFailed.rollback {z : Exc} (h : BodyFailed st opts c F n P z sh l) :
    (logic st opts).wp (do Prog.call Op.rollback; throw z)
      (Outcome (fun _ : TransactionProcessingResult => fun _ _ => False) (AttemptFailed st opts c F n P)) sh l := by
  rcases h with h | ⟨site, y, hs, rfl, hv, h⟩ | ⟨hv, h⟩
  · refine Logic.wp_bind h.toRunning.rollback (fun _ sh l h' => ?_) (fun _ _ _ hf => hf.elim)
    obtain ⟨_, hi, sh₁, hr, hr'⟩ := h'
    have hz := (h.why.stable hr).stable hr'
    exact Logic.wp_throw fun sh' hr => Or.inl ⟨hi.stable hr, hz.stable hr⟩
  · refine Logic.wp_bind h.toRunning.rollback (fun _ sh l h' => ?_) (fun _ _ _ hf => hf.elim)
    obtain ⟨hc, hi, sh₁, hr, hr'⟩ := h'
    refine Logic.wp_throw fun sh' hr'' => AttemptFailed.stable (Or.inr (Or.inl ⟨site, y, rfl, ?_, ?_, ?_, hi⟩)) hr''
    · exact hv.imp_left fun hy => ⟨hy.1, Or.inl hy.2⟩
    · exact (h.kind.stable hr).stable hr'
    · exact fun hs => by rw [hc]; exact h.wrote hs
  · refine Logic.wp_bind h.toRunning.rollback (fun _ sh l h' => ?_) (fun _ _ _ hf => hf.elim)
    obtain ⟨_, hi, sh₁, hr, hr'⟩ := h'
    have hz := (h.why.stable hr).stable hr'
    exact Logic.wp_throw fun sh' hr => Or.inr (Or.inr ⟨hv, hz.stable hr, hi.stable hr⟩)

theorem AttemptFailed.rollback {z : Exc} (h : AttemptFailed st opts c F n P z sh l) :
    (logic st opts).wp (Prog.call Op.rollback)
      (Outcome (fun _ => AttemptFailed st opts c F n P z) (fun _ _ _ => False)) sh l := by
  rcases h with ⟨h, hz⟩ | ⟨site, y, hz, hv, hk, hc, h⟩ | ⟨hv, hz, h⟩
  · refine Logic.wp_mono h.toRunning.rollback fun r sh l h' => ?_
    cases r with
    | error _ => exact h'
    | ok _ =>
        obtain ⟨_, hi, sh₁, hr, hr'⟩ := h'
        exact Or.inl ⟨hi, (hz.stable hr).stable hr'⟩
  · refine Logic.wp_mono h.toRunning.rollback fun r sh l h' => ?_
    cases r with
    | error _ => exact h'
    | ok _ =>
        obtain ⟨hw, hi, sh₁, hr, hr'⟩ := h'
        exact Or.inr (Or.inl ⟨site, y, hz, hv, (hk.stable hr).stable hr', fun hs => by rw [hw]; exact hc hs, hi⟩)
  · refine Logic.wp_mono h.toRunning.rollback fun r sh l h' => ?_
    cases r with
    | error _ => exact h'
    | ok _ =>
        obtain ⟨_, hi, sh₁, hr, hr'⟩ := h'
        exact Or.inr (Or.inr ⟨hv, (hz.stable hr).stable hr', hi⟩)

/-- The commit of a ready call happens as a whole or not at all. -/
theorem Ready.commit (h : Ready st opts c F n reply sh l) :
    (logic st opts).wp (Prog.call (Op.commit reply))
      (Outcome (fun _ => Done st opts c F n l.work reply)
        (fun x sh l => x = .operationalError ∧ Broken opts c F n .commit x sh l)) sh l := by
  refine Logic.wp_call fun sh₁ hr => ⟨?_, ?_⟩
  · have h₁ := h.stable hr
    exact ⟨h₁.ok, h₁.fresh, h.shape sh₁ hr, h₁.covered, h.cache sh₁ hr⟩
  rintro r sh₂ l₂ ⟨fault, hal, hx⟩ sh₃ hr'
  have h₁ := h.stable hr
  cases fault with
  | true =>
      simp only [exec, h.ok, Bool.false_eq_true, if_false, if_true, Prod.mk.injEq] at hx
      obtain ⟨rfl, rfl, rfl⟩ := hx
      have hout : opts.outages = true := by
        cases ho : opts.outages with
        | true => rfl
        | false => cases hal.outage ho rfl
      refine ⟨rfl, Broken.stable ?_ hr'⟩
      exact
        { h₁.toRunning with
          faults := by simp [Session.fail, Session.discard, h₁.faults]
          failed := rfl
          work := rfl
          accountLocks := rfl
          eventLocks := rfl
          wrote := fun hs => absurd rfl hs
          kind := .operational hout }
  | false =>
      simp only [exec, h.ok, Bool.false_eq_true, if_false, Prod.mk.injEq] at hx
      obtain ⟨rfl, rfl, rfl⟩ := hx
      refine Done.stable { h₁.toRunning with logged := ?_, alone := ?_ } hr'
      · exact ⟨_, List.mem_append_right _ List.mem_cons_self, h.tid, h.wiring, h.key, h.request, rfl, rfl⟩
      · intro hq
        have hs := (h₁.still hq).1
        refine ⟨by rw [← hs], l.cacheHit, ?_⟩
        have := h.shape sh₁ hr
        rw [h.wiring, h.key, h.request, hs] at this
        exact this

theorem withBegin_wp (hsvc : svc.toSettings = st) (hw : svc.toWiring = c.wiring)
    (h : At opts c F n {} [] [] act τ P sh l) :
    (logic st opts).wp (withBegin (attemptBody svc c.key c.request))
      (Outcome (fun reply sh l => ∃ W, (W = {} ∨ Vacant c.key P) ∧ Done st opts c F n W reply sh l)
        (AttemptFailed st opts c F n P)) sh l := by
  unfold withBegin
  refine Logic.wp_handle (attemptBody_wp hsvc hw h) fun r sh l h => ?_
  cases r with
  | error z =>
      refine Logic.wp_mono (BodyFailed.rollback h) fun r sh l h => ?_
      cases r with
      | ok _ => exact h.elim
      | error z => exact h
  | ok reply =>
      obtain ⟨hW, h⟩ := h
      refine Logic.wp_bind (P := Outcome (fun _ => Done st opts c F n l.work reply) (AttemptFailed st opts c F n P))
        (Logic.wp_tryCatch h.commit (fun _ _ _ h => h) ?_) (fun _ sh' l' h => ?_) (fun _ _ _ h => h)
      · rintro _ sh l ⟨rfl, h⟩
        refine Logic.wp_bind h.toRunning.rollback (fun _ sh l h' => ?_) (fun _ _ _ hf => hf.elim)
        obtain ⟨_, hi, sh₁, hr, hr'⟩ := h'
        refine Logic.wp_throw fun sh' hr'' => AttemptFailed.stable (Or.inr (Or.inl ⟨.commit, _, rfl, ?_, ?_, ?_, hi⟩)) hr''
        · exact Or.inl ⟨rfl, Or.inr rfl⟩
        · exact (h.kind.stable hr).stable hr'
        · exact fun hs => absurd rfl hs
      · exact Logic.wp_pure fun sh'' hr => ⟨_, hW, Done.stable h hr⟩

/-! ## The whole call -/

/-- What lies behind the last attempt of a call: nothing, or a conflict on the record of its key, which was
counted as a retry. -/
def Trail (opts : Opts) (F : List (Site × Exc)) (n : Nat) : Prop :=
  (F = [] ∧ n = 0) ∨ (F = [(.checkOrStart, .integrityError)] ∧ n = 1 ∧ opts.quiet = false)

/-- How a call ends. -/
inductive Ended (st : Settings) (opts : Opts) (c : Session) :
    Except Exc TransactionProcessingResult → Shared → Session → Prop where
  | denied {sh : Shared} {l : Session} (hw : c.wiring.redisLock = true) (h : Idle opts c [] 0 sh l) :
      Ended st opts c (.ok alreadyProcessingResult) sh l
  | done {F : List (Site × Exc)} {n : Nat} {W : Overlay} {reply : TransactionProcessingResult} {sh : Shared}
      {l : Session} (ht : Trail opts F n) (hW : F ≠ [] → opts.deletes = false → W = {})
      (h : Done st opts c F n W reply sh l) : Ended st opts c (.ok reply) sh l
  | rejected {F : List (Site × Exc)} {n : Nat} {z : Exc} {sh : Shared} {l : Session} (ht : Trail opts F n)
      (hz : Rejection st opts c sh.init sh.db z) (h : Idle opts c F n sh l) : Ended st opts c (.error z) sh l
  | faulted {F : List (Site × Exc)} {n : Nat} {site : Site} {y : Exc} {sh : Shared} {l : Session}
      (ht : Trail opts F n) (hy : y = .integrityError → site = .checkOrStart → F ≠ [])
      (hr : F ≠ [] → opts.deletes = false → y = .operationalError ∧ (site = .checkOrStart ∨ site = .commit))
      (hk : FaultKind opts c sh.db site y) (h : Idle opts c (F ++ [(site, y)]) n sh l) :
      Ended st opts c (.error (escape site y)) sh l
  | unanswered {F : List (Site × Exc)} {n : Nat} {z : Exc} {sh : Shared} {l : Session} (ht : Trail opts F n)
      (hF : opts.deletes = false → F = []) (hz : Unanswered opts c sh.db z) (h : Idle opts c F n sh l) :
      Ended st opts c (.error z) sh l

theorem Ended.stable {r : Except Exc TransactionProcessingResult} (h : Ended st opts c r sh l)
    (hr : Rely opts l sh sh') : Ended st opts c r sh' l := by
  cases h with
  | denied hw h => exact .denied hw (h.stable hr)
  | done ht hW h => exact .done ht hW (h.stable hr)
  | rejected ht hz h => exact .rejected ht (hz.stable hr) (h.stable hr)
  | faulted ht hy hf hk h => exact .faulted ht hy hf (hk.stable hr) (h.stable hr)
  | unanswered ht hF hz h => exact .unanswered ht hF (hz.stable hr) (h.stable hr)

/-- The call between two attempts is where an attempt starts. -/
theorem Idle.start (h : Idle opts c F n sh l) (hw : l.cacheWrote = none) (hP : P sh.init sh.db)
    (hg : Guarded opts l P) : At opts c F n {} [] [] l.activeEvent none P sh l :=
  { h with
    covered := by constructor <;> simp
    histories := by constructor <;> simp
    historySeq := by simp
    ledger := by simp
    active := rfl
    wrote := hw
    facts := hP
    guard := hg }

/-- After a conflict on it, the key has a record. -/
def Taken (opts : Opts) (key : String) : Fact :=
  fun _ db => opts.deletes = false → (db.recordByKey key).isSome = true

theorem Taken.guarded (key : String) : Guarded opts l (Taken opts key) := by
  intro sh sh' hr _ h hd
  obtain ⟨r, hf⟩ := Option.isSome_iff_exists.mp (h hd)
  rw [hr.recordByKey_some hd hf]
  rfl

theorem Taken.not_vacant (hd : opts.deletes = false) {key : String} : ¬ Vacant key (Taken opts key) := by
  rintro ⟨_, db, ht, hn⟩
  have := ht hd
  rw [hn] at this
  cases this

/-- A conflict that leaves the transaction is one on the record of the key. -/
theorem AttemptFailed.integrity (h : AttemptFailed st opts c F n P .integrityError sh l) :
    opts.quiet = false ∧ Taken opts c.key sh.init sh.db ∧ l.cacheWrote = none ∧
      Idle opts c (F ++ [(.checkOrStart, .integrityError)]) n sh l := by
  rcases h with ⟨_, hz⟩ | ⟨site, y, hz, _, hk, hc, h⟩ | ⟨_, ⟨⟨message, hz⟩, _⟩, _⟩
  · cases hz
  · cases hk with
    | operational _ => cases site <;> cases hz
    | record hq ht => exact ⟨hq, ht, hc (by decide), h⟩
    | event _ _ => cases hz
    | data _ => cases hz
    | text _ => cases hz
  · cases hz

theorem Idle.recordRetry (h : Idle opts c F n sh l) :
    (logic st opts).wp (Prog.call Op.recordRetry)
      (Outcome (fun _ sh' l' => l'.cacheWrote = l.cacheWrote ∧ Idle opts c F (n + 1) sh' l' ∧
          ∃ sh₁, Rely opts l sh sh₁ ∧ Rely opts l' sh₁ sh')
        (fun _ _ _ => False)) sh l := by
  refine Logic.wp_call fun sh₁ hr => ⟨trivial, ?_⟩
  rintro r sh₂ l₂ ⟨fault, _, hx⟩ sh₃ hr'
  simp only [exec, Prod.mk.injEq] at hx
  obtain ⟨rfl, rfl, rfl⟩ := hx
  refine ⟨rfl, Idle.stable ?_ hr', sh₁, hr, hr'⟩
  exact { h.stable hr with retries := congrArg (· + 1) h.retries }

/-- The second attempt: its exceptions leave the call as they are. -/
theorem secondAttempt_wp (hsvc : svc.toSettings = st) (hw : svc.toWiring = c.wiring) (hq : opts.quiet = false)
    (h : At opts c [(.checkOrStart, .integrityError)] 1 {} [] [] act τ (Taken opts c.key) sh l) :
    (logic st opts).wp (attempts svc c.key c.request [1]) (Ended st opts c) sh l := by
  have htrail : Trail opts [(.checkOrStart, .integrityError)] 1 := Or.inr ⟨rfl, rfl, hq⟩
  have hend : ∀ {z sh l}, AttemptFailed st opts c [(.checkOrStart, .integrityError)] 1 (Taken opts c.key) z sh l →
      Ended st opts c (.error z) sh l := by
    rintro z sh l (⟨h, hz⟩ | ⟨site, y, rfl, hv, hk, _, h⟩ | ⟨hv, hz, h⟩)
    · exact .rejected htrail hz h
    · refine .faulted htrail (fun _ _ => by simp) (fun _ hd => ?_) hk h
      rcases hv with hv | hv
      · exact hv
      · exact absurd hv (Taken.not_vacant hd)
    · exact .unanswered htrail (fun hd => absurd hv (Taken.not_vacant hd)) hz h
  unfold attempts
  refine Logic.wp_tryCatch (withBegin_wp hsvc hw h) (fun reply sh l h => ?_) (fun z sh l h => ?_)
  · obtain ⟨W, hW, h⟩ := h
    refine .done htrail (fun _ hd => ?_) h
    rcases hW with hW | hv
    · exact hW
    · exact absurd hv (Taken.not_vacant hd)
  · have hrb : (logic st opts).wp (do Prog.call Op.rollback; throw z) (Ended st opts c) sh l := by
      refine Logic.wp_bind (AttemptFailed.rollback h) (fun _ sh l h => ?_) (fun _ _ _ hf => hf.elim)
      exact Logic.wp_throw fun sh' hr => (hend h).stable hr
    split
    · exact hrb
    · exact hrb

theorem processWithDbFallback_wp (hsvc : svc.toSettings = st) (hw : svc.toWiring = c.wiring)
    (h : Idle opts c [] 0 sh l) (hc : l.cacheWrote = none) :
    (logic st opts).wp (processWithDbFallback svc c.key c.request) (Ended st opts c) sh l := by
  have htrail : Trail opts [] 0 := Or.inl ⟨rfl, rfl⟩
  have hat : At opts c [] 0 {} [] [] l.activeEvent none (fun _ _ => True) sh l :=
    h.start hc trivial fun _ _ _ _ _ => trivial
  unfold processWithDbFallback attempts
  refine Logic.wp_tryCatch (withBegin_wp hsvc hw hat) (fun reply sh l h => ?_) (fun z sh l h => ?_)
  · obtain ⟨W, _, h⟩ := h
    exact .done htrail (fun hf => absurd rfl hf) h
  · split
    · refine Logic.wp_bind (AttemptFailed.rollback h) (fun _ sh l h => ?_) (fun _ _ _ hf => hf.elim)
      obtain ⟨hq, ht, hwrote, h⟩ := AttemptFailed.integrity h
      rw [if_neg (by decide)]
      refine Logic.wp_bind h.recordRetry (fun _ sh' l' h' => ?_) (fun _ _ _ hf => hf.elim)
      obtain ⟨hcw, hi, sh₁, hr, hr'⟩ := h'
      have hwk := h.toRunning.stable hr
      refine secondAttempt_wp hsvc hw hq (hi.start (hcw.trans hwrote) ?_ (Taken.guarded c.key))
      exact Taken.guarded c.key _ _ hr' hwk.kept (Taken.guarded c.key _ _ hr h.kept ht)
    · rename_i hne
      refine Logic.wp_bind (AttemptFailed.rollback h) (fun _ sh l h => ?_) (fun _ _ _ hf => hf.elim)
      refine Logic.wp_throw fun sh' hr => Ended.stable ?_ hr
      rcases h with ⟨h, hz⟩ | ⟨site, y, rfl, _, hk, _, h⟩ | ⟨_, hz, h⟩
      · exact .rejected htrail hz h
      · refine .faulted htrail (fun hy hs => ?_) (fun hf => absurd rfl hf) hk h
        subst hy hs
        exact absurd rfl hne
      · exact .unanswered htrail (fun _ => rfl) hz h

/-- The Redis lock is nothing to PostgreSQL. -/
theorem WellKept.relock (h : WellKept opts sh) (locks : List (String × Nat)) (token : Nat) :
    WellKept opts { sh with locks := locks, nextToken := token } :=
  ⟨h.since, ⟨h.drawn.event, h.drawn.ledger, h.drawn.history, h.drawn.record⟩, h.ledger_fk, h.history_fk, h.bodies⟩

theorem Idle.relock (h : Idle opts c F n sh l) (locks : List (String × Nat)) (token : Nat) :
    Idle opts c F n { sh with locks := locks, nextToken := token } l :=
  { h with kept := h.kept.relock locks token }

theorem Ended.relock {r : Except Exc TransactionProcessingResult} (h : Ended st opts c r sh l)
    (locks : List (String × Nat)) (token : Nat) :
    Ended st opts c r { sh with locks := locks, nextToken := token } l := by
  cases h with
  | denied hw h => exact .denied hw (h.relock locks token)
  | done ht hW h => exact .done ht hW { h with }
  | rejected ht hz h => exact .rejected ht hz (h.relock locks token)
  | faulted ht hy hf hk h => exact .faulted ht hy hf hk (h.relock locks token)
  | unanswered ht hF hz h => exact .unanswered ht hF hz (h.relock locks token)

theorem releaseLock_wp {r : Except Exc TransactionProcessingResult} (h : Ended st opts c r sh l) (key : String)
    (lockResult : RedisLockResult) :
    (logic st opts).wp (releaseLock key lockResult)
      (Outcome (fun _ => Ended st opts c r) (fun _ _ _ => False)) sh l := by
  unfold releaseLock
  by_cases ha : lockResult.acquired = true
  · rw [if_pos ha]
    refine Logic.wp_call fun sh₁ hr => ⟨trivial, ?_⟩
    rintro u sh₂ l₂ ⟨fault, _, hx⟩ sh₃ hr'
    simp only [exec] at hx
    split at hx
    · simp only [Prod.mk.injEq] at hx
      obtain ⟨rfl, rfl, rfl⟩ := hx
      exact (h.stable hr).stable hr'
    · simp only [Prod.mk.injEq] at hx
      obtain ⟨rfl, rfl, rfl⟩ := hx
      exact Ended.stable ((h.stable hr).relock _ _) hr'
  · rw [if_neg ha]
    exact Logic.wp_pure fun sh' hr => h.stable hr

/-- **Every call, among any others, commits only what it may, and ends in one of the five ways.** -/
theorem process_wp (hsvc : svc.toSettings = st) (hw : svc.toWiring = c.wiring) (h : Idle opts c [] 0 sh l)
    (hc : l.cacheWrote = none) :
    (logic st opts).wp (process svc c.key c.request) (Ended st opts c) sh l := by
  unfold process
  by_cases hlock : svc.redisLock = true
  · rw [if_pos hlock]
    refine Logic.wp_bind (P := Outcome (fun _ sh l => l.cacheWrote = none ∧ Idle opts c [] 0 sh l)
      (fun _ _ _ => False)) ?_ (fun r sh l h => ?_) (fun _ _ _ hf => hf.elim)
    · refine Logic.wp_call fun sh₁ hr => ⟨trivial, ?_⟩
      rintro r sh₂ l₂ ⟨fault, _, hx⟩ sh₃ hr'
      have h₁ := h.stable hr
      simp only [exec] at hx
      split at hx
      · simp only [Prod.mk.injEq] at hx
        obtain ⟨rfl, rfl, rfl⟩ := hx
        exact ⟨hc, h₁.stable hr'⟩
      · split at hx
        · simp only [Prod.mk.injEq] at hx
          obtain ⟨rfl, rfl, rfl⟩ := hx
          exact ⟨hc, h₁.stable hr'⟩
        · simp only [Prod.mk.injEq] at hx
          obtain ⟨rfl, rfl, rfl⟩ := hx
          exact ⟨hc, Idle.stable (h₁.relock _ _) hr'⟩
    · split
      · exact Logic.wp_pure fun sh' hr => .denied (by rw [← hw]; exact hlock) (h.2.stable hr)
      · refine Logic.wp_andFinally (processWithDbFallback_wp hsvc hw h.2 h.1) fun r sh l h => ?_
        refine Logic.wp_mono (releaseLock_wp h _ _) fun u sh l h => ?_
        cases u with
        | ok _ => exact fun sh' hr => h.stable hr
        | error _ => exact h.elim
  · rw [if_neg hlock]
    exact processWithDbFallback_wp hsvc hw h hc

end Process

end EventConsistency
