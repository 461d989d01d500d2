import EventConsistency.Verify.Discipline

/-!
# A call whose external event is known already

* `known x` : the logic of calls that find an event under the external id `x` whenever they look for it;
* `Resolves` : such a program never gets to its original or to a new event, and commits no `OriginalTransactionNotFound`;
  **`process_resolves`** : so does `process`;
* `Aware t` : the rest of a call resolves, and its transaction has touched no event; `Aware.exec` : every operation keeps
  it.
-/

namespace EventConsistency

open Lib TransactionEventService

/-- The answers of an operation while the database holds an event under `externalEventId`. -/
def Op.known (externalEventId : String) : (o : Op) → Except Exc o.Res → Prop
  | _, .error x => x ≠ .originalTransactionNotFound
  | .sql _ (.selectEvent x), .ok event => x = externalEventId → (event : Option TransactionEvent).isSome = true
  | .activeEvent, .ok event => (event : Option TransactionEvent) = none
  | _, .ok _ => True

/-- What such a call may do: it creates no event and changes none, and what it commits is no missing original. -/
def Op.settled : Op → Prop
  | .commit reply => reply ≠ failureResult .originalTransactionNotFound
  | .sql _ (.insertEvent ..) | .sql _ (.updateEventStatus ..) => False
  | .setActiveEvent event => event = none
  | _ => True

def known (externalEventId : String) : Logic Op Op.Res Exc Unit Unit where
  exec o _ _ r _ _ := o.known externalEventId r
  pre o _ _ := o.settled
  rely _ _ _ := True
  rely_refl _ _ := trivial
  rely_trans _ _ := trivial

/-- A returned value is in `Q`, and an exception is no missing original. -/
def Settled {α : Type} (Q : α → Prop) : Except Exc α → Prop
  | .ok a => Q a
  | .error x => x ≠ .originalTransactionNotFound

def Resolves {α : Type} (x : String) (p : Py α) (Q : α → Prop) : Prop := (known x).wp p (fun r _ _ => Settled Q r) () ()

section Rules

variable {α β : Type} {x : String} {p : Py α} {P Q : α → Prop}

theorem Resolves.call {o : Op} {Q : o.Res → Prop} (hpre : o.settled) (h : ∀ a, o.known x (.ok a) → Q a) :
    Resolves x (.call o) Q := by
  refine Logic.wp_call fun _ _ => ⟨hpre, fun r _ _ hr _ _ => ?_⟩
  cases r with
  | ok a => exact h a hr
  | error y => exact hr

theorem Resolves.bind {f : α → Py β} {Q : β → Prop} (hp : Resolves x p P) (hf : ∀ a, P a → Resolves x (f a) Q) :
    Resolves x (p >>= f) Q :=
  Logic.wp_bind hp (fun a _ _ h => hf a h) fun _ _ _ h => h

theorem Resolves.handle {f : Except Exc α → Py β} {Q : β → Prop} (hp : Resolves x p P)
    (hf : ∀ r, Settled P r → Resolves x (f r) Q) : Resolves x (p.handle f) Q :=
  Logic.wp_handle hp fun r _ _ h => hf r h

theorem Resolves.lift {r : Except Exc α} (h : Settled Q r) : Resolves x (.lift r) Q := Logic.wp_lift.mpr fun _ _ => h

theorem Resolves.mono (hp : Resolves x p P) (h : ∀ a, P a → Q a) : Resolves x p Q := by
  refine Logic.wp_mono hp fun r _ _ hr => ?_
  cases r with
  | ok a => exact h a hr
  | error y => exact hr

/-- An operation that is free to answer. -/
theorem Resolves.any {o : Op} (hpre : o.settled) : Resolves x (.call o) fun _ => True := Resolves.call hpre fun _ _ => trivial

theorem Resolves.andFinally {q : Py Unit} (hp : Resolves x p P) (hq : Resolves x q fun _ => True) :
    Resolves x (p.andFinally q) P := by
  refine Resolves.handle hp fun r hr => Resolves.handle hq fun u hu => ?_
  cases u with
  | ok _ => exact Resolves.lift hr
  | error y => exact Resolves.lift (r := .error y) hu

end Rules

section Services

variable {x : String} (svc : Service) (key : String) (request : TransactionEventCreateRequest)

theorem ensureSameRequestHash_settled (record : IdempotencyRecord) (requestHash : String) :
    Settled (fun _ => True) (IdempotencyService.ensureSameRequestHash record requestHash) := by
  unfold IdempotencyService.ensureSameRequestHash
  split
  · exact nofun
  · trivial

theorem closeProcessing_resolves {site : Site} {payload : Option Json} {requestHash : Option String}
    {attempted : IdempotencyStatus} {mark : IdempotencyRecord → Time → Py IdempotencyRecord}
    (hm : ∀ r t, Resolves x (mark r t) fun _ => True) :
    Resolves x (IdempotencyService.closeProcessing svc site key payload requestHash attempted mark) fun _ => True := by
  have hread : Resolves x (IdempotencyService.getExistingRecord site key) fun _ => True := by
    refine Resolves.bind (Resolves.any trivial) fun record _ => ?_
    cases record with
    | none => exact Resolves.lift (r := .error _) nofun
    | some record => exact Resolves.lift (r := .ok record) trivial
  refine Resolves.bind hread fun record _ => Resolves.bind (P := fun _ => True) (Resolves.lift ?_) fun _ _ => ?_
  · unfold IdempotencyService.ensureCompletionMatchesRequest
    split
    · exact nofun
    · exact ensureSameRequestHash_settled _ _
    · exact ensureSameRequestHash_settled _ _
    · trivial
  · split
    · exact Resolves.lift (r := .ok record) trivial
    · refine Resolves.bind (P := fun _ => True) (Resolves.lift ?_) fun _ _ => Resolves.bind (Resolves.any trivial) fun t _ => hm record t
      unfold IdempotencyService.ensureCanCloseProcessing
      split
      · trivial
      · exact nofun

theorem complete_resolves (code : Nat) (body payload : Json) :
    Resolves x (svc.complete key code body payload) fun _ => True := by
  have hplain : ∀ h, Resolves x (IdempotencyService.complete svc key code (some body) (some payload) h) fun _ => True :=
    fun h => closeProcessing_resolves svc key fun _ _ => Resolves.any trivial
  unfold Service.complete
  split
  · refine Resolves.bind (hplain none) fun record _ => ?_
    exact Resolves.bind (Resolves.any trivial) fun _ _ => Resolves.lift (r := .ok record) trivial
  · exact hplain none

theorem fail_resolves (code : Nat) (body : Json) (message : String) (payload : Json) :
    Resolves x (svc.fail key code body message payload) fun _ => True :=
  closeProcessing_resolves svc key fun _ _ => Resolves.any trivial

theorem checkOrStart_resolves (payload : Json) : Resolves x (svc.checkOrStart key payload) fun _ => True := by
  have hplain : Resolves x (IdempotencyService.checkOrStart svc key payload) fun _ => True := by
    refine Resolves.bind (Resolves.any trivial) fun t _ => Resolves.bind (Resolves.any trivial) fun record _ => ?_
    cases record with
    | none => exact Resolves.bind (Resolves.any trivial) fun record _ => Resolves.lift (r := .ok _) trivial
    | some record =>
        refine Resolves.lift ?_
        have hsame := ensureSameRequestHash_settled record (generateRequestHash svc.sha256 payload)
        unfold IdempotencyService.decide
        cases hh : IdempotencyService.ensureSameRequestHash record (generateRequestHash svc.sha256 payload) with
        | error y => rw [hh] at hsame; exact hsame
        | ok u => cases hs : record.status <;> simp [bind, Except.bind, pure, Except.pure, Settled]
  have hdb : Resolves x (CachedIdempotencyService.checkOrStartFromDb svc key payload) fun _ => True := by
    refine Resolves.bind hplain fun result _ => ?_
    split
    · exact Resolves.bind (Resolves.any trivial) fun _ _ => Resolves.lift (r := .ok result) trivial
    · exact Resolves.lift (r := .ok result) trivial
  unfold Service.checkOrStart
  split
  · refine Resolves.bind (Resolves.any trivial) fun cached _ => ?_
    cases cached with
    | none => exact hdb
    | some cached =>
        dsimp only
        split
        · exact Resolves.lift (r := .ok _) trivial
        · exact hdb
  · exact hplain

/-- A call that finds the event goes no further than to compare it. -/
theorem applyStartedRequest_resolves :
    Resolves request.externalEventId (applyStartedRequest svc key request)
      fun reply => reply ≠ failureResult .originalTransactionNotFound := by
  refine Resolves.bind (Resolves.any trivial) fun account _ => ?_
  cases account with
  | none => exact Resolves.lift (r := .error _) nofun
  | some account =>
      have hcheck : Resolves request.externalEventId (checkQuarantine svc account) fun _ => True := by
        unfold checkQuarantine
        split
        · refine Resolves.bind (Resolves.any trivial) fun q _ => ?_
          cases q with
          | none => exact Resolves.lift (r := .ok ()) trivial
          | some q => exact Resolves.lift (r := .error _) nofun
        · exact Resolves.lift (r := .ok ()) trivial
      have hread : Resolves request.externalEventId (TransactionEventRepository.getByExternalEventId request.externalEventId)
          fun event => event.isSome = true := by
        refine Resolves.bind (P := fun row => row.isSome = true) (Resolves.call trivial fun _ h => h rfl) fun row hrow => ?_
        cases row with
        | none => cases hrow
        | some event =>
            refine Resolves.lift ?_
            cases h : event.occurredAt.readable with
            | true => rw [TransactionEventRepository.read_readable h]; exact rfl
            | false => rw [TransactionEventRepository.read_refused h]; exact nofun
      refine Resolves.bind hcheck fun _ _ => Resolves.bind hread fun existing hsome => ?_
      cases existing with
      | none => cases hsome
      | some existing =>
          refine Resolves.bind (P := fun _ => True) (Resolves.lift ?_) fun _ _ =>
            Resolves.bind (Resolves.any trivial) fun ledger _ => ?_
          · unfold ensureDuplicateMatchesRequest
            split_ifs <;> simp [Settled]
          · cases ledger with
            | none => exact Resolves.lift (r := .error _) nofun
            | some ledger => exact Resolves.lift (r := .ok _) (by simp [Settled, successResult, failureResult,
                statusCodeForException])

theorem onFailure_resolves (payload : Json) {exc : Exc} (h : exc ≠ .originalTransactionNotFound) :
    Resolves x (onFailure svc key payload exc) fun reply => reply ≠ failureResult .originalTransactionNotFound := by
  have hmark : Resolves x (markFailedIfDomain exc) fun _ => True := by
    unfold markFailedIfDomain
    split
    · have hactive : Resolves x Py.activeEvent fun event => event = none := Resolves.call trivial fun _ h => h
      refine Resolves.bind hactive ?_
      rintro _ rfl
      exact Resolves.lift (r := .ok ()) trivial
    · exact Resolves.lift (r := .ok ()) trivial
  refine Resolves.bind hmark fun _ _ => Resolves.bind (fail_resolves svc key _ _ _ _) fun _ _ => ?_
  split
  · refine Resolves.lift (r := .ok _) ?_
    -- the body of an answer names its exception
    intro heq
    have hbody : exc.name = Exc.name .originalTransactionNotFound := by
      have hcode := congrArg (fun r => r.body.lookup "code") heq
      simpa [failureResult, errorBody, List.lookup_cons] using hcode
    cases exc <;> first | exact h rfl | simp [Exc.name] at hbody
  · exact Resolves.lift (r := .error exc) h

theorem processStarted_resolves (payload : Json) :
    Resolves request.externalEventId (processStarted svc key request payload)
      fun reply => reply ≠ failureResult .originalTransactionNotFound := by
  have htry : Resolves request.externalEventId (do
      Prog.call (Op.setActiveEvent none)
      let result ← applyStartedRequest svc key request
      let _ ← svc.complete key result.statusCode (.obj result.body) payload
      pure result) fun reply => reply ≠ failureResult .originalTransactionNotFound := by
    refine Resolves.bind (Resolves.any rfl) fun _ _ => Resolves.bind (applyStartedRequest_resolves svc key request) fun result hresult => ?_
    exact Resolves.bind (complete_resolves svc key _ _ _) fun _ _ => Resolves.lift (r := .ok result) hresult
  refine Resolves.andFinally (Resolves.handle htry fun r hr => ?_) (Resolves.any rfl)
  cases r with
  | ok result => exact Resolves.lift (r := .ok result) hr
  | error y => exact onFailure_resolves svc key payload hr

theorem attemptBody_resolves :
    Resolves request.externalEventId (attemptBody svc key request)
      fun reply => reply ≠ failureResult .originalTransactionNotFound := by
  have hreplay : ∀ code body default, Settled (fun reply => reply ≠ failureResult .originalTransactionNotFound)
      (replayResult code body default) := by
    intro code body default
    unfold replayResult dictOf
    split
    · rename_i heq
      split at heq <;> cases heq
      exact nofun
    · intro heq
      cases congrArg TransactionProcessingResult.duplicated heq
  refine Resolves.bind (checkOrStart_resolves svc key _) fun idem _ => ?_
  split
  · exact Resolves.lift (r := .ok _) fun heq => by cases congrArg TransactionProcessingResult.duplicated heq
  · exact Resolves.lift (hreplay _ _ _)
  · exact Resolves.lift (hreplay _ _ _)
  · exact processStarted_resolves svc key request _

theorem rollback_resolves {α : Type} {y : Exc} {Q : α → Prop} (h : y ≠ .originalTransactionNotFound) :
    Resolves x (do Prog.call Op.rollback; throw y : Py α) Q :=
  Resolves.bind (Resolves.any trivial) fun _ _ => Resolves.lift (r := .error y) h

theorem attempts_resolves (ns : List Nat) :
    Resolves request.externalEventId (attempts svc key request ns) fun _ => True := by
  have hbegin : Resolves request.externalEventId (withBegin (attemptBody svc key request)) fun _ => True := by
    refine Resolves.handle (attemptBody_resolves svc key request) fun r hr => ?_
    cases r with
    | error y => exact rollback_resolves hr
    | ok reply =>
        refine Resolves.bind (P := fun _ => True) (Resolves.handle (Resolves.any hr) fun u hu => ?_) fun _ _ =>
          Resolves.lift (r := .ok reply) trivial
        cases u with
        | ok u => exact Resolves.lift (r := .ok u) trivial
        | error y => exact rollback_resolves hu
  induction ns with
  | nil => exact Resolves.lift (r := .error _) nofun
  | cons n ns ih =>
      refine Resolves.handle hbegin fun r hr => ?_
      cases r with
      | ok reply => exact Resolves.lift (r := .ok reply) trivial
      | error y =>
          dsimp only
          split
          · refine Resolves.bind (Resolves.any trivial) fun _ _ => ?_
            split
            · exact Resolves.lift (r := .error _) nofun
            · exact Resolves.bind (Resolves.any trivial) fun _ _ => ih
          · exact rollback_resolves hr

/-- **A call whose external event is known creates no event and commits no missing original.** -/
theorem process_resolves : Resolves request.externalEventId (process svc key request) fun _ => True := by
  have hrun := attempts_resolves svc key request [0, 1]
  unfold process
  split
  · refine Resolves.bind (Resolves.any trivial) fun lockResult _ => ?_
    split
    · exact Resolves.lift (r := .ok _) trivial
    · refine Resolves.andFinally hrun ?_
      unfold releaseLock
      split
      · exact Resolves.any trivial
      · exact Resolves.lift (r := .ok ()) trivial
  · exact hrun

end Services

/-! ## The call among others -/

/-- The rest of the call resolves, and its transaction has touched no event. -/
structure Aware (x : String) (t : Thread Op Op.Res Exc Session TransactionProcessingResult) : Prop where
  resolves : Resolves x t.prog fun _ => True
  events : t.loc.work.events = {}
  active : t.loc.activeEvent = none

section Aware

variable {x : String} {l l' : Session} {sh sh' : Shared}

/-- A statement that leaves the events alone and is answered as known. -/
theorem runStmt_known {stmt : Stmt} {site : Site} {r : stmt.Res} (hpre : (Op.sql site stmt).settled)
    (hdb : (sh.db.eventByExternalId x).isSome = true) (hw : l.work.events = {}) (ha : l.activeEvent = none)
    (h : runStmt stmt sh l = .ok (r, sh', l')) :
    (Op.sql site stmt).known x (.ok r) ∧ l'.work.events = {} ∧ l'.activeEvent = none := by
  cases stmt with
  | insertEvent _ _ _ _ _ _ _ => exact hpre.elim
  | updateEventStatus _ _ _ => exact hpre.elim
  | selectEvent y =>
      cases h
      refine ⟨?_, hw, ha⟩
      rintro rfl
      simpa [Db.eventByExternalId, Overlay.apply, hw] using hdb
  | _ =>
      simp only [runStmt] at h
      (repeat' split at h) <;> cases h <;> exact ⟨trivial, hw, ha⟩

theorem Aware.exec {fault : Bool} {o : Op} {k : Except Exc o.Res → Py TransactionProcessingResult} {r : Except Exc o.Res}
    (h : Aware x ⟨l, .op o k⟩) (hdb : (sh.db.eventByExternalId x).isSome = true)
    (hx : EventConsistency.exec fault o sh l = (r, sh', l')) : Aware x ⟨l', k r⟩ := by
  obtain ⟨hset, hw, ha⟩ := h
  obtain ⟨hpre, hk⟩ := hset () trivial
  have hstep : o.known x r ∧ l'.work.events = {} ∧ l'.activeEvent = none := by
    cases o with
    | sql site stmt =>
        simp only [EventConsistency.exec] at hx
        split at hx
        · cases hx
          exact ⟨(fun h => by cases h), hw, ha⟩
        · split at hx
          · cases hx
            exact ⟨(fun h => by cases h), rfl, ha⟩
          · split at hx
            · cases hx
              unfold Session.unsent
              split
              · exact ⟨(fun h => by cases h), rfl, ha⟩
              · exact ⟨(fun h => by cases h), hw, ha⟩
            · split at hx
              · rename_i hrun
                cases hx
                exact runStmt_known (l := l.begin sh.clock) hpre hdb hw ha hrun
              · rename_i y hrun
                cases hx
                refine ⟨?_, rfl, ha⟩
                rintro rfl
                cases stmt <;> simp only [runStmt] at hrun <;> (repeat' split at hrun) <;> cases hrun
    | setActiveEvent event =>
        cases hx
        exact ⟨trivial, hw, hpre⟩
    | activeEvent =>
        cases hx
        exact ⟨ha, hw, ha⟩
    | commit reply =>
        simp only [EventConsistency.exec] at hx
        split_ifs at hx <;> cases hx
        · exact ⟨trivial, rfl, ha⟩
        · exact ⟨(fun h => by cases h), rfl, ha⟩
        · exact ⟨trivial, rfl, ha⟩
    | rollback =>
        cases hx
        exact ⟨trivial, rfl, ha⟩
    | lockAcquire key =>
        simp only [EventConsistency.exec] at hx
        split_ifs at hx <;> cases hx <;> exact ⟨trivial, hw, ha⟩
    | lockRelease key token =>
        simp only [EventConsistency.exec] at hx
        split_ifs at hx <;> cases hx <;> exact ⟨trivial, hw, ha⟩
    | cacheGet key =>
        simp only [EventConsistency.exec] at hx
        split at hx <;> cases hx <;> exact ⟨trivial, hw, ha⟩
    | cacheSet site key response =>
        simp only [EventConsistency.exec] at hx
        split_ifs at hx <;> cases hx <;> exact ⟨trivial, hw, ha⟩
    | now => cases hx; exact ⟨trivial, hw, ha⟩
    | recordRetry => cases hx; exact ⟨trivial, hw, ha⟩
  exact ⟨hk r () () hstep.1, hstep.2.1, hstep.2.2⟩

/-- What such a call commits is no missing original. -/
theorem Aware.commit {reply : TransactionProcessingResult} {k : Except Exc Unit → Py TransactionProcessingResult}
    (h : Aware x ⟨l, .op (.commit reply) k⟩) : reply ≠ failureResult .originalTransactionNotFound :=
  (h.resolves () trivial).1

end Aware

end EventConsistency
