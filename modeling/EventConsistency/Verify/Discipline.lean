import EventConsistency.Coherence

/-!
# The order in which a call takes what it holds

* `Progress` : what the open transaction of a call has got so far, told from its statements and their answers alone;
* `Progress.permits` : when a statement may be sent: first the record, then the account, its quarantine check, the
  original and the event, and only then the ledger entry and the balance;
* `discipline` : the logic of these rules; **`process_disciplined`** : `process` keeps them, also after a refused
  statement and in its second attempt;
* `Tracks g l` : the session `l` holds what `g` says; `Tracks.exec` : every operation keeps it.
-/

namespace EventConsistency

open Lib TransactionEventService

/-- What the open transaction of a call has got so far. -/
structure Progress where
  failed : Bool := false
  /-- It has inserted its idempotency record. -/
  record : Bool := false
  /-- The account it has locked. -/
  account : Option Nat := none
  /-- It has found that account not quarantined. -/
  checked : Bool := false
  /-- It has locked the original of a CANCEL. -/
  original : Bool := false
  /-- The event it has inserted. -/
  event : Option Nat := none
  deriving DecidableEq

namespace Progress

/-- After an answered statement. -/
def afterStmt (g : Progress) : (s : Stmt) → s.Res → Progress
  | .insertRecord .., _ => { g with record := true }
  | .selectAccountForUpdate _, account => match (account : Option Account) with
      | none => g
      | some a => { g with account := some a.id }
  | .selectActiveQuarantine .., q => match (q : Option QuarantineRecord) with
      | none => { g with checked := true }
      | some _ => g
  | .selectEventForUpdate _, event => match (event : Option TransactionEvent) with
      | none => g
      | some _ => { g with original := true }
  | .insertEvent .., event => { g with event := some (event : TransactionEvent).id }
  | _, _ => g

/-- After an operation and its answer. A refused statement leaves nothing, a query that is not sent leaves everything. -/
def after (g : Progress) : (o : Op) → Except Exc o.Res → Progress
  | .sql _ stmt, .ok r => g.afterStmt stmt r
  | .sql _ stmt, .error x => if x = nulRefused ∧ stmt.flushes = false then g else { failed := true }
  | .commit _, .ok _ => {}
  | .commit _, .error _ => { failed := true }
  | .rollback, _ => {}
  | _, _ => g

/-- When a statement may be sent. -/
def permitsStmt (w : Wiring) (g : Progress) : Stmt → Prop
  | .insertRecord .. => g = {}
  | .selectAccountForUpdate _ => g.account = none ∧ g.checked = false ∧ g.original = false ∧ g.event = none
  | .selectActiveQuarantine targetType targetId => targetType = "ACCOUNT" ∧ g.checked = false ∧
      ∃ a, g.account = some a ∧ targetId = toString a
  | .selectEventForUpdate _ => g.original = false ∧ g.event = none
  | .insertEvent .. => g.event = none
  | .insertLedger eventId accountId .. => g.event = some eventId ∧ g.account = some accountId ∧
      (w.quarantineService = true → g.checked = true)
  | .updateBalance account _ => g.account = some account.id
  | _ => True

/-- When an operation may be done; on a failed session a statement does nothing. -/
def permits (w : Wiring) (g : Progress) : Op → Prop
  | .sql _ stmt => g.failed = false → g.permitsStmt w stmt
  | _ => True

/-- The answers that a statement can have. -/
def answersStmt : (s : Stmt) → s.Res → Prop
  | .updateEventStatus event .., row => (row : TransactionEvent).id = event.id
  | _, _ => True

/-- The answers that an operation can have: a failed session refuses every statement. -/
def answers (g : Progress) : (o : Op) → Except Exc o.Res → Prop
  | .sql _ stmt, .ok r => g.failed = false ∧ answersStmt stmt r
  | _, _ => True

end Progress

/-- The logic of the order in which a call takes what it holds. -/
def discipline (w : Wiring) : Logic Op Op.Res Exc Unit Progress where
  exec o _ g r _ g' := g.answers o r ∧ g' = g.after o r
  pre o _ g := g.permits w o
  rely _ _ _ := True
  rely_refl _ _ := trivial
  rely_trans _ _ := trivial

/-- From the progress `g`, the program keeps the order and ends in `Q`. -/
def Disciplined {α : Type} (w : Wiring) (p : Py α) (Q : Except Exc α → Progress → Prop) (g : Progress) : Prop :=
  (discipline w).wp p (fun r _ => Q r) () g

/-! ## Rules -/

section Rules

variable {α β : Type} {w : Wiring} {p : Py α} {g : Progress}

theorem Disciplined.call {o : Op} {Q : Except Exc o.Res → Progress → Prop} (hpre : g.permits w o)
    (h : ∀ r, g.answers o r → Q r (g.after o r)) : Disciplined w (.call o) Q g := by
  refine Logic.wp_call fun _ _ => ⟨hpre, ?_⟩
  rintro r _ g' ⟨ha, rfl⟩ _ _
  exact h r ha

theorem Disciplined.bind {f : α → Py β} {P : Except Exc α → Progress → Prop} {Q : Except Exc β → Progress → Prop}
    (hp : Disciplined w p P g) (hok : ∀ a g, P (.ok a) g → Disciplined w (f a) Q g)
    (herr : ∀ x g, P (.error x) g → Q (.error x) g) : Disciplined w (p >>= f) Q g :=
  Logic.wp_bind hp (fun a _ g h => hok a g h) (fun x _ g h => herr x g h)

theorem Disciplined.handle {f : Except Exc α → Py β} {P : Except Exc α → Progress → Prop}
    {Q : Except Exc β → Progress → Prop} (hp : Disciplined w p P g)
    (hf : ∀ r g, P r g → Disciplined w (f r) Q g) : Disciplined w (p.handle f) Q g :=
  Logic.wp_handle hp fun r _ g h => hf r g h

theorem Disciplined.mono {P Q : Except Exc α → Progress → Prop} (hp : Disciplined w p P g)
    (h : ∀ r g, P r g → Q r g) : Disciplined w p Q g :=
  Logic.wp_mono hp fun r _ g hr => h r g hr

theorem Disciplined.lift {r : Except Exc α} {Q : Except Exc α → Progress → Prop} (h : Q r g) :
    Disciplined w (.lift r) Q g :=
  Logic.wp_lift.mpr fun _ _ => h

/-- The operation ends the transaction. -/
def Op.endsTransaction : Op → Bool
  | .commit _ | .rollback => true
  | _ => false

/-- The operation takes nothing and needs nothing. -/
def Op.neutral : Op → Bool
  | .commit _ | .rollback => false
  | .sql _ (.insertRecord ..) | .sql _ (.selectAccountForUpdate _) | .sql _ (.selectActiveQuarantine ..)
  | .sql _ (.selectEventForUpdate _) | .sql _ (.insertEvent ..) | .sql _ (.insertLedger ..)
  | .sql _ (.updateBalance ..) => false
  | _ => true

/-- The operation takes nothing, and no other operation of the program does. -/
def Neutral (p : Py α) : Prop := p.All fun o _ => o.neutral = true

/-- The program stays in its transaction. -/
def Inner (p : Py α) : Prop := p.All fun o _ => o.endsTransaction = false

theorem Op.neutral_inner {o : Op} (h : o.neutral = true) : o.endsTransaction = false := by
  cases o <;> first | rfl | cases h

theorem Progress.permits_neutral {o : Op} (h : o.neutral = true) : g.permits w o := by
  cases o with
  | sql site stmt => cases stmt <;> first | exact fun _ => trivial | cases h
  | _ => trivial

theorem Progress.after_error (g : Progress) (site : Site) (stmt : Stmt) (x : Exc) :
    g.after (.sql site stmt) (.error x) = g ∨ g.after (.sql site stmt) (.error x) = { failed := true } := by
  by_cases hx : x = nulRefused ∧ stmt.flushes = false
  · exact Or.inl (if_pos hx)
  · exact Or.inr (if_neg hx)

theorem Progress.after_neutral {o : Op} (h : o.neutral = true) (r : Except Exc o.Res) :
    g.after o r = g ∨ (g.after o r).failed = true := by
  cases o with
  | sql site stmt =>
      cases r with
      | error x => exact (g.after_error site stmt x).imp_right fun hx => congrArg Progress.failed hx
      | ok r => cases stmt <;> first | exact Or.inl rfl | cases h
  | commit _ => cases h
  | rollback => cases h
  | _ => exact Or.inl rfl

/-- On a failed session nothing is taken any more. -/
theorem Disciplined.failed (hp : Inner p) (hg : g.failed = true) :
    Disciplined w p (fun _ g => g.failed = true) g := by
  induction p generalizing g with
  | ret a => exact fun _ _ => hg
  | raise x => exact fun _ _ => hg
  | op o k ih =>
      intro _ _
      have hpre : g.permits w o := by
        cases o with
        | sql site stmt => exact fun hf => by rw [hg] at hf; cases hf
        | _ => trivial
      refine ⟨hpre, ?_⟩
      rintro r _ g' ⟨ha, rfl⟩
      refine ih r (hp.2 r) ?_
      have hin := hp.1
      cases o with
      | sql site stmt =>
          cases r with
          | error x => rcases g.after_error site stmt x with hx | hx <;> rw [hx]; exact hg
          | ok r =>
              have hf : g.failed = false := ha.1
              rw [hg] at hf
              cases hf
      | commit _ => cases hin
      | rollback => cases hin
      | _ => exact hg

/-- A program that takes nothing leaves the progress as it is, unless the session fails. -/
theorem Disciplined.neutral (hp : Neutral p) : Disciplined w p (fun _ g' => g' = g ∨ g'.failed = true) g := by
  induction p with
  | ret a => exact fun _ _ => Or.inl rfl
  | raise x => exact fun _ _ => Or.inl rfl
  | op o k ih =>
      intro _ _
      refine ⟨Progress.permits_neutral hp.1, ?_⟩
      rintro r _ g' ⟨_, rfl⟩
      rcases Progress.after_neutral (g := g) hp.1 r with hg | hg
      · rw [hg]
        exact ih r (hp.2 r)
      · refine Disciplined.mono (Disciplined.failed ?_ hg) fun _ _ h => Or.inr h
        exact (hp.2 r).mono fun o _ ho => Op.neutral_inner ho

end Rules

/-! ## Programs that take nothing -/

/-- The operation reads the record of a key in `check_or_start`. -/
def Op.checks : Op → Bool
  | .sql .checkOrStart (.selectRecord _) => true
  | _ => false

/-- The operation takes nothing and is no check of a key. -/
def Op.passive (o : Op) : Bool := o.neutral && !o.checks

theorem Op.passive_cases {o : Op} (h : o.passive = true) : o.neutral = true ∧ o.checks = false := by
  simpa [Op.passive] using h

/-- All operations of the program are passive. -/
def Passive {α : Type} (p : Py α) : Prop := p.All fun o _ => o.passive = true

section Passive

variable {α : Type} {p : Py α}

theorem Passive.neutral (h : Passive p) : Neutral p := h.mono fun _ _ ho => (Op.passive_cases ho).1

theorem Passive.call {o : Op} (h : o.passive = true) : Passive (.call o) := Prog.Each.call h

theorem getExistingRecord_passive {site : Site} (hs : site ≠ .checkOrStart) (key : String) :
    Passive (IdempotencyService.getExistingRecord site key) := by
  refine Prog.Each.bind (Passive.call ?_) fun r => ?_
  · cases site <;> first | rfl | exact absurd rfl hs
  · cases r <;> trivial

theorem closeProcessing_passive {svc : Service} {site : Site} {key : String} {payload : Option Json}
    {requestHash : Option String} {attempted : IdempotencyStatus}
    {mark : IdempotencyRecord → Time → Py IdempotencyRecord} (hs : site ≠ .checkOrStart)
    (hm : ∀ r t, Passive (mark r t)) :
    Passive (IdempotencyService.closeProcessing svc site key payload requestHash attempted mark) := by
  refine Prog.Each.bind (getExistingRecord_passive hs key) fun record => Prog.Each.bind (Prog.Each.lift _) fun _ => ?_
  split
  · trivial
  · exact Prog.Each.bind (Prog.Each.lift _) fun _ => Prog.Each.bind (Passive.call rfl) fun t => hm record t

theorem complete_passive (svc : Service) (key : String) (code : Nat) (body payload : Json) :
    Passive (svc.complete key code body payload) := by
  have hplain : ∀ h, Passive (IdempotencyService.complete svc key code (some body) (some payload) h) := fun h =>
    closeProcessing_passive (by decide) fun _ _ => Passive.call rfl
  unfold Service.complete
  split
  · exact Prog.Each.bind (hplain none) fun _ => Prog.Each.bind (Passive.call rfl) fun _ => trivial
  · exact hplain none

theorem fail_passive (svc : Service) (key : String) (code : Nat) (body : Json) (message : String) (payload : Json) :
    Passive (svc.fail key code body message payload) :=
  closeProcessing_passive (by decide) fun _ _ => Passive.call rfl

theorem changeStatus_passive {site : Site} (event : TransactionEvent) (next : TransactionStatus)
    (reason : Option String) : Passive (TransactionStateService.changeStatus site event next reason) := by
  refine Prog.Each.bind (Prog.Each.lift _) fun _ => Passive.call ?_
  cases site <;> rfl

theorem onFailure_passive (svc : Service) (key : String) (payload : Json) (exc : Exc) :
    Passive (onFailure svc key payload exc) := by
  refine Prog.Each.bind ?_ fun _ => Prog.Each.bind (fail_passive _ _ _ _ _ _) fun _ => ?_
  · unfold markFailedIfDomain
    split
    · refine Prog.Each.bind (Passive.call rfl) fun event => ?_
      cases event with
      | none => trivial
      | some event =>
          dsimp only
          split
          · trivial
          · exact Prog.Each.handle (changeStatus_passive _ _ _) fun _ => trivial
    · trivial
  · split <;> trivial

end Passive

/-! ## The order of `process` -/

/-- A postcondition for a value that is returned. -/
def Returns {α : Type} (Q : α → Progress → Prop) : Except Exc α → Progress → Prop
  | .ok a, g => Q a g
  | .error _, _ => True

section Process

variable {α β : Type} {w : Wiring} {g : Progress} {p : Py α}

theorem Disciplined.step {o : Op} {Q : o.Res → Progress → Prop} (hpre : g.permits w o)
    (h : ∀ a, g.answers o (.ok a) → Q a (g.after o (.ok a))) : Disciplined w (.call o) (Returns Q) g := by
  refine Disciplined.call hpre fun r ha => ?_
  cases r with
  | ok a => exact h a ha
  | error x => trivial

theorem Disciplined.andThen {f : α → Py β} {P : α → Progress → Prop} {Q : β → Progress → Prop}
    (hp : Disciplined w p (Returns P) g) (hok : ∀ a g, P a g → Disciplined w (f a) (Returns Q) g) :
    Disciplined w (p >>= f) (Returns Q) g :=
  Disciplined.bind hp hok fun _ _ _ => trivial

/-- A computation without operations. -/
theorem Disciplined.value {r : Except Exc α} {Q : α → Progress → Prop} (h : ∀ a, r = .ok a → Q a g) :
    Disciplined w (.lift r) (Returns Q) g := by
  refine Disciplined.lift ?_
  cases r with
  | ok a => exact h a rfl
  | error x => trivial

theorem Disciplined.passive (hp : Passive p) : Disciplined w p (Returns fun _ _ => True) g := by
  refine Disciplined.mono (Disciplined.neutral hp.neutral) fun r _ _ => ?_
  cases r <;> trivial

/-- The transaction has locked nothing and inserted no event. -/
structure Progress.Unlocked (g : Progress) : Prop where
  account : g.account = none
  checked : g.checked = false
  original : g.original = false
  event : g.event = none

theorem Progress.unlocked_record (b : Bool) : ({ record := b } : Progress).Unlocked := ⟨rfl, rfl, rfl, rfl⟩

theorem idempotency_checkOrStart_disciplined (svc : Service) (key : String) (payload : Json) :
    Disciplined w (IdempotencyService.checkOrStart svc key payload) (Returns fun _ g => g.Unlocked) {} := by
  have hclock : Disciplined w Py.utcNow (Returns fun _ g => g = {}) {} := Disciplined.step trivial fun _ _ => rfl
  have hread : Disciplined w (IdempotencyRecordRepository.getByKey .checkOrStart key) (Returns fun _ g => g = {}) {} :=
    Disciplined.step (fun _ => trivial) fun _ _ => rfl
  refine Disciplined.andThen hclock ?_
  rintro t _ rfl
  refine Disciplined.andThen hread ?_
  rintro r _ rfl
  cases r with
  | none =>
      have hinsert : ∀ e u, Disciplined w (IdempotencyRecordRepository.createProcessing .checkOrStart key
          (generateRequestHash svc.sha256 payload) e u) (Returns fun _ g => g = { record := true }) {} := fun e u =>
        Disciplined.step (fun _ => rfl) fun _ _ => rfl
      refine Disciplined.andThen (hinsert _ _) ?_
      rintro record _ rfl
      exact Disciplined.value (r := .ok _) fun _ _ => Progress.unlocked_record true
  | some r => exact Disciplined.value fun _ _ => Progress.unlocked_record false

/-- The cache takes nothing from the database. -/
theorem checkOrStart_disciplined (svc : Service) (key : String) (payload : Json) :
    Disciplined w (svc.checkOrStart key payload) (Returns fun _ g => g.Unlocked) {} := by
  have hplain := idempotency_checkOrStart_disciplined (w := w) svc key payload
  have hdb : Disciplined w (CachedIdempotencyService.checkOrStartFromDb svc key payload)
      (Returns fun _ g => g.Unlocked) {} := by
    refine Disciplined.andThen hplain fun result g hg => ?_
    split
    · have hset : ∀ response, Disciplined w (.call (.cacheSet .checkOrStart (idempotencyCacheKey svc key) response))
          (Returns fun _ g => g.Unlocked) g := fun _ => Disciplined.step trivial fun _ _ => hg
      exact Disciplined.andThen (hset _) fun _ g hg => Disciplined.value (r := .ok _) fun _ _ => hg
    · exact Disciplined.value (r := .ok _) fun _ _ => hg
  unfold Service.checkOrStart
  split
  · have hget : Disciplined w (Py.cacheGet (idempotencyCacheKey svc key)) (Returns fun _ g => g = {}) {} :=
      Disciplined.step trivial fun _ _ => rfl
    refine Disciplined.andThen hget ?_
    rintro cached _ rfl
    cases cached with
    | none => exact hdb
    | some cached =>
        dsimp only
        split
        · exact Disciplined.value (r := .ok _) fun _ _ => Progress.unlocked_record false
        · exact hdb
  · exact hplain

/-- The account is locked, and found free of quarantine where that is checked. -/
structure Progress.Secured (w : Wiring) (account : Account) (g : Progress) : Prop where
  account : g.account = some account.id
  checked : w.quarantineService = true → g.checked = true
  event : g.event = none

theorem changeStatus_disciplined {site : Site} {event : TransactionEvent} (next : TransactionStatus)
    (reason : Option String) :
    Disciplined w (TransactionStateService.changeStatus site event next reason)
      (Returns fun row g' => row.id = event.id ∧ g' = g) g := by
  refine Disciplined.andThen (P := fun _ g' => g' = g) (Disciplined.value fun _ _ => rfl) ?_
  rintro _ _ rfl
  exact Disciplined.step (fun _ => trivial) fun row hrow => ⟨hrow.2, rfl⟩

/-- The ledger entry is that of the call's own event on the account it has secured. -/
theorem runEvent_disciplined {account : Account} {event : TransactionEvent} (original : Option TransactionEvent)
    (ha : g.account = some account.id) (hq : w.quarantineService = true → g.checked = true)
    (he : g.event = some event.id) :
    Disciplined w (runEvent account event original) (Returns fun _ _ => True) g := by
  refine Disciplined.andThen (changeStatus_disciplined _ _) ?_
  rintro event₁ g ⟨hid₁, rfl⟩
  refine Disciplined.andThen (changeStatus_disciplined _ _) ?_
  rintro event₂ g ⟨hid₂, rfl⟩
  have hledger : Disciplined w (LedgerService.applyEvent account event₂ original) (Returns fun _ _ => True) g := by
    refine Disciplined.andThen (P := fun _ g' => g' = g) (Disciplined.value fun _ _ => rfl) ?_
    rintro ⟨amount, newBalance⟩ g rfl
    refine Disciplined.andThen (P := fun _ g' => g' = g) (Disciplined.step (fun _ => ?_) fun _ _ => rfl) ?_
    · exact ⟨by rw [he, hid₂, hid₁], ha, hq⟩
    · rintro ledger g rfl
      exact Disciplined.andThen (P := fun _ _ => True) (Disciplined.step (fun _ => ha) fun _ _ => trivial)
        fun _ _ _ => Disciplined.value (r := .ok _) fun _ _ => trivial
  refine Disciplined.andThen hledger fun ledger g' _ => Disciplined.passive ?_
  split
  · exact Prog.Each.bind (changeStatus_passive _ _ _) fun _ => Prog.Each.bind (changeStatus_passive _ _ _) fun _ => trivial
  · exact Prog.Each.bind (changeStatus_passive _ _ _) fun _ => trivial

theorem checkQuarantine_disciplined (svc : Service) (account : Account) (ha : g.account = some account.id)
    (hc : g.checked = false) :
    Disciplined svc.toWiring (checkQuarantine svc account)
      (Returns fun _ g' => g'.account = g.account ∧ g'.original = g.original ∧ g'.event = g.event ∧
        (svc.quarantineService = true → g'.checked = true)) g := by
  unfold checkQuarantine
  split
  · have hread : Disciplined svc.toWiring (QuarantineRepository.getActive "ACCOUNT" (toString account.id))
        (Returns fun q g' => q = none → g' = { g with checked := true }) g :=
      Disciplined.step (fun _ => ⟨rfl, hc, account.id, ha, rfl⟩) fun q _ hq => by subst hq; rfl
    refine Disciplined.andThen hread fun q g' hg => ?_
    cases q with
    | none =>
        refine Disciplined.value (r := .ok _) fun _ _ => ?_
        rw [hg rfl]
        exact ⟨rfl, rfl, rfl, fun _ => rfl⟩
    | some q => exact Disciplined.value (r := .error _) fun _ h => by cases h
  · rename_i hoff
    exact Disciplined.value (r := .ok _) fun _ _ => ⟨rfl, rfl, rfl, fun hon => absurd hon hoff⟩

/-- Locking the original changes nothing else. -/
theorem getOriginalEventForCancel_disciplined (request : TransactionEventCreateRequest) (ho : g.original = false)
    (he : g.event = none) :
    Disciplined w (getOriginalEventForCancel request)
      (Returns fun _ g' => g'.account = g.account ∧ g'.checked = g.checked ∧ g'.event = none) g := by
  unfold getOriginalEventForCancel
  split
  · exact Disciplined.value (r := .ok _) fun _ _ => ⟨rfl, rfl, he⟩
  · split
    · exact Disciplined.value (r := .error _) fun _ h => by cases h
    · rename_i original _
      have hread : Disciplined w (TransactionEventRepository.getOriginalForCancelForUpdate original)
          (Returns fun _ g' => g'.account = g.account ∧ g'.checked = g.checked ∧ g'.event = none) g := by
        have hquery : Disciplined w (Py.sql .applyStartedRequest (.selectEventForUpdate original))
            (Returns fun _ g' => g'.account = g.account ∧ g'.checked = g.checked ∧ g'.event = none) g := by
          refine Disciplined.step (fun _ => ⟨ho, he⟩) fun e _ => ?_
          cases e <;> exact ⟨rfl, rfl, he⟩
        exact Disciplined.andThen hquery fun _ _ hg => Disciplined.value fun _ _ => hg
      refine Disciplined.andThen hread fun e g' hg => ?_
      cases e with
      | none => exact Disciplined.value (r := .error _) fun _ h => by cases h
      | some e => exact Disciplined.value (r := .ok _) fun _ _ => hg

/-- The new event comes last, and then what is done to it. -/
theorem createReceived_disciplined {account : Account} (original : Option TransactionEvent)
    (key : String) (request : TransactionEventCreateRequest) (hs : g.Secured w account) :
    Disciplined w (do
      let event ← TransactionEventRepository.createReceived request.externalEventId key account.id
        request.eventType request.amount request.currency request.occurredAt
      Prog.call (Op.setActiveEvent (some event))
      runEvent account event original) (Returns fun _ _ => True) g := by
  have hinsert : Disciplined w (TransactionEventRepository.createReceived request.externalEventId key account.id
      request.eventType request.amount request.currency request.occurredAt)
      (Returns fun event g' => g' = { g with event := some event.id }) g :=
    Disciplined.step (fun _ => hs.event) fun _ _ => rfl
  refine Disciplined.andThen hinsert ?_
  rintro event _ rfl
  have hset : Disciplined w (.call (.setActiveEvent (some event)))
      (Returns fun _ g' => g' = { g with event := some event.id }) { g with event := some event.id } :=
    Disciplined.step trivial fun _ _ => rfl
  refine Disciplined.andThen hset ?_
  rintro _ _ rfl
  exact runEvent_disciplined original hs.account hs.checked rfl

theorem applyStartedRequest_disciplined (svc : Service) (key : String) (request : TransactionEventCreateRequest)
    (hg : g.Unlocked) :
    Disciplined svc.toWiring (applyStartedRequest svc key request) (Returns fun _ _ => True) g := by
  have hlock : Disciplined svc.toWiring (AccountRepository.getByAccountNoForUpdate request.accountNo)
      (Returns fun a g' => ∀ account, a = some account → g' = { g with account := some account.id }) g := by
    refine Disciplined.step (fun _ => ⟨hg.account, hg.checked, hg.original, hg.event⟩) fun a _ account ha => ?_
    subst ha
    rfl
  refine Disciplined.andThen hlock fun a g₁ hg₁ => ?_
  cases a with
  | none => exact Disciplined.value (r := .error _) fun _ h => by cases h
  | some account =>
      have hg₁ := hg₁ account rfl
      have hcheck := checkQuarantine_disciplined (g := g₁) svc account (by rw [hg₁]) (by rw [hg₁]; exact hg.checked)
      refine Disciplined.andThen hcheck fun _ g₂ h₂ => ?_
      have hread : Disciplined svc.toWiring (TransactionEventRepository.getByExternalEventId request.externalEventId)
          (Returns fun _ g' => g' = g₂) g₂ :=
        Disciplined.andThen (P := fun _ g' => g' = g₂) (Disciplined.step (fun _ => trivial) fun _ _ => rfl)
          fun _ _ hg => Disciplined.value fun _ _ => hg
      refine Disciplined.andThen hread ?_
      rintro existing g₂ rfl
      obtain ⟨ha, ho, he, hq⟩ := h₂
      rw [hg₁] at ha ho he
      cases existing with
      | some existing =>
          refine Disciplined.passive (Prog.Each.bind (Prog.Each.lift _) fun _ => ?_)
          refine Prog.Each.bind (Passive.call rfl) fun ledger => ?_
          cases ledger <;> trivial
      | none =>
          have horig := getOriginalEventForCancel_disciplined (w := svc.toWiring) request
            (ho.trans hg.original) (he.trans hg.event)
          refine Disciplined.andThen horig fun original g₃ h₃ => ?_
          refine createReceived_disciplined original key request ⟨?_, fun hon => ?_, h₃.2.2⟩
          · rw [h₃.1, ha]
          · rw [h₃.2.1, hq hon]

theorem processStarted_disciplined (svc : Service) (key : String) (request : TransactionEventCreateRequest)
    (payload : Json) (hg : g.Unlocked) :
    Disciplined svc.toWiring (processStarted svc key request payload) (fun _ _ => True) g := by
  have hneutral : ∀ {α : Type} {p : Py α} {g : Progress}, Passive p → Disciplined svc.toWiring p (fun _ _ => True) g :=
    fun hp => Disciplined.mono (Disciplined.neutral hp.neutral) fun _ _ _ => trivial
  have htry : Disciplined svc.toWiring (do
      Prog.call (Op.setActiveEvent none)
      let result ← applyStartedRequest svc key request
      let _ ← svc.complete key result.statusCode (.obj result.body) payload
      pure result) (Returns fun _ _ => True) g := by
    refine Disciplined.andThen (P := fun _ g => g.Unlocked) (Disciplined.step trivial fun _ _ => hg) fun _ g hg => ?_
    refine Disciplined.andThen (applyStartedRequest_disciplined svc key request hg) fun result g _ => ?_
    exact Disciplined.passive (Prog.Each.bind (complete_passive _ _ _ _ _) fun _ => trivial)
  refine Disciplined.handle (P := fun _ _ => True) (Disciplined.handle htry fun r g _ => ?_) fun r g _ => ?_
  · cases r with
    | ok result => exact Disciplined.lift (r := .ok result) trivial
    | error x => exact hneutral (onFailure_passive svc key payload x)
  · refine hneutral (Prog.Each.handle (Passive.call rfl) fun u => ?_)
    cases u with
    | ok _ => exact Prog.Each.lift r
    | error x => trivial

theorem attemptBody_disciplined (svc : Service) (key : String) (request : TransactionEventCreateRequest) :
    Disciplined svc.toWiring (attemptBody svc key request) (fun _ _ => True) {} := by
  refine Disciplined.bind (checkOrStart_disciplined svc key _) (fun idem g hg => ?_) fun _ _ _ => trivial
  split
  · exact Disciplined.lift (r := .ok _) trivial
  · exact Disciplined.lift trivial
  · exact Disciplined.lift trivial
  · exact processStarted_disciplined svc key request _ hg

theorem rollback_disciplined (x : Exc) :
    Disciplined w (do Prog.call Op.rollback; throw x : Py α) (fun _ g => g = {}) g :=
  Disciplined.bind (P := fun _ g => g = {}) (Disciplined.call trivial fun _ _ => rfl)
    (fun _ _ h => Disciplined.lift (r := .error x) h) fun _ _ h => h

/-- Whatever the body has taken, the commit or the rollback gives it back. -/
theorem withBegin_disciplined {body : Py TransactionProcessingResult} (hb : Disciplined w body (fun _ _ => True) g) :
    Disciplined w (withBegin body) (fun _ g => g = {}) g := by
  refine Disciplined.handle hb fun r g _ => ?_
  cases r with
  | error x => exact rollback_disciplined x
  | ok reply =>
      have hcommit : Disciplined w (Prog.call (Op.commit reply)) (Returns fun _ g => g = {}) g :=
        Disciplined.step trivial fun _ _ => rfl
      refine Disciplined.bind (P := fun _ g => g = {}) (Disciplined.handle hcommit fun r g hr => ?_)
        (fun _ _ h => Disciplined.lift (r := .ok reply) h) fun _ _ h => h
      cases r with
      | ok u => exact Disciplined.lift (r := .ok u) hr
      | error x => exact rollback_disciplined x

theorem attempts_disciplined (svc : Service) (key : String) (request : TransactionEventCreateRequest) (ns : List Nat) :
    Disciplined svc.toWiring (attempts svc key request ns) (fun _ _ => True) {} := by
  induction ns with
  | nil => exact Disciplined.lift (r := .error _) trivial
  | cons n ns ih =>
      refine Disciplined.handle (withBegin_disciplined (attemptBody_disciplined svc key request)) fun r g _ => ?_
      have hroll : ∀ {g : Progress}, Disciplined svc.toWiring (Prog.call Op.rollback) (fun _ g => g = {}) g :=
        Disciplined.call trivial fun _ _ => rfl
      cases r with
      | ok reply => exact Disciplined.lift (r := .ok reply) trivial
      | error x =>
          dsimp only
          split
          · refine Disciplined.bind hroll (fun _ g hg => ?_) fun _ _ _ => trivial
            split
            · exact Disciplined.lift (r := .error _) trivial
            · have hretry : Disciplined svc.toWiring (Prog.call Op.recordRetry) (fun _ g => g = {}) g :=
                Disciplined.call trivial fun _ _ => hg
              refine Disciplined.bind hretry ?_ fun _ _ _ => trivial
              rintro _ _ rfl
              exact ih
          · exact Disciplined.mono (rollback_disciplined _) fun _ _ _ => trivial

/-- **A call takes its record, its account, its original and its event in this order, in both of its attempts, and
writes to the ledger only what is its own and checked.** -/
theorem process_disciplined (svc : Service) (key : String) (request : TransactionEventCreateRequest) :
    Disciplined svc.toWiring (process svc key request) (fun _ _ => True) {} := by
  have hrun := attempts_disciplined svc key request [0, 1]
  unfold process
  split
  · have hlock : Disciplined svc.toWiring (Py.lockAcquire (idempotencyLockKey svc key)) (fun _ g => g = {}) {} :=
      Disciplined.call trivial fun _ _ => rfl
    refine Disciplined.bind hlock ?_ fun _ _ _ => trivial
    rintro lockResult _ rfl
    split
    · exact Disciplined.lift (r := .ok _) trivial
    · refine Disciplined.handle hrun fun r g _ => ?_
      refine Disciplined.mono (Disciplined.neutral (Prog.Each.handle ?_ fun u => ?_)) fun _ _ _ => trivial
      · unfold releaseLock
        split
        · exact Prog.Each.call rfl
        · trivial
      · cases u with
        | ok _ => exact Prog.Each.lift r
        | error x => trivial
  · exact hrun

end Process

/-! ## What the session holds -/

/-- The session holds what its progress says. -/
structure Tracks (g : Progress) (l : Session) : Prop where
  failed : g.failed = l.failed
  gone : g.failed = true → g = { failed := true }
  record : g.record = false → l.work.records.inserted = []
  account : l.accountLocks = g.account.toList
  original : g.original = false → l.eventLocks = []
  event : l.eventIds = g.event.toList
  ledger : ∀ r ∈ l.work.ledger.inserted, g.event = some r.transactionEventId ∧ g.account = some r.accountId ∧
    (l.wiring.quarantineService = true → g.checked = true)

section Tracks

variable {g : Progress} {l l' : Session} {sh sh' : Shared}

/-- A session that has given everything back. -/
theorem Tracks.empty {b : Bool} (hf : l.failed = b) (hw : l.work = {}) (ha : l.accountLocks = [])
    (he : l.eventLocks = []) : Tracks { failed := b } l where
  failed := hf.symm
  gone h := by rw [show b = true from h]
  record _ := by rw [hw]
  account := ha
  original _ := he
  event := by simp [Session.eventIds, hw]
  ledger r hr := by simp [hw] at hr

theorem Tracks.fail (l : Session) (site : Site) (x : Exc) : Tracks { failed := true } (l.fail site x) :=
  Tracks.empty rfl rfl rfl rfl

theorem Tracks.begin (h : Tracks g l) (clock : Time) : Tracks g (l.begin clock) := { h with }

theorem update_inserted_ids {α : Type} [Row α] (d : Delta α) (r : α) :
    (d.update r).inserted.map Row.rowId = d.inserted.map Row.rowId := by
  unfold Delta.update
  split
  · rw [List.map_map]
    refine List.map_congr_left fun u _ => ?_
    by_cases hid : Row.rowId u = Row.rowId r
    · simp [hid]
    · simp [hid]
  · rfl

/-- A refused statement. -/
theorem Progress.after_refused {site : Site} {stmt : Stmt} {x : Exc} (h : x ≠ nulRefused ∨ stmt.flushes = true) :
    g.after (.sql site stmt) (.error x) = { failed := true } := by
  refine if_neg ?_
  rintro ⟨hx, hf⟩
  rcases h with h | h
  · exact h hx
  · rw [hf] at h
    cases h

/-- PostgreSQL never answers as psycopg2 does. -/
theorem runStmt_ne_nulRefused {stmt : Stmt} {x : Exc} (h : EventConsistency.runStmt stmt sh l = .error x) :
    x ≠ nulRefused := by
  rintro rfl
  unfold EventConsistency.runStmt at h
  repeat' split at h
  all_goals cases h

/-- A statement that psycopg2 does not send. -/
theorem Tracks.unsent (h : Tracks g l) (site : Site) (stmt : Stmt) :
    Tracks (g.after (.sql site stmt) (.error nulRefused)) (l.unsent site stmt) := by
  unfold Session.unsent
  cases hf : stmt.flushes with
  | true =>
      rw [Progress.after_refused (Or.inr hf)]
      exact Tracks.fail l site _
  | false =>
      have hsame : g.after (.sql site stmt) (.error nulRefused) = g := if_pos ⟨rfl, hf⟩
      rw [hsame]
      exact h

/-- On a healthy session nothing has failed. -/
theorem Tracks.alive {P : Prop} (h : Tracks g l) (hok : l.failed = false) (hx : g.failed = true) : P := by
  rw [h.failed.trans hok] at hx
  cases hx

/-! One lemma for each statement that gets the transaction further. -/

theorem insertRecord_tracks {key hash : String} {e u : Time} {r : IdempotencyRecord} (h : Tracks g l)
    (hok : l.failed = false) (hrun : runStmt (.insertRecord key hash e u) sh l = .ok (r, sh', l')) :
    Tracks (g.afterStmt (.insertRecord key hash e u) r) l' := by
  simp only [runStmt] at hrun
  split at hrun
  · cases hrun
  · cases hrun
    exact { h with gone := fun hx => h.alive hok hx, record := fun hx => by cases hx }

theorem updateRecord_tracks {record r : IdempotencyRecord} (h : Tracks g l)
    (hrun : runStmt (.updateRecord record) sh l = .ok (r, sh', l')) : Tracks (g.afterStmt (.updateRecord record) r) l' := by
  cases hrun
  refine { h with record := fun hx => ?_ }
  simp [Delta.update, h.record hx]

theorem selectAccountForUpdate_tracks {no : String} {r : Option Account} (h : Tracks g l) (hok : l.failed = false)
    (hpre : g.permitsStmt l.wiring (.selectAccountForUpdate no))
    (hrun : runStmt (.selectAccountForUpdate no) sh l = .ok (r, sh', l')) :
    Tracks (g.afterStmt (.selectAccountForUpdate no) r) l' := by
  simp only [runStmt] at hrun
  split at hrun
  · cases hrun; exact h
  · cases hrun
    obtain ⟨hacc, _, _, hev⟩ := hpre
    refine { h with gone := fun hx => h.alive hok hx, account := ?_, ledger := fun r hr => ?_ }
    · simp [Progress.afterStmt, h.account, hacc]
    · have hevent := (h.ledger r hr).1
      rw [hev] at hevent
      cases hevent

theorem selectActiveQuarantine_tracks {t i : String} {r : Option QuarantineRecord} (h : Tracks g l)
    (hok : l.failed = false) (hrun : runStmt (.selectActiveQuarantine t i) sh l = .ok (r, sh', l')) :
    Tracks (g.afterStmt (.selectActiveQuarantine t i) r) l' := by
  cases hrun
  cases hq : sh.db.activeQuarantine t i with
  | some q => exact h
  | none =>
      exact { h with
        gone := fun hx => h.alive hok hx
        ledger := fun r hr => ⟨(h.ledger r hr).1, (h.ledger r hr).2.1, fun _ => rfl⟩ }

theorem selectEventForUpdate_tracks {x : String} {r : Option TransactionEvent} (h : Tracks g l)
    (hok : l.failed = false) (hrun : runStmt (.selectEventForUpdate x) sh l = .ok (r, sh', l')) :
    Tracks (g.afterStmt (.selectEventForUpdate x) r) l' := by
  simp only [runStmt] at hrun
  split at hrun
  · cases hrun; exact h
  · cases hrun
    exact { h with gone := fun hx => h.alive hok hx, original := fun hx => by cases hx }

theorem insertEvent_tracks {x key currency : String} {account : Nat} {type : EventType} {amount : Int}
    {occurredAt : Datetime} {r : TransactionEvent} (h : Tracks g l) (hok : l.failed = false) (hev : g.event = none)
    (hrun : runStmt (.insertEvent x key account type amount currency occurredAt) sh l = .ok (r, sh', l')) :
    Tracks (g.afterStmt (.insertEvent x key account type amount currency occurredAt) r) l' := by
  simp only [runStmt] at hrun
  split at hrun
  · cases hrun
  · split at hrun
    · cases hrun
    · cases hrun
      refine { h with gone := fun hx => h.alive hok hx, event := ?_, ledger := fun r hr => ?_ }
      · have hids := h.event
        rw [hev] at hids
        have hnone : l.work.events.inserted = [] := List.map_eq_nil_iff.mp hids
        simp [Session.eventIds, Delta.insert, hnone, Progress.afterStmt]
      · have hevent := (h.ledger r hr).1
        rw [hev] at hevent
        cases hevent

/-- An original that has not been locked is no event of the transaction, so the row is its own. -/
theorem updateEventStatus_tracks {event r : TransactionEvent} {status : TransactionStatus} {reason : Option String}
    (h : Tracks g l) (howes : Stmt.owes (.updateEventStatus event status reason) l)
    (hrun : runStmt (.updateEventStatus event status reason) sh l = .ok (r, sh', l')) :
    Tracks (g.afterStmt (.updateEventStatus event status reason) r) l' := by
  cases hrun
  refine { h with original := fun hx => ?_, event := ?_ }
  · have hnone := h.original hx
    have hown : event.id ∈ l.eventIds := howes.2.resolve_right (by simp [hnone])
    have hany : l.work.events.inserted.any (fun e => e.id == event.id) = true := by
      obtain ⟨e, he, hid⟩ := List.mem_map.mp hown
      exact List.any_eq_true.mpr ⟨e, he, beq_iff_eq.mpr hid⟩
    simp [hany, hnone]
  · exact (update_inserted_ids l.work.events _).trans h.event

theorem insertLedger_tracks {eventId accountId : Nat} {type : EntryType} {amount balance : Int} {r : LedgerEntry}
    (h : Tracks g l) (hpre : g.permitsStmt l.wiring (.insertLedger eventId accountId type amount balance))
    (hrun : runStmt (.insertLedger eventId accountId type amount balance) sh l = .ok (r, sh', l')) :
    Tracks (g.afterStmt (.insertLedger eventId accountId type amount balance) r) l' := by
  simp only [runStmt] at hrun
  split at hrun
  · cases hrun
  · split at hrun
    · cases hrun
    · cases hrun
      refine { h with ledger := fun r hr => ?_ }
      rcases List.mem_append.mp hr with hr | hr
      · exact h.ledger r hr
      · rw [List.mem_singleton.mp hr]
        exact hpre

theorem updateBalance_tracks {account r : Account} {balance : Int} (h : Tracks g l) (hacc : g.account = some account.id)
    (hrun : runStmt (.updateBalance account balance) sh l = .ok (r, sh', l')) :
    Tracks (g.afterStmt (.updateBalance account balance) r) l' := by
  simp only [runStmt] at hrun
  split at hrun
  · cases hrun
  · cases hrun
    refine { h with account := ?_ }
    simp [h.account, hacc, Progress.afterStmt]

/-- An answered statement. -/
theorem Tracks.runStmt {stmt : Stmt} {r : stmt.Res} (h : Tracks g l) (hpre : g.permitsStmt l.wiring stmt)
    (howes : stmt.owes l) (hok : l.failed = false) (hrun : EventConsistency.runStmt stmt sh l = .ok (r, sh', l')) :
    Progress.answersStmt stmt r ∧ Tracks (g.afterStmt stmt r) l' := by
  cases stmt with
  | selectRecord key => cases hrun; exact ⟨trivial, h⟩
  | selectEvent x => cases hrun; exact ⟨trivial, h⟩
  | selectLedger i => cases hrun; exact ⟨trivial, h⟩
  | insertRecord key hash e u => exact ⟨trivial, insertRecord_tracks h hok hrun⟩
  | updateRecord record => exact ⟨trivial, updateRecord_tracks h hrun⟩
  | selectAccountForUpdate no => exact ⟨trivial, selectAccountForUpdate_tracks h hok hpre hrun⟩
  | selectActiveQuarantine t i => exact ⟨trivial, selectActiveQuarantine_tracks h hok hrun⟩
  | selectEventForUpdate x => exact ⟨trivial, selectEventForUpdate_tracks h hok hrun⟩
  | insertEvent x key account type amount currency occurredAt => exact ⟨trivial, insertEvent_tracks h hok hpre hrun⟩
  | updateEventStatus event status reason =>
      refine ⟨?_, updateEventStatus_tracks h howes hrun⟩
      cases hrun
      rfl
  | insertLedger eventId accountId type amount balance => exact ⟨trivial, insertLedger_tracks h hpre hrun⟩
  | updateBalance account balance => exact ⟨trivial, updateBalance_tracks h hpre hrun⟩

/-- **Every operation of a call that keeps the order leaves the session with what its progress says.** -/
theorem Tracks.exec {fault : Bool} {o : Op} {r : Except Exc o.Res} (h : Tracks g l) (hpre : g.permits l.wiring o)
    (howes : ∀ site stmt, o = .sql site stmt → l.failed = false → stmt.owes l)
    (hx : EventConsistency.exec fault o sh l = (r, sh', l')) : g.answers o r ∧ Tracks (g.after o r) l' := by
  cases o with
  | sql site stmt =>
      unfold EventConsistency.exec at hx
      dsimp only at hx
      split at hx
      · rename_i hfail
        cases hx
        refine ⟨trivial, ?_⟩
        have := h
        rw [h.gone (h.failed.trans hfail)] at this
        rw [Progress.after_refused (Or.inl (by decide))]
        exact this
      · rename_i hok
        have hok : l.failed = false := by simpa using hok
        split at hx
        · cases hx
          rw [Progress.after_refused (Or.inl (by decide))]
          exact ⟨trivial, Tracks.fail l site _⟩
        · split at hx
          · cases hx
            exact ⟨trivial, h.unsent site stmt⟩
          · split at hx
            · rename_i r' sh₁ l₁ hrun
              cases hx
              have hstep := (h.begin sh.clock).runStmt (hpre (h.failed.trans hok)) ?_ hok hrun
              · exact ⟨⟨h.failed.trans hok, hstep.1⟩, hstep.2⟩
              · have := howes site stmt rfl hok
                cases stmt <;> exact this
            · rename_i x hrun
              cases hx
              rw [Progress.after_refused (Or.inl (runStmt_ne_nulRefused hrun))]
              exact ⟨trivial, Tracks.fail l site _⟩
  | commit reply =>
      unfold EventConsistency.exec at hx
      dsimp only at hx
      split at hx
      · cases hx
        exact ⟨trivial, Tracks.empty rfl rfl rfl rfl⟩
      · rename_i hok
        split at hx
        · cases hx
          exact ⟨trivial, Tracks.fail l _ _⟩
        · cases hx
          have hok : l.failed = false := by simpa using hok
          exact ⟨trivial, Tracks.empty hok rfl rfl rfl⟩
  | rollback =>
      cases hx
      exact ⟨trivial, Tracks.empty rfl rfl rfl rfl⟩
  | now => cases hx; exact ⟨trivial, h⟩
  | setActiveEvent e => cases hx; exact ⟨trivial, { h with }⟩
  | activeEvent => cases hx; exact ⟨trivial, h⟩
  | recordRetry => cases hx; exact ⟨trivial, { h with }⟩
  | lockAcquire key =>
      unfold EventConsistency.exec at hx
      dsimp only at hx
      split at hx
      · cases hx; exact ⟨trivial, h⟩
      · split at hx <;> cases hx <;> exact ⟨trivial, h⟩
  | lockRelease key token =>
      unfold EventConsistency.exec at hx
      dsimp only at hx
      split at hx <;> cases hx <;> exact ⟨trivial, h⟩
  | cacheGet key =>
      unfold EventConsistency.exec at hx
      dsimp only at hx
      split at hx <;> cases hx <;> exact ⟨trivial, { h with }⟩
  | cacheSet site key response =>
      unfold EventConsistency.exec at hx
      dsimp only at hx
      split at hx <;> cases hx <;> exact ⟨trivial, { h with }⟩

end Tracks

end EventConsistency
