import EventConsistency.Runs

/-!
# A call alone

* `Call.alone` : one call on a database, with nobody else around and any outages;
* `Call.alone_ended` : it ends in one of the ways of `Ended`;
* **`failure_atomicity`** : a refused request leaves its refusal and nothing else, and a call that raises leaves nothing.
-/

namespace EventConsistency

open Lib TransactionEventService

/-- The call alone; `outage n` says whether its `n`-th operation meets an outage. -/
def Call.alone (st : Settings) (call : Call) (outage : Nat → Bool) (sh : Shared) :
    Except Exc TransactionProcessingResult × Shared × Session :=
  (call.program st).run exec outage sh (call.session 0)

section Alone

variable {st : Settings} {opts : Opts} {call : Call} {outage : Nat → Bool} {sh : Shared}

theorem Prog.run_init {α : Type} (p : Py α) (outage : Nat → Bool) (sh : Shared) (l : Session) :
    (p.run exec outage sh l).2.1.init = sh.init := by
  induction p generalizing outage sh l with
  | ret _ => rfl
  | raise _ => rfl
  | op o k ih => exact (ih _ _ _ _).trans (exec_init _ _ _ _)

/-- A call alone ends as any call does. -/
theorem Call.alone_ended (st : Settings) (call : Call) (hd : opts.duplicates = true)
    (ho : ∀ n, outage n = true → opts.outages = true) (h₀ : Initial sh) (ha : Admits opts sh) :
    Ended st opts (call.session 0) (call.alone st outage sh).1 (call.alone st outage sh).2.1
        (call.alone st outage sh).2.2 ∧ (call.alone st outage sh).2.1.init = sh.db := by
  refine ⟨?_, (Prog.run_init _ _ _ _).trans h₀.init_eq⟩
  have hidle : Idle opts (call.session 0) [] 0 sh (call.session 0) :=
    idle_start call (h₀.wellKept ha) h₀.log_eq fun _ => h₀.init_eq.symm
  have hexec : ∀ (fault : Bool) (o : Op) (s : Shared) (l : Session), (fault = true → opts.outages = true) →
      (logic st opts).exec o s l (exec fault o s l).1 (exec fault o s l).2.1 (exec fault o s l).2.2 := by
    intro fault o s l hok
    refine ⟨fault, ⟨fun hno _ => ?_, fun hno => by rw [hd] at hno; cases hno⟩, rfl⟩
    cases fault with
    | false => rfl
    | true => rw [hok rfl] at hno; cases hno
  exact Logic.wp_run hexec ho (program_wp hidle rfl)

/-- The ways a call alone ends: it raises or is denied and has left no trace, or it has committed. -/
theorem Call.alone_cases (st : Settings) (call : Call) (outage : Nat → Bool) (h₀ : Initial sh) :
    ((∃ x, (call.alone st outage sh).1 = .error x) ∧ (call.alone st outage sh).2.1.db = sh.db) ∨
    ((call.alone st outage sh).1 = .ok alreadyProcessingResult ∧ (call.alone st outage sh).2.1.db = sh.db) ∨
    ∃ W reply hit, (call.alone st outage sh).1 = .ok reply ∧ (call.alone st outage sh).2.1.db = W.apply sh.db ∧
      Committed st { quiet := true } call.wiring hit sh.db sh.db call.key call.request W reply := by
  have hout : ∀ n, outage n = true → ({ quiet := true } : Opts).outages = true := fun _ _ => rfl
  obtain ⟨hend, hinit⟩ := Call.alone_ended st call rfl hout h₀ (Admits.any rfl rfl)
  generalize (call.alone st outage sh).1 = r at hend ⊢
  generalize (call.alone st outage sh).2.1 = sh' at hend hinit ⊢
  generalize (call.alone st outage sh).2.2 = l at hend
  cases hend with
  | denied _ h => exact Or.inr (Or.inl ⟨rfl, (h.still rfl).1.trans hinit⟩)
  | done _ _ h =>
      obtain ⟨hdb, hit, hcom⟩ := h.alone rfl
      rw [hinit] at hdb hcom
      exact Or.inr (Or.inr ⟨_, _, hit, rfl, hdb, hcom⟩)
  | rejected _ _ h => exact Or.inl ⟨⟨_, rfl⟩, (h.still rfl).1.trans hinit⟩
  | faulted _ _ _ _ h => exact Or.inl ⟨⟨_, rfl⟩, (h.still rfl).1.trans hinit⟩
  | unanswered _ _ _ h => exact Or.inl ⟨⟨_, rfl⟩, (h.still rfl).1.trans hinit⟩

end Alone

/-! ## Failure atomicity -/

/-- `db'` is `db` and the refusal of a request: one FAILED record with the answer and, if its event had been created,
that event, FAILED, with a history that ends in FAILED. -/
structure OnlyRefused (db db' : Db) (key : String) (request : TransactionEventCreateRequest)
    (reply : TransactionProcessingResult) : Prop where
  accounts : db'.accounts = db.accounts
  ledger : db'.ledger = db.ledger
  quarantines : db'.quarantines = db.quarantines
  records : ∃ r, db'.records = db.records ++ [r] ∧ r.idempotencyKey = key ∧ r.status = .failed ∧
    r.responseCode = some reply.statusCode ∧ r.responseBody = some (.obj reply.body)
  events : (db'.events = db.events ∧ db'.histories = db.histories) ∨
    ∃ e hs, db'.events = db.events ++ [e] ∧ db'.histories = db.histories ++ hs ∧ e.status = .failed ∧
      e.externalEventId = request.externalEventId ∧ e.idempotencyKey = key ∧ (∀ h ∈ hs, h.transactionEventId = e.id) ∧
      ∃ h, hs.getLast? = some h ∧ h.newStatus = .failed

section Atomicity

variable {st : Settings} {opts : Opts} {w : Wiring} {hit : Option CacheEntry} {init db : Db} {key : String}
  {request : TransactionEventCreateRequest} {W : Overlay} {reply : TransactionProcessingResult}

theorem replayResult_duplicated {code : Option Nat} {body : Option Json} {default : Nat}
    (h : replayResult code body default = .ok reply) : reply.duplicated = true := by
  unfold replayResult at h
  split at h
  · cases h
  · cases h; rfl

theorem Replayed.duplicated {r : IdempotencyRecord} (h : Replayed r reply) : reply.duplicated = true := by
  unfold Replayed at h
  cases hs : r.status with
  | processing => rw [hs] at h; rw [h]; rfl
  | completed => rw [hs] at h; exact replayResult_duplicated h
  | failed => rw [hs] at h; exact replayResult_duplicated h

/-- What is neither a success nor a replay is a refusal. -/
theorem Committed.onlyRefused (h : Committed st opts w hit init db key request W reply) (hne : reply.statusCode ≠ 200)
    (hdup : reply.duplicated = false) : OnlyRefused db (W.apply db) key request reply := by
  cases h with
  | replay _ _ h => rw [h.duplicated] at hdup; cases hdup
  | cached _ _ _ h => rw [replayResult_duplicated h] at hdup; cases hdup
  | duplicate _ _ _ _ _ => exact absurd rfl hne
  | applied _ _ _ _ _ _ _ => exact absurd rfl hne
  | refused ho _ =>
      rw [refusedWork_apply]
      exact ⟨rfl, rfl, rfl, ⟨_, rfl, ho.key_eq, rfl, rfl, rfl⟩, Or.inl ⟨rfl, rfl⟩⟩
  | failed ho _ _ hc _ _ =>
      rw [eventWork_apply]
      refine ⟨rfl, rfl, rfl, ⟨_, rfl, ho.key_eq, rfl, rfl, rfl⟩, Or.inr ⟨_, _, rfl, rfl, rfl, ?_, ?_, ?_, _, rfl, rfl⟩⟩
      · rw [hc.row]; rfl
      · rw [hc.row]; rfl
      · simp [failedHistories, validatedRow, processingRow, failedRow, historyRow, withStatus]

/-- **Failure atomicity.** A call that ends with a domain failure of its own has added the record of its refusal and at
most its own failed event; a call that raises has changed nothing. -/
theorem failure_atomicity {sh : Shared} (h₀ : Initial sh) (call : Call) (outage : Nat → Bool) :
    (∀ reply, (call.alone st outage sh).1 = .ok reply →
      (reply.statusCode = 404 ∨ reply.statusCode = 409 ∨ reply.statusCode = 422) → reply.duplicated = false →
      OnlyRefused sh.db (call.alone st outage sh).2.1.db call.key call.request reply) ∧
    ∀ x, (call.alone st outage sh).1 = .error x → (call.alone st outage sh).2.1.db = sh.db := by
  rcases Call.alone_cases st call outage h₀ with
    ⟨⟨x, hr⟩, hdb⟩ | ⟨hr, hdb⟩ | ⟨W, reply, hit, hr, hdb, hcom⟩
  · refine ⟨fun reply hok => ?_, fun _ _ => hdb⟩
    rw [hr] at hok
    cases hok
  · refine ⟨fun reply hok hcode => ?_, fun _ _ => hdb⟩
    rw [hr] at hok
    cases hok
    rcases hcode with h | h | h <;> cases h
  · refine ⟨fun reply' hok hcode hdup => ?_, fun x hx => by rw [hr] at hx; cases hx⟩
    rw [hr] at hok
    cases hok
    rw [hdb]
    exact hcom.onlyRefused (by rcases hcode with h | h | h <;> rw [h] <;> decide) hdup

/-- A CANCEL of an event that does not exist. -/
theorem failure_atomicity_cancel :
    OnlyRefused Sample.db
      ((Sample.call "key-1" Sample.cancel).alone Sample.settings (fun _ => false) Sample.shared).2.1.db "key-1"
      Sample.cancel (failureResult .originalTransactionNotFound) :=
  (failure_atomicity Sample.initial (Sample.call "key-1" Sample.cancel) fun _ => false).1 _ (by decide +kernel)
    (Or.inl rfl) rfl

end Atomicity

end EventConsistency
