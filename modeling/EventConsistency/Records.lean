import EventConsistency.Books
import EventConsistency.Services.Reconciliation

/-!
# Idempotency records over whole runs

* `Closed` : a record as a finished call leaves it: FAILED with a refusal, or COMPLETED with the answer of an event;
* **`records_closed`** : no reachable state has any other record, so nothing is ever stale;
* `detect_stale_processing_overflows` : a threshold that cannot be computed.
-/

namespace EventConsistency

open Lib TransactionEventService ReconciliationService

/-! ## Closed records -/

/-- The body names the event `e` and its ledger entry `l`. -/
structure Names (body : List (String × Json)) (e : TransactionEvent) (l : LedgerEntry) : Prop where
  eventId : Json.get? body "event_id" = some (.str (toString e.id))
  externalEventId : Json.get? body "external_event_id" = some (.str e.externalEventId)
  balanceAfter : Json.get? body "balance_after" = some (.int l.balanceAfter)

/-- A body names an event also after a step of it. -/
theorem Names.step {body : List (String × Json)} {e e' : TransactionEvent} {l : LedgerEntry} (h : Names body e l)
    (hs : EventStep e e') : Names body e' l :=
  ⟨by rw [hs.id_eq]; exact h.eventId, by rw [hs.externalEventId_eq]; exact h.externalEventId, h.balanceAfter⟩

/-- A record as a finished call leaves it. -/
structure Closed (db : Db) (r : IdempotencyRecord) : Prop where
  notProcessing : r.status ≠ .processing
  failed : r.status = .failed →
    (r.responseCode = some 404 ∨ r.responseCode = some 409 ∨ r.responseCode = some 422) ∧ r.responseBody.isSome = true
  completed : r.status = .completed → r.responseCode = some 200 ∧ ∃ body e l, r.responseBody = some (.obj body) ∧
    e ∈ db.events ∧ l ∈ db.ledger ∧ l.transactionEventId = e.id ∧ Names body e l

section Closed

variable {st : Settings} {opts : Opts} {w : Wiring} {hit : Option CacheEntry} {init db db' : Db} {key : String}
  {request : TransactionEventCreateRequest} {W : Overlay} {reply : TransactionProcessingResult} {log : List Commit}
  {r : IdempotencyRecord}

theorem names_successBody (e : TransactionEvent) (l : LedgerEntry) (p d : Bool) :
    Names (successBody e l p d) e l := by
  constructor <;> simp [Json.get?, successBody]

theorem statusCode_of_domain {x : Exc} (h : isDomainFailure x = true) :
    statusCodeForException x = 404 ∨ statusCodeForException x = 409 ∨ statusCodeForException x = 422 := by
  cases x <;> simp [isDomainFailure] at h <;> simp [statusCodeForException]

theorem Refusal.domain {x : Exc} (h : Refusal opts w init db request x) : isDomainFailure x = true := by
  cases h with
  | mismatch _ _ hx => exact ensureDuplicate_error hx
  | _ => rfl

theorem Closed.ofFailed {rec : IdempotencyRecord} {x : Exc} {t : Time} (h : isDomainFailure x = true) :
    Closed db (failedRecord rec x t) where
  notProcessing hf := by cases hf
  failed _ := by
    refine ⟨?_, rfl⟩
    rcases statusCode_of_domain h with hc | hc | hc <;> simp [failedRecord, hc]
  completed hf := by cases hf

theorem Closed.ofSuccess {rec : IdempotencyRecord} {e : TransactionEvent} {l : LedgerEntry} {p d : Bool} {t : Time}
    (he : e ∈ db.events) (hl : l ∈ db.ledger) (hid : l.transactionEventId = e.id) :
    Closed db (completedRecord rec (successResult e l p d) t) where
  notProcessing hf := by cases hf
  failed hf := by cases hf
  completed _ := ⟨rfl, _, e, l, rfl, he, hl, hid, names_successBody e l p d⟩

/-- Growth of the database keeps what a record names. -/
theorem Closed.mono (h : Closed db r) (he : Grows EventStep (fun _ => True) db.events db'.events)
    (hl : Grows (fun r r' => r' = r) (fun _ => True) db.ledger db'.ledger) : Closed db' r :=
  { h with
    completed := fun hs => by
      obtain ⟨hc, body, e, l, hb, hmem, hlm, hid, hn⟩ := h.completed hs
      obtain ⟨e', he', hstep⟩ := he.mem_left hmem
      obtain ⟨l', hl', rfl⟩ := hl.mem_left hlm
      exact ⟨hc, body, e', l', hb, he', hl', hid.trans hstep.id_eq.symm, hn.step hstep⟩ }

/-- Every record that a call commits is closed. -/
theorem Committed.closed (h : Committed st opts w hit init db key request W reply) :
    ∀ r ∈ W.records.inserted, Closed (W.apply db) r := by
  cases h with
  | replay _ _ _ => simp
  | cached _ _ _ _ => simp
  | refused _ hx =>
      intro r hr
      rw [List.mem_singleton.mp hr]
      exact Closed.ofFailed hx.domain
  | duplicate _ _ he _ hl =>
      intro r hr
      rw [List.mem_singleton.mp hr]
      refine Closed.ofSuccess ?_ ?_ (by simpa using List.find?_some hl)
      · rw [refusedWork_apply]; exact event_mem he
      · rw [refusedWork_apply]; exact List.mem_of_find?_eq_some hl
  | failed _ _ _ _ _ hx =>
      intro r hr
      rw [List.mem_singleton.mp hr]
      exact Closed.ofFailed (ledgerAmount_error hx)
  | applied _ _ _ _ _ _ _ =>
      intro r hr
      rw [List.mem_singleton.mp hr, appliedWork_apply]
      exact Closed.ofSuccess (by simp [appliedEvents]) (by simp) rfl

theorem Closed.chain (h₀ : ∀ r ∈ init.records, Closed init r) (h : Chain st opts init log db) :
    ∀ r ∈ db.records, Closed db r := by
  induction h with
  | nil => exact h₀
  | @commit log db x al el _ hv hx hc ih =>
      intro r hr
      have hg : Evolves opts db (x.work.apply db) := hx.effect.evolves hc hv
      rcases Delta.mem_apply.mp hr with ⟨r₀, hr₀, rfl⟩ | hr
      · rw [Delta.version_of_updated_nil hc.noRecordUpdates]
        exact (ih r₀ hr₀).mono hg.events hg.ledger
      · exact hx.closed r hr
  | @deleteExpired log db _ _ now ids ih =>
      intro r hr
      have := ih r (deleteExpired_mem hr)
      exact { this with }
  | setQuarantines _ _ _ ih =>
      intro r hr
      exact { ih r hr with }

end Closed

section Runs

variable {st : Settings} {calls : List Call} {sh : Shared} {c : Config}

/-- **No stuck or dangling records.** When all records at the start are closed, all records of every reachable state
are, and `detect_stale_processing` finds nothing in it, whatever the clock and the threshold, if the threshold can be
computed. -/
theorem records_closed (h₀ : Initial sh) (hr : ∀ r ∈ sh.db.records, Closed sh.db r)
    (h : Reaches anyStep (start st sh calls) c) :
    (∀ r ∈ c.shared.db.records, Closed c.shared.db r) ∧ ∀ draws now thresholdMinutes createRecoveryCases cases,
      detectStaleProcessing st draws now thresholdMinutes createRecoveryCases c.shared.db cases =
        if inRange now thresholdMinutes then .ok ([], cases) else .error .overflowError := by
  have hall := Closed.chain hr (h.coherent_any h₀).2
  refine ⟨hall, fun draws now thresholdMinutes createRecoveryCases cases => ?_⟩
  rw [detectStaleProcessing_eq_nil (fun r hr => (hall r hr).notProcessing)]
  split_ifs with fits
  · rw [thresholdAt_of_inRange fits]
    rfl
  · rw [thresholdAt_overflow (Bool.eq_false_iff.mpr fits)]
    rfl

/-- A deposit, and a call that dies in its transaction. -/
def Sample.deposited : Config :=
  Sample.run [Sample.call "key-1" Sample.deposit, Sample.call "key-2" Sample.rival]
    (List.replicate 23 (.run 0) ++ List.replicate 5 (.run 1) ++ [.crash 1])

theorem records_closed_deposit :
    Sample.deposited.shared.db.records.length = 1 ∧
      (∀ r ∈ Sample.deposited.shared.db.records, Closed Sample.deposited.shared.db r) ∧
      ∀ draws createRecoveryCases cases, detectStaleProcessing Sample.settings draws 1778576402000000 5
        createRecoveryCases Sample.deposited.shared.db cases = .ok ([], cases) := by
  have reached : Reaches anyStep (start Sample.settings Sample.shared
      [Sample.call "key-1" Sample.deposit, Sample.call "key-2" Sample.rival]) Sample.deposited := by
    unfold Sample.deposited
    exact Sample.reaches_run _ _
  have h := records_closed Sample.initial (by simp [Sample.shared, Sample.db]) reached
  refine ⟨by decide +kernel, h.1, fun draws createRecoveryCases cases => ?_⟩
  exact (h.2 draws 1778576402000000 5 createRecoveryCases cases).trans (if_pos (by decide))

/-- With a threshold of 2000000000 minutes, before the year 1, the search for stale records ends with `OverflowError`. -/
theorem detect_stale_processing_overflows :
    Reaches anyStep (start Sample.settings Sample.shared
      [Sample.call "key-1" Sample.deposit, Sample.call "key-2" Sample.rival]) Sample.deposited ∧
    ∀ draws createRecoveryCases cases, detectStaleProcessing Sample.settings draws 1778576402000000 2000000000
      createRecoveryCases Sample.deposited.shared.db cases = .error .overflowError := by
  constructor
  · unfold Sample.deposited
    exact Sample.reaches_run _ _
  · intro draws createRecoveryCases cases
    unfold detectStaleProcessing
    rw [thresholdAt_overflow (by decide)]
    rfl

end Runs

end EventConsistency
