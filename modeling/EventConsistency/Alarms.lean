import EventConsistency.Balances
import EventConsistency.Duplicates
import EventConsistency.Records

/-!
# False alarms

* `Filing` : what a commit files under its key: nothing, a record alone, or a record with its event;
* `Keyed` : the keys of records and events over a run without deletions: an event has the record of its key, and a
  COMPLETED record lacks its event exactly when a known event was answered under a fresh key;
* **`reconcile_silent`** : in every reachable state `reconcile` reports nothing exactly when that has not happened and
  its threshold can be computed.
-/

namespace EventConsistency

open Lib TransactionEventService ReconciliationService

/-- The call was started under a fresh key and answered with an event that was there already. -/
def Commit.resent (x : Commit) : Prop := x.started = true ∧ x.reply.duplicated = true

/-! ## What a commit files under its key -/

/-- The record that a commit has inserted, under its key. -/
structure Files (db : Db) (x : Commit) (rec : IdempotencyRecord) : Prop where
  inserted : x.work.records.inserted = [rec]
  key_eq : rec.idempotencyKey = x.key
  absent : db.recordByKey x.key = none

/-- What a commit files under its key. -/
inductive Filing (db : Db) (x : Commit) : Prop where
  | nothing (hr : x.work.records.inserted = []) (he : x.work.events.inserted = [])
  | record {rec : IdempotencyRecord} (h : Files db x rec) (he : x.work.events.inserted = [])
      (hs : rec.status = .completed ↔ x.reply.duplicated = true)
  | event {rec : IdempotencyRecord} {ev : TransactionEvent} (h : Files db x rec) (he : x.work.events.inserted = [ev])
      (hk : ev.idempotencyKey = x.key) (hf : ev.status ∉ inProgressStatuses) (hd : x.reply.duplicated = false)

section Filing

variable {st : Settings} {opts : Opts} {init db : Db} {x : Commit} {e e' : TransactionEvent} {log : List Commit}

theorem Created.key_eq {key : String} {request : TransactionEventCreateRequest} {a : Account} {ev : TransactionEvent}
    {t : Time} (h : Created db key request a ev t) : ev.idempotencyKey = key := by
  rw [h.row]
  rfl

theorem Committed.filing (h : Committed st opts x.wiring x.cacheHit init db x.key x.request x.work x.reply) :
    Filing db x := by
  obtain ⟨tid, wiring, key, request, hit, work, reply⟩ := x
  dsimp only at h
  cases h with
  | replay _ _ _ => exact .nothing rfl rfl
  | cached _ _ _ _ => exact .nothing rfl rfl
  | refused ho _ => exact .record ⟨rfl, ho.key_eq, ho.absent⟩ rfl ⟨nofun, nofun⟩
  | duplicate ho _ _ _ _ => exact .record ⟨rfl, ho.key_eq, ho.absent⟩ rfl ⟨fun _ => rfl, fun _ => rfl⟩
  | failed ho _ _ hc _ _ => exact .event ⟨rfl, ho.key_eq, ho.absent⟩ rfl hc.key_eq (by simp [inProgressStatuses, withStatus]) rfl
  | applied ho _ _ hc _ _ _ => exact .event ⟨rfl, ho.key_eq, ho.absent⟩ rfl hc.key_eq (by simp [inProgressStatuses, withStatus]) rfl

theorem EventStep.idempotencyKey_eq (h : EventStep e e') : e'.idempotencyKey = e.idempotencyKey := by
  rcases h with rfl | ⟨_, _, rfl⟩ <;> rfl

/-- A step of an event does not put it in progress. -/
theorem EventStep.finished (h : EventStep e e') (he : e.status ∉ inProgressStatuses) :
    e'.status ∉ inProgressStatuses := by
  rcases h with rfl | ⟨_, _, rfl⟩
  · exact he
  · simp [inProgressStatuses]

theorem Db.recordByKey_eq_none {key : String} :
    db.recordByKey key = none ↔ ∀ r ∈ db.records, r.idempotencyKey ≠ key := by
  simp [Db.recordByKey, List.find?_eq_none]

end Filing

/-! ## Keys over a run -/

/-- Records and events by their keys. -/
structure Keyed (log : List Commit) (db : Db) : Prop where
  recorded : ∀ e ∈ db.events, ∃ r ∈ db.records, r.idempotencyKey = e.idempotencyKey
  matched : ∀ r ∈ db.records, r.status = .completed →
    (∃ e ∈ db.events, e.idempotencyKey = r.idempotencyKey) ∨ ∃ x ∈ log, x.resent
  orphan : ∀ x ∈ log, x.resent →
    ∃ r ∈ db.records, r.status = .completed ∧ ∀ e ∈ db.events, e.idempotencyKey ≠ r.idempotencyKey
  finished : ∀ e ∈ db.events, e.status ∉ inProgressStatuses

namespace Keyed

variable {st : Settings} {opts : Opts} {init db : Db} {log : List Commit} {x : Commit} {al el : List Nat}

/-- A commit takes every event to a later version of it, and adds its own. -/
theorem commit (h : Keyed log db) (hv : db.Valid)
    (hx : Committed st opts x.wiring x.cacheHit init db x.key x.request x.work x.reply) (hc : Covered x.work al el) :
    Keyed (log ++ [x]) (x.work.apply db) := by
  have hrecords : (x.work.apply db).records = db.records ++ x.work.records.inserted :=
    Delta.apply_of_updated_nil hc.noRecordUpdates _
  have hold : ∀ e ∈ db.events, ∃ e' ∈ (x.work.apply db).events, EventStep e e' :=
    fun e he => ⟨_, Delta.mem_apply.mpr (Or.inl ⟨e, he, rfl⟩), hx.effect.event_version hv he⟩
  have hevents : ∀ e' ∈ (x.work.apply db).events,
      (∃ e ∈ db.events, EventStep e e') ∨ e' ∈ x.work.events.inserted := by
    intro e' he'
    rcases Delta.mem_apply.mp he' with ⟨e, he, rfl⟩ | hnew
    · exact Or.inl ⟨e, he, hx.effect.event_version hv he⟩
    · exact Or.inr hnew
  have hfiling := hx.filing
  constructor
  · intro e' he'
    rw [hrecords]
    rcases hevents e' he' with ⟨e, he, hstep⟩ | hnew
    · obtain ⟨r, hr, hkey⟩ := h.recorded e he
      exact ⟨r, List.mem_append_left _ hr, hkey.trans hstep.idempotencyKey_eq.symm⟩
    · cases hfiling with
      | nothing _ hnone => rw [hnone] at hnew; cases hnew
      | record _ hnone _ => rw [hnone] at hnew; cases hnew
      | @event rec ev hf hone hkey _ _ =>
          rw [hone] at hnew
          refine ⟨rec, List.mem_append_right _ (by simp [hf.inserted]), ?_⟩
          rw [List.mem_singleton.mp hnew, hkey, hf.key_eq]
  · intro r hr hs
    rw [hrecords] at hr
    rcases List.mem_append.mp hr with hr | hnew
    · rcases h.matched r hr hs with ⟨e, he, hkey⟩ | ⟨y, hy, hresent⟩
      · obtain ⟨e', he', hstep⟩ := hold e he
        exact Or.inl ⟨e', he', hstep.idempotencyKey_eq.trans hkey⟩
      · exact Or.inr ⟨y, List.mem_append_left _ hy, hresent⟩
    · cases hfiling with
      | nothing hnone _ => rw [hnone] at hnew; cases hnew
      | @record rec hf _ hcompleted =>
          rw [hf.inserted] at hnew
          rw [List.mem_singleton.mp hnew] at hs
          have hstarted : x.started = true := by simp [Commit.started, hf.inserted]
          exact Or.inr ⟨x, List.mem_append_right _ (List.mem_singleton_self x), hstarted, hcompleted.mp hs⟩
      | @event rec ev hf hone hkey _ _ =>
          rw [hf.inserted] at hnew
          refine Or.inl ⟨ev, Delta.mem_apply.mpr (Or.inr (by simp [hone])), ?_⟩
          rw [List.mem_singleton.mp hnew, hkey, hf.key_eq]
  · intro y hy hresent
    rw [hrecords]
    rcases List.mem_append.mp hy with hy | hy
    · -- an older record keeps its key to itself, since a call only files under a key without a record
      obtain ⟨r, hr, hs, hnone⟩ := h.orphan y hy hresent
      refine ⟨r, List.mem_append_left _ hr, hs, fun e' he' => ?_⟩
      rcases hevents e' he' with ⟨e, he, hstep⟩ | hnew
      · rw [hstep.idempotencyKey_eq]
        exact hnone e he
      · cases hfiling with
        | nothing _ hnil => rw [hnil] at hnew; cases hnew
        | record _ hnil _ => rw [hnil] at hnew; cases hnew
        | event hf hone hkey _ _ =>
            rw [hone] at hnew
            rw [List.mem_singleton.mp hnew, hkey]
            exact (Db.recordByKey_eq_none.mp hf.absent r hr).symm
    · rw [List.mem_singleton.mp hy] at hresent
      cases hfiling with
      | nothing hnil _ => simp [Commit.resent, Commit.started, hnil] at hresent
      | @record rec hf hnil hcompleted =>
          refine ⟨rec, List.mem_append_right _ (by simp [hf.inserted]), hcompleted.mpr hresent.2, fun e' he' => ?_⟩
          rcases hevents e' he' with ⟨e, he, hstep⟩ | hnew
          · obtain ⟨r, hr, hkey⟩ := h.recorded e he
            rw [hstep.idempotencyKey_eq, ← hkey, hf.key_eq]
            exact Db.recordByKey_eq_none.mp hf.absent r hr
          · rw [hnil] at hnew
            cases hnew
      | event _ _ _ _ hd =>
          have hdup := hresent.2
          rw [hd] at hdup
          cases hdup
  · intro e' he'
    rcases hevents e' he' with ⟨e, he, hstep⟩ | hnew
    · exact hstep.finished (h.finished e he)
    · cases hfiling with
      | nothing _ hnil => rw [hnil] at hnew; cases hnew
      | record _ hnil _ => rw [hnil] at hnew; cases hnew
      | event _ hone _ hf _ =>
          rw [hone] at hnew
          rw [List.mem_singleton.mp hnew]
          exact hf

/-- Without deletions the keys stay in order along a run. -/
theorem chain (h₀ : Keyed [] init) (hd : opts.deletes = false) (h : Chain st opts init log db) : Keyed log db := by
  induction h with
  | nil => exact h₀
  | commit _ hv hx hc ih => exact ih.commit hv hx hc
  | deleteExpired _ hdel _ _ _ =>
      rw [hd] at hdel
      cases hdel
  | setQuarantines _ _ _ ih => exact { ih with }

theorem empty (he : db.events = []) (hr : db.records = []) : Keyed [] db := by
  constructor <;> simp [he, hr]

end Keyed

/-! ## Whole runs -/

section Runs

variable {st : Settings} {calls : List Call} {sh : Shared} {c : Config}

/-- Every account has the sum of its entries. -/
theorem balances_summed (h₀ : Initial sh) (ha : ∀ a ∈ sh.db.accounts, a.balance = 0) (hl : sh.db.ledger = [])
    (h : Reaches anyStep (start st sh calls) c) :
    ∀ a ∈ c.shared.db.accounts,
      a.balance = ((c.shared.db.ledger.filter fun l => l.accountId == a.id).map LedgerEntry.amount).sum := by
  intro a hmem
  obtain ⟨hcoh, hchain⟩ := h.coherent_any h₀
  rcases (h.accounts_grow h₀).mem hmem with ⟨a₀, ha₀, hid, _⟩ | hnew
  · have hzero := ha a₀ ha₀
    have hkept := (Kept.opened ha₀ (by omega) (by simp [hl])).chain hchain
    obtain ⟨a', hmem', hid', _, _, hbalance⟩ := hkept.account
    have hsame : a' = a := List.inj_on_of_nodup_map hcoh.valid.account_id hmem' hmem (hid'.trans hid.symm)
    subst hsame
    rw [hbalance, hzero, Int.zero_add, hid]
    rfl
  · exact absurd hnew id

/-- **`reconcile` raises no false alarm but one.** In every state that calls reach from accounts without money and
empty tables, with no deletion of records, `reconcile` reports nothing and opens no case, whatever the threshold and
the clock, exactly when the threshold can be computed and no call was answered with a known event under a fresh key. -/
theorem reconcile_silent (h₀ : Initial sh) (ha : ∀ a ∈ sh.db.accounts, a.balance = 0) (he : sh.db.events = [])
    (hl : sh.db.ledger = []) (hr : sh.db.records = [])
    (h : Reaches (fun _ label => label.deletes = false) (start st sh calls) c) (draws : ReconcileDraws)
    (quarantineService createRecoveryCases : Bool) (now now' : Time) (thresholdMinutes : Int)
    (cases : List RecoveryCase) :
    (∃ s, reconcile st draws quarantineService now now' thresholdMinutes createRecoveryCases (c.shared.db, cases) =
        .ok (({}, []), s)) ↔
      inRange now thresholdMinutes = true ∧ inRange now' thresholdMinutes = true ∧ ∀ x ∈ c.shared.log, ¬ x.resent := by
  have hany : Reaches anyStep (start st sh calls) c := h.mono fun _ _ _ => trivial
  have hkeeping : Reaches (permits keeping) (start st sh calls) c := h.mono fun c _ hd => permits_keeping c hd
  have hkeyed := (Keyed.empty he hr).chain rfl (hkeeping.chain rfl h₀ (Admits.any rfl rfl))
  obtain ⟨hcoh, hchain⟩ := hany.coherent_any h₀
  have hbooks := (Books.empty he hl).chain hchain
  have hposted : ∀ e ∈ c.shared.db.events, e.status ∈ terminalWithoutLedgerStatuses →
      ∃ l ∈ c.shared.db.ledger, l.transactionEventId = e.id := by
    intro e hmem hs
    refine hbooks.posted e hmem ((TransactionStatus.posted_iff e.status).mpr ?_)
    simpa [terminalWithoutLedgerStatuses] using hs
  have howned : ∀ l ∈ c.shared.db.ledger, ∃ e ∈ c.shared.db.events, e.id = l.transactionEventId := by
    intro l hmem
    obtain ⟨e, hmem', hid, _⟩ := hbooks.owner l hmem
    exact ⟨e, hmem', hid⟩
  have hclosed := Closed.chain (by simp [hr]) hchain
  have hstale := detectStaleProcessing_eq_nil (fun r hmem => (hclosed r hmem).notProcessing) st draws.toDraws now'
    thresholdMinutes false cases
  have hmatched : completedIdempotencyWithoutTransactionEventCount c.shared.db = 0 ↔ ∀ x ∈ c.shared.log, ¬ x.resent := by
    rw [completedIdempotencyWithoutTransactionEventCount_eq_zero]
    constructor
    · intro hall x hx hresent
      obtain ⟨r, hmem, hs, hnone⟩ := hkeyed.orphan x hx hresent
      obtain ⟨e, hmem', hkey⟩ := hall r hmem hs
      exact hnone e hmem' hkey
    · intro hnone r hmem hs
      rcases hkeyed.matched r hmem hs with hevent | ⟨x, hx, hresent⟩
      · exact hevent
      · exact absurd hresent (hnone x hx)
  rw [reconcile_clean, ← hmatched]
  constructor
  · intro hcounts
    obtain ⟨fits, fits', -⟩ | ⟨-, x, hraises⟩ := reconciliationCounts_cases st c.shared.db cases
      now now' thresholdMinutes draws.toDraws
    · unfold reconciliationCounts at hcounts
      rw [(transactionEventWithoutLedgerCount_eq_zero hkeyed.finished fits).mpr hposted] at hcounts
      unfold countStaleProcessing at hcounts
      rw [hstale, thresholdAt_of_inRange fits'] at hcounts
      have hzero := congrArg ReconciliationCounts.completedIdempotencyWithoutTransactionEventCount (Except.ok.inj hcounts)
      exact ⟨fits, fits', hzero⟩
    · rw [hraises] at hcounts
      cases hcounts
  · rintro ⟨fits, fits', hzero⟩
    unfold reconciliationCounts countStaleProcessing
    rw [(transactionEventWithoutLedgerCount_eq_zero hkeyed.finished fits).mpr hposted, hstale,
      thresholdAt_of_inRange fits', hzero, duplicateLedgerCount_eq_zero.mpr hcoh.valid.ledger_event,
      duplicateExternalEventCount_eq_zero.mpr hcoh.valid.event_external,
      ledgerWithoutTransactionEventCount_eq_zero.mpr howned,
      accountBalanceMismatchCount_eq_zero.mpr (balances_summed h₀ ha hl hany)]
    rfl

end Runs

/-! ## A deposit that is sent again under another key -/

namespace Sample

/-- Two accounts without money. -/
def opened : Db := { accounts := [⟨1, "ACC-1", 0, "ACTIVE"⟩, ⟨2, "ACC-2", 0, "ACTIVE"⟩] }

def unused : Shared := { db := opened, init := opened, seqs := {}, clock := 1778576401000000 }

theorem initial_unused : Initial unused where
  init_eq := rfl
  log_eq := rfl
  valid := by constructor <;> simp [unused, opened]
  drawn := by constructor <;> simp [unused, opened]

def draws : ReconcileDraws where
  uuid _ := "0f7c1e52d86a4b0e9a4f1d2c3b5a6978"
  now _ := 1778576402000000
  caseUuid _ := "0f7c1e52d86a4b0e9a4f1d2c3b5a6978"
  caseNow _ := 1778576402000000
  quarantineRow _ := 1
  quarantineUuid _ := "5b1d0c9e7f3a4c2d8e6f7a8b9c0d1e2f"
  quarantineNow _ := 1778576402000000

def resends : List Call := [bareCall "key-1" deposit, bareCall "key-2" deposit]

/-- The first call has returned. -/
def sent : Config := (follow (start settings unused resends) (List.replicate 19 (.run 0))).getD (start settings unused resends)

/-- So has the second. -/
def resent : Config :=
  (follow (start settings unused resends) (List.replicate 19 (.run 0) ++ List.replicate 13 (.run 1))).getD
    (start settings unused resends)

end Sample

/-- After the deposit nothing is reported. -/
theorem reconcile_silent_deposit :
    Sample.sent.shared.db.ledger.length = 1 ∧
      ∃ s, reconcile Sample.settings Sample.draws true 1778576402000000 1778576402000000 (-5) true
        (Sample.sent.shared.db, []) = .ok (({}, []), s) := by
  have hreach : Reaches (fun _ label => label.deletes = false)
      (start Sample.settings Sample.unused Sample.resends) Sample.sent :=
    Reaches.followed _ fun label hl _ => by rw [List.eq_of_mem_replicate hl]; rfl
  have hanswers : Sample.sent.shared.log.map (fun x => x.reply.duplicated) = [false] := by decide +kernel
  refine ⟨by decide +kernel, (reconcile_silent Sample.initial_unused (by decide) rfl rfl rfl hreach Sample.draws true true
    1778576402000000 1778576402000000 (-5) []).mpr ⟨by decide, by decide, fun x hx hresent => ?_⟩⟩
  have hmem := hanswers ▸ List.mem_map_of_mem hx
  rw [hresent.2] at hmem
  simp at hmem

/-- After the same deposit under another key, its COMPLETED record has no event, and a recovery case is opened. -/
theorem reconcile_false_alarm :
    (∀ a ∈ Sample.unused.db.accounts, a.balance = 0) ∧ (∀ call ∈ Sample.resends, call.wiring.responseCache = false) ∧
      Reaches (fun _ label => label.deletes = false)
        (start Sample.settings Sample.unused Sample.resends) Sample.resent ∧
      Sample.resent.shared.log.map (fun x => (x.reply.statusCode, x.reply.duplicated)) = [(200, false), (200, true)] ∧
      (reconcile Sample.settings Sample.draws true 1778576402000000 1778576402000000 10 true
        (Sample.resent.shared.db, [])).toOption.map (fun out =>
          (out.1.1.completedIdempotencyWithoutTransactionEventCount, out.1.2.map RecoveryCaseLink.issueType)) =
        some (1, ["completed_idempotency_without_transaction_event"]) := by
  refine ⟨by decide, by decide, Reaches.followed _ fun label hl _ => ?_, by decide +kernel, by decide +kernel⟩
  rcases List.mem_append.mp hl with hl | hl <;> rw [List.eq_of_mem_replicate hl] <;> rfl

end EventConsistency
