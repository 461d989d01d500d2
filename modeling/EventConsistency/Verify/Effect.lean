import EventConsistency.Verify.Process
import Mathlib.Data.List.Nodup

/-!
# What a commit does to the database

* `Effect db W` : what all commits have in common: rows of their own that are new to `db`, balances, and
  completed events that become cancelled;
* `Committed.effect` : a commit of a call is one;
* `Effect.evolves`, `Effect.valid` : the database grows and keeps its constraints.
-/

namespace EventConsistency

open Lib TransactionEventService

/-- The changes `W` add new rows to `db`, change balances, and cancel completed events. -/
structure Effect (db : Db) (W : Overlay) : Prop where
  accounts : ∀ u ∈ W.accounts.updated, ∃ a ∈ db.accounts, AccountStep a u
  events : ∀ u ∈ W.events.updated, ∃ e ∈ db.events, e.status = .completed ∧ ∃ t, u = withStatus e .cancelled t
  newEvent : ∀ n ∈ W.events.inserted,
    (∀ e ∈ db.events, e.id ≠ n.id) ∧ db.eventByExternalId n.externalEventId = none
  oneEvent : W.events.inserted.length ≤ 1
  newLedger : ∀ n ∈ W.ledger.inserted, ∀ r ∈ db.ledger, r.id ≠ n.id
  ledgerEvent : ∀ n ∈ W.ledger.inserted, ∃ e ∈ W.events.inserted, e.id = n.transactionEventId
  oneLedger : W.ledger.inserted.length ≤ 1
  newHistories : NewHistories db W.histories.inserted
  historyEvent : ∀ h ∈ W.histories.inserted, ∃ e ∈ db.events ++ W.events.inserted, e.id = h.transactionEventId
  newRecord : ∀ n ∈ W.records.inserted,
    (∀ r ∈ db.records, r.id ≠ n.id) ∧ db.recordByKey n.idempotencyKey = none ∧ BodyOk n.responseBody
  oneRecord : W.records.inserted.length ≤ 1

section

variable {st : Settings} {opts : Opts} {w : Wiring} {hit : Option CacheEntry} {init db : Db} {key : String}
  {request : TransactionEventCreateRequest} {W : Overlay} {reply : TransactionProcessingResult}

theorem NewHistories.nil (db : Db) : NewHistories db [] := by
  constructor <;> simp

theorem Effect.empty (db : Db) : Effect db {} := by
  constructor <;> simp [NewHistories.nil]

/-- Storing the record of a key. -/
theorem Opened.effect {rec rec' : IdempotencyRecord} (h : Opened st db key request rec) (hid : rec'.id = rec.id)
    (hk : rec'.idempotencyKey = rec.idempotencyKey) (hb : BodyOk rec'.responseBody) :
    ∀ n ∈ [rec'], (∀ r ∈ db.records, r.id ≠ n.id) ∧ db.recordByKey n.idempotencyKey = none ∧
      BodyOk n.responseBody := by
  intro n hn
  rw [List.mem_singleton.mp hn, hid, hk, h.key_eq]
  exact ⟨h.fresh, h.absent, hb⟩

theorem Created.effect {a : Account} {ev : TransactionEvent} {t : Time} (h : Created db key request a ev t)
    (s : TransactionStatus) : ∀ n ∈ [withStatus ev s t],
      (∀ e ∈ db.events, e.id ≠ n.id) ∧ db.eventByExternalId n.externalEventId = none := by
  intro n hn
  have hx : ev.externalEventId = request.externalEventId := by rw [h.row]; rfl
  rw [List.mem_singleton.mp hn]
  exact ⟨h.fresh, (congrArg db.eventByExternalId hx).trans h.absent⟩

theorem Original.completed {a : Account} {ev : TransactionEvent} {orig : Option TransactionEvent} {t : Time}
    {v : Int × Int} (h : Original db request orig) (hc : Created db key request a ev t)
    (hx : LedgerService.ledgerAmount a ev orig = .ok v) : ∀ o ∈ orig, o ∈ db.events ∧ o.status = .completed := by
  cases h with
  | none _ => simp
  | some hty _ hf =>
      rintro _ ⟨⟩
      have htype : ev.eventType = .cancel := by rw [hc.row]; exact hty
      exact ⟨event_mem hf, (ledgerAmount_cancel hx htype).2.1⟩

/-- **What a call commits has such an effect.** -/
theorem Committed.effect (h : Committed st opts w hit init db key request W reply) : Effect db W := by
  cases h with
  | replay _ _ _ => exact Effect.empty db
  | cached _ _ _ _ => exact Effect.empty db
  | refused ho _ =>
      exact { Effect.empty db with newRecord := ho.effect rfl rfl ⟨_, rfl⟩, oneRecord := Nat.le_refl 1 }
  | duplicate ho _ _ _ _ =>
      exact { Effect.empty db with newRecord := ho.effect rfl rfl ⟨_, rfl⟩, oneRecord := Nat.le_refl 1 }
  | failed ho _ _ hc hh _ =>
      exact
        { Effect.empty db with
          newRecord := ho.effect rfl rfl ⟨_, rfl⟩
          oneRecord := Nat.le_refl 1
          newEvent := hc.effect .failed
          oneEvent := Nat.le_refl 1
          ledgerEvent := by simp [eventWork]
          newHistories := hh
          historyEvent := by
            simp [eventWork, failedHistories, validatedRow, processingRow, failedRow, historyRow, withStatus] }
  | @applied _ a orig ev amount newBalance i i₁ i₂ i₃ i₄ t _ ho hl hr hc hx hh hn =>
      have horig := hr.completed hc hx
      exact
        { accounts := by
            intro u hu
            rw [List.mem_singleton.mp hu]
            exact ⟨a, List.mem_of_find?_eq_some hl.found, rfl, rfl⟩
          events := by
            intro u hu
            simp only [appliedWork, cancelledRows, List.mem_map, Option.mem_toList] at hu
            obtain ⟨o, ho, rfl⟩ := hu
            exact ⟨o, (horig o ho).1, (horig o ho).2, t, rfl⟩
          newEvent := hc.effect .completed
          oneEvent := Nat.le_refl 1
          newLedger := by
            intro n hmem r hr
            rw [List.mem_singleton.mp hmem]
            exact hn.fresh r hr
          ledgerEvent := by simp [appliedWork, ledgerRow, withStatus]
          oneLedger := Nat.le_refl 1
          newHistories := hh
          historyEvent := by
            intro n hmem
            simp only [appliedWork, appliedHistories, List.mem_append, List.mem_cons, List.mem_map,
              Option.mem_toList, List.not_mem_nil, or_false] at hmem
            rcases hmem with ((rfl | rfl) | ⟨o, ho, rfl⟩) | rfl
            · exact ⟨_, List.mem_append_right _ List.mem_cons_self, rfl⟩
            · exact ⟨_, List.mem_append_right _ List.mem_cons_self, rfl⟩
            · exact ⟨o, List.mem_append_left _ (horig o ho).1, rfl⟩
            · exact ⟨_, List.mem_append_right _ List.mem_cons_self, rfl⟩
          newRecord := ho.effect rfl rfl ⟨_, rfl⟩
          oneRecord := Nat.le_refl 1 }

namespace Effect

theorem account_version (h : Effect db W) (hv : db.Valid) {a : Account} (ha : a ∈ db.accounts) :
    AccountStep a (W.accounts.version a) := by
  rcases W.accounts.version_cases a with hs | ⟨u, hu, hid, hs⟩
  · rw [hs]; exact ⟨rfl, rfl⟩
  · rw [hs]
    obtain ⟨a', ha', hstep⟩ := h.accounts u hu
    have : a' = a := List.inj_on_of_nodup_map hv.account_id ha' ha (hstep.1.symm.trans hid)
    exact this ▸ hstep

theorem event_version (h : Effect db W) (hv : db.Valid) {e : TransactionEvent} (he : e ∈ db.events) :
    EventStep e (W.events.version e) := by
  rcases W.events.version_cases e with hs | ⟨u, hu, hid, hs⟩
  · rw [hs]; exact EventStep.refl e
  · rw [hs]
    obtain ⟨e', he', hst, t, rfl⟩ := h.events u hu
    have : e' = e := List.inj_on_of_nodup_map hv.event_id he' he hid
    subst this
    exact Or.inr ⟨hst, t, rfl⟩

/-- The database grows. -/
theorem evolves {al el : List Nat} (h : Effect db W) (hc : Covered W al el) (hv : db.Valid) :
    Evolves opts db (W.apply db) where
  accounts := Grows.of_apply (fun _ => h.account_version hv) (by simp [hc.noAccounts])
  events := Grows.of_apply (fun _ => h.event_version hv) (fun _ _ => trivial)
  ledger := Grows.of_apply (fun r _ => Delta.version_of_updated_nil hc.noLedgerUpdates r) (fun _ _ => trivial)
  histories := Grows.of_apply (fun r _ => Delta.version_of_updated_nil hc.noHistoryUpdates r) (fun _ _ => trivial)
  records _ := Grows.of_apply (fun r _ => Delta.version_of_updated_nil hc.noRecordUpdates r) (fun _ _ => trivial)
  quarantines _ := rfl

end Effect

/-- What a commit does to the record of a key. -/
theorem recordByKey_apply {al el : List Nat} (hc : Covered W al el) (k : String) :
    (W.apply db).recordByKey k =
      (db.recordByKey k).or (W.records.inserted.find? (fun r => r.idempotencyKey == k)) := by
  simp only [Db.recordByKey, Overlay.apply, Delta.apply_of_updated_nil hc.noRecordUpdates, List.find?_append]

/-- New keys keep a column without duplicates. -/
theorem nodup_apply {α β : Type} [Row α] {d : Delta α} {rows : List α} {f : α → β}
    (hv : ∀ r ∈ rows, f (d.version r) = f r) (hrows : (rows.map f).Nodup) (hnew : (d.inserted.map f).Nodup)
    (hdis : ∀ n ∈ d.inserted, ∀ r ∈ rows, f r ≠ f n) : ((d.apply rows).map f).Nodup := by
  have hmap : (rows.map d.version).map f = rows.map f := by
    rw [List.map_map]
    exact List.map_congr_left hv
  rw [Delta.apply, List.map_append, hmap]
  refine List.nodup_append.mpr ⟨hrows, hnew, ?_⟩
  intro y hy z hz
  obtain ⟨r, hr, rfl⟩ := List.mem_map.mp hy
  obtain ⟨n, hn, rfl⟩ := List.mem_map.mp hz
  exact hdis n hn r hr

theorem nodup_map_of_length {α β : Type} {l : List α} (f : α → β) (h : l.length ≤ 1) : (l.map f).Nodup := by
  match l, h with
  | [], _ => exact List.nodup_nil
  | [_], _ => exact List.nodup_singleton _

/-- **The constraints hold after a commit.** -/
theorem Effect.valid {al el : List Nat} (h : Effect db W) (hc : Covered W al el) (hv : db.Valid) :
    (W.apply db).Valid where
  account_id := nodup_apply (fun _ hr => (h.account_version hv hr).1) hv.account_id (by simp [hc.noAccounts])
    (by simp [hc.noAccounts])
  account_no := nodup_apply (fun _ hr => (h.account_version hv hr).2) hv.account_no (by simp [hc.noAccounts])
    (by simp [hc.noAccounts])
  event_id := nodup_apply (fun _ hr => (h.event_version hv hr).id_eq) hv.event_id
    (nodup_map_of_length _ h.oneEvent) (fun n hn => (h.newEvent n hn).1)
  event_external := by
    refine nodup_apply (fun _ hr => (h.event_version hv hr).externalEventId_eq) hv.event_external
      (nodup_map_of_length _ h.oneEvent) (fun n hn e he heq => ?_)
    have := List.find?_eq_none.mp (h.newEvent n hn).2 e he
    simp [heq] at this
  ledger_id := nodup_apply (fun r _ => by rw [Delta.version_of_updated_nil hc.noLedgerUpdates]) hv.ledger_id
    (nodup_map_of_length _ h.oneLedger) h.newLedger
  ledger_event := by
    refine nodup_apply (fun r _ => by rw [Delta.version_of_updated_nil hc.noLedgerUpdates]) hv.ledger_event
      (nodup_map_of_length _ h.oneLedger) (fun n hn r hr heq => ?_)
    obtain ⟨e, he, hid⟩ := h.ledgerEvent n hn
    obtain ⟨e', he', hid'⟩ := hv.ledger_fk r hr
    exact (h.newEvent e he).1 e' he' (by rw [hid', heq, hid])
  ledger_fk r hr := by
    have hev : Evolves {} db (W.apply db) := h.evolves hc hv
    rcases Delta.mem_apply.mp hr with ⟨r₀, hr₀, rfl⟩ | hr
    · rw [Delta.version_of_updated_nil hc.noLedgerUpdates]
      obtain ⟨e, he, hid⟩ := hv.ledger_fk r₀ hr₀
      obtain ⟨e', he', hs⟩ := hev.events.mem_left he
      exact ⟨e', he', hs.id_eq.trans hid⟩
    · obtain ⟨e, he, hid⟩ := h.ledgerEvent r hr
      exact ⟨e, Delta.mem_apply.mpr (Or.inr he), hid⟩
  history_id := by
    refine nodup_apply (fun r _ => by rw [Delta.version_of_updated_nil hc.noHistoryUpdates]) hv.history_id ?_
      (fun n hn r hr => h.newHistories.fresh n hn r hr)
    rw [List.Nodup, List.pairwise_map]
    exact h.newHistories.sorted.imp fun hlt => Nat.ne_of_lt hlt
  history_fk r hr := by
    have hev : Evolves {} db (W.apply db) := h.evolves hc hv
    have hold : ∀ e ∈ db.events, ∃ e' ∈ (W.apply db).events, e'.id = e.id := fun e he => by
      obtain ⟨e', he', hs⟩ := hev.events.mem_left he
      exact ⟨e', he', hs.id_eq⟩
    rcases Delta.mem_apply.mp hr with ⟨r₀, hr₀, rfl⟩ | hr
    · rw [Delta.version_of_updated_nil hc.noHistoryUpdates]
      obtain ⟨e, he, hid⟩ := hv.history_fk r₀ hr₀
      obtain ⟨e', he', hs⟩ := hold e he
      exact ⟨e', he', hs.trans hid⟩
    · obtain ⟨e, he, hid⟩ := h.historyEvent r hr
      rcases List.mem_append.mp he with he | he
      · obtain ⟨e', he', hs⟩ := hold e he
        exact ⟨e', he', hs.trans hid⟩
      · exact ⟨e, Delta.mem_apply.mpr (Or.inr he), hid⟩
  record_id := nodup_apply (fun r _ => by rw [Delta.version_of_updated_nil hc.noRecordUpdates]) hv.record_id
    (nodup_map_of_length _ h.oneRecord) (fun n hn => (h.newRecord n hn).1)
  record_key := by
    refine nodup_apply (fun r _ => by rw [Delta.version_of_updated_nil hc.noRecordUpdates]) hv.record_key
      (nodup_map_of_length _ h.oneRecord) (fun n hn r hr heq => ?_)
    have := List.find?_eq_none.mp (h.newRecord n hn).2.1 r hr
    simp [heq] at this

end

end EventConsistency
