import EventConsistency.System

/-!
# How the database grows, and what a call relies on

* `Opts` : which surroundings are considered: whether expired records are deleted, whether quarantine records
  change, whether PostgreSQL is lost at times, whether an event insert may meet a duplicate, whether at the start the
  response cache was empty (`cold`) or all bodies were objects (`dicts`), or whether nobody else acts at all (`quiet`);
* `Evolves opts db db'` : the database only grows: rows are added, a completed event may become cancelled,
  balances change;
* `Rely opts l sh sh'` : what all others together may do while call `l` is at some point: grow the database,
  but leave alone the accounts and events that `l` has locked and the keys and ids that it has inserted;
* `WellKept` : the state invariant that comes with it: the database evolved from `init`, and every id was
  drawn from its sequence.
-/

namespace EventConsistency

open Lib

/-- Which surroundings a call has. -/
structure Opts where
  deletes : Bool := false
  quarantines : Bool := false
  outages : Bool := true
  duplicates : Bool := true
  cold : Bool := false
  dicts : Bool := false
  quiet : Bool := false

/-- An event keeps everything but its status, which may go from COMPLETED to CANCELLED. -/
def EventStep (e e' : TransactionEvent) : Prop :=
  e' = e ∨ (e.status = .completed ∧ ∃ t, e' = { e with status := .cancelled, updatedAt := t })

namespace EventStep

theorem refl (e : TransactionEvent) : EventStep e e := Or.inl rfl

theorem trans {e e' e'' : TransactionEvent} (h : EventStep e e') (h' : EventStep e' e'') : EventStep e e'' := by
  rcases h with rfl | ⟨hs, t, rfl⟩
  · exact h'
  · rcases h' with rfl | ⟨hs', _⟩
    · exact Or.inr ⟨hs, t, rfl⟩
    · cases hs'

theorem id_eq {e e' : TransactionEvent} (h : EventStep e e') : e'.id = e.id := by
  rcases h with rfl | ⟨_, _, rfl⟩ <;> rfl

theorem externalEventId_eq {e e' : TransactionEvent} (h : EventStep e e') :
    e'.externalEventId = e.externalEventId := by
  rcases h with rfl | ⟨_, _, rfl⟩ <;> rfl

theorem accountId_eq {e e' : TransactionEvent} (h : EventStep e e') : e'.accountId = e.accountId := by
  rcases h with rfl | ⟨_, _, rfl⟩ <;> rfl

theorem occurredAt_eq {e e' : TransactionEvent} (h : EventStep e e') : e'.occurredAt = e.occurredAt := by
  rcases h with rfl | ⟨_, _, rfl⟩ <;> rfl

theorem ensureDuplicate_eq {e e' : TransactionEvent} (h : EventStep e e')
    (r : TransactionEventCreateRequest) (a : Nat) :
    TransactionEventService.ensureDuplicateMatchesRequest e' r a =
      TransactionEventService.ensureDuplicateMatchesRequest e r a := by
  rcases h with rfl | ⟨_, _, rfl⟩ <;> rfl

end EventStep

/-- The accounts stay; only balances change. -/
def AccountStep (a a' : Account) : Prop := a'.id = a.id ∧ a'.accountNo = a.accountNo

/-- Growth of the database. -/
structure Evolves (opts : Opts) (db db' : Db) : Prop where
  accounts : Grows AccountStep (fun _ => False) db.accounts db'.accounts
  events : Grows EventStep (fun _ => True) db.events db'.events
  ledger : Grows (fun r r' => r' = r) (fun _ => True) db.ledger db'.ledger
  histories : Grows (fun r r' => r' = r) (fun _ => True) db.histories db'.histories
  records : opts.deletes = false → Grows (fun r r' => r' = r) (fun _ => True) db.records db'.records
  quarantines : opts.quarantines = false → db'.quarantines = db.quarantines

namespace Evolves

variable {opts : Opts}

theorem refl (db : Db) : Evolves opts db db where
  accounts := Grows.refl (fun _ => ⟨rfl, rfl⟩) _
  events := Grows.refl EventStep.refl _
  ledger := Grows.refl_eq _
  histories := Grows.refl_eq _
  records _ := Grows.refl_eq _
  quarantines _ := rfl

theorem trans {db db' db'' : Db} (h : Evolves opts db db') (h' : Evolves opts db' db'') :
    Evolves opts db db'' where
  accounts := Grows.trans (fun _ _ _ h h' => ⟨h'.1.trans h.1, h'.2.trans h.2⟩) (fun _ _ h _ => h)
    h.accounts h'.accounts
  events := Grows.trans (fun _ _ _ => EventStep.trans) (fun _ _ h _ => h) h.events h'.events
  ledger := Grows.trans_eq h.ledger h'.ledger
  histories := Grows.trans_eq h.histories h'.histories
  records hd := Grows.trans_eq (h.records hd) (h'.records hd)
  quarantines hq := (h'.quarantines hq).trans (h.quarantines hq)

/-- An event that is absent now was absent before. -/
theorem event_absent {db db' : Db} (h : Evolves opts db db') {x : String}
    (hx : db'.eventByExternalId x = none) : db.eventByExternalId x = none := by
  unfold Db.eventByExternalId at hx ⊢
  cases hf : db.events.find? (fun e => e.externalEventId == x) with
  | none => rfl
  | some e =>
      obtain ⟨e', _, he'⟩ := h.events.find?_some (fun a b hab => by rw [hab.externalEventId_eq]) hf
      rw [he'] at hx
      cases hx

end Evolves

/-! ## What a call holds -/

namespace Session

def keys (l : Session) : List String := l.work.records.inserted.map IdempotencyRecord.idempotencyKey
def recordIds (l : Session) : List Nat := l.work.records.inserted.map IdempotencyRecord.id
def externalIds (l : Session) : List String := l.work.events.inserted.map TransactionEvent.externalEventId
def eventIds (l : Session) : List Nat := l.work.events.inserted.map TransactionEvent.id
def ledgerIds (l : Session) : List Nat := l.work.ledger.inserted.map LedgerEntry.id
def historyIds (l : Session) : List Nat := l.work.histories.inserted.map EventStateHistory.id

/-- `l'` is the same call and holds at least what `l` holds. -/
structure Holds (l l' : Session) : Prop where
  tid : l'.tid = l.tid
  keys : l.keys ⊆ l'.keys
  recordIds : l.recordIds ⊆ l'.recordIds
  externalIds : l.externalIds ⊆ l'.externalIds
  eventIds : l.eventIds ⊆ l'.eventIds
  ledgerIds : l.ledgerIds ⊆ l'.ledgerIds
  historyIds : l.historyIds ⊆ l'.historyIds
  accountLocks : l.accountLocks ⊆ l'.accountLocks
  eventLocks : l.eventLocks ⊆ l'.eventLocks

end Session

/-- Every id of the database was drawn from its sequence. -/
structure Drawn (sh : Shared) : Prop where
  event : ∀ e ∈ sh.db.events, e.id < sh.seqs.event
  ledger : ∀ r ∈ sh.db.ledger, r.id < sh.seqs.ledger
  history : ∀ h ∈ sh.db.histories, h.id < sh.seqs.history
  record : ∀ r ∈ sh.db.records, r.id < sh.seqs.record

/-- A stored body that `dict` takes. -/
def BodyOk (body : Option Json) : Prop := ∃ kvs, dictOf body = .ok kvs

/-- Every stored body of the database is one. -/
def BodiesOk (db : Db) : Prop := ∀ r ∈ db.records, BodyOk r.responseBody

/-- Every cached body is one. -/
def CachedOk (cache : List (String × CacheEntry)) : Prop := ∀ kv ∈ cache, BodyOk kv.2.response.responseBody

/-- The state invariant that all others keep. -/
structure WellKept (opts : Opts) (sh : Shared) : Prop where
  since : Evolves opts sh.init sh.db
  drawn : Drawn sh
  ledger_fk : ∀ r ∈ sh.db.ledger, ∃ e ∈ sh.db.events, e.id = r.transactionEventId
  history_fk : ∀ h ∈ sh.db.histories, ∃ e ∈ sh.db.events, e.id = h.transactionEventId
  bodies : opts.dicts = true → BodiesOk sh.db ∧ CachedOk sh.cache

/-- What all others together may do while the call is at `l`. -/
structure Rely (opts : Opts) (l : Session) (sh sh' : Shared) : Prop where
  quiet : opts.quiet = true → sh' = sh
  init : sh'.init = sh.init
  wellKept : WellKept opts sh → WellKept opts sh'
  accounts : Grows (fun a a' => AccountStep a a' ∧ (a.id ∈ l.accountLocks → a' = a)) (fun _ => False)
    sh.db.accounts sh'.db.accounts
  events : Grows (fun e e' => EventStep e e' ∧ (e.accountId ∈ l.accountLocks ∨ e.id ∈ l.eventLocks → e' = e))
    (fun e => e.externalEventId ∉ l.externalIds ∧ e.id ∉ l.eventIds ∧ e.accountId ∉ l.accountLocks)
    sh.db.events sh'.db.events
  ledger : Grows (fun r r' => r' = r)
    (fun r => r.id ∉ l.ledgerIds ∧ r.transactionEventId ∉ l.eventIds ∧ r.accountId ∉ l.accountLocks)
    sh.db.ledger sh'.db.ledger
  ledgerOf : ∀ e ∈ sh.db.events, sh'.db.ledgerByEventId e.id = sh.db.ledgerByEventId e.id
  histories : Grows (fun r r' => r' = r)
    (fun h => h.id ∉ l.historyIds ∧ h.transactionEventId ∉ l.eventIds ∧ h.transactionEventId ∉ l.eventLocks)
    sh.db.histories sh'.db.histories
  records : ∀ r ∈ sh'.db.records, r ∈ sh.db.records ∨ (r.idempotencyKey ∉ l.keys ∧ r.id ∉ l.recordIds)
  kept : opts.deletes = false → Grows (fun r r' => r' = r) (fun _ => True) sh.db.records sh'.db.records
  quarantines : opts.quarantines = false → sh'.db.quarantines = sh.db.quarantines
  log : Grows (fun c c' => c' = c) (fun c => c.tid ≠ l.tid) sh.log sh'.log
  historySeq : sh.seqs.history ≤ sh'.seqs.history

namespace Rely

variable {opts : Opts} {l : Session} {sh sh' sh'' : Shared}

theorem refl (l : Session) (sh : Shared) : Rely opts l sh sh where
  quiet _ := rfl
  init := rfl
  wellKept := id
  accounts := Grows.refl (fun _ => ⟨⟨rfl, rfl⟩, fun _ => rfl⟩) _
  events := Grows.refl (fun e => ⟨EventStep.refl e, fun _ => rfl⟩) _
  ledger := Grows.refl_eq _
  ledgerOf _ _ := rfl
  histories := Grows.refl_eq _
  records _ h := Or.inl h
  kept _ := Grows.refl_eq _
  quarantines _ := rfl
  log := Grows.refl_eq _
  historySeq := Nat.le_refl _

theorem trans (h : Rely opts l sh sh') (h' : Rely opts l sh' sh'') : Rely opts l sh sh'' where
  quiet hq := (h'.quiet hq).trans (h.quiet hq)
  init := h'.init.trans h.init
  wellKept hw := h'.wellKept (h.wellKept hw)
  accounts := by
    refine Grows.trans ?_ (fun _ _ h _ => h) h.accounts h'.accounts
    rintro a b c ⟨h1, h2⟩ ⟨h3, h4⟩
    refine ⟨⟨h3.1.trans h1.1, h3.2.trans h1.2⟩, fun hl => ?_⟩
    rw [h4 (by rw [h1.1]; exact hl), h2 hl]
  events := by
    refine Grows.trans ?_ ?_ h.events h'.events
    · rintro a b c ⟨h1, h2⟩ ⟨h3, h4⟩
      refine ⟨h1.trans h3, fun hl => ?_⟩
      rw [h4 (by rw [h1.accountId_eq, h1.id_eq]; exact hl), h2 hl]
    · rintro a b ⟨hx, hi, ha⟩ ⟨h1, _⟩
      rw [h1.externalEventId_eq, h1.id_eq, h1.accountId_eq]
      exact ⟨hx, hi, ha⟩
  ledger := Grows.trans_eq h.ledger h'.ledger
  ledgerOf e he := by
    obtain ⟨e', he', hs, _⟩ := h.events.mem_left he
    rw [← hs.id_eq, h'.ledgerOf e' he', hs.id_eq, h.ledgerOf e he]
  histories := Grows.trans_eq h.histories h'.histories
  records r hr := by
    rcases h'.records r hr with hr | hr
    · exact h.records r hr
    · exact Or.inr hr
  kept hd := Grows.trans_eq (h.kept hd) (h'.kept hd)
  quarantines hq := (h'.quarantines hq).trans (h.quarantines hq)
  log := Grows.trans_eq h.log h'.log
  historySeq := Nat.le_trans h.historySeq h'.historySeq

/-- Who holds more is disturbed less. -/
theorem anti {l' : Session} (hl : l.Holds l') (h : Rely opts l' sh sh') : Rely opts l sh sh' where
  quiet := h.quiet
  init := h.init
  wellKept := h.wellKept
  accounts := h.accounts.mono (fun _ _ ha => ⟨ha.1, fun hin => ha.2 (hl.accountLocks hin)⟩) (fun _ hf => hf)
  events := h.events.mono
    (fun e e' he => ⟨he.1, fun hin => he.2 (hin.imp (fun h => hl.accountLocks h) (fun h => hl.eventLocks h))⟩)
    (fun e he => ⟨fun hin => he.1 (hl.externalIds hin), fun hin => he.2.1 (hl.eventIds hin),
      fun hin => he.2.2 (hl.accountLocks hin)⟩)
  ledger := h.ledger.mono (fun _ _ he => he) fun r hr =>
    ⟨fun hin => hr.1 (hl.ledgerIds hin), fun hin => hr.2.1 (hl.eventIds hin),
      fun hin => hr.2.2 (hl.accountLocks hin)⟩
  ledgerOf := h.ledgerOf
  histories := h.histories.mono (fun _ _ he => he) fun r hr =>
    ⟨fun hin => hr.1 (hl.historyIds hin), fun hin => hr.2.1 (hl.eventIds hin),
      fun hin => hr.2.2 (hl.eventLocks hin)⟩
  records r hr := (h.records r hr).imp_right fun hn =>
    ⟨fun hin => hn.1 (hl.keys hin), fun hin => hn.2 (hl.recordIds hin)⟩
  kept := h.kept
  quarantines := h.quarantines
  log := h.log.mono (fun _ _ he => he) fun _ hc => by rw [← hl.tid]; exact hc
  historySeq := h.historySeq

end Rely

end EventConsistency
