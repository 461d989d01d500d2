import EventConsistency.Verify.Effect

/-!
# Calls among each other

* `Chain` : how the database came about: the commits of the log one after another, with deletions of expired
  records and changes of quarantine records in between;
* `Coherent` : the invariant of the running system: the constraints hold, the database is the chain of the log,
  and no two calls hold the same lock, key or id;
* `Local` : what an operation other than a commit can do; `exec_local` : every other operation does no more;
* `Coherent.commit` : a commit keeps the invariant and disturbs nobody beyond `Rely`;
* **`sound`** : the obligations of the thread pool.
-/

namespace EventConsistency

open Lib

/-- The database after the commits of a log. -/
inductive Chain (st : Settings) (opts : Opts) (init : Db) : List Commit → Db → Prop where
  | nil : Chain st opts init [] init
  | commit {log : List Commit} {db : Db} {x : Commit} {al el : List Nat} (h : Chain st opts init log db)
      (hv : db.Valid) (hx : Committed st opts x.wiring x.cacheHit init db x.key x.request x.work x.reply)
      (hc : Covered x.work al el) : Chain st opts init (log ++ [x]) (x.work.apply db)
  | deleteExpired {log : List Commit} {db : Db} (h : Chain st opts init log db) (hd : opts.deletes = true)
      (now : Time) (ids : List Nat) :
      Chain st opts init log (IdempotencyRecordRepository.deleteExpired now ids db)
  | setQuarantines {log : List Commit} {db : Db} (h : Chain st opts init log db) (hq : opts.quarantines = true)
      (quarantines : List QuarantineRecord) : Chain st opts init log { db with quarantines := quarantines }

/-- Every commit of the log was one that its call could make at its time. -/
theorem Chain.committed {st : Settings} {opts : Opts} {init db : Db} {log : List Commit} {x : Commit}
    (h : Chain st opts init log db) (hx : x ∈ log) :
    ∃ db, Committed st opts x.wiring x.cacheHit init db x.key x.request x.work x.reply := by
  induction h with
  | nil => cases hx
  | commit _ _ hc _ ih =>
      rcases List.mem_append.mp hx with hx | hx
      · exact ih hx
      · rw [List.mem_singleton.mp hx]; exact ⟨_, hc⟩
  | deleteExpired _ _ _ _ ih => exact ih hx
  | setQuarantines _ _ _ ih => exact ih hx

/-- No lock, key or id in common. -/
structure Session.Apart (l m : Session) : Prop where
  keys : ∀ k ∈ l.keys, k ∉ m.keys
  recordIds : ∀ i ∈ l.recordIds, i ∉ m.recordIds
  externalIds : ∀ x ∈ l.externalIds, x ∉ m.externalIds
  eventIds : ∀ i ∈ l.eventIds, i ∉ m.eventIds
  ledgerIds : ∀ i ∈ l.ledgerIds, i ∉ m.ledgerIds
  historyIds : ∀ i ∈ l.historyIds, i ∉ m.historyIds
  accountLocks : ∀ i ∈ l.accountLocks, i ∉ m.accountLocks
  eventLocks : ∀ i ∈ l.eventLocks, i ∉ m.eventLocks

theorem Session.Apart.symm {l m : Session} (h : l.Apart m) : m.Apart l :=
  ⟨fun k hk hk' => h.keys k hk' hk, fun k hk hk' => h.recordIds k hk' hk, fun k hk hk' => h.externalIds k hk' hk,
    fun k hk hk' => h.eventIds k hk' hk, fun k hk hk' => h.ledgerIds k hk' hk,
    fun k hk hk' => h.historyIds k hk' hk, fun k hk hk' => h.accountLocks k hk' hk,
    fun k hk hk' => h.eventLocks k hk' hk⟩

/-- The ids that the call has drawn are its own. -/
structure Session.Owns (l : Session) (sh : Shared) : Prop where
  record : ∀ i ∈ l.recordIds, i < sh.seqs.record ∧ ∀ r ∈ sh.db.records, r.id ≠ i
  event : ∀ i ∈ l.eventIds, i < sh.seqs.event ∧ ∀ r ∈ sh.db.events, r.id ≠ i
  ledger : ∀ i ∈ l.ledgerIds, i < sh.seqs.ledger ∧ ∀ r ∈ sh.db.ledger, r.id ≠ i
  history : ∀ i ∈ l.historyIds, i < sh.seqs.history ∧ ∀ r ∈ sh.db.histories, r.id ≠ i

/-- The entry was written by the call that it names. -/
def CacheEntry.WrittenIn (e : CacheEntry) (ls : List Session) : Prop :=
  ∃ l, ls[e.writer]? = some l ∧ l.cacheWrote = some e

/-- The invariant of the running system. -/
structure Coherent (st : Settings) (opts : Opts) (calls : List Call) (sh : Shared) (ls : List Session) : Prop where
  kept : WellKept opts sh
  valid : sh.db.Valid
  chain : Chain st opts sh.init sh.log sh.db
  made : ∀ (i : Nat) (l : Session), ls[i]? = some l → l.tid = i ∧ calls[i]? = some ⟨l.wiring, l.key, l.request⟩
  apart : ∀ (i j : Nat) (l m : Session), i ≠ j → ls[i]? = some l → ls[j]? = some m → l.Apart m
  owned : ∀ l ∈ ls, l.Owns sh
  locked : ∀ l ∈ ls, ∀ i ∈ l.eventLocks, (∃ e ∈ sh.db.events, e.id = i) ∨ i ∈ l.eventIds
  once : (sh.log.map Commit.tid).Nodup
  logged : ∀ x ∈ sh.log, calls[x.tid]? = some ⟨x.wiring, x.key, x.request⟩
  cached : opts.cold = true → ∀ kv ∈ sh.cache, kv.2.WrittenIn ls
  hits : opts.cold = true → ∀ l ∈ ls, ∀ e, l.cacheHit = some e → e.WrittenIn ls
  wrote : ∀ l ∈ ls, ∀ e, l.cacheWrote = some e → e.writer = l.tid ∧
    (opts.deletes = false → e.site ≠ .complete ∨ (∃ x ∈ sh.log, x.tid = l.tid) → Repeats sh.db l.key e.response)

/-! ## Operations that do not commit -/

/-- What an operation other than a commit can do among the others. -/
structure Local (opts : Opts) (sh : Shared) (l : Session) (others : List Session) (sh' : Shared) (l' : Session) :
    Prop where
  tid : l'.tid = l.tid
  wiring : l'.wiring = l.wiring
  key : l'.key = l.key
  request : l'.request = l.request
  db : sh'.db = sh.db
  init : sh'.init = sh.init
  log : sh'.log = sh.log
  seqs : sh.seqs.Le sh'.seqs
  kept : WellKept opts sh → WellKept opts sh'
  keys : ∀ k ∈ l'.keys, k ∈ l.keys ∨ ∀ o ∈ others, k ∉ o.keys
  externalIds : ∀ x ∈ l'.externalIds, x ∈ l.externalIds ∨ ∀ o ∈ others, x ∉ o.externalIds
  accountLocks : ∀ i ∈ l'.accountLocks, i ∈ l.accountLocks ∨ ∀ o ∈ others, i ∉ o.accountLocks
  eventLocks : ∀ i ∈ l'.eventLocks, i ∈ l.eventLocks ∨ ∀ o ∈ others, i ∉ o.eventLocks
  locked : ∀ i ∈ l'.eventLocks, (i ∈ l.eventLocks ∧ l.eventIds ⊆ l'.eventIds) ∨ (∃ e ∈ sh.db.events, e.id = i) ∨
    i ∈ l'.eventIds
  recordIds : ∀ i ∈ l'.recordIds, i ∈ l.recordIds ∨ (sh.seqs.record ≤ i ∧ i < sh'.seqs.record)
  eventIds : ∀ i ∈ l'.eventIds, i ∈ l.eventIds ∨ (sh.seqs.event ≤ i ∧ i < sh'.seqs.event)
  ledgerIds : ∀ i ∈ l'.ledgerIds, i ∈ l.ledgerIds ∨ (sh.seqs.ledger ≤ i ∧ i < sh'.seqs.ledger)
  historyIds : ∀ i ∈ l'.historyIds, i ∈ l.historyIds ∨ (sh.seqs.history ≤ i ∧ i < sh'.seqs.history)
  cache : (sh'.cache = sh.cache ∧ l'.cacheWrote = l.cacheWrote) ∨
    ∃ e, e.writer = l.tid ∧ l.cacheWrote = none ∧ l'.cacheWrote = some e ∧ (∀ x ∈ sh.log, x.tid ≠ l.tid) ∧
      (opts.deletes = false → e.site ≠ .complete → Repeats sh.db l.key e.response) ∧
      ∀ kv ∈ sh'.cache, kv ∈ sh.cache ∨ kv.2 = e
  hit : l'.cacheHit = l.cacheHit ∨ ∃ kv ∈ sh.cache, l'.cacheHit = some kv.2

section Local

variable {st : Settings} {opts : Opts} {sh sh' : Shared} {l l' : Session} {others : List Session}

theorem Local.refl (opts : Opts) (sh : Shared) (l : Session) (others : List Session) : Local opts sh l others sh l where
  tid := rfl
  wiring := rfl
  key := rfl
  request := rfl
  db := rfl
  init := rfl
  log := rfl
  seqs := Sequences.Le.refl _
  kept := id
  keys _ h := Or.inl h
  externalIds _ h := Or.inl h
  accountLocks _ h := Or.inl h
  eventLocks _ h := Or.inl h
  locked _ h := Or.inl ⟨h, fun _ h => h⟩
  recordIds _ h := Or.inl h
  eventIds _ h := Or.inl h
  ledgerIds _ h := Or.inl h
  historyIds _ h := Or.inl h
  cache := Or.inl ⟨rfl, rfl⟩
  hit := Or.inl rfl

/-- Giving up the transaction gives up everything it holds. -/
theorem Local.discard (h : l' = { l.discard with failed := l'.failed, faults := l'.faults }) :
    Local opts sh l others sh l' := by
  have hw : l'.work = {} := by rw [h]; rfl
  have ha : l'.accountLocks = [] := by rw [h]; rfl
  have he : l'.eventLocks = [] := by rw [h]; rfl
  exact
    { Local.refl opts sh l others with
      tid := by rw [h]; rfl
      wiring := by rw [h]; rfl
      key := by rw [h]; rfl
      request := by rw [h]; rfl
      keys := by simp [Session.keys, hw]
      externalIds := by simp [Session.externalIds, hw]
      accountLocks := by simp [ha]
      eventLocks := by simp [he]
      locked := by simp [he]
      recordIds := by simp [Session.recordIds, hw]
      eventIds := by simp [Session.eventIds, hw]
      ledgerIds := by simp [Session.ledgerIds, hw]
      historyIds := by simp [Session.historyIds, hw]
      cache := Or.inl ⟨rfl, by rw [h]; rfl⟩
      hit := Or.inl (by rw [h]; rfl) }

theorem mem_map_insert {α β : Type} {d : Delta α} {r : α} {f : α → β} {y : β}
    (h : y ∈ (d.insert r).inserted.map f) : y ∈ d.inserted.map f ∨ y = f r := by
  simpa [Delta.insert] using h

/-- Updating an inserted row keeps a column that the update keeps. -/
theorem mem_map_update {α β : Type} [Row α] {d : Delta α} {r : α} {f : α → β}
    (h : ∀ u ∈ d.inserted, Row.rowId u = Row.rowId r → f u = f r) {y : β}
    (hy : y ∈ (d.update r).inserted.map f) : y ∈ d.inserted.map f := by
  unfold Delta.update at hy
  split at hy
  · rw [List.map_map] at hy
    obtain ⟨u, hu, rfl⟩ := List.mem_map.mp hy
    refine List.mem_map.mpr ⟨u, hu, ?_⟩
    by_cases hid : Row.rowId u = Row.rowId r
    · simp [hid, h u hu hid]
    · simp [hid]
  · exact hy

/-- Updating an inserted row keeps the ids. -/
theorem mem_update_map {α : Type} [Row α] {d : Delta α} {r : α} {j : Nat} (h : j ∈ d.inserted.map Row.rowId) :
    j ∈ (d.update r).inserted.map Row.rowId := by
  unfold Delta.update
  split
  · rw [List.map_map]
    obtain ⟨u, hu, rfl⟩ := List.mem_map.mp h
    refine List.mem_map.mpr ⟨u, hu, ?_⟩
    by_cases hid : Row.rowId u = Row.rowId r
    · simp [hid]
    · simp [hid]
  · exact h

/-- An inserted record has a key that nobody else is inserting, and a new id. -/
theorem insertRecord_local {site : Site} {key hash : String} {e u : Time} {r : IdempotencyRecord}
    (hok : l.failed = false) (hs : (Stmt.insertRecord key hash e u).sendable = true)
    (hfree : blocked others (.sql site (.insertRecord key hash e u)) sh l = false)
    (hrun : runStmt (.insertRecord key hash e u) sh l = .ok (r, sh', l')) : Local opts sh l others sh' l' := by
  simp only [runStmt] at hrun
  split at hrun
  · cases hrun
  · cases hrun
    have hle : sh.seqs.Le { sh.seqs with record := sh.seqs.record + 1 } :=
      ⟨Nat.le_refl _, Nat.le_refl _, Nat.le_refl _, Nat.le_succ _⟩
    simp only [blocked, hok, hs, Bool.not_false, Bool.true_and, List.any_eq_false, List.any_eq_true, not_exists,
      not_and, beq_iff_eq] at hfree
    exact
      { Local.refl opts sh l others with
        seqs := hle
        kept := fun h => h.draw hle
        keys := fun k hk => (mem_map_insert hk).imp_right fun hk o ho hin => by
          obtain ⟨r, hr, hrk⟩ := List.mem_map.mp hin
          exact hfree o ho r hr (hrk.trans hk)
        recordIds := fun i hi => (mem_map_insert hi).imp_right fun hi =>
          ⟨Nat.le_of_eq hi.symm, Nat.lt_succ_of_le (Nat.le_of_eq hi)⟩ }

/-- The own record keeps its key and its id. -/
theorem updateRecord_local {record r : IdempotencyRecord} (howes : Stmt.owes (.updateRecord record) l)
    (hrun : runStmt (.updateRecord record) sh l = .ok (r, sh', l')) : Local opts sh l others sh' l' := by
  cases hrun
  obtain ⟨r, hr, hid, hk⟩ := howes
  exact
    { Local.refl opts sh l others with
      keys := fun k hmem => Or.inl (mem_map_update (fun u hu _ => by
        rw [hr, List.mem_singleton] at hu
        rw [hu, hk]) hmem)
      recordIds := fun k hmem => Or.inl (mem_map_update (f := IdempotencyRecord.id) (fun _ _ h => h) hmem) }

/-- The account that is locked is locked by nobody else. -/
theorem selectAccountForUpdate_local {site : Site} {no : String} {r : Option Account} (hok : l.failed = false)
    (hs : (Stmt.selectAccountForUpdate no).sendable = true)
    (hfree : blocked others (.sql site (.selectAccountForUpdate no)) sh l = false)
    (hrun : runStmt (.selectAccountForUpdate no) sh l = .ok (r, sh', l')) : Local opts sh l others sh' l' := by
  simp only [runStmt] at hrun
  simp only [blocked, hok, hs, Bool.not_false, Bool.true_and] at hfree
  split at hrun
  · cases hrun; exact Local.refl _ _ _ _
  · rename_i account ha
    cases hrun
    rw [ha] at hfree
    simp only [List.any_eq_false, List.contains_iff_mem] at hfree
    exact
      { Local.refl opts sh l others with
        accountLocks := fun i hi => by
          rcases List.mem_insert_iff.mp hi with rfl | hi
          · exact Or.inr hfree
          · exact Or.inl hi }

/-- The event that is locked is locked by nobody else. -/
theorem selectEventForUpdate_local {site : Site} {x : String} {r : Option TransactionEvent} (hok : l.failed = false)
    (hs : (Stmt.selectEventForUpdate x).sendable = true)
    (hfree : blocked others (.sql site (.selectEventForUpdate x)) sh l = false)
    (hrun : runStmt (.selectEventForUpdate x) sh l = .ok (r, sh', l')) : Local opts sh l others sh' l' := by
  simp only [runStmt] at hrun
  simp only [blocked, hok, hs, Bool.not_false, Bool.true_and] at hfree
  split at hrun
  · cases hrun; exact Local.refl _ _ _ _
  · rename_i event he
    cases hrun
    rw [he] at hfree
    simp only [List.any_eq_false, List.contains_iff_mem] at hfree
    exact
      { Local.refl opts sh l others with
        eventLocks := fun i hi => by
          rcases List.mem_insert_iff.mp hi with rfl | hi
          · exact Or.inr hfree
          · exact Or.inl hi
        locked := fun i hi => by
          rcases List.mem_insert_iff.mp hi with rfl | hi
          · refine Or.inr ?_
            rcases Delta.mem_apply.mp (List.mem_of_find?_eq_some he) with ⟨e₀, he₀, hv⟩ | hin
            · refine Or.inl ⟨e₀, he₀, ?_⟩
              rcases l.work.events.version_cases e₀ with hs | ⟨u, _, hid, hs⟩
              · rw [← hv, hs]
              · rw [← hv, hs]; exact hid.symm
            · exact Or.inr (List.mem_map_of_mem hin)
          · exact Or.inl ⟨hi, fun _ h => h⟩ }

/-- An inserted event has an external id that nobody else is inserting, and a new id. -/
theorem insertEvent_local {site : Site} {x key currency : String} {account : Nat} {type : EventType} {amount : Int}
    {occurredAt : Datetime} {r : TransactionEvent} (hok : l.failed = false)
    (hs : (Stmt.insertEvent x key account type amount currency occurredAt).sendable = true)
    (hfree : blocked others (.sql site (.insertEvent x key account type amount currency occurredAt)) sh l = false)
    (hrun : runStmt (.insertEvent x key account type amount currency occurredAt) sh l = .ok (r, sh', l')) :
    Local opts sh l others sh' l' := by
  simp only [runStmt] at hrun
  split at hrun
  · cases hrun
  · split at hrun
    · cases hrun
    · cases hrun
      have hle : sh.seqs.Le { sh.seqs with event := sh.seqs.event + 1 } :=
        ⟨Nat.le_succ _, Nat.le_refl _, Nat.le_refl _, Nat.le_refl _⟩
      simp only [blocked, hok, hs, Bool.not_false, Bool.true_and, List.any_eq_false, List.any_eq_true, not_exists,
        not_and, beq_iff_eq] at hfree
      exact
        { Local.refl opts sh l others with
          seqs := hle
          kept := fun h => h.draw hle
          externalIds := fun k hk => (mem_map_insert hk).imp_right fun hk o ho hin => by
            obtain ⟨r, hr, hrk⟩ := List.mem_map.mp hin
            exact hfree o ho r hr (hrk.trans hk)
          locked := fun i hi => Or.inl ⟨hi, fun j hj => by
            simp only [Session.eventIds, Delta.insert, List.map_append]
            exact List.mem_append_left _ hj⟩
          eventIds := fun i hi => (mem_map_insert hi).imp_right fun hi =>
            ⟨Nat.le_of_eq hi.symm, Nat.lt_succ_of_le (Nat.le_of_eq hi)⟩ }

/-- The event whose status changes is the own one or is locked by nobody else. -/
theorem updateEventStatus_local {site : Site} {event r : TransactionEvent} {status : TransactionStatus}
    {reason : Option String} (howes : Stmt.owes (.updateEventStatus event status reason) l) (hok : l.failed = false)
    (hs : (Stmt.updateEventStatus event status reason).sendable = true)
    (hfree : blocked others (.sql site (.updateEventStatus event status reason)) sh l = false)
    (hrun : runStmt (.updateEventStatus event status reason) sh l = .ok (r, sh', l')) :
    Local opts sh l others sh' l' := by
  cases hrun
  have hle : sh.seqs.Le { sh.seqs with history := sh.seqs.history + 1 } :=
    ⟨Nat.le_refl _, Nat.le_refl _, Nat.le_succ _, Nat.le_refl _⟩
  simp only [blocked, hok, hs, Bool.not_false, Bool.true_and, List.any_eq_false, List.contains_iff_mem] at hfree
  exact
    { Local.refl opts sh l others with
      seqs := hle
      kept := fun h => h.draw hle
      externalIds := fun k hmem => Or.inl (mem_map_update (f := TransactionEvent.externalEventId)
        (r := withStatus event status (l.txnNow sh.clock)) (fun u hu h => howes.1 u hu h) hmem)
      eventIds := fun k hmem => Or.inl (mem_map_update (f := TransactionEvent.id) (fun _ _ h => h) hmem)
      historyIds := fun i hi => (mem_map_insert hi).imp_right fun hi =>
        ⟨Nat.le_of_eq hi.symm, Nat.lt_succ_of_le (Nat.le_of_eq hi)⟩
      eventLocks := fun i hi => by
        dsimp only at hi
        split at hi
        · exact Or.inl hi
        · rcases List.mem_insert_iff.mp hi with rfl | hi
          · exact Or.inr hfree
          · exact Or.inl hi
      locked := fun i hi => by
        have hsub : l.eventIds ⊆ (l.work.events.update
            (withStatus event status (l.txnNow sh.clock))).inserted.map TransactionEvent.id :=
          fun j hj => mem_update_map hj
        dsimp only at hi
        split at hi
        · exact Or.inl ⟨hi, hsub⟩
        · rcases List.mem_insert_iff.mp hi with rfl | hi
          · rcases howes.2 with ho | ho
            · exact Or.inr (Or.inr (hsub ho))
            · exact Or.inl ⟨ho, hsub⟩
          · exact Or.inl ⟨hi, hsub⟩ }

/-- An inserted entry has a new id. -/
theorem insertLedger_local {eventId accountId : Nat} {type : EntryType} {amount balance : Int} {r : LedgerEntry}
    (hrun : runStmt (.insertLedger eventId accountId type amount balance) sh l = .ok (r, sh', l')) :
    Local opts sh l others sh' l' := by
  simp only [runStmt] at hrun
  split at hrun
  · cases hrun
  · split at hrun
    · cases hrun
    · cases hrun
      have hle : sh.seqs.Le { sh.seqs with ledger := sh.seqs.ledger + 1 } :=
        ⟨Nat.le_refl _, Nat.le_succ _, Nat.le_refl _, Nat.le_refl _⟩
      exact
        { Local.refl opts sh l others with
          seqs := hle
          kept := fun h => h.draw hle
          ledgerIds := fun i hi => (mem_map_insert hi).imp_right fun hi =>
            ⟨Nat.le_of_eq hi.symm, Nat.lt_succ_of_le (Nat.le_of_eq hi)⟩ }

/-- The account whose balance changes is locked by nobody else. -/
theorem updateBalance_local {site : Site} {account r : Account} {balance : Int} (hok : l.failed = false)
    (hs : (Stmt.updateBalance account balance).sendable = true)
    (hfree : blocked others (.sql site (.updateBalance account balance)) sh l = false)
    (hrun : runStmt (.updateBalance account balance) sh l = .ok (r, sh', l')) : Local opts sh l others sh' l' := by
  simp only [runStmt] at hrun
  split at hrun
  · cases hrun
  · cases hrun
    simp only [blocked, hok, hs, Bool.not_false, Bool.true_and, List.any_eq_false, List.contains_iff_mem] at hfree
    exact
      { Local.refl opts sh l others with
        accountLocks := fun i hi => by
          rcases List.mem_insert_iff.mp hi with rfl | hi
          · exact Or.inr hfree
          · exact Or.inl hi }

/-- A statement takes only what nobody else holds. -/
theorem runStmt_local {site : Site} {stmt : Stmt} {r : stmt.Res} (howes : stmt.owes l) (hok : l.failed = false)
    (hs : stmt.sendable = true) (hfree : blocked others (.sql site stmt) sh l = false)
    (hrun : runStmt stmt sh l = .ok (r, sh', l')) : Local opts sh l others sh' l' := by
  cases stmt with
  | selectRecord key => cases hrun; exact Local.refl _ _ _ _
  | selectActiveQuarantine t i => cases hrun; exact Local.refl _ _ _ _
  | selectEvent x => cases hrun; exact Local.refl _ _ _ _
  | selectLedger i => cases hrun; exact Local.refl _ _ _ _
  | insertRecord key hash e u => exact insertRecord_local hok hs hfree hrun
  | updateRecord record => exact updateRecord_local howes hrun
  | selectAccountForUpdate no => exact selectAccountForUpdate_local hok hs hfree hrun
  | selectEventForUpdate x => exact selectEventForUpdate_local hok hs hfree hrun
  | insertEvent x key account type amount currency occurredAt => exact insertEvent_local hok hs hfree hrun
  | updateEventStatus event status reason => exact updateEventStatus_local howes hok hs hfree hrun
  | insertLedger eventId accountId type amount balance => exact insertLedger_local hrun
  | updateBalance account balance => exact updateBalance_local hok hs hfree hrun

theorem Stmt.owes_begin {stmt : Stmt} {t : Time} (h : stmt.owes l) : stmt.owes (l.begin t) := by
  cases stmt <;> exact h

theorem Local.begin (h : Local opts sh (l.begin sh.clock) others sh' l') : Local opts sh l others sh' l' :=
  { h with }

/-- An operation that is no effective commit is local. -/
theorem exec_local {o : Op} {r : Except Exc o.Res} {fault : Bool} (howes : owes st opts o sh l)
    (hfree : fault = false → blocked others o sh l = false) (hx : exec fault o sh l = (r, sh', l'))
    (hc : ∀ reply, o = .commit reply → l.failed = true ∨ fault = true) : Local opts sh l others sh' l' := by
  cases o with
  | sql site stmt =>
      rcases exec_sql_cases hx with ⟨x, rfl, rfl, rfl | rfl⟩ | ⟨hok, hf, hs, a, rfl, hrun⟩
      · exact Local.refl _ _ _ _
      · exact Local.discard rfl
      · have hfree' : blocked others (.sql site stmt) sh (l.begin sh.clock) = false := hfree hf
        exact (runStmt_local (l := l.begin sh.clock) (Stmt.owes_begin (howes hok)) hok hs hfree' hrun).begin
  | commit reply =>
      simp only [exec] at hx
      split at hx
      · cases hx; exact Local.discard rfl
      · split at hx
        · cases hx; exact Local.discard rfl
        · rename_i hok hf
          rcases hc reply rfl with h | h
          · exact absurd h hok
          · exact absurd h hf
  | rollback => cases hx; exact Local.discard rfl
  | now => cases hx; exact Local.refl _ _ _ _
  | setActiveEvent e => cases hx; exact { Local.refl opts sh l others with }
  | activeEvent => cases hx; exact Local.refl _ _ _ _
  | recordRetry => cases hx; exact { Local.refl opts sh l others with }
  | lockAcquire key =>
      simp only [exec] at hx
      split at hx
      · cases hx; exact Local.refl _ _ _ _
      · split at hx
        · cases hx; exact Local.refl _ _ _ _
        · cases hx
          exact { Local.refl opts sh l others with kept := fun h => h.relock _ _ }
  | lockRelease key token =>
      simp only [exec] at hx
      split at hx
      · cases hx; exact Local.refl _ _ _ _
      · cases hx
        exact { Local.refl opts sh l others with kept := fun h => h.relock _ _ }
  | cacheGet key =>
      simp only [exec] at hx
      split at hx
      · cases hx; exact Local.refl _ _ _ _
      · rename_i e he
        cases hx
        refine { Local.refl opts sh l others with hit := Or.inr ?_ }
        cases fault with
        | true => cases he
        | false =>
            obtain ⟨l₁, l₂, heq, _⟩ := List.lookup_eq_some_iff.mp he
            exact ⟨(key, e), by rw [heq]; exact List.mem_append_right _ List.mem_cons_self, rfl⟩
  | cacheSet site key response =>
      simp only [exec] at hx
      split at hx
      · cases hx; exact Local.refl _ _ _ _
      · cases hx
        obtain ⟨hfresh, hnone, hbody, hrepeats⟩ := howes
        exact
          { Local.refl opts sh l others with
            kept := fun h => h.setCache key hbody
            cache := by
              refine Or.inr ⟨_, rfl, hnone, rfl, hfresh, hrepeats, fun kv hkv => ?_⟩
              rcases List.mem_cons.mp hkv with rfl | hkv
              · exact Or.inr rfl
              · exact Or.inl (List.mem_filter.mp hkv).1 }

/-- The state after the commit of `l`. -/
def committed (sh : Shared) (l : Session) (reply : TransactionProcessingResult) : Shared :=
  { sh with
    db := l.work.apply sh.db
    log := sh.log ++ [⟨l.tid, l.wiring, l.key, l.request, l.cacheHit, l.work, reply⟩] }

/-- An operation is local or commits. -/
theorem exec_cases {o : Op} {r : Except Exc o.Res} {fault : Bool} (howes : owes st opts o sh l)
    (hfree : fault = false → blocked others o sh l = false) (hx : exec fault o sh l = (r, sh', l')) :
    Local opts sh l others sh' l' ∨ ∃ reply, o = .commit reply ∧ fault = false ∧ Owed st opts reply sh l ∧
      sh' = committed sh l reply ∧ l' = l.discard := by
  by_cases hc : ∀ reply, o = .commit reply → l.failed = true ∨ fault = true
  · exact Or.inl (exec_local howes hfree hx hc)
  · obtain ⟨reply, rfl, hn⟩ : ∃ reply, o = .commit reply ∧ ¬(l.failed = true ∨ fault = true) := by
      simpa only [not_forall, exists_prop] using hc
    have hok : l.failed = false := by simpa using fun hf => hn (Or.inl hf)
    have hff : fault = false := by simpa using fun hf => hn (Or.inr hf)
    subst hff
    simp only [exec, hok, Bool.false_eq_true, if_false, Prod.mk.injEq] at hx
    exact Or.inr ⟨reply, rfl, rfl, howes, hx.2.1.symm, hx.2.2.symm⟩

/-- What is local disturbs nobody. -/
theorem Local.rely (h : Local opts sh l others sh' l') (hq : opts.quiet = false) (m : Session) :
    Rely opts m sh sh' := by
  have hr : Rely opts m sh sh := Rely.refl m sh
  exact
    { quiet := fun h => by rw [hq] at h; cases h
      init := h.init
      wellKept := h.kept
      accounts := by rw [h.db]; exact hr.accounts
      events := by rw [h.db]; exact hr.events
      ledger := by rw [h.db]; exact hr.ledger
      ledgerOf := by rw [h.db]; exact hr.ledgerOf
      histories := by rw [h.db]; exact hr.histories
      records := by rw [h.db]; exact hr.records
      kept := by rw [h.db]; exact hr.kept
      quarantines := by rw [h.db]; exact hr.quarantines
      log := by rw [h.log]; exact hr.log
      historySeq := h.seqs.history }

theorem Local.apart {m : Session} (h : Local opts sh l others sh' l') (hm : m ∈ others) (ha : l.Apart m)
    (ho : m.Owns sh) : l'.Apart m where
  keys k hk := (h.keys k hk).elim (ha.keys k) (fun hn => hn m hm)
  externalIds k hk := (h.externalIds k hk).elim (ha.externalIds k) (fun hn => hn m hm)
  accountLocks k hk := (h.accountLocks k hk).elim (ha.accountLocks k) (fun hn => hn m hm)
  eventLocks k hk := (h.eventLocks k hk).elim (ha.eventLocks k) (fun hn => hn m hm)
  recordIds i hi := (h.recordIds i hi).elim (ha.recordIds i) fun hn hin =>
    Nat.not_lt_of_le hn.1 (ho.record i hin).1
  eventIds i hi := (h.eventIds i hi).elim (ha.eventIds i) fun hn hin => Nat.not_lt_of_le hn.1 (ho.event i hin).1
  ledgerIds i hi := (h.ledgerIds i hi).elim (ha.ledgerIds i) fun hn hin =>
    Nat.not_lt_of_le hn.1 (ho.ledger i hin).1
  historyIds i hi := (h.historyIds i hi).elim (ha.historyIds i) fun hn hin =>
    Nat.not_lt_of_le hn.1 (ho.history i hin).1

theorem Local.owns_other {m : Session} (h : Local opts sh l others sh' l') (ho : m.Owns sh) : m.Owns sh' where
  record i hi := ⟨Nat.lt_of_lt_of_le (ho.record i hi).1 h.seqs.record, by rw [h.db]; exact (ho.record i hi).2⟩
  event i hi := ⟨Nat.lt_of_lt_of_le (ho.event i hi).1 h.seqs.event, by rw [h.db]; exact (ho.event i hi).2⟩
  ledger i hi := ⟨Nat.lt_of_lt_of_le (ho.ledger i hi).1 h.seqs.ledger, by rw [h.db]; exact (ho.ledger i hi).2⟩
  history i hi := ⟨Nat.lt_of_lt_of_le (ho.history i hi).1 h.seqs.history, by rw [h.db]; exact (ho.history i hi).2⟩

theorem Local.owns (h : Local opts sh l others sh' l') (hd : Drawn sh) (ho : l.Owns sh) : l'.Owns sh' where
  record i hi := (h.recordIds i hi).elim (fun hi => (h.owns_other ho).record i hi) fun hn =>
    ⟨hn.2, fun r hr => Nat.ne_of_lt (Nat.lt_of_lt_of_le (hd.record r (h.db ▸ hr)) hn.1)⟩
  event i hi := (h.eventIds i hi).elim (fun hi => (h.owns_other ho).event i hi) fun hn =>
    ⟨hn.2, fun r hr => Nat.ne_of_lt (Nat.lt_of_lt_of_le (hd.event r (h.db ▸ hr)) hn.1)⟩
  ledger i hi := (h.ledgerIds i hi).elim (fun hi => (h.owns_other ho).ledger i hi) fun hn =>
    ⟨hn.2, fun r hr => Nat.ne_of_lt (Nat.lt_of_lt_of_le (hd.ledger r (h.db ▸ hr)) hn.1)⟩
  history i hi := (h.historyIds i hi).elim (fun hi => (h.owns_other ho).history i hi) fun hn =>
    ⟨hn.2, fun r hr => Nat.ne_of_lt (Nat.lt_of_lt_of_le (hd.history r (h.db ▸ hr)) hn.1)⟩

end Local

section Steps

variable {st : Settings} {opts : Opts} {calls : List Call} {sh sh' : Shared} {ls : List Session} {i : Nat}
  {l l' : Session}

theorem mem_set_cases {m : Session} (h : m ∈ ls.set i l') : m = l' ∨ ∃ j, j ≠ i ∧ ls[j]? = some m := by
  obtain ⟨j, hj⟩ := List.getElem?_of_mem h
  rcases getElem?_set_cases hj with ⟨_, hm⟩ | ⟨hne, hm⟩
  · exact Or.inl hm
  · exact Or.inr ⟨j, hne, hm⟩

/-- The writer of an entry remembers it. -/
theorem CacheEntry.WrittenIn.set {e : CacheEntry} (h : e.WrittenIn ls) (hi : ls[i]? = some l)
    (hl : l'.cacheWrote = l.cacheWrote ∨ l.cacheWrote = none) : e.WrittenIn (ls.set i l') := by
  obtain ⟨l₀, hl₀, hw⟩ := h
  by_cases hw' : i = e.writer
  · rw [← hw', hi] at hl₀
    cases hl₀
    refine ⟨l', by rw [← hw']; exact List.getElem?_set_self (List.getElem?_eq_some_iff.mp hi).1, ?_⟩
    rcases hl with hs | hs
    · rw [hs, hw]
    · rw [hs] at hw; cases hw
  · exact ⟨l₀, by rw [List.getElem?_set_ne hw']; exact hl₀, hw⟩

theorem mem_others {j : Nat} {m : Session} (hne : j ≠ i) (hm : ls[j]? = some m) : m ∈ ls.eraseIdx i :=
  List.mem_eraseIdx_iff_getElem?.mpr ⟨j, hne, hm⟩

/-- The invariant after a step of one call that leaves the others' sessions alone. -/
theorem Coherent.apart_set (h : Coherent st opts calls sh ls)
    (hl : ∀ j m, j ≠ i → ls[j]? = some m → l'.Apart m) :
    ∀ (j k : Nat) (a b : Session), j ≠ k → (ls.set i l')[j]? = some a → (ls.set i l')[k]? = some b → a.Apart b := by
  intro j k a b hjk ha hb
  rcases getElem?_set_cases ha with ⟨rfl, rfl⟩ | ⟨hj, hja⟩
  · rcases getElem?_set_cases hb with ⟨rfl, _⟩ | ⟨hk, hkb⟩
    · exact absurd rfl hjk
    · exact hl k b hk hkb
  · rcases getElem?_set_cases hb with ⟨rfl, rfl⟩ | ⟨hk, hkb⟩
    · exact (hl j a hj hja).symm
    · exact h.apart j k a b hjk hja hkb

theorem Coherent.local (h : Coherent st opts calls sh ls) (hi : ls[i]? = some l)
    (hl : Local opts sh l (ls.eraseIdx i) sh' l') : Coherent st opts calls sh' (ls.set i l') where
  kept := hl.kept h.kept
  valid := by rw [hl.db]; exact h.valid
  chain := by rw [hl.init, hl.log, hl.db]; exact h.chain
  made j m hm := by
    rcases getElem?_set_cases hm with ⟨rfl, rfl⟩ | ⟨_, hm⟩
    · rw [hl.tid, hl.wiring, hl.key, hl.request]
      exact h.made j l hi
    · exact h.made j m hm
  apart := h.apart_set fun j m hne hm => hl.apart (mem_others hne hm) (h.apart i j l m hne.symm hi hm)
    (h.owned m (List.mem_of_getElem? hm))
  owned m hm := by
    rcases List.mem_or_eq_of_mem_set hm with hm | rfl
    · exact hl.owns_other (h.owned m hm)
    · exact hl.owns h.kept.drawn (h.owned l (List.mem_of_getElem? hi))
  locked m hm j hj := by
    rw [hl.db]
    rcases List.mem_or_eq_of_mem_set hm with hm | rfl
    · exact h.locked m hm j hj
    · rcases hl.locked j hj with ⟨hj, hsub⟩ | hj
      · exact (h.locked l (List.mem_of_getElem? hi) j hj).imp_right fun hin => hsub hin
      · exact hj
  once := by rw [hl.log]; exact h.once
  logged := by rw [hl.log]; exact h.logged
  cached hcold kv hkv := by
    rcases hl.cache with ⟨hc, hw⟩ | ⟨e, hwr, hnone, hset, _, _, hc⟩
    · exact (h.cached hcold kv (hc ▸ hkv)).set hi (Or.inl hw)
    · rcases hc kv hkv with hkv | hkv
      · exact (h.cached hcold kv hkv).set hi (Or.inr hnone)
      · refine ⟨l', ?_, by rw [hset, hkv]⟩
        rw [hkv, hwr, (h.made i l hi).1]
        exact List.getElem?_set_self (List.getElem?_eq_some_iff.mp hi).1
  hits hcold m hm e he := by
    have hsame : l'.cacheWrote = l.cacheWrote ∨ l.cacheWrote = none := by
      rcases hl.cache with ⟨_, hw⟩ | ⟨_, _, hnone, _⟩
      · exact Or.inl hw
      · exact Or.inr hnone
    refine CacheEntry.WrittenIn.set ?_ hi hsame
    rcases List.mem_or_eq_of_mem_set hm with hm | rfl
    · exact h.hits hcold m hm e he
    · rcases hl.hit with hh | ⟨kv, hkv, hh⟩
      · exact h.hits hcold l (List.mem_of_getElem? hi) e (hh ▸ he)
      · rw [hh] at he
        cases he
        exact h.cached hcold kv hkv
  wrote m hm e he := by
    rw [hl.log, hl.db]
    rcases List.mem_or_eq_of_mem_set hm with hm | rfl
    · exact h.wrote m hm e he
    · rw [hl.tid, hl.key]
      rcases hl.cache with ⟨_, hw⟩ | ⟨e', hwr, _, hset, hfresh, hrepeats, _⟩
      · exact h.wrote l (List.mem_of_getElem? hi) e (hw ▸ he)
      · rw [hset] at he
        cases he
        refine ⟨hwr, fun hd hbacked => ?_⟩
        rcases hbacked with hsite | ⟨x, hx, hxt⟩
        · exact hrepeats hd hsite
        · exact absurd hxt (hfresh x hx)

/-! ## Commits -/

theorem WellKept.commit {reply : TransactionProcessingResult} (h : WellKept opts sh) (hv : sh.db.Valid)
    (he : Effect sh.db l.work) (hc : Covered l.work l.accountLocks l.eventLocks) (ho : l.Owns sh) :
    WellKept opts (committed sh l reply) where
  since := h.since.trans (he.evolves hc hv)
  drawn :=
    { event := fun e hmem => by
        rcases Delta.mem_apply.mp hmem with ⟨e₀, he₀, rfl⟩ | hin
        · rw [(he.event_version hv he₀).id_eq]; exact h.drawn.event e₀ he₀
        · exact (ho.event e.id (List.mem_map_of_mem hin)).1
      ledger := fun r hmem => by
        rcases Delta.mem_apply.mp hmem with ⟨r₀, hr₀, rfl⟩ | hin
        · rw [Delta.version_of_updated_nil hc.noLedgerUpdates]; exact h.drawn.ledger r₀ hr₀
        · exact (ho.ledger r.id (List.mem_map_of_mem hin)).1
      history := fun r hmem => by
        rcases Delta.mem_apply.mp hmem with ⟨r₀, hr₀, rfl⟩ | hin
        · rw [Delta.version_of_updated_nil hc.noHistoryUpdates]; exact h.drawn.history r₀ hr₀
        · exact (ho.history r.id (List.mem_map_of_mem hin)).1
      record := fun r hmem => by
        rcases Delta.mem_apply.mp hmem with ⟨r₀, hr₀, rfl⟩ | hin
        · rw [Delta.version_of_updated_nil hc.noRecordUpdates]; exact h.drawn.record r₀ hr₀
        · exact (ho.record r.id (List.mem_map_of_mem hin)).1 }
  ledger_fk := (he.valid hc hv).ledger_fk
  history_fk := (he.valid hc hv).history_fk
  bodies ht := by
    refine ⟨fun r hmem => ?_, (h.bodies ht).2⟩
    rcases Delta.mem_apply.mp hmem with ⟨r₀, hr₀, rfl⟩ | hin
    · rw [Delta.version_of_updated_nil hc.noRecordUpdates]; exact (h.bodies ht).1 r₀ hr₀
    · exact (he.newRecord r hin).2.2

/-- A commit stays within what another call relies on. -/
theorem rely_commit {m : Session} {reply : TransactionProcessingResult} (hq : opts.quiet = false)
    (hv : sh.db.Valid) (he : Effect sh.db l.work)
    (hc : Covered l.work l.accountLocks l.eventLocks) (ho : l.Owns sh) (hom : m.Owns sh) (ha : l.Apart m)
    (hlm : ∀ i ∈ m.eventLocks, (∃ e ∈ sh.db.events, e.id = i) ∨ i ∈ m.eventIds)
    (hll : ∀ i ∈ l.eventLocks, (∃ e ∈ sh.db.events, e.id = i) ∨ i ∈ l.eventIds) (htid : l.tid ≠ m.tid) :
    Rely opts m sh (committed sh l reply) where
  quiet h := by rw [hq] at h; cases h
  init := rfl
  wellKept h := h.commit hv he hc ho
  accounts := by
    refine Grows.of_apply (fun a hmem => ⟨he.account_version hv hmem, fun hlock => ?_⟩) (by simp [hc.noAccounts])
    rcases l.work.accounts.version_cases a with hs | ⟨u, hu, hid, _⟩
    · exact hs
    · have hid : u.id = a.id := hid
      exact absurd hlock (ha.accountLocks a.id (hid ▸ hc.accounts u hu))
  events := by
    refine Grows.of_apply (fun e hmem => ⟨he.event_version hv hmem, fun hlock => ?_⟩) (fun n hn => ?_)
    · rcases l.work.events.version_cases e with hs | ⟨u, hu, hid, hs⟩
      · exact hs
      · have hstep := he.event_version hv hmem
        rw [hs] at hstep
        have hcu := hc.events u hu
        rw [hstep.accountId_eq, hstep.id_eq] at hcu
        rcases hlock with hlock | hlock
        · exact absurd hlock (ha.accountLocks _ hcu.2)
        · exact absurd hlock (ha.eventLocks _ hcu.1)
    · exact ⟨ha.externalIds _ (List.mem_map_of_mem hn), ha.eventIds _ (List.mem_map_of_mem hn),
        ha.accountLocks _ (hc.newEvents n hn)⟩
  ledger := by
    refine Grows.of_apply (fun r _ => Delta.version_of_updated_nil hc.noLedgerUpdates r) (fun n hn => ?_)
    exact ⟨ha.ledgerIds _ (List.mem_map_of_mem hn), ha.eventIds _ (hc.ledger n hn).2,
      ha.accountLocks _ (hc.ledger n hn).1⟩
  ledgerOf e hmem := by
    have hnew : l.work.ledger.inserted.find? (fun r => r.transactionEventId == e.id) = none := by
      rw [List.find?_eq_none]
      intro n hn heq
      exact (ho.event _ (hc.ledger n hn).2).2 e hmem (beq_iff_eq.mp heq).symm
    simp only [committed, Overlay.apply, Db.ledgerByEventId, Delta.apply_of_updated_nil hc.noLedgerUpdates,
      List.find?_append, hnew, Option.or_none]
  histories := by
    refine Grows.of_apply (fun r _ => Delta.version_of_updated_nil hc.noHistoryUpdates r) (fun n hn => ?_)
    refine ⟨ha.historyIds _ (List.mem_map_of_mem hn), fun hin => ?_, fun hin => ?_⟩
    · rcases hc.histories n hn with hl | hl
      · exact ha.eventIds _ hl hin
      · rcases hll _ hl with ⟨e, he, hid⟩ | hl
        · exact (hom.event _ hin).2 e he hid
        · exact ha.eventIds _ hl hin
    · rcases hc.histories n hn with hl | hl
      · rcases hlm _ hin with ⟨e, he, hid⟩ | hm
        · exact (ho.event _ hl).2 e he hid
        · exact ha.eventIds _ hl hm
      · exact ha.eventLocks _ hl hin
  records r hr := by
    rcases Delta.mem_apply.mp hr with ⟨r₀, hr₀, rfl⟩ | hin
    · rw [Delta.version_of_updated_nil hc.noRecordUpdates]; exact Or.inl hr₀
    · exact Or.inr ⟨ha.keys _ (List.mem_map_of_mem hin), ha.recordIds _ (List.mem_map_of_mem hin)⟩
  kept _ := Grows.of_apply (fun r _ => Delta.version_of_updated_nil hc.noRecordUpdates r) (fun _ _ => trivial)
  quarantines _ := rfl
  log := by
    refine Grows.append (R := fun x x' => x' = x) (N := fun x => x.tid ≠ m.tid) (fun _ => rfl) (fun x hx => ?_) sh.log
    rw [List.mem_singleton.mp hx]
    exact htid
  historySeq := Nat.le_refl _

theorem Session.Owns.commit {m : Session} {reply : TransactionProcessingResult} (hom : m.Owns sh) (ha : l.Apart m)
    (hv : sh.db.Valid) (he : Effect sh.db l.work) (hc : Covered l.work l.accountLocks l.eventLocks) :
    m.Owns (committed sh l reply) where
  record i hi := by
    refine ⟨(hom.record i hi).1, fun r hr => ?_⟩
    rcases Delta.mem_apply.mp hr with ⟨r₀, hr₀, rfl⟩ | hin
    · rw [Delta.version_of_updated_nil hc.noRecordUpdates]; exact (hom.record i hi).2 r₀ hr₀
    · exact fun hid => ha.recordIds _ (List.mem_map_of_mem hin) (hid ▸ hi)
  event i hi := by
    refine ⟨(hom.event i hi).1, fun r hr => ?_⟩
    rcases Delta.mem_apply.mp hr with ⟨r₀, hr₀, rfl⟩ | hin
    · rw [(he.event_version hv hr₀).id_eq]; exact (hom.event i hi).2 r₀ hr₀
    · exact fun hid => ha.eventIds _ (List.mem_map_of_mem hin) (hid ▸ hi)
  ledger i hi := by
    refine ⟨(hom.ledger i hi).1, fun r hr => ?_⟩
    rcases Delta.mem_apply.mp hr with ⟨r₀, hr₀, rfl⟩ | hin
    · rw [Delta.version_of_updated_nil hc.noLedgerUpdates]; exact (hom.ledger i hi).2 r₀ hr₀
    · exact fun hid => ha.ledgerIds _ (List.mem_map_of_mem hin) (hid ▸ hi)
  history i hi := by
    refine ⟨(hom.history i hi).1, fun r hr => ?_⟩
    rcases Delta.mem_apply.mp hr with ⟨r₀, hr₀, rfl⟩ | hin
    · rw [Delta.version_of_updated_nil hc.noHistoryUpdates]; exact (hom.history i hi).2 r₀ hr₀
    · exact fun hid => ha.historyIds _ (List.mem_map_of_mem hin) (hid ▸ hi)

theorem Repeats.mono {db db' : Db} {key : String} {response : CachedIdempotencyResponse}
    (h : Repeats db key response) (hg : Grows (fun r r' => r' = r) (fun _ => True) db.records db'.records) :
    Repeats db' key response := by
  obtain ⟨r, hr, hrest⟩ := h
  obtain ⟨r', rfl, hr'⟩ := hg.find?_some (fun a b hab => by rw [hab]) hr
  exact ⟨r', hr', hrest⟩

/-- **A commit keeps the invariant.** -/
theorem Coherent.commit {reply : TransactionProcessingResult} (h : Coherent st opts calls sh ls)
    (hi : ls[i]? = some l) (howed : Owed st opts reply sh l) :
    Coherent st opts calls (committed sh l reply) (ls.set i l.discard) := by
  have he := howed.shape.effect
  have hc := howed.covered
  have hmem := List.mem_of_getElem? hi
  have hgrow : Grows (fun r r' => r' = r) (fun _ => True) sh.db.records (l.work.apply sh.db).records :=
    Grows.of_apply (fun r _ => Delta.version_of_updated_nil hc.noRecordUpdates r) (fun _ _ => trivial)
  have hother : ∀ {j m}, j ≠ i → ls[j]? = some m → l.Apart m ∧ l.tid ≠ m.tid := by
    intro j m hj hm
    refine ⟨h.apart i j l m hj.symm hi hm, ?_⟩
    rw [(h.made i l hi).1, (h.made j m hm).1]
    exact hj.symm
  exact
    { kept := h.kept.commit h.valid he hc (h.owned l hmem)
      valid := he.valid hc h.valid
      chain := .commit h.chain h.valid howed.shape hc
      made := fun j m hm => by
        rcases getElem?_set_cases hm with ⟨rfl, rfl⟩ | ⟨_, hm⟩
        · exact h.made j l hi
        · exact h.made j m hm
      apart := h.apart_set fun j m _ _ => by constructor <;> simp [Session.keys, Session.recordIds,
        Session.externalIds, Session.eventIds, Session.ledgerIds, Session.historyIds, Session.discard]
      owned := fun m hm => by
        rcases mem_set_cases hm with rfl | ⟨j, hj, hm⟩
        · constructor <;> simp [Session.recordIds, Session.eventIds, Session.ledgerIds, Session.historyIds,
            Session.discard]
        · exact (h.owned m (List.mem_of_getElem? hm)).commit (hother hj hm).1 h.valid he hc
      locked := fun m hm k hk => by
        rcases mem_set_cases hm with rfl | ⟨j, hj, hm⟩
        · simp [Session.discard] at hk
        · refine (h.locked m (List.mem_of_getElem? hm) k hk).imp_left ?_
          rintro ⟨e, hmem, hid⟩
          refine ⟨_, Delta.mem_apply.mpr (Or.inl ⟨e, hmem, rfl⟩), ?_⟩
          rw [(he.event_version h.valid hmem).id_eq, hid]
      once := by
        simp only [committed, List.map_append, List.map_cons, List.map_nil]
        refine List.nodup_append.mpr ⟨h.once, List.nodup_singleton _, ?_⟩
        intro a ha b hb heq
        obtain ⟨x, hx, rfl⟩ := List.mem_map.mp ha
        exact howed.fresh x hx (heq.trans (List.mem_singleton.mp hb))
      logged := fun x hx => by
        rcases List.mem_append.mp hx with hx | hx
        · exact h.logged x hx
        · rw [List.mem_singleton.mp hx]
          have := h.made i l hi
          rw [← this.1] at this
          exact this.2
      cached := fun hcold kv hkv => (h.cached hcold kv hkv).set hi (Or.inl rfl)
      hits := fun hcold m hm e he => by
        refine CacheEntry.WrittenIn.set ?_ hi (Or.inl rfl)
        rcases List.mem_or_eq_of_mem_set hm with hm | rfl
        · exact h.hits hcold m hm e he
        · exact h.hits hcold l hmem e he
      wrote := fun m hm e hwrote => by
        rcases mem_set_cases hm with rfl | ⟨j, hj, hm⟩
        · exact ⟨(howed.cache e hwrote).1, fun hd _ => (howed.cache e hwrote).2 hd⟩
        · have hold := h.wrote m (List.mem_of_getElem? hm) e hwrote
          refine ⟨hold.1, fun hd hbacked => (hold.2 hd ?_).mono hgrow⟩
          rcases hbacked with hsite | ⟨x, hx, hxt⟩
          · exact Or.inl hsite
          · rcases List.mem_append.mp hx with hx | hx
            · exact Or.inr ⟨x, hx, hxt⟩
            · rw [List.mem_singleton.mp hx] at hxt
              exact absurd hxt (hother hj hm).2 }

/-! ## The pool -/

/-- One operation of a call among the others, under the options. -/
def act (opts : Opts) (o : Op) (sh : Shared) (l : Session) (others : List Session) (r : Except Exc o.Res)
    (sh' : Shared) (l' : Session) : Prop :=
  ∃ fault, Allowed opts fault o sh l ∧ (fault = false → blocked others o sh l = false) ∧
    exec fault o sh l = (r, sh', l')

/-- The labels of the environment that the options allow. -/
def Label.within (opts : Opts) : Label → Prop
  | .deleteExpired .. => opts.deletes = true
  | .setQuarantines _ => opts.quarantines = true
  | _ => True

def environment (opts : Opts) (sh sh' : Shared) : Prop := ∃ label : Label, label.within opts ∧ envStep label sh = some sh'

/-- Deleting closed records leaves every other table, and the records of open transactions, alone. -/
theorem deleteExpired_mem {now : Time} {ids : List Nat} {db : Db} {r : IdempotencyRecord}
    (h : r ∈ (IdempotencyRecordRepository.deleteExpired now ids db).records) : r ∈ db.records :=
  (List.mem_filter.mp h).1

theorem Coherent.deleteExpired (h : Coherent st opts calls sh ls) (hq : opts.quiet = false)
    (hd : opts.deletes = true) (now : Time) (ids : List Nat) :
    let sh' := { sh with db := IdempotencyRecordRepository.deleteExpired now ids sh.db }
    Coherent st opts calls sh' ls ∧ ∀ m, Rely opts m sh sh' := by
  have hsub : ((IdempotencyRecordRepository.deleteExpired now ids sh.db).records).Sublist sh.db.records :=
    List.filter_sublist
  have hw : WellKept opts sh → WellKept opts
      { sh with db := IdempotencyRecordRepository.deleteExpired now ids sh.db } := fun hk =>
    { since := { hk.since with records := fun hd' => by rw [hd] at hd'; cases hd' }
      drawn := { hk.drawn with record := fun r hr => hk.drawn.record r (deleteExpired_mem hr) }
      ledger_fk := hk.ledger_fk
      history_fk := hk.history_fk
      bodies := fun ht => ⟨fun r hr => (hk.bodies ht).1 r (deleteExpired_mem hr), (hk.bodies ht).2⟩ }
  refine ⟨?_, fun m => ?_⟩
  · exact
      { h with
        kept := hw h.kept
        valid :=
          { h.valid with
            record_id := h.valid.record_id.sublist (hsub.map _)
            record_key := h.valid.record_key.sublist (hsub.map _) }
        chain := .deleteExpired h.chain hd now ids
        owned := fun l hl =>
          { h.owned l hl with
            record := fun i hi => ⟨((h.owned l hl).record i hi).1,
              fun r hr => ((h.owned l hl).record i hi).2 r (deleteExpired_mem hr)⟩ }
        wrote := fun l hl e he => ⟨(h.wrote l hl e he).1, fun hd' => by rw [hd] at hd'; cases hd'⟩ }
  · have hr : Rely opts m sh sh := Rely.refl m sh
    exact
      { hr with
        quiet := fun hq' => by rw [hq] at hq'; cases hq'
        wellKept := hw
        records := fun r hmem => Or.inl (deleteExpired_mem hmem)
        kept := fun hd' => by rw [hd] at hd'; cases hd' }

theorem Coherent.setQuarantines (h : Coherent st opts calls sh ls) (hq : opts.quiet = false)
    (hopt : opts.quarantines = true) (quarantines : List QuarantineRecord) :
    let sh' := { sh with db := { sh.db with quarantines := quarantines } }
    Coherent st opts calls sh' ls ∧ ∀ m, Rely opts m sh sh' := by
  have hno : ∀ {P : Prop}, opts.quarantines = false → P := fun hf => by rw [hopt] at hf; cases hf
  have hw : WellKept opts sh → WellKept opts { sh with db := { sh.db with quarantines := quarantines } } :=
    fun hk =>
      { hk with
        since := { hk.since with quarantines := fun hf => hno hf }
        drawn := { hk.drawn with } }
  refine ⟨?_, fun m => ?_⟩
  · exact
      { h with
        kept := hw h.kept
        valid := { h.valid with }
        chain := .setQuarantines h.chain hopt quarantines
        owned := fun l hl => { h.owned l hl with } }
  · have hr : Rely opts m sh sh := Rely.refl m sh
    exact
      { hr with
        quiet := fun hq' => by rw [hq] at hq'; cases hq'
        wellKept := hw
        quarantines := fun hf => hno hf }

/-- The clock and Redis are nothing to PostgreSQL. -/
theorem Coherent.redis (h : Coherent st opts calls sh ls) (hq : opts.quiet = false) (clock : Time)
    (locks : List (String × Nat)) {cache : List (String × CacheEntry)} (hc : cache ⊆ sh.cache) :
    let sh' := { sh with clock := clock, locks := locks, cache := cache }
    Coherent st opts calls sh' ls ∧ ∀ m, Rely opts m sh sh' := by
  have hw : WellKept opts sh → WellKept opts { sh with clock := clock, locks := locks, cache := cache } := fun hk =>
    { hk with
      drawn := { hk.drawn with }
      bodies := fun ht => ⟨(hk.bodies ht).1, fun kv hkv => (hk.bodies ht).2 kv (hc hkv)⟩ }
  refine ⟨?_, fun m => ?_⟩
  · exact
      { h with
        kept := hw h.kept
        owned := fun l hl => { h.owned l hl with }
        cached := fun hcold kv hkv => h.cached hcold kv (hc hkv) }
  · have hr : Rely opts m sh sh := Rely.refl m sh
    exact
      { hr with
        quiet := fun hq' => by rw [hq] at hq'; cases hq'
        wellKept := hw }

/-- **Every step of one call keeps the invariant and stays within what the others rely on.** -/
theorem sound (st : Settings) (opts : Opts) (calls : List Call) (hq : opts.quiet = false) :
    Sound (logic st opts) (act opts) (environment opts) Session.crash (Coherent st opts calls) where
  run := by
    rintro sh sh' ls i l l' o r h hi hpre ⟨fault, hal, hfree, hx⟩
    refine ⟨⟨fault, hal, hx⟩, ?_⟩
    rcases exec_cases hpre hfree hx with hl | ⟨reply, _, _, howed, rfl, rfl⟩
    · exact ⟨h.local hi hl, fun _ m _ _ => hl.rely hq m⟩
    · have hmem := List.mem_of_getElem? hi
      refine ⟨h.commit hi howed, fun j m hj hm => ?_⟩
      have hmm := List.mem_of_getElem? hm
      refine rely_commit hq h.valid howed.shape.effect howed.covered (h.owned l hmem) (h.owned m hmm)
        (h.apart i j l m hj.symm hi hm) (h.locked m hmm) (h.locked l hmem) ?_
      rw [(h.made i l hi).1, (h.made j m hm).1]
      exact hj.symm
  env := by
    rintro sh sh' ls h ⟨label, hw, he⟩
    cases label with
    | run _ => cases he
    | outage _ => cases he
    | crash _ => cases he
    | deleteExpired now ids =>
        cases he
        exact ⟨(h.deleteExpired hq hw now ids).1, fun m _ => (h.deleteExpired hq hw now ids).2 m⟩
    | setQuarantines quarantines =>
        cases he
        exact ⟨(h.setQuarantines hq hw quarantines).1, fun m _ => (h.setQuarantines hq hw quarantines).2 m⟩
    | tick d =>
        cases he
        have := h.redis hq (sh.clock + d) sh.locks (List.Subset.refl sh.cache)
        exact ⟨this.1, fun m _ => this.2 m⟩
    | expireLock key =>
        cases he
        have := h.redis hq sh.clock (sh.locks.filter (fun kv => kv.1 != key)) (List.Subset.refl sh.cache)
        exact ⟨this.1, fun m _ => this.2 m⟩
    | evict key =>
        cases he
        have := h.redis hq sh.clock sh.locks (List.filter_subset_self (p := fun kv => kv.1 != key) sh.cache)
        exact ⟨this.1, fun m _ => this.2 m⟩
  kill := fun h hi => h.local hi (Local.discard rfl)

end Steps

end EventConsistency
