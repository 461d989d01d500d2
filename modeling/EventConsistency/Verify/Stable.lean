import EventConsistency.Commits

/-!
# What a call knows stays true

Each piece of knowledge of `Commits` is stable under `Rely`, given the locks and insertions that protect it.
-/

namespace EventConsistency

open Lib

variable {opts : Opts} {l : Session} {sh sh' : Shared} {st : Settings} {key : String}
  {request : TransactionEventCreateRequest}

namespace Rely

theorem recordByKey_none (h : Rely opts l sh sh') (hk : key ∈ l.keys) (hn : sh.db.recordByKey key = none) :
    sh'.db.recordByKey key = none := by
  unfold Db.recordByKey at hn ⊢
  rw [List.find?_eq_none] at hn ⊢
  intro r hr
  rcases h.records r hr with hr | ⟨hr, _⟩
  · exact hn r hr
  · intro he
    rw [beq_iff_eq] at he
    exact hr (he ▸ hk)

theorem recordByKey_some (h : Rely opts l sh sh') (hd : opts.deletes = false) {r : IdempotencyRecord}
    (hr : sh.db.recordByKey key = some r) : sh'.db.recordByKey key = some r := by
  obtain ⟨r', rfl, hr'⟩ := (h.kept hd).find?_some (fun a b hab => by rw [hab]) hr
  exact hr'

theorem accountByNo_none (h : Rely opts l sh sh') {no : String} (hn : sh.db.accountByNo no = none) :
    sh'.db.accountByNo no = none :=
  h.accounts.find?_none (fun a b hab => by rw [hab.1.2]) (fun _ hf => hf.elim) hn

theorem accountByNo_some (h : Rely opts l sh sh') {no : String} {a : Account}
    (hl : a.id ∈ l.accountLocks) (ha : sh.db.accountByNo no = some a) : sh'.db.accountByNo no = some a := by
  obtain ⟨a', hstep, ha'⟩ := h.accounts.find?_some (fun a b hab => by rw [hab.1.2]) ha
  rw [hstep.2 hl] at ha'
  exact ha'

theorem event_found (h : Rely opts l sh sh') {x : String} {e : TransactionEvent}
    (he : sh.db.eventByExternalId x = some e) :
    ∃ e', EventStep e e' ∧ sh'.db.eventByExternalId x = some e' := by
  obtain ⟨e', hstep, he'⟩ := h.events.find?_some (fun a b hab => by rw [hab.1.externalEventId_eq]) he
  exact ⟨e', hstep.1, he'⟩

/-- An event that is locked, itself or through its account, is found as it was. -/
theorem event_locked (h : Rely opts l sh sh') {x : String} {e : TransactionEvent}
    (hl : e.accountId ∈ l.accountLocks ∨ e.id ∈ l.eventLocks) (he : sh.db.eventByExternalId x = some e) :
    sh'.db.eventByExternalId x = some e := by
  obtain ⟨e', hstep, he'⟩ := h.events.find?_some (fun a b hab => by rw [hab.1.externalEventId_eq]) he
  rw [hstep.2 hl] at he'
  exact he'

theorem event_absent (h : Rely opts l sh sh') {x : String} (hl : x ∈ l.externalIds)
    (hx : sh.db.eventByExternalId x = none) : sh'.db.eventByExternalId x = none := by
  refine h.events.find?_none (fun a b hab => by rw [hab.1.externalEventId_eq]) (fun e he => ?_) hx
  rw [beq_eq_false_iff_ne]
  exact fun heq => he.1 (heq ▸ hl)

theorem activeQuarantine_eq (h : Rely opts l sh sh') (hq : opts.quarantines = false) (t i : String) :
    sh'.db.activeQuarantine t i = sh.db.activeQuarantine t i := by
  unfold Db.activeQuarantine
  rw [h.quarantines hq]

theorem log_fresh (h : Rely opts l sh sh') (hf : ∀ c ∈ sh.log, c.tid ≠ l.tid) :
    ∀ c ∈ sh'.log, c.tid ≠ l.tid := by
  intro c hc
  rcases h.log.mem hc with ⟨c', hc', rfl⟩ | hn
  · exact hf c hc'
  · exact hn

theorem log_mem (h : Rely opts l sh sh') {c : Commit} (hc : c ∈ sh.log) : c ∈ sh'.log := by
  obtain ⟨c', hc', rfl⟩ := h.log.mem_left hc
  exact hc'

end Rely

theorem event_mem {db : Db} {x : String} {e : TransactionEvent} (h : db.eventByExternalId x = some e) :
    e ∈ db.events := List.mem_of_find?_eq_some h

theorem Opened.stable {rec : IdempotencyRecord} (h : Opened st sh.db key request rec)
    (hr : Rely opts l sh sh') (hk : key ∈ l.keys) (hi : rec.id ∈ l.recordIds) :
    Opened st sh'.db key request rec where
  absent := hr.recordByKey_none hk h.absent
  fresh r hmem := by
    rcases hr.records r hmem with hmem | ⟨_, hn⟩
    · exact h.fresh r hmem
    · exact fun he => hn (he ▸ hi)
  key_eq := h.key_eq
  hash_eq := h.hash_eq
  status_eq := h.status_eq
  message_eq := h.message_eq

theorem Located.stable {w : Wiring} {a : Account} (h : Located opts w sh.db request a)
    (hr : Rely opts l sh sh') (ha : a.id ∈ l.accountLocks) : Located opts w sh'.db request a where
  found := hr.accountByNo_some ha h.found
  clear hq hw := by rw [hr.activeQuarantine_eq hq]; exact h.clear hq hw
  sent := h.sent

theorem Original.stable {orig : Option TransactionEvent} (h : Original sh.db request orig)
    (hr : Rely opts l sh sh') (ho : ∀ o ∈ orig, o.id ∈ l.eventLocks) : Original sh'.db request orig := by
  cases h with
  | none h => exact .none h
  | some h hx hf hs hread => exact .some h hx (hr.event_locked (Or.inr (ho _ rfl)) hf) hs hread

theorem Created.stable {a : Account} {ev : TransactionEvent} {t : Time} (h : Created sh.db key request a ev t)
    (hr : Rely opts l sh sh') (hx : request.externalEventId ∈ l.externalIds) (hi : ev.id ∈ l.eventIds) :
    Created sh'.db key request a ev t where
  row := h.row
  absent := hr.event_absent hx h.absent
  fresh e he := by
    rcases hr.events.mem he with ⟨e', he', hs, _⟩ | ⟨_, hn, _⟩
    · rw [hs.id_eq]; exact h.fresh e' he'
    · exact fun hid => hn (hid ▸ hi)
  noLedger r hmem := by
    rcases hr.ledger.mem hmem with ⟨r', hr', rfl⟩ | ⟨_, hn, _⟩
    · exact h.noLedger r hr'
    · exact fun hid => hn (hid ▸ hi)
  noHistory r hmem := by
    rcases hr.histories.mem hmem with ⟨r', hr', rfl⟩ | ⟨_, hn, _⟩
    · exact h.noHistory r hr'
    · exact fun hid => hn (hid ▸ hi)
  fits := h.fits
  sent := h.sent

theorem NewHistories.stable {hs : List EventStateHistory} (h : NewHistories sh.db hs)
    (hr : Rely opts l sh sh') (hi : ∀ n ∈ hs, n.id ∈ l.historyIds)
    (he : ∀ n ∈ hs, n.transactionEventId ∈ l.eventIds ∨ n.transactionEventId ∈ l.eventLocks) :
    NewHistories sh'.db hs where
  sorted := h.sorted
  fresh n hn r hmem := by
    rcases hr.histories.mem hmem with ⟨r', hr', rfl⟩ | ⟨hne, _, _⟩
    · exact h.fresh n hn r hr'
    · exact fun hid => hne (hid ▸ hi n hn)
  after n hn r hmem heq := by
    rcases hr.histories.mem hmem with ⟨r', hr', rfl⟩ | ⟨_, h1, h2⟩
    · exact h.after n hn r hr' heq
    · rw [heq] at h1 h2
      rcases he n hn with hin | hin
      · exact absurd hin h1
      · exact absurd hin h2

theorem NewLedger.stable {r : LedgerEntry} (h : NewLedger sh.db r) (hr : Rely opts l sh sh')
    (hi : r.id ∈ l.ledgerIds) (ha : r.accountId ∈ l.accountLocks) : NewLedger sh'.db r where
  fresh x hmem := by
    rcases hr.ledger.mem hmem with ⟨x', hx', rfl⟩ | ⟨hne, _, _⟩
    · exact h.fresh x hx'
    · exact fun hid => hne (hid ▸ hi)
  after x hmem heq := by
    rcases hr.ledger.mem hmem with ⟨x', hx', rfl⟩ | ⟨_, _, hne⟩
    · exact h.after x hx' heq
    · exact absurd ha (heq ▸ hne)
  fits := h.fits

end EventConsistency
