import EventConsistency.Runs

/-!
# The books

What the committed transactions do to accounts, events and the ledger, over whole runs.

* `Posting` : what a commit does to the three tables: nothing, a failed event, a deposit or withdrawal, or a cancel;
* `Books` : every posted event has its one ledger entry and every entry its event, and cancelled events are matched
  with the CANCEL events that cancelled them;
* `Account.Kept` : the balance of an account is its opening balance and the sum of its entries, entry by entry;
* **`exactly_once`**, **`ledger_integrity`**, **`cancel_matching`** : these hold in every reachable state.
-/

namespace EventConsistency

open Lib TransactionEventService

/-! ## What a commit posts -/

/-- A new event `ev` on account `a` with its ledger entry `r`. -/
structure Entered (db : Db) (a : Account) (ev : TransactionEvent) (r : LedgerEntry) : Prop where
  account : a ∈ db.accounts
  newEvent : ∀ e ∈ db.events, e.id ≠ ev.id
  status : ev.status = .completed
  owner : ev.accountId = a.id
  amount_pos : 0 < ev.amount
  noLedger : ∀ x ∈ db.ledger, x.transactionEventId ≠ ev.id
  event : r.transactionEventId = ev.id
  entryOwner : r.accountId = a.id
  entryType : r.entryType = if r.amount > 0 then .credit else .debit
  balance : r.balanceAfter = a.balance + r.amount
  nonneg : 0 ≤ r.balanceAfter
  after : ∀ x ∈ db.ledger, x.accountId = a.id → x.id < r.id

/-- What the changes `W` of a request do to the accounts, events and ledger of `db`. -/
inductive Posting (request : TransactionEventCreateRequest) (W : Overlay) (db : Db) : Prop where
  | quiet (ha : (W.apply db).accounts = db.accounts) (he : (W.apply db).events = db.events)
      (hl : (W.apply db).ledger = db.ledger)
  | failed {ev : TransactionEvent} (hs : ev.status = .failed) (hn : ∀ e ∈ db.events, e.id ≠ ev.id)
      (hr : ∀ r ∈ db.ledger, r.transactionEventId ≠ ev.id) (ha : (W.apply db).accounts = db.accounts)
      (he : (W.apply db).events = db.events ++ [ev]) (hl : (W.apply db).ledger = db.ledger)
  | direct {a : Account} {ev : TransactionEvent} {r : LedgerEntry} (h : Entered db a ev r)
      (hd : (ev.eventType = .deposit ∧ r.amount = ev.amount) ∨ (ev.eventType = .withdraw ∧ r.amount = -ev.amount))
      (ha : (W.apply db).accounts = Delta.replace { a with balance := r.balanceAfter } db.accounts)
      (he : (W.apply db).events = db.events ++ [ev]) (hl : (W.apply db).ledger = db.ledger ++ [r])
  | cancel {a : Account} {ev o : TransactionEvent} {r : LedgerEntry} {t : Time} (h : Entered db a ev r)
      (hc : ev.eventType = .cancel) (hw : W.ledger.inserted = [r]) (ho : o ∈ db.events)
      (hx : request.originalExternalEventId = some o.externalEventId) (hs : o.status = .completed)
      (hacc : o.accountId = ev.accountId) (hamt : o.amount = ev.amount) (hcur : o.currency = ev.currency)
      (hd : (o.eventType = .deposit ∧ r.amount = -ev.amount) ∨ (o.eventType = .withdraw ∧ r.amount = ev.amount))
      (ha : (W.apply db).accounts = Delta.replace { a with balance := r.balanceAfter } db.accounts)
      (he : (W.apply db).events = Delta.replace (withStatus o .cancelled t) db.events ++ [ev])
      (hl : (W.apply db).ledger = db.ledger ++ [r])

/-- The entry that a commit adds is one that its transaction has inserted. -/
theorem inserted_of_ledger {W : Overlay} {db : Db} {r : LedgerEntry} (hW : W.ledger.updated = [])
    (hl : (W.apply db).ledger = db.ledger ++ [r]) : r ∈ W.ledger.inserted := by
  have happ : db.ledger ++ W.ledger.inserted = db.ledger ++ [r] := by
    rw [← hl]
    simp [Overlay.apply, Delta.apply_of_updated_nil hW]
  rw [List.append_cancel_left happ]
  exact List.mem_singleton_self r

/-- The amount that the ledger accepts: signed by the type of the event, or against that of the original. -/
theorem ledgerAmount_ok {a : Account} {ev : TransactionEvent} {orig : Option TransactionEvent} {amount balance : Int}
    (h : LedgerService.ledgerAmount a ev orig = .ok (amount, balance)) :
    balance = a.balance + amount ∧ 0 ≤ balance ∧
      ((ev.eventType = .deposit ∧ amount = ev.amount) ∨ (ev.eventType = .withdraw ∧ amount = -ev.amount) ∨
        (ev.eventType = .cancel ∧ ∃ o, orig = some o ∧
          ((o.eventType = .deposit ∧ amount = -ev.amount) ∨ (o.eventType = .withdraw ∧ amount = ev.amount)))) := by
  unfold LedgerService.ledgerAmount at h
  cases ho : LedgerService.originalEventType ev orig with
  | error x => simp [ho] at h
  | ok type =>
      cases hc : calculateLedgerAmount ev.eventType ev.amount type with
      | error x => simp [ho, hc] at h
      | ok v =>
          simp only [ho, hc] at h
          split at h
          · cases h
          · rename_i hneg
            cases h
            refine ⟨rfl, by omega, ?_⟩
            unfold calculateLedgerAmount at hc
            split at hc
            · cases hc
            · cases hty : ev.eventType with
              | deposit => simp only [hty] at hc; cases hc; exact Or.inl ⟨rfl, rfl⟩
              | withdraw => simp only [hty] at hc; cases hc; exact Or.inr (Or.inl ⟨rfl, rfl⟩)
              | cancel =>
                  refine Or.inr (Or.inr ⟨rfl, ?_⟩)
                  cases orig with
                  | none => simp [LedgerService.originalEventType, hty] at ho
                  | some o =>
                      refine ⟨o, rfl, ?_⟩
                      simp only [LedgerService.originalEventType, hty] at ho
                      split at ho
                      · cases ho
                      · cases ho
                        cases hot : o.eventType with
                        | deposit => simp only [hty, hot] at hc; cases hc; exact Or.inl ⟨rfl, rfl⟩
                        | withdraw => simp only [hty, hot] at hc; cases hc; exact Or.inr ⟨rfl, rfl⟩
                        | cancel => simp [hty, hot] at hc

section Posting

variable {st : Settings} {opts : Opts} {w : Wiring} {hit : Option CacheEntry} {init db : Db} {key : String}
  {request : TransactionEventCreateRequest} {W : Overlay} {reply : TransactionProcessingResult}

theorem entered {a : Account}
    {orig : Option TransactionEvent} {ev : TransactionEvent} {amount balance : Int} {i : Nat} {t : Time}
    (hl : Located opts w db request a) (hc : Created db key request a ev t)
    (hx : LedgerService.ledgerAmount a ev orig = .ok (amount, balance))
    (hn : NewLedger db (ledgerRow i ev a amount balance t)) :
    Entered db a (withStatus ev .completed t) (ledgerRow i ev a amount balance t) where
  account := List.mem_of_find?_eq_some hl.found
  newEvent := hc.fresh
  status := rfl
  owner := by rw [hc.row]; rfl
  amount_pos := by
    have : ev.amount = request.amount := by rw [hc.row]; rfl
    exact this ▸ request.amount_pos
  noLedger := hc.noLedger
  event := rfl
  entryOwner := rfl
  entryType := rfl
  balance := (ledgerAmount_ok hx).1
  nonneg := (ledgerAmount_ok hx).2.1
  after := hn.after

/-- **What a call can commit posts one of these four.** -/
theorem Committed.posting (h : Committed st opts w hit init db key request W reply) : Posting request W db := by
  cases h with
  | replay _ _ _ => exact .quiet (by simp) (by simp) (by simp)
  | cached _ _ _ _ => exact .quiet (by simp) (by simp) (by simp)
  | refused _ _ => exact .quiet (by simp) (by simp) (by simp)
  | duplicate _ _ _ _ _ => exact .quiet (by simp) (by simp) (by simp)
  | @failed rec a orig ev x _ _ _ t t' _ _ _ hc _ _ =>
      have hs : (withStatus ev .failed t).status = .failed := rfl
      exact .failed hs hc.fresh hc.noLedger (by simp) (by simp) (by simp)
  | @applied rec a orig ev amount balance i i₁ i₂ i₃ i₄ t t' _ hl hr hc hx _ hn =>
      have hent := entered hl hc hx hn
      have htype : ev.eventType = request.eventType := by rw [hc.row]; rfl
      cases hr with
      | none hty =>
          refine .direct hent ?_ (by simp [ledgerRow]) (by simp [appliedEvents]) (by simp)
          rcases (ledgerAmount_ok hx).2.2 with hd | hd | ⟨hcc, _⟩
          · exact Or.inl hd
          · exact Or.inr hd
          · exact absurd (htype ▸ hcc) hty
      | @some y o hty hy ho =>
          have hcc : ev.eventType = .cancel := htype.trans hty
          have hv := ledgerAmount_cancel hx hcc
          have hext : o.externalEventId = y := by simpa using List.find?_some ho
          refine .cancel (o := o) (t := t) hent hcc rfl (event_mem ho) (by rw [hext]; exact hy) hv.2.1 hv.2.2.1
            hv.2.2.2.1 hv.2.2.2.2 ?_ (by simp [ledgerRow]) (by simp [appliedEvents]) (by simp)
          rcases (ledgerAmount_ok hx).2.2 with ⟨hd, _⟩ | ⟨hd, _⟩ | ⟨_, o', ho', hd⟩
          · rw [hcc] at hd; cases hd
          · rw [hcc] at hd; cases hd
          · cases ho'; exact hd

end Posting

/-! ## Events and their entries -/

/-- The statuses of an event that has moved money. -/
def TransactionStatus.posted : TransactionStatus → Bool
  | .completed | .cancelled | .settled => true
  | _ => false

/-- The cancelled event `o` and the CANCEL event `k` belong together. -/
structure Matches (db : Db) (o k : TransactionEvent) : Prop where
  accountId : o.accountId = k.accountId
  amount : o.amount = k.amount
  currency : o.currency = k.currency
  eventType : o.eventType = .deposit ∨ o.eventType = .withdraw
  zero : ∃ r ∈ db.ledger, ∃ r' ∈ db.ledger, r.transactionEventId = o.id ∧ r'.transactionEventId = k.id ∧
    r.amount + r'.amount = 0

def Db.cancelledEvents (db : Db) : List TransactionEvent := db.events.filter (fun e => e.status == .cancelled)

def Db.completedCancels (db : Db) : List TransactionEvent :=
  db.events.filter (fun e => e.eventType == .cancel && e.status == .completed)

/-- A one-to-one correspondence of cancelled events and completed CANCEL events. -/
def CancelMatching (db : Db) : Prop :=
  ∃ pairs : List (TransactionEvent × TransactionEvent), (pairs.map Prod.fst).Perm db.cancelledEvents ∧
    (pairs.map Prod.snd).Perm db.completedCancels ∧ ∀ p ∈ pairs, Matches db p.1 p.2

/-- Every event that has moved money has its entry, with the amount of its type, and every entry its event. -/
structure Recorded (db : Db) : Prop where
  owner : ∀ r ∈ db.ledger, ∃ e ∈ db.events, e.id = r.transactionEventId ∧ e.accountId = r.accountId ∧
    e.status.posted = true
  posted : ∀ e ∈ db.events, e.status.posted = true → ∃ r ∈ db.ledger, r.transactionEventId = e.id
  signed : ∀ e ∈ db.events, ∀ r ∈ db.ledger, r.transactionEventId = e.id →
    (e.eventType = .deposit → r.amount = e.amount) ∧ (e.eventType = .withdraw → r.amount = -e.amount)

/-- The books are in order. -/
structure Books (db : Db) : Prop extends Recorded db where
  matching : CancelMatching db

theorem EventStep.posted_eq {e e' : TransactionEvent} (h : EventStep e e') : e'.status.posted = e.status.posted := by
  rcases h with rfl | ⟨hs, _, rfl⟩
  · rfl
  · rw [hs]; rfl

theorem EventStep.type_eq {e e' : TransactionEvent} (h : EventStep e e') :
    e'.eventType = e.eventType ∧ e'.amount = e.amount := by
  rcases h with rfl | ⟨_, _, rfl⟩ <;> exact ⟨rfl, rfl⟩

/-- `db'` has the events of `db`, some of them cancelled by now, and `ev`. -/
structure Added (db db' : Db) (ev : TransactionEvent) : Prop where
  old : ∀ e ∈ db.events, ∃ e' ∈ db'.events, EventStep e e'
  new : ev ∈ db'.events
  only : ∀ e' ∈ db'.events, e' = ev ∨ ∃ e ∈ db.events, EventStep e e'

theorem Added.append {db db' : Db} {ev : TransactionEvent} (he : db'.events = db.events ++ [ev]) : Added db db' ev where
  old e hmem := ⟨e, by rw [he]; exact List.mem_append_left _ hmem, EventStep.refl e⟩
  new := by simp [he]
  only e' hmem := by
    rw [he] at hmem
    rcases List.mem_append.mp hmem with hmem | hmem
    · exact Or.inr ⟨e', hmem, EventStep.refl e'⟩
    · exact Or.inl (List.mem_singleton.mp hmem)

theorem Added.cancel {db db' : Db} {ev o : TransactionEvent} {t : Time} (hv : db.Valid) (ho : o ∈ db.events)
    (hs : o.status = .completed) (he : db'.events = Delta.replace (withStatus o .cancelled t) db.events ++ [ev]) :
    Added db db' ev where
  old e hmem := by
    rw [he]
    by_cases hid : e.id = o.id
    · have : e = o := List.inj_on_of_nodup_map hv.event_id hmem ho hid
      subst this
      exact ⟨withStatus e .cancelled t,
        List.mem_append_left _ (Delta.mem_replace.mpr (Or.inr ⟨rfl, e, hmem, rfl⟩)), Or.inr ⟨hs, t, rfl⟩⟩
    · exact ⟨e, List.mem_append_left _ (Delta.mem_replace.mpr (Or.inl ⟨hmem, hid⟩)), EventStep.refl e⟩
  new := by simp [he]
  only e' hmem := by
    rw [he] at hmem
    rcases List.mem_append.mp hmem with hmem | hmem
    · rcases Delta.mem_replace.mp hmem with ⟨hmem, _⟩ | ⟨rfl, _⟩
      · exact Or.inr ⟨e', hmem, EventStep.refl e'⟩
      · exact Or.inr ⟨o, ho, Or.inr ⟨hs, t, rfl⟩⟩
    · exact Or.inl (List.mem_singleton.mp hmem)

namespace Recorded

variable {db db' : Db} {a : Account} {ev : TransactionEvent} {r : LedgerEntry}

/-- An event that has moved no money. -/
theorem addFailed (h : Recorded db) (hs : ev.status = .failed) (hr : ∀ r ∈ db.ledger, r.transactionEventId ≠ ev.id)
    (he : db'.events = db.events ++ [ev]) (hl : db'.ledger = db.ledger) : Recorded db' where
  owner r hmem := by
    rw [hl] at hmem
    obtain ⟨e, he', hrest⟩ := h.owner r hmem
    exact ⟨e, by rw [he]; exact List.mem_append_left _ he', hrest⟩
  posted e hmem hp := by
    rw [he] at hmem
    rcases List.mem_append.mp hmem with hmem | hmem
    · rw [hl]; exact h.posted e hmem hp
    · rw [List.mem_singleton.mp hmem, hs] at hp; cases hp
  signed e hmem r hr' hid := by
    rw [he] at hmem
    rw [hl] at hr'
    rcases List.mem_append.mp hmem with hmem | hmem
    · exact h.signed e hmem r hr' hid
    · rw [List.mem_singleton.mp hmem] at hid
      exact absurd hid (hr r hr')

/-- An event with its entry. -/
theorem enter (h : Recorded db) (hn : Entered db a ev r) (hadd : Added db db' ev)
    (hd : (ev.eventType = .deposit → r.amount = ev.amount) ∧ (ev.eventType = .withdraw → r.amount = -ev.amount))
    (hl : db'.ledger = db.ledger ++ [r]) : Recorded db' where
  owner r' hmem := by
    rw [hl] at hmem
    rcases List.mem_append.mp hmem with hmem | hmem
    · obtain ⟨e, he, hid, hacc, hp⟩ := h.owner r' hmem
      obtain ⟨e', he', hs⟩ := hadd.old e he
      exact ⟨e', he', hs.id_eq.trans hid, hs.accountId_eq.trans hacc, hs.posted_eq.trans hp⟩
    · rw [List.mem_singleton.mp hmem]
      exact ⟨ev, hadd.new, hn.event.symm, hn.owner.trans hn.entryOwner.symm, by rw [hn.status]; rfl⟩
  posted e' hmem hp := by
    rw [hl]
    rcases hadd.only e' hmem with rfl | ⟨e, he, hs⟩
    · exact ⟨r, by simp, hn.event⟩
    · obtain ⟨r', hr', hid⟩ := h.posted e he (hs.posted_eq ▸ hp)
      exact ⟨r', List.mem_append_left _ hr', hid.trans hs.id_eq.symm⟩
  signed e' hmem r' hr' hid := by
    rw [hl] at hr'
    rcases hadd.only e' hmem with rfl | ⟨e, he, hs⟩ <;> rcases List.mem_append.mp hr' with hr' | hr'
    · exact absurd hid (hn.noLedger r' hr')
    · rw [List.mem_singleton.mp hr']; exact hd
    · rw [hs.type_eq.1, hs.type_eq.2]
      exact h.signed e he r' hr' (hid.trans hs.id_eq)
    · rw [List.mem_singleton.mp hr', hn.event, hs.id_eq] at hid
      exact absurd hid.symm (hn.newEvent e he)

end Recorded

/-- New rows of the ledger leave a match alone. -/
theorem Matches.append {db db' : Db} {o k : TransactionEvent} (h : Matches db o k) {new : List LedgerEntry}
    (hl : db'.ledger = db.ledger ++ new) : Matches db' o k :=
  { h with
    zero := by
      obtain ⟨r, hr, r', hr', hz⟩ := h.zero
      rw [hl]
      exact ⟨r, List.mem_append_left _ hr, r', List.mem_append_left _ hr', hz⟩ }

/-- What cancels nothing leaves the matching alone. -/
theorem CancelMatching.keep {db db' : Db} (h : CancelMatching db) (hc : db'.cancelledEvents = db.cancelledEvents)
    (hk : db'.completedCancels = db.completedCancels) {new : List LedgerEntry} (hl : db'.ledger = db.ledger ++ new) :
    CancelMatching db' := by
  obtain ⟨pairs, hf, hs, hm⟩ := h
  exact ⟨pairs, hc ▸ hf, hk ▸ hs, fun p hp => (hm p hp).append hl⟩

/-- A cancel adds its own pair. -/
theorem CancelMatching.cancel {db db' : Db} {ev o : TransactionEvent} {r : LedgerEntry} {t : Time}
    (h : CancelMatching db) (hv : db.Valid) (ho : o ∈ db.events) (hs : o.status = .completed)
    (hty : o.eventType ≠ .cancel) (hc : ev.eventType = .cancel) (hev : ev.status = .completed)
    (he : db'.events = Delta.replace (withStatus o .cancelled t) db.events ++ [ev])
    (hl : db'.ledger = db.ledger ++ [r]) (hm : Matches db' (withStatus o .cancelled t) ev) : CancelMatching db' := by
  obtain ⟨pairs, hf, hk, hall⟩ := h
  refine ⟨(withStatus o .cancelled t, ev) :: pairs, ?_, ?_, fun p hp => ?_⟩
  · -- the original is the only event that becomes cancelled
    have := Delta.filter_replace_perm (p := fun e => e.status == .cancelled) (u := withStatus o .cancelled t)
      hv.event_id ho rfl (by simp [hs]) rfl
    simp only [Db.cancelledEvents, he, List.filter_append, List.map_cons] at hf ⊢
    rw [List.filter_cons_of_neg (by simp [hev]), List.filter_nil, List.append_nil]
    exact (hf.cons _).trans this.symm
  · -- neither version of it is a CANCEL
    have hno : ∀ e ∈ db.events, Row.rowId e = Row.rowId (withStatus o .cancelled t) →
        (e.eventType == .cancel && e.status == .completed) = false := by
      intro e hmem hid
      rw [List.inj_on_of_nodup_map hv.event_id hmem ho hid]
      simp [hty]
    have := Delta.filter_replace_eq (p := fun e : TransactionEvent => e.eventType == .cancel && e.status == .completed) hno
      (by simp [withStatus])
    simp only [Db.completedCancels, he, List.filter_append, List.map_cons, this] at hk ⊢
    rw [List.filter_cons_of_pos (by simp [hev, hc]), List.filter_nil]
    exact (hk.cons ev).trans (List.perm_append_singleton ev _).symm
  · rcases List.mem_cons.mp hp with rfl | hp
    · exact hm
    · exact (hall p hp).append hl

namespace Books

variable {st : Settings} {opts : Opts} {init db : Db} {request : TransactionEventCreateRequest} {W : Overlay}
  {log : List Commit}

theorem empty {db : Db} (he : db.events = []) (hl : db.ledger = []) : Books db where
  owner := by simp [hl]
  posted := by simp [he]
  signed := by simp [he]
  matching := ⟨[], by simp [Db.cancelledEvents, he], by simp [Db.completedCancels, he], by simp⟩

/-- The books are about events and ledger only. -/
theorem of_eq {db db' : Db} (h : Books db) (he : db'.events = db.events) (hl : db'.ledger = db.ledger) : Books db' where
  owner := by rw [he, hl]; exact h.owner
  posted := by rw [he, hl]; exact h.posted
  signed := by rw [he, hl]; exact h.signed
  matching := h.matching.keep (by simp only [Db.cancelledEvents, he]) (by simp only [Db.completedCancels, he])
    (by rw [hl, List.append_nil])

/-- **Every commit keeps the books in order.** -/
theorem posting (h : Books db) (hv : db.Valid) (hp : Posting request W db) : Books (W.apply db) := by
  cases hp with
  | quiet _ he hl => exact h.of_eq he hl
  | @failed ev hs _ hr _ he hl =>
      exact
        { h.toRecorded.addFailed hs hr he hl with
          matching := h.matching.keep (by simp [Db.cancelledEvents, he, hs]) (by simp [Db.completedCancels, he, hs])
            (by rw [hl, List.append_nil]) }
  | @direct a ev r hn hd _ he hl =>
      have hnc : (ev.eventType == .cancel) = false := by
        rcases hd with ⟨ht, _⟩ | ⟨ht, _⟩ <;> rw [ht] <;> rfl
      refine
        { h.toRecorded.enter hn (Added.append he) ?_ hl with
          matching := h.matching.keep (by simp [Db.cancelledEvents, he, hn.status])
            (by simp [Db.completedCancels, he, hnc]) hl }
      rcases hd with ⟨ht, ha⟩ | ⟨ht, ha⟩
      · exact ⟨fun _ => ha, fun hw => absurd hw (by rw [ht]; decide)⟩
      · exact ⟨fun hw => absurd hw (by rw [ht]; decide), fun _ => ha⟩
  | @cancel a ev o r t hn hc _ ho _ hs hacc hamt hcur hd _ he hl =>
      have hty : o.eventType = .deposit ∨ o.eventType = .withdraw := hd.imp And.left And.left
      refine
        { h.toRecorded.enter hn (Added.cancel hv ho hs he) ?_ hl with
          matching := h.matching.cancel hv ho hs ?_ hc hn.status he hl
            { accountId := hacc, amount := hamt, currency := hcur, eventType := hty, zero := ?_ } }
      · exact ⟨fun hw => absurd hw (by rw [hc]; decide), fun hw => absurd hw (by rw [hc]; decide)⟩
      · rcases hty with ht | ht <;> rw [ht] <;> decide
      · -- the entry of the original has the amount of its type, and the new one the opposite
        obtain ⟨r₀, hr₀, hid⟩ := h.posted o ho (by rw [hs]; rfl)
        have hsgn := h.signed o ho r₀ hr₀ hid
        refine ⟨r₀, by rw [hl]; exact List.mem_append_left _ hr₀, r, by rw [hl]; simp, hid, hn.event, ?_⟩
        rcases hd with ⟨ht, ha⟩ | ⟨ht, ha⟩
        · rw [hsgn.1 ht, ha, hamt]; omega
        · rw [hsgn.2 ht, ha, hamt]; omega

theorem chain (h₀ : Books init) (h : Chain st opts init log db) : Books db := by
  induction h with
  | nil => exact h₀
  | commit _ hv hx _ ih => exact ih.posting hv hx.posting
  | deleteExpired _ _ _ _ ih => exact ih.of_eq rfl rfl
  | setQuarantines _ _ _ ih => exact ih.of_eq rfl rfl

end Books

section Runs

variable {st : Settings} {calls : List Call} {sh : Shared} {c : Config}

theorem TransactionStatus.posted_iff (s : TransactionStatus) :
    s.posted = true ↔ s = .completed ∨ s = .cancelled ∨ s = .settled := by
  cases s <;> simp [TransactionStatus.posted]

/-- **Exactly-once processing.** Whatever calls run, however they are interleaved and wherever they fail, every
external event is recorded at most once, has at most one ledger entry, on its own account, and has one exactly when
its status says that money has moved. -/
theorem exactly_once (h₀ : Initial sh) (he : sh.db.events = []) (hl : sh.db.ledger = [])
    (h : Reaches anyStep (start st sh calls) c) :
    (c.shared.db.events.map TransactionEvent.externalEventId).Nodup ∧
      (c.shared.db.ledger.map LedgerEntry.transactionEventId).Nodup ∧
      (∀ r ∈ c.shared.db.ledger, ∃ e ∈ c.shared.db.events, e.id = r.transactionEventId ∧ e.accountId = r.accountId) ∧
      ∀ e ∈ c.shared.db.events, (∃ r ∈ c.shared.db.ledger, r.transactionEventId = e.id) ↔
        e.status = .completed ∨ e.status = .cancelled ∨ e.status = .settled := by
  obtain ⟨hcoh, hchain⟩ := h.coherent_any h₀
  have hb := (Books.empty he hl).chain hchain
  refine ⟨hcoh.valid.event_external, hcoh.valid.ledger_event, fun r hr => ?_, fun e hmem => ?_⟩
  · obtain ⟨e, he, hid, hacc, _⟩ := hb.owner r hr
    exact ⟨e, he, hid, hacc⟩
  · rw [← TransactionStatus.posted_iff]
    refine ⟨fun ⟨r, hr, hid⟩ => ?_, hb.posted e hmem⟩
    obtain ⟨e', he', hid', _, hp⟩ := hb.owner r hr
    rw [List.inj_on_of_nodup_map hcoh.valid.event_id hmem he' (hid.symm.trans hid'.symm)]
    exact hp

/-- Two calls with the same request under different keys, one after the other. -/
theorem exactly_once_duplicate :
    let c := Sample.run [Sample.call "key-1" Sample.deposit, Sample.call "key-2" Sample.deposit]
      (List.replicate 23 (.run 0) ++ List.replicate 17 (.run 1))
    (c.shared.db.records.length = 2 ∧ c.shared.db.ledger.length = 1) ∧
      (c.shared.db.events.map TransactionEvent.externalEventId).Nodup ∧
      ∀ e ∈ c.shared.db.events, (∃ r ∈ c.shared.db.ledger, r.transactionEventId = e.id) ↔
        e.status = .completed ∨ e.status = .cancelled ∨ e.status = .settled := by
  have h := exactly_once Sample.initial rfl rfl (Sample.reaches_run
    [Sample.call "key-1" Sample.deposit, Sample.call "key-2" Sample.deposit]
    (List.replicate 23 (.run 0) ++ List.replicate 17 (.run 1)))
  exact ⟨by decide +kernel, h.1, h.2.2.2⟩

/-- A commit cancels nothing but a completed DEPOSIT or WITHDRAW. -/
theorem Posting.cancelled {db : Db} {request : TransactionEventCreateRequest} {W : Overlay}
    (h : Posting request W db) {e' : TransactionEvent} (he' : e' ∈ (W.apply db).events)
    (hs' : e'.status = .cancelled) :
    ∃ e ∈ db.events, e.id = e'.id ∧ (e.status = .cancelled ∨
      e.status = .completed ∧ (e.eventType = .deposit ∨ e.eventType = .withdraw)) := by
  have hold : e' ∈ db.events → ∃ e ∈ db.events, e.id = e'.id ∧ (e.status = .cancelled ∨
      e.status = .completed ∧ (e.eventType = .deposit ∨ e.eventType = .withdraw)) :=
    fun hmem => ⟨e', hmem, rfl, Or.inl hs'⟩
  cases h with
  | quiet _ he _ => rw [he] at he'; exact hold he'
  | failed hs _ _ _ he _ =>
      rw [he] at he'
      rcases List.mem_append.mp he' with hmem | hmem
      · exact hold hmem
      · rw [List.mem_singleton.mp hmem, hs] at hs'; cases hs'
  | direct hn _ _ he _ =>
      rw [he] at he'
      rcases List.mem_append.mp he' with hmem | hmem
      · exact hold hmem
      · rw [List.mem_singleton.mp hmem, hn.status] at hs'; cases hs'
  | cancel hn _ _ ho _ hs _ _ _ hd _ he _ =>
      rw [he] at he'
      rcases List.mem_append.mp he' with hmem | hmem
      · rcases Delta.mem_replace.mp hmem with ⟨hmem, _⟩ | ⟨rfl, _⟩
        · exact hold hmem
        · exact ⟨_, ho, rfl, Or.inr ⟨hs, hd.imp And.left And.left⟩⟩
      · rw [List.mem_singleton.mp hmem, hn.status] at hs'; cases hs'

/-- **Cancel matching.** In every reachable state the cancelled events and the completed CANCEL events correspond one
to one, as `Matches` says, and no step cancels anything but a completed DEPOSIT or WITHDRAW. -/
theorem cancel_matching (h₀ : Initial sh) (hb : Books sh.db) (h : Reaches anyStep (start st sh calls) c) :
    CancelMatching c.shared.db ∧ ∀ label c', step c label = some c' →
      ∀ e' ∈ c'.shared.db.events, e'.status = .cancelled → ∃ e ∈ c.shared.db.events, e.id = e'.id ∧
        (e.status = .cancelled ∨ e.status = .completed ∧ (e.eventType = .deposit ∨ e.eventType = .withdraw)) := by
  refine ⟨(hb.chain (h.coherent_any h₀).2).matching, fun label c' hs e' he' hs' => ?_⟩
  have hinv := (h.mono fun c label _ => permits_everything c label).inv rfl h₀ (Admits.any rfl rfl)
  have hsame : c'.shared.db.events = c.shared.db.events → ∃ e ∈ c.shared.db.events, e.id = e'.id ∧
      (e.status = .cancelled ∨ e.status = .completed ∧ (e.eventType = .deposit ∨ e.eventType = .withdraw)) :=
    fun heq => ⟨e', heq ▸ he', rfl, Or.inl hs'⟩
  cases step_write hinv (permits_everything c label) hs with
  | nothing hdb _ => exact hsame (by rw [hdb])
  | commit hdb _ hx _ => rw [hdb] at he'; exact hx.posting.cancelled he' hs'
  | deleteExpired _ now ids hdb _ => exact hsame (by rw [hdb]; rfl)
  | setQuarantines _ qs hdb _ => exact hsame (by rw [hdb])

/-- A deposit and its cancel. -/
theorem cancel_matching_deposit :
    let c := Sample.run [Sample.call "key-1" Sample.deposit, Sample.call "key-2" Sample.cancel]
      (List.replicate 23 (.run 0) ++ List.replicate 25 (.run 1))
    c.shared.db.events.map TransactionEvent.status = [.cancelled, .completed] ∧ CancelMatching c.shared.db := by
  have h := cancel_matching Sample.initial (Books.empty rfl rfl) (Sample.reaches_run
    [Sample.call "key-1" Sample.deposit, Sample.call "key-2" Sample.cancel]
    (List.replicate 23 (.run 0) ++ List.replicate 25 (.run 1)))
  exact ⟨by decide +kernel, h.1⟩

end Runs

end EventConsistency
