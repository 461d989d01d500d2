import EventConsistency.Lib.Order
import EventConsistency.Runs

/-!
# The state history of events

* `StatusPath s hs u` : the rows `hs` lead from status `s` to status `u` by allowed transitions;
* `Chronicled key db e` : the history rows of `e`, in the order of `key`, lead from RECEIVED to its status;
* `Committed.chapter` : the rows that a commit adds lead every event from its old status to its new one;
* **`history_faithful`** : in every reachable state the history in id order is such a path, and no step changes or
  removes a row;
* **`audit_reads`** : so it is for the audit reads, which order by `created_at`, as long as no transaction commits a
  row that is older than a committed one of the same event; **`audit_reads_disordered`** : a CANCEL that began before
  its original.
-/

namespace EventConsistency

open Lib TransactionEventService

/-- The history rows of an event. -/
def Db.historiesOf (db : Db) (eventId : Nat) : List EventStateHistory :=
  db.histories.filter (fun h => h.transactionEventId == eventId)

namespace EventStateHistoryRepository

/-- `created_at`, then `id`. -/
def creation : EventStateHistory → Int ×ₗ Nat := stamp EventStateHistory.createdAt EventStateHistory.id

def listByTransactionEventId (db : Db) (eventId : Nat) : List EventStateHistory :=
  orderBy creation (db.historiesOf eventId)

def getLatestByTransactionEventId (db : Db) (eventId : Nat) : Option EventStateHistory :=
  (orderByDesc creation (db.historiesOf eventId)).head?

end EventStateHistoryRepository

/-- The rows lead from one status to another by transitions of `TransactionStateMachine`. -/
def StatusPath : TransactionStatus → List EventStateHistory → TransactionStatus → Prop
  | s, [], u => s = u
  | s, h :: hs, u => h.oldStatus = some s ∧ TransactionStateMachine.canTransition s h.newStatus = true ∧
      StatusPath h.newStatus hs u

namespace StatusPath

instance decide : (s : TransactionStatus) → (hs : List EventStateHistory) → (u : TransactionStatus) →
    Decidable (StatusPath s hs u)
  | s, [], u => inferInstanceAs (Decidable (s = u))
  | _, h :: hs, u =>
      have := decide h.newStatus hs u
      inferInstanceAs (Decidable (_ ∧ _ ∧ StatusPath h.newStatus hs u))

theorem append {s t u : TransactionStatus} {hs hs' : List EventStateHistory} (h : StatusPath s hs t)
    (h' : StatusPath t hs' u) : StatusPath s (hs ++ hs') u := by
  induction hs generalizing s with
  | nil => exact (show s = t from h) ▸ h'
  | cons r hs ih => exact ⟨h.1, h.2.1, ih h.2.2⟩

/-- A path ends with its last row. -/
theorem getLast {s u : TransactionStatus} {hs : List EventStateHistory} (h : StatusPath s hs u) {r : EventStateHistory}
    (hr : hs.getLast? = some r) : r.newStatus = u := by
  induction hs generalizing s with
  | nil => cases hr
  | cons r' hs ih =>
      cases hs with
      | nil =>
          cases hr
          exact h.2.2
      | cons r'' hs => exact ih h.2.2 (by simpa using hr)

end StatusPath

/-! ## What a commit adds -/

/-- The new rows of an event. -/
def Overlay.historiesOf (W : Overlay) (eventId : Nat) : List EventStateHistory :=
  W.histories.inserted.filter (fun h => h.transactionEventId == eventId)

/-- The rows that `W` adds for an event lead it from its status in `db`, or from RECEIVED, to its new one. -/
inductive Chapter (db : Db) (W : Overlay) (e' : TransactionEvent) : Prop where
  | next {e : TransactionEvent} (hs : List EventStateHistory) (he : e ∈ db.events) (hid : e.id = e'.id)
      (hrows : W.historiesOf e'.id = hs) (hp : StatusPath e.status hs e'.status)
  | first (hs : List EventStateHistory) (hn : db.historiesOf e'.id = []) (hrows : W.historiesOf e'.id = hs)
      (hne : hs ≠ []) (hp : StatusPath .received hs e'.status)

section Chapter

variable {st : Settings} {opts : Opts} {w : Wiring} {hit : Option CacheEntry} {init db : Db} {key : String}
  {request : TransactionEventCreateRequest} {W : Overlay} {reply : TransactionProcessingResult}
  {e : TransactionEvent}

/-- An event of which `W` says nothing. -/
theorem Chapter.unchanged (he : e ∈ db.events) (hW : ∀ h ∈ W.histories.inserted, h.transactionEventId ≠ e.id) :
    Chapter db W e := by
  refine .next [] he rfl ?_ rfl
  simpa [Overlay.historiesOf, List.filter_eq_nil_iff] using hW

theorem Created.noHistories {a : Account} {ev : TransactionEvent} {t : Time} (h : Created db key request a ev t) :
    db.historiesOf ev.id = [] := by
  simpa [Db.historiesOf, List.filter_eq_nil_iff] using h.noHistory

theorem mem_failedHistories {ev : TransactionEvent} {x : Exc} {i₁ i₂ i₃ : Nat} {t : Time} {h : EventStateHistory}
    (hm : h ∈ failedHistories ev x i₁ i₂ i₃ t) : h.transactionEventId = ev.id ∧ h.createdAt = t := by
  simp only [failedHistories, List.mem_cons, List.not_mem_nil, or_false] at hm
  rcases hm with rfl | rfl | rfl <;> exact ⟨rfl, rfl⟩

theorem mem_appliedHistories {ev : TransactionEvent} {orig : Option TransactionEvent} {i₁ i₂ i₃ i₄ : Nat} {t : Time}
    {h : EventStateHistory} (hm : h ∈ appliedHistories ev orig i₁ i₂ i₃ i₄ t) :
    (h.transactionEventId = ev.id ∨ ∃ o ∈ orig, h.transactionEventId = o.id) ∧ h.createdAt = t := by
  simp only [appliedHistories, List.mem_append, List.mem_cons, List.mem_map, Option.mem_toList, List.not_mem_nil,
    or_false] at hm
  rcases hm with ((rfl | rfl) | ⟨o, ho, rfl⟩) | rfl
  · exact ⟨Or.inl rfl, rfl⟩
  · exact ⟨Or.inl rfl, rfl⟩
  · exact ⟨Or.inr ⟨o, ho, rfl⟩, rfl⟩
  · exact ⟨Or.inl rfl, rfl⟩

/-- **Every commit goes on with the history of every event.** -/
theorem Committed.chapter (h : Committed st opts w hit init db key request W reply) :
    ∀ e ∈ (W.apply db).events, Chapter db W e := by
  cases h with
  | replay _ _ _ => exact fun e he => Chapter.unchanged (by simpa using he) (by simp)
  | cached _ _ _ _ => exact fun e he => Chapter.unchanged (by simpa using he) (by simp)
  | refused _ _ => exact fun e he => Chapter.unchanged (by simpa using he) (by simp [refusedWork])
  | duplicate _ _ _ _ _ => exact fun e he => Chapter.unchanged (by simpa using he) (by simp [refusedWork])
  | @failed rec a orig ev x i₁ i₂ i₃ t t' _ _ _ hc _ _ =>
      intro e he
      rw [eventWork_apply] at he
      rcases List.mem_append.mp he with he | he
      · exact Chapter.unchanged he fun h hm heq => hc.fresh e he (heq.symm.trans (mem_failedHistories hm).1)
      · rw [List.mem_singleton.mp he]
        refine .first (failedHistories ev x i₁ i₂ i₃ t) hc.noHistories ?_ (List.cons_ne_nil _ _)
          ⟨rfl, rfl, rfl, rfl, rfl, rfl, rfl⟩
        exact List.filter_eq_self.mpr fun h hm => beq_iff_eq.mpr (mem_failedHistories hm).1
  | @applied rec a orig ev amount balance i i₁ i₂ i₃ i₄ t t' _ hl hr hc hx _ _ =>
      have horig := hr.completed hc hx
      have hnew : ∀ o ∈ orig, o.id ≠ ev.id := fun o ho => hc.fresh o (horig o ho).1
      intro e he
      rw [appliedWork_apply] at he
      rcases List.mem_append.mp he with he | he
      · have hother : ∀ e ∈ db.events, (∀ o ∈ orig, e.id ≠ o.id) →
            Chapter db (appliedWork (completedRecord rec
              (successResult (withStatus ev .completed t) (ledgerRow i ev a amount balance t) true false) t')
              (withStatus ev .completed t) (cancelledRows orig t) (appliedHistories ev orig i₁ i₂ i₃ i₄ t)
              { a with balance := balance } (ledgerRow i ev a amount balance t)) e := by
          intro e he hne
          refine Chapter.unchanged he fun h hm heq => ?_
          rcases (mem_appliedHistories hm).1 with hid | ⟨o, ho, hid⟩
          · exact hc.fresh e he (heq.symm.trans hid)
          · exact hne o ho (heq.symm.trans hid)
        cases orig with
        | none => exact hother e he (by simp)
        | some o =>
            rcases Delta.mem_replace.mp he with ⟨he, hid⟩ | ⟨rfl, _⟩
            · refine hother e he ?_
              rintro _ ⟨⟩
              exact hid
            · refine .next [cancelledRow i₃ o t] (horig o rfl).1 rfl ?_ ?_
              · have := hnew o rfl
                simp [Overlay.historiesOf, appliedWork, appliedHistories, validatedRow, processingRow, cancelledRow,
                  completedRow, historyRow, withStatus, this.symm]
              · rw [(horig o rfl).2]
                exact ⟨rfl, rfl, rfl⟩
      · rw [List.mem_singleton.mp he]
        refine .first [validatedRow i₁ ev t, processingRow i₂ ev t, completedRow i₄ ev t] hc.noHistories ?_
          (List.cons_ne_nil _ _) ⟨rfl, rfl, rfl, rfl, rfl, rfl, rfl⟩
        cases orig with
        | none =>
            simp [Overlay.historiesOf, appliedWork, appliedHistories, validatedRow, processingRow, completedRow,
              historyRow, withStatus]
        | some o =>
            have := hnew o rfl
            simp [Overlay.historiesOf, appliedWork, appliedHistories, validatedRow, processingRow, cancelledRow,
              completedRow, historyRow, withStatus, this]

end Chapter

/-! ## Histories in the order of a key -/

/-- The history rows of an event, in the order of a key, lead from RECEIVED to its status. -/
structure Chronicled {κ : Type} [LinearOrder κ] (key : EventStateHistory → κ) (db : Db) (e : TransactionEvent) :
    Prop where
  nonempty : db.historiesOf e.id ≠ []
  path : StatusPath .received (orderBy key (db.historiesOf e.id)) e.status

section Chronicled

variable {κ : Type} [LinearOrder κ] {key : EventStateHistory → κ} {db : Db} {W : Overlay}

theorem historiesOf_apply (db : Db) (hW : W.histories.updated = []) (eventId : Nat) :
    (W.apply db).historiesOf eventId = db.historiesOf eventId ++ W.historiesOf eventId := by
  simp [Db.historiesOf, Overlay.historiesOf, Overlay.apply, Delta.apply_of_updated_nil hW]

theorem Db.Valid.historiesOf_nodup (hv : db.Valid) (eventId : Nat) :
    ((db.historiesOf eventId).map EventStateHistory.id).Nodup :=
  hv.history_id.sublist (List.filter_sublist.map _)

/-- **Rows that come after the others of their event, in the order of the key, continue every history.** -/
theorem Chronicled.commit (hkey : ∀ rows : List EventStateHistory, (rows.map EventStateHistory.id).Nodup →
      (rows.map key).Nodup) (h : ∀ e ∈ db.events, Chronicled key db e) (hv : (W.apply db).Valid)
    (hW : W.histories.updated = []) (hnew : W.histories.inserted.Pairwise (fun a b => key a ≤ key b))
    (hafter : ∀ n ∈ W.histories.inserted, ∀ r ∈ db.histories, r.transactionEventId = n.transactionEventId →
      key r ≤ key n)
    (hch : ∀ e ∈ (W.apply db).events, Chapter db W e) : ∀ e ∈ (W.apply db).events, Chronicled key (W.apply db) e := by
  intro e he
  have hrows := historiesOf_apply db hW e.id
  have hsorted : orderBy key ((W.apply db).historiesOf e.id) =
      orderBy key (db.historiesOf e.id) ++ W.historiesOf e.id := by
    rw [hrows]
    refine orderBy_append (hkey _ (hrows ▸ hv.historiesOf_nodup e.id)) (hnew.sublist List.filter_sublist) ?_
    intro r hr n hn
    have hr := List.mem_filter.mp hr
    have hn := List.mem_filter.mp hn
    exact hafter n hn.1 r hr.1 ((beq_iff_eq.mp hr.2).trans (beq_iff_eq.mp hn.2).symm)
  cases hch e he with
  | next hs he₀ hid hnew hp =>
      have h₀ := h _ he₀
      rw [← hnew] at hp
      refine ⟨?_, ?_⟩
      · rw [hrows, ← hid]
        exact List.append_ne_nil_of_left_ne_nil h₀.nonempty _
      · rw [hsorted]
        exact (hid ▸ h₀.path).append hp
  | first hs hn hnew hne hp =>
      rw [← hnew] at hp hne
      refine ⟨?_, ?_⟩
      · rw [hrows]
        exact List.append_ne_nil_of_right_ne_nil _ hne
      · rw [hsorted, hn]
        simpa [orderBy] using hp

end Chronicled

/-! ## Histories in id order -/

section Runs

variable {st : Settings} {opts : Opts} {calls : List Call} {sh : Shared} {c c' : Config} {init db : Db}
  {log : List Commit}

theorem Chronicled.chain (h₀ : ∀ e ∈ init.events, Chronicled EventStateHistory.id init e)
    (h : Chain st opts init log db) : ∀ e ∈ db.events, Chronicled EventStateHistory.id db e := by
  induction h with
  | nil => exact h₀
  | commit _ hv hx hc ih =>
      have hnew := hx.effect.newHistories
      exact Chronicled.commit (fun _ hn => hn) ih (hx.effect.valid hc hv) hc.noHistoryUpdates
        (hnew.sorted.imp Nat.le_of_lt) (fun n hn r hr heq => Nat.le_of_lt (hnew.after n hn r hr heq)) hx.chapter
  | deleteExpired _ _ _ _ ih => exact fun e he => { ih e he with }
  | setQuarantines _ _ _ ih => exact fun e he => { ih e he with }

/-- What a step writes leaves the history rows as they are and adds its own. -/
theorem Write.histories_kept {sh' : Shared} (h : Write st opts sh sh') : sh.db.histories <+: sh'.db.histories := by
  cases h with
  | nothing hdb _ => exact ⟨[], by simp [hdb]⟩
  | commit hdb _ _ hc =>
      rw [hdb]
      simp only [Overlay.apply, Delta.apply_of_updated_nil hc.noHistoryUpdates]
      exact List.prefix_append _ _
  | deleteExpired _ _ _ hdb _ => exact ⟨[], by simp [hdb, IdempotencyRecordRepository.deleteExpired]⟩
  | setQuarantines _ _ hdb _ => exact ⟨[], by simp [hdb]⟩

theorem Reaches.histories_kept (h₀ : Initial sh) (h : Reaches anyStep (start st sh calls) c)
    (h' : Reaches anyStep c c') : c.shared.db.histories <+: c'.shared.db.histories := by
  induction h' with
  | refl => exact List.prefix_rfl
  | @step c₁ c₂ label h' hok hs ih =>
      have hall : Reaches (permits everything) (start st sh calls) c₁ :=
        (h.trans h').mono fun c label _ => permits_everything c label
      have hinv := hall.inv rfl h₀ (Admits.any rfl rfl)
      exact ih.trans (step_write hinv (permits_everything c₁ label) hs).histories_kept

/-- **The state history is a faithful path.** When the history rows of every event at the start, in id order, lead from
RECEIVED to its status by allowed transitions, so do those of every event of every reachable state; every row belongs
to an event, and no later step changes or removes one. -/
theorem history_faithful (h₀ : Initial sh) (hh : ∀ e ∈ sh.db.events, Chronicled EventStateHistory.id sh.db e)
    (h : Reaches anyStep (start st sh calls) c) :
    (∀ e ∈ c.shared.db.events, Chronicled EventStateHistory.id c.shared.db e) ∧
      (∀ r ∈ c.shared.db.histories, ∃ e ∈ c.shared.db.events, e.id = r.transactionEventId) ∧
      ∀ c', Reaches anyStep c c' → c.shared.db.histories <+: c'.shared.db.histories := by
  obtain ⟨hcoh, hchain⟩ := h.coherent_any h₀
  exact ⟨Chronicled.chain hh hchain, hcoh.valid.history_fk, fun c' h' => h.histories_kept h₀ h'⟩

/-- A deposit and its cancel. -/
theorem history_faithful_cancel :
    let c := Sample.run [Sample.call "key-1" Sample.deposit, Sample.call "key-2" Sample.cancel]
      (List.replicate 23 (.run 0) ++ List.replicate 25 (.run 1))
    c.shared.db.histories.map (fun h => (h.transactionEventId, h.newStatus)) =
        [(1, .validated), (1, .processing), (1, .completed), (2, .validated), (2, .processing), (1, .cancelled),
          (2, .completed)] ∧
      (∀ e ∈ c.shared.db.events, Chronicled EventStateHistory.id c.shared.db e) ∧
      (∀ r ∈ c.shared.db.histories, ∃ e ∈ c.shared.db.events, e.id = r.transactionEventId) ∧
      ∀ c', Reaches anyStep c c' → c.shared.db.histories <+: c'.shared.db.histories := by
  have h := history_faithful Sample.initial (by simp [Sample.shared, Sample.db]) (Sample.reaches_run
    [Sample.call "key-1" Sample.deposit, Sample.call "key-2" Sample.cancel]
    (List.replicate 23 (.run 0) ++ List.replicate 25 (.run 1)))
  exact ⟨by decide +kernel, h⟩

end Runs

/-! ## The audit reads -/

open EventStateHistoryRepository

/-- The audit reads tell the history of the event. -/
structure Audited (db : Db) (e : TransactionEvent) : Prop where
  listed : StatusPath .received (listByTransactionEventId db e.id) e.status
  latest : ∃ r, getLatestByTransactionEventId db e.id = some r ∧ r.newStatus = e.status

theorem Chronicled.audited {db : Db} {e : TransactionEvent} (h : Chronicled creation db e) (hv : db.Valid) :
    Audited db e where
  listed := h.path
  latest := by
    have hne : orderBy creation (db.historiesOf e.id) ≠ [] := fun hnil =>
      h.nonempty ((hnil ▸ orderBy_perm creation (db.historiesOf e.id)).symm.eq_nil)
    refine ⟨_, ?_, h.path.getLast (List.getLast?_eq_getLast_of_ne_nil hne)⟩
    have hnodup : ((db.historiesOf e.id).map creation).Nodup := stamp_nodup _ (hv.historiesOf_nodup e.id)
    unfold getLatestByTransactionEventId
    rw [head?_orderByDesc hnodup, List.getLast?_eq_getLast_of_ne_nil hne]

/-- The transaction has written a history row that is older than a committed row of the same event. -/
def backdatesHistory (sh : Shared) (l : Session) : Bool :=
  l.work.histories.inserted.any fun n => sh.db.histories.any fun r =>
    r.transactionEventId == n.transactionEventId && decide (n.createdAt < r.createdAt)

section Audit

variable {st : Settings} {opts : Opts} {w : Wiring} {hit : Option CacheEntry} {init db : Db} {key : String}
  {request : TransactionEventCreateRequest} {W : Overlay} {reply : TransactionProcessingResult} {calls : List Call}
  {sh : Shared} {c c' : Config}

/-- The rows of one transaction bear its start. -/
theorem Committed.sameTime (h : Committed st opts w hit init db key request W reply) :
    ∃ t, ∀ r ∈ W.histories.inserted, r.createdAt = t := by
  cases h with
  | replay _ _ _ => exact ⟨0, by simp⟩
  | cached _ _ _ _ => exact ⟨0, by simp⟩
  | refused _ _ => exact ⟨0, by simp [refusedWork]⟩
  | duplicate _ _ _ _ _ => exact ⟨0, by simp [refusedWork]⟩
  | failed _ _ _ _ _ _ => exact ⟨_, fun r hr => (mem_failedHistories hr).2⟩
  | applied _ _ _ _ _ _ _ => exact ⟨_, fun r hr => (mem_appliedHistories hr).2⟩

theorem Chronicled.stamped (h : ∀ e ∈ c.shared.db.events, Chronicled creation c.shared.db e)
    {Q : Except Exc TransactionProcessingResult → Shared → Session → Prop} {label : Label}
    (hinv : Inv (logic st everything) (Coherent st everything calls) Q c) (hok : atCommit backdatesHistory c label = false)
    (hs : step c label = some c') : ∀ e ∈ c'.shared.db.events, Chronicled creation c'.shared.db e := by
  rcases step_tables hinv (permits_everything c label) hs with ⟨_, he, _, hh⟩ | ⟨i, l, reply, k, rfl, ht, howed, hsh⟩
  · intro e hmem
    rw [he] at hmem
    obtain ⟨hne, hp⟩ := h e hmem
    have hrows : c'.shared.db.historiesOf e.id = c.shared.db.historiesOf e.id := by
      simp only [Db.historiesOf, hh]
    exact ⟨hrows ▸ hne, hrows ▸ hp⟩
  · have hx := howed.shape
    have hc := howed.covered
    have hnew := hx.effect.newHistories
    obtain ⟨t, htime⟩ := hx.sameTime
    rw [atCommit_eq backdatesHistory ht] at hok
    simp only [backdatesHistory, List.any_eq_false, List.any_eq_true, Bool.and_eq_true, beq_iff_eq, decide_eq_true_eq,
      not_exists, not_and, Int.not_lt] at hok
    rw [hsh]
    refine Chronicled.commit stamp_nodup h (hx.effect.valid hc hinv.coh.valid) hc.noHistoryUpdates ?_ ?_ hx.chapter
    · refine hnew.sorted.imp_of_mem fun ha hb hlt => stamp_le ?_ (Nat.le_of_lt hlt)
      rw [htime _ ha, htime _ hb]
    · intro n hn r hr heq
      exact stamp_le (hok n hn r hr heq) (Nat.le_of_lt (hnew.after n hn r hr heq))

/-- **The audit reads show the true order as long as no transaction commits a history row that is older than a
committed row of the same event.** -/
theorem audit_reads (h₀ : Initial sh) (hh : ∀ e ∈ sh.db.events, Chronicled creation sh.db e)
    (h : Reaches (fun c label => atCommit backdatesHistory c label = false) (start st sh calls) c) :
    ∀ e ∈ c.shared.db.events, Audited c.shared.db e := by
  have hall : ∀ {c}, Reaches (fun c label => atCommit backdatesHistory c label = false) (start st sh calls) c →
      Inv (logic st everything) (Coherent st everything calls) (Finished st everything) c := fun h =>
    Reaches.inv rfl h₀ (Admits.any rfl rfl) (h.mono fun c label _ => permits_everything c label)
  have hchron : ∀ e ∈ c.shared.db.events, Chronicled creation c.shared.db e := by
    induction h with
    | refl => exact hh
    | step h hok hs ih => exact Chronicled.stamped ih (hall h) hok hs
  exact fun e he => (hchron e he).audited (hall h).coh.valid

/-- A deposit. -/
theorem audit_reads_deposit :
    let c := Sample.run [Sample.call "key-1" Sample.deposit] (List.replicate 23 (.run 0))
    c.shared.db.events.map TransactionEvent.status = [.completed] ∧ ∀ e ∈ c.shared.db.events, Audited c.shared.db e := by
  have hreach : Reaches (fun c label => (!atCommit backdatesHistory c label) = true)
      (start Sample.settings Sample.shared [Sample.call "key-1" Sample.deposit])
      (Sample.run [Sample.call "key-1" Sample.deposit] (List.replicate 23 (.run 0))) :=
    Reaches.followed_of _ (by decide +kernel)
  refine ⟨by decide +kernel, audit_reads Sample.initial (by simp [Sample.shared, Sample.db]) (hreach.mono ?_)⟩
  exact fun c label hok => by simpa using hok

/-- A CANCEL whose transaction begins, then the whole deposit that it cancels, then the rest of the CANCEL. -/
def Sample.overtaken : Config :=
  Sample.run [Sample.call "key-1" Sample.deposit, Sample.call "key-2" Sample.cancel]
    (List.replicate 4 (.run 1) ++ [.tick 1] ++ List.replicate 23 (.run 0) ++ List.replicate 21 (.run 1))

/-- The audit reads put the cancellation first and name COMPLETED as the latest status. -/
theorem audit_reads_disordered :
    Reaches anyStep (start Sample.settings Sample.shared
        [Sample.call "key-1" Sample.deposit, Sample.call "key-2" Sample.cancel]) Sample.overtaken ∧
      ∃ e ∈ Sample.overtaken.shared.db.events, e.status = .cancelled ∧
        (listByTransactionEventId Sample.overtaken.shared.db e.id).map EventStateHistory.newStatus =
          [.cancelled, .validated, .processing, .completed] ∧ ¬ Audited Sample.overtaken.shared.db e := by
  have hread : ∃ e ∈ Sample.overtaken.shared.db.events, e.status = .cancelled ∧
      (listByTransactionEventId Sample.overtaken.shared.db e.id).map EventStateHistory.newStatus =
        [.cancelled, .validated, .processing, .completed] ∧
      (getLatestByTransactionEventId Sample.overtaken.shared.db e.id).map EventStateHistory.newStatus =
        some .completed := by
    decide +kernel
  obtain ⟨e, he, hstatus, hlist, hlatest⟩ := hread
  refine ⟨Sample.reaches_run _ _, e, he, hstatus, hlist, fun h => ?_⟩
  obtain ⟨r, hr, hnew⟩ := h.latest
  rw [hr] at hlatest
  have : r.newStatus = .completed := Option.some.inj hlatest
  rw [hnew, hstatus] at this
  cases this

end Audit

end EventConsistency
