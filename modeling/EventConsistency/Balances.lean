import EventConsistency.Books

/-!
# Balances

* `Statement b₀ es` : the entries `es` of an account in the order of their ids, each with the balance that the opening
  balance `b₀` and the amounts up to it give;
* `Signed` : the amount of an entry has the size of its event's and the sign of its type, that of a CANCEL the sign
  against its original;
* `Reconciled` : an account that agrees with its ledger;
* **`ledger_integrity`** : every account that started without entries is so in every reachable state.
-/

namespace EventConsistency

open Lib

/-- The account's ledger entries in id order. -/
def Db.ledgerOf (db : Db) (accountId : Nat) : List LedgerEntry :=
  (db.ledger.filter (fun r => r.accountId == accountId)).mergeSort (fun r r' => decide (r.id ≤ r'.id))

/-- The sum of the amounts of a list of entries. -/
def total (es : List LedgerEntry) : Int := (es.map LedgerEntry.amount).sum

theorem total_append (es : List LedgerEntry) (r : LedgerEntry) : total (es ++ [r]) = total es + r.amount := by
  simp [total, List.sum_append]

/-! ## Statements -/

/-- An account statement that starts at `b₀`. -/
structure Statement (b₀ : Int) (es : List LedgerEntry) : Prop where
  sorted : es.Pairwise (fun r r' => r.id < r'.id)
  running : ∀ k r, es[k]? = some r → r.balanceAfter = b₀ + total (es.take (k + 1))
  nonneg : ∀ r ∈ es, 0 ≤ r.balanceAfter

namespace Statement

variable {b₀ : Int} {es : List LedgerEntry} {r : LedgerEntry}

theorem nil (b₀ : Int) : Statement b₀ [] := by
  constructor <;> simp

theorem append (h : Statement b₀ es) (hid : ∀ x ∈ es, x.id < r.id) (hb : r.balanceAfter = b₀ + total es + r.amount)
    (hn : 0 ≤ r.balanceAfter) : Statement b₀ (es ++ [r]) where
  sorted := by
    refine List.pairwise_append.mpr ⟨h.sorted, List.pairwise_singleton _ _, fun x hx y hy => ?_⟩
    rw [List.mem_singleton.mp hy]
    exact hid x hx
  running k y hk := by
    rcases Nat.lt_or_ge k es.length with hlt | hge
    · rw [List.getElem?_append_left hlt] at hk
      rw [List.take_append_of_le_length hlt]
      exact h.running k y hk
    · -- the new entry is the only one behind the old ones
      rw [List.getElem?_append_right hge] at hk
      obtain ⟨hk0, rfl⟩ : k - es.length = 0 ∧ y = r := by
        rcases hi : k - es.length with _ | i <;> simp [hi] at hk ⊢
        exact hk.symm
      rw [List.take_of_length_le (by simp; omega), total_append, hb]
      omega
  nonneg y hy := by
    rcases List.mem_append.mp hy with hy | hy
    · exact h.nonneg y hy
    · rw [List.mem_singleton.mp hy]; exact hn

/-- The last entry has the balance. -/
theorem last (h : Statement b₀ es) (hr : es.getLast? = some r) : r.balanceAfter = b₀ + total es := by
  rw [List.getLast?_eq_getElem?] at hr
  have hpos : 0 < es.length := by
    rcases es with _ | _
    · simp at hr
    · simp
  rw [h.running _ r hr, Nat.sub_add_cancel hpos, List.take_length]

end Statement

/-! ## The signs of entries -/

/-- The CANCEL entry `r`, for an event of this amount, was made by a commit whose original is the cancelled `o`. -/
structure Against (log : List Commit) (db : Db) (r : LedgerEntry) (amount : Int) (o : TransactionEvent) : Prop where
  commit : ∃ x ∈ log, x.work.ledger.inserted = [r] ∧ x.request.originalExternalEventId = some o.externalEventId
  event : o ∈ db.events
  status : o.status = .cancelled
  accountId : o.accountId = r.accountId
  amount_eq : o.amount = amount
  sign : (o.eventType = .deposit ∧ r.amount < 0) ∨ (o.eventType = .withdraw ∧ 0 < r.amount)

/-- The entry `r` has the amount and the sign of its event. -/
structure Signed (log : List Commit) (db : Db) (r : LedgerEntry) : Prop where
  credit : r.entryType = .credit ↔ 0 < r.amount
  debit : r.entryType = .debit ↔ r.amount < 0
  event : ∃ e ∈ db.events, e.id = r.transactionEventId ∧ (r.amount.natAbs : Int) = e.amount ∧
    (e.eventType = .deposit → 0 < r.amount) ∧ (e.eventType = .withdraw → r.amount < 0) ∧
    (e.eventType = .cancel → ∃ o, Against log db r e.amount o)

section Signed

variable {log : List Commit} {db db' : Db} {a : Account} {ev : TransactionEvent} {r : LedgerEntry} {x : Commit}

/-- A cancelled event stays as it is. -/
theorem EventStep.of_cancelled {e e' : TransactionEvent} (h : EventStep e e') (hs : e.status = .cancelled) : e' = e := by
  rcases h with rfl | ⟨hc, _⟩
  · rfl
  · rw [hs] at hc; cases hc

theorem Signed.mono (h : Signed log db r) (hold : ∀ e ∈ db.events, ∃ e' ∈ db'.events, EventStep e e')
    {log' : List Commit} (hlog : log ⊆ log') : Signed log' db' r where
  credit := h.credit
  debit := h.debit
  event := by
    obtain ⟨e, he, hid, hamt, hd, hw, hc⟩ := h.event
    obtain ⟨e', he', hs⟩ := hold e he
    refine ⟨e', he', hs.id_eq.trans hid, by rw [hs.type_eq.2]; exact hamt, ?_, ?_, ?_⟩
    · rw [hs.type_eq.1]; exact hd
    · rw [hs.type_eq.1]; exact hw
    · rw [hs.type_eq.1, hs.type_eq.2]
      intro hty
      obtain ⟨o, ho⟩ := hc hty
      obtain ⟨o', ho', hso⟩ := hold o ho.event
      have hsame := hso.of_cancelled ho.status
      subst hsame
      obtain ⟨x, hx, hxr⟩ := ho.commit
      exact ⟨o', { ho with commit := ⟨x, hlog hx, hxr⟩, event := ho' }⟩

/-- The side of an entry is the sign of its amount. -/
theorem Entered.sides (hn : Entered db a ev r) (h : (r.amount.natAbs : Int) = ev.amount) :
    (r.entryType = .credit ↔ 0 < r.amount) ∧ (r.entryType = .debit ↔ r.amount < 0) := by
  have := hn.amount_pos
  rw [hn.entryType]
  by_cases hp : r.amount > 0
  · rw [if_pos hp]
    exact ⟨⟨fun _ => hp, fun _ => rfl⟩, ⟨fun hf => absurd hf (by decide), fun hf => by omega⟩⟩
  · rw [if_neg hp]
    exact ⟨⟨fun hf => absurd hf (by decide), fun hf => by omega⟩, ⟨fun _ => by omega, fun _ => rfl⟩⟩

/-- A new entry has the sign of its event. -/
theorem Signed.direct (hn : Entered db a ev r) (hev : ev ∈ db'.events)
    (hd : (ev.eventType = .deposit ∧ r.amount = ev.amount) ∨ (ev.eventType = .withdraw ∧ r.amount = -ev.amount)) :
    Signed log db' r := by
  have hpos := hn.amount_pos
  have habs : (r.amount.natAbs : Int) = ev.amount := by
    rcases hd with ⟨_, ha⟩ | ⟨_, ha⟩ <;> omega
  refine ⟨(hn.sides habs).1, (hn.sides habs).2, ev, hev, hn.event.symm, habs, ?_, ?_, ?_⟩
  · intro ht
    rcases hd with ⟨_, ha⟩ | ⟨hw, _⟩
    · omega
    · rw [ht] at hw; cases hw
  · intro ht
    rcases hd with ⟨hd, _⟩ | ⟨_, ha⟩
    · rw [ht] at hd; cases hd
    · omega
  · intro ht
    rcases hd with ⟨hd, _⟩ | ⟨hd, _⟩ <;> rw [ht] at hd <;> cases hd

/-- The new entry of a CANCEL has the sign against its original. -/
theorem Signed.cancel {o : TransactionEvent} {t : Time} (hn : Entered db a ev r) (hev : ev ∈ db'.events)
    (hc : ev.eventType = .cancel) (hx : x ∈ log) (hw : x.work.ledger.inserted = [r])
    (hxo : x.request.originalExternalEventId = some o.externalEventId) (ho : withStatus o .cancelled t ∈ db'.events)
    (hacc : o.accountId = ev.accountId) (hamt : o.amount = ev.amount)
    (hd : (o.eventType = .deposit ∧ r.amount = -ev.amount) ∨ (o.eventType = .withdraw ∧ r.amount = ev.amount)) :
    Signed log db' r := by
  have hpos := hn.amount_pos
  have habs : (r.amount.natAbs : Int) = ev.amount := by
    rcases hd with ⟨_, ha⟩ | ⟨_, ha⟩ <;> omega
  refine ⟨(hn.sides habs).1, (hn.sides habs).2, ev, hev, hn.event.symm, habs, ?_, ?_, fun _ => ?_⟩
  · intro ht; rw [hc] at ht; cases ht
  · intro ht; rw [hc] at ht; cases ht
  · refine ⟨withStatus o .cancelled t, ⟨x, hx, hw, hxo⟩, ho, rfl, ?_, hamt, ?_⟩
    · exact hacc.trans (hn.owner.trans hn.entryOwner.symm)
    · rcases hd with ⟨ht, ha⟩ | ⟨ht, ha⟩
      · exact Or.inl ⟨ht, by omega⟩
      · exact Or.inr ⟨ht, by omega⟩

end Signed

/-! ## Accounts -/

/-- The account's ledger entries as the table has them. -/
def Db.entriesOf (db : Db) (accountId : Nat) : List LedgerEntry :=
  db.ledger.filter (fun r => r.accountId == accountId)

/-- The account that opened with `a₀` and has kept its books since. -/
structure Kept (a₀ : Account) (log : List Commit) (db : Db) : Prop where
  account : ∃ a ∈ db.accounts, a.id = a₀.id ∧ a.accountNo = a₀.accountNo ∧ 0 ≤ a.balance ∧
    a.balance = a₀.balance + total (db.entriesOf a₀.id)
  statement : Statement a₀.balance (db.entriesOf a₀.id)
  signed : ∀ r ∈ db.entriesOf a₀.id, Signed log db r

namespace Kept

variable {st : Settings} {opts : Opts} {init db db' : Db} {a₀ a : Account} {ev : TransactionEvent} {r : LedgerEntry}
  {log log' : List Commit} {x : Commit}

/-- Without a new entry for the account. -/
theorem keep (h : Kept a₀ log db) (ha : ∀ a ∈ db.accounts, a.id = a₀.id → a ∈ db'.accounts)
    (hl : db'.entriesOf a₀.id = db.entriesOf a₀.id)
    (he : ∀ e ∈ db.events, ∃ e' ∈ db'.events, EventStep e e') (hlog : log ⊆ log') : Kept a₀ log' db' where
  account := by
    obtain ⟨a, hmem, hid, hrest⟩ := h.account
    exact ⟨a, ha a hmem hid, hid, by rw [hl]; exact hrest⟩
  statement := by rw [hl]; exact h.statement
  signed r hr := by rw [hl] at hr; exact (h.signed r hr).mono he hlog

/-- With a new entry, for this account or another one. -/
theorem enter (h : Kept a₀ log db) (hv : db.Valid) (hn : Entered db a ev r)
    (ha : db'.accounts = Delta.replace { a with balance := r.balanceAfter } db.accounts) (hadd : Added db db' ev)
    (hl : db'.ledger = db.ledger ++ [r]) (hs : Signed log' db' r) (hlog : log ⊆ log') : Kept a₀ log' db' := by
  by_cases hid : a.id = a₀.id
  · have hes : db'.entriesOf a₀.id = db.entriesOf a₀.id ++ [r] := by
      simp [Db.entriesOf, hl, hn.entryOwner, hid]
    obtain ⟨a₁, ha₁, hid₁, hno, _, hbal⟩ := h.account
    have hsame : a₁ = a := List.inj_on_of_nodup_map hv.account_id ha₁ hn.account (hid₁.trans hid.symm)
    subst hsame
    have hafter : r.balanceAfter = a₀.balance + total (db.entriesOf a₀.id) + r.amount := by
      rw [hn.balance, hbal]
    refine ⟨⟨{ a₁ with balance := r.balanceAfter }, ?_, hid₁, hno, hn.nonneg, ?_⟩, ?_, fun y hy => ?_⟩
    · rw [ha]
      exact Delta.mem_replace.mpr (Or.inr ⟨rfl, a₁, ha₁, rfl⟩)
    · rw [hes, total_append, ← Int.add_assoc]
      exact hafter
    · rw [hes]
      refine h.statement.append (fun y hy => ?_) hafter hn.nonneg
      have hy := List.mem_filter.mp hy
      exact hn.after y hy.1 ((beq_iff_eq.mp hy.2).trans hid.symm)
    · rw [hes] at hy
      rcases List.mem_append.mp hy with hy | hy
      · exact (h.signed y hy).mono hadd.old hlog
      · rw [List.mem_singleton.mp hy]; exact hs
  · refine h.keep (fun a' hmem hid' => ?_) ?_ hadd.old hlog
    · rw [ha]
      exact Delta.mem_replace.mpr (Or.inl ⟨hmem, fun heq => hid (heq.symm.trans hid')⟩)
    · simp [Db.entriesOf, hl, hn.entryOwner, hid]

/-- **Every commit keeps every account's books.** -/
theorem posting (h : Kept a₀ log db) (hv : db.Valid) (hp : Posting x.request x.work db) :
    Kept a₀ (log ++ [x]) (x.work.apply db) := by
  have hlog : log ⊆ log ++ [x] := List.subset_append_left _ _
  cases hp with
  | quiet ha he hl =>
      exact h.keep (fun a hmem _ => by rw [ha]; exact hmem) (by simp only [Db.entriesOf, hl])
        (fun e hmem => ⟨e, by rw [he]; exact hmem, EventStep.refl e⟩) hlog
  | failed _ _ _ ha he hl =>
      exact h.keep (fun a hmem _ => by rw [ha]; exact hmem) (by simp only [Db.entriesOf, hl]) (Added.append he).old hlog
  | direct hn hd ha he hl =>
      have hadd := Added.append he
      exact h.enter hv hn ha hadd hl (Signed.direct hn hadd.new hd) hlog
  | @cancel a ev o r t hn hc hw ho hx hs hacc hamt _ hd ha he hl =>
      have hadd := Added.cancel hv ho hs he
      refine h.enter hv hn ha hadd hl (Signed.cancel (x := x) (t := t) hn hadd.new hc (by simp) hw hx ?_ hacc hamt hd) hlog
      rw [he]
      exact List.mem_append_left _ (Delta.mem_replace.mpr (Or.inr ⟨rfl, o, ho, rfl⟩))

theorem chain (h₀ : Kept a₀ [] init) (h : Chain st opts init log db) : Kept a₀ log db := by
  induction h with
  | nil => exact h₀
  | commit _ hv hx _ ih => exact ih.posting hv hx.posting
  | deleteExpired _ _ _ _ ih =>
      exact ih.keep (fun a hmem _ => hmem) rfl (fun e hmem => ⟨e, hmem, EventStep.refl e⟩) (fun _ h => h)
  | setQuarantines _ _ _ ih =>
      exact ih.keep (fun a hmem _ => hmem) rfl (fun e hmem => ⟨e, hmem, EventStep.refl e⟩) (fun _ h => h)

theorem opened (ha : a₀ ∈ init.accounts) (hb : 0 ≤ a₀.balance) (hl : ∀ r ∈ init.ledger, r.accountId ≠ a₀.id) :
    Kept a₀ [] init := by
  have hes : init.entriesOf a₀.id = [] := by
    simpa [Db.entriesOf, List.filter_eq_nil_iff] using hl
  refine ⟨⟨a₀, ha, rfl, rfl, hb, by simp [hes, total]⟩, ?_, ?_⟩
  · rw [hes]; exact Statement.nil _
  · rw [hes]; simp

end Kept

/-! ## Whole runs -/

/-- The account `a`, opened with the balance `b₀`, agrees with its ledger. -/
structure Reconciled (b₀ : Int) (log : List Commit) (db : Db) (a : Account) : Prop where
  balance : a.balance = b₀ + total (db.ledgerOf a.id)
  nonneg : 0 ≤ a.balance
  running : ∀ k r, (db.ledgerOf a.id)[k]? = some r →
    r.balanceAfter = b₀ + total ((db.ledgerOf a.id).take (k + 1)) ∧ 0 ≤ r.balanceAfter
  last : ∀ r, (db.ledgerOf a.id).getLast? = some r → r.balanceAfter = a.balance
  signed : ∀ r ∈ db.ledgerOf a.id, Signed log db r
  /-- The entry of a CANCEL takes back the entry of its original. -/
  opposite : ∀ r ∈ db.ledgerOf a.id, ∀ e ∈ db.events, e.id = r.transactionEventId → e.eventType = .cancel →
    ∃ o, Against log db r e.amount o ∧ ∀ r₀ ∈ db.ledgerOf a.id, r₀.transactionEventId = o.id → r₀.amount = -r.amount

theorem Statement.ledgerOf_eq {b₀ : Int} {db : Db} {id : Nat} (h : Statement b₀ (db.entriesOf id)) :
    db.ledgerOf id = db.entriesOf id := by
  refine List.mergeSort_of_pairwise (h.sorted.imp fun hlt => ?_)
  exact decide_eq_true (Nat.le_of_lt hlt)

/-- The entry of the original of a CANCEL is the opposite of the CANCEL's. -/
theorem Against.opposite {log : List Commit} {db : Db} {r r₀ : LedgerEntry} {o e : TransactionEvent}
    (h : Against log db r e.amount o) (hv : db.Valid) (habs : (r.amount.natAbs : Int) = e.amount)
    (h₀ : Signed log db r₀) (hid : r₀.transactionEventId = o.id) : r₀.amount = -r.amount := by
  obtain ⟨e₀, he₀, hid₀, habs₀, hdep, hwd, _⟩ := h₀.event
  have hsame : e₀ = o := List.inj_on_of_nodup_map hv.event_id he₀ h.event (hid₀.trans hid)
  subst hsame
  have := h.amount_eq
  rcases h.sign with ⟨ht, hneg⟩ | ⟨ht, hpos⟩
  · have := hdep ht
    omega
  · have := hwd ht
    omega

theorem Kept.reconciled {a₀ : Account} {log : List Commit} {db : Db} (h : Kept a₀ log db) (hv : db.Valid) :
    ∃ a ∈ db.accounts, a.id = a₀.id ∧ a.accountNo = a₀.accountNo ∧ Reconciled a₀.balance log db a := by
  obtain ⟨a, ha, hid, hno, hnn, hbal⟩ := h.account
  have hes : db.ledgerOf a.id = db.entriesOf a₀.id := by rw [hid]; exact h.statement.ledgerOf_eq
  refine ⟨a, ha, hid, hno, by rw [hes]; exact hbal, hnn, ?_, ?_, ?_, ?_⟩
  · rw [hes]
    exact fun k r hk => ⟨h.statement.running k r hk, h.statement.nonneg r (List.mem_of_getElem? hk)⟩
  · rw [hes, hbal]
    exact fun r hr => h.statement.last hr
  · rw [hes]; exact h.signed
  · rw [hes]
    intro r hr e he hide hty
    obtain ⟨e', he', hid', habs, _, _, hc⟩ := (h.signed r hr).event
    have hsame : e' = e := List.inj_on_of_nodup_map hv.event_id he' he (hid'.trans hide.symm)
    subst hsame
    obtain ⟨o, ho⟩ := hc hty
    exact ⟨o, ho, fun r₀ hr₀ hid₀ => ho.opposite hv habs (h.signed r₀ hr₀) hid₀⟩

section Runs

variable {st : Settings} {calls : List Call} {sh : Shared} {c : Config}

/-- **Ledger and balance integrity.** An account that starts with a balance of at least zero and without ledger entries
agrees with its ledger in every reachable state. -/
theorem ledger_integrity {a₀ : Account} (h₀ : Initial sh) (ha : a₀ ∈ sh.db.accounts) (hb : 0 ≤ a₀.balance)
    (hl : ∀ r ∈ sh.db.ledger, r.accountId ≠ a₀.id) (h : Reaches anyStep (start st sh calls) c) :
    ∃ a ∈ c.shared.db.accounts, a.id = a₀.id ∧ a.accountNo = a₀.accountNo ∧
      Reconciled a₀.balance c.shared.log c.shared.db a := by
  obtain ⟨hcoh, hchain⟩ := h.coherent_any h₀
  exact ((Kept.opened ha hb hl).chain hchain).reconciled hcoh.valid

/-- A deposit and its cancel. -/
theorem ledger_integrity_deposit :
    let c := Sample.run [Sample.call "key-1" Sample.deposit, Sample.call "key-2" Sample.cancel]
      (List.replicate 23 (.run 0) ++ List.replicate 25 (.run 1))
    c.shared.db.ledger.map LedgerEntry.amount = [500, -500] ∧
      ∃ a ∈ c.shared.db.accounts, a.id = 1 ∧ a.accountNo = "ACC-1" ∧
        Reconciled 1000 c.shared.log c.shared.db a := by
  have ha : (⟨1, "ACC-1", 1000, "ACTIVE"⟩ : Account) ∈ Sample.shared.db.accounts := by decide
  have h := ledger_integrity Sample.initial ha (by decide) (by simp [Sample.shared, Sample.db]) (Sample.reaches_run
      [Sample.call "key-1" Sample.deposit, Sample.call "key-2" Sample.cancel]
      (List.replicate 23 (.run 0) ++ List.replicate 25 (.run 1)))
  exact ⟨by decide +kernel, h⟩

end Runs

end EventConsistency
