import EventConsistency.Balances
import EventConsistency.History

/-!
# The restore drill

`scripts/sql/dr_consistency_check.sql` compares the balance of every account with its latest ledger entry.

* `latestLedger`, `accountBalanceMismatchCount` : the check;
* **`restore_check`** : it finds nothing in a reachable state, as long as no transaction commits a ledger entry that is
  older than a committed entry of the same account; **`restore_check_alarm`** : a transaction that waited for the
  account behind one that began later.
-/

namespace EventConsistency

open Lib

namespace DrConsistencyCheck

/-- `created_at`, then `id`. -/
def creation : LedgerEntry → Int ×ₗ Nat := stamp LedgerEntry.createdAt LedgerEntry.id

/-- The row of the account in `latest_ledger`: `DISTINCT ON (account_id) ... ORDER BY created_at DESC, id DESC`. -/
def latestLedger (db : Db) (accountId : Nat) : Option LedgerEntry :=
  (orderByDesc creation (db.entriesOf accountId)).head?

/-- The account is joined with its row of `latest_ledger` and has another balance. -/
def mismatch (db : Db) (a : Account) : Bool := (latestLedger db a.id).any fun r => a.balance != r.balanceAfter

/-- `account_balance_mismatch_count`. -/
def accountBalanceMismatchCount (db : Db) : Nat := (db.accounts.filter (mismatch db)).length

theorem accountBalanceMismatchCount_eq_zero {db : Db} :
    accountBalanceMismatchCount db = 0 ↔
      ∀ a ∈ db.accounts, ∀ r, latestLedger db a.id = some r → r.balanceAfter = a.balance := by
  simp only [accountBalanceMismatchCount, List.length_eq_zero_iff, List.filter_eq_nil_iff]
  refine forall₂_congr fun a _ => ?_
  cases h : latestLedger db a.id with
  | none => simp [mismatch, h]
  | some r =>
      simp only [mismatch, h, Option.any_some, bne_iff_ne, ne_eq, not_not, Option.some.injEq, forall_eq']
      exact eq_comm

end DrConsistencyCheck

open DrConsistencyCheck

/-- The transaction has written a ledger entry that is older than a committed entry of the same account. -/
def backdatesLedger (sh : Shared) (l : Session) : Bool :=
  l.work.ledger.inserted.any fun n => sh.db.ledger.any fun r =>
    r.accountId == n.accountId && decide (n.createdAt < r.createdAt)

section Check

variable {st : Settings} {calls : List Call} {sh : Shared} {c c' : Config} {db : Db} {W : Overlay}
  {request : TransactionEventCreateRequest}

/-- An entry with the account's new balance that is younger than the others of the account. -/
theorem mismatch_enter {a : Account} {ev : TransactionEvent} {r : LedgerEntry} (hn : Entered db a ev r)
    (hv : (W.apply db).Valid) (hold : ∀ x ∈ db.ledger, x.accountId = r.accountId → x.createdAt ≤ r.createdAt)
    (ha : (W.apply db).accounts = Delta.replace { a with balance := r.balanceAfter } db.accounts)
    (hl : (W.apply db).ledger = db.ledger ++ [r]) (h : accountBalanceMismatchCount db = 0) :
    accountBalanceMismatchCount (W.apply db) = 0 := by
  rw [accountBalanceMismatchCount_eq_zero] at h ⊢
  intro b hb x hx
  rw [ha] at hb
  rcases Delta.mem_replace.mp hb with ⟨hb, hne⟩ | ⟨rfl, _⟩
  · have hes : (W.apply db).entriesOf b.id = db.entriesOf b.id := by
      have : r.accountId ≠ b.id := fun heq => hne (heq.symm.trans hn.entryOwner)
      simp [Db.entriesOf, hl, this]
    refine h b hb x ?_
    rw [latestLedger, ← hes]
    exact hx
  · have hes : (W.apply db).entriesOf a.id = db.entriesOf a.id ++ [r] := by
      simp [Db.entriesOf, hl, hn.entryOwner]
    have hnodup : (((W.apply db).entriesOf a.id).map creation).Nodup :=
      stamp_nodup _ (hv.ledger_id.sublist (List.filter_sublist.map _))
    have hlatest : latestLedger (W.apply db) a.id = some r := by
      rw [hes] at hnodup
      rw [latestLedger, hes]
      refine head?_orderByDesc_append hnodup fun y hy => ?_
      have hy := List.mem_filter.mp hy
      have hacc : y.accountId = a.id := beq_iff_eq.mp hy.2
      exact stamp_le (hold y hy.1 (hacc.trans hn.entryOwner.symm)) (Nat.le_of_lt (hn.after y hy.1 hacc))
    rw [hlatest] at hx
    rw [← Option.some.inj hx]

/-- What leaves accounts and ledger alone. -/
theorem mismatch_same {db' : Db} (ha : db'.accounts = db.accounts) (hl : db'.ledger = db.ledger)
    (h : accountBalanceMismatchCount db = 0) : accountBalanceMismatchCount db' = 0 := by
  have hm : mismatch db' = mismatch db := by
    funext a
    simp only [mismatch, latestLedger, Db.entriesOf, hl]
  rw [accountBalanceMismatchCount, ha, hm]
  exact h

/-- **A commit whose entry is younger than the others of its account keeps the check at zero.** -/
theorem mismatch_posting (hv : (W.apply db).Valid) (hold : ∀ n ∈ W.ledger.inserted, ∀ x ∈ db.ledger,
      x.accountId = n.accountId → x.createdAt ≤ n.createdAt) (hW : W.ledger.updated = [])
    (hp : Posting request W db) (h : accountBalanceMismatchCount db = 0) :
    accountBalanceMismatchCount (W.apply db) = 0 := by
  cases hp with
  | quiet ha _ hl => exact mismatch_same ha hl h
  | failed _ _ _ ha _ hl => exact mismatch_same ha hl h
  | direct hn _ ha _ hl => exact mismatch_enter hn hv (hold _ (inserted_of_ledger hW hl)) ha hl h
  | cancel hn _ _ _ _ _ _ _ _ _ ha _ hl => exact mismatch_enter hn hv (hold _ (inserted_of_ledger hW hl)) ha hl h

theorem mismatch_step {Q : Except Exc TransactionProcessingResult → Shared → Session → Prop} {label : Label}
    (hinv : Inv (logic st everything) (Coherent st everything calls) Q c)
    (hok : atCommit backdatesLedger c label = false) (hs : step c label = some c')
    (h : accountBalanceMismatchCount c.shared.db = 0) : accountBalanceMismatchCount c'.shared.db = 0 := by
  rcases step_tables hinv (permits_everything c label) hs with ⟨ha, _, hl, _⟩ | ⟨i, l, reply, k, rfl, ht, howed, hsh⟩
  · exact mismatch_same ha hl h
  · have hc := howed.covered
    rw [atCommit_eq backdatesLedger ht] at hok
    simp only [backdatesLedger, List.any_eq_false, List.any_eq_true, Bool.and_eq_true, beq_iff_eq, decide_eq_true_eq,
      not_exists, not_and, Int.not_lt] at hok
    rw [hsh]
    exact mismatch_posting (howed.shape.effect.valid hc hinv.coh.valid) hok hc.noLedgerUpdates howed.shape.posting h

/-- **The restore drill raises no alarm as long as no transaction commits a ledger entry that is older than a committed
entry of the same account.** -/
theorem restore_check (h₀ : Initial sh) (hm : accountBalanceMismatchCount sh.db = 0)
    (h : Reaches (fun c label => atCommit backdatesLedger c label = false) (start st sh calls) c) :
    accountBalanceMismatchCount c.shared.db = 0 := by
  induction h with
  | refl => exact hm
  | @step c₁ c₂ label h hok hs ih =>
      have hall : Reaches (permits everything) (start st sh calls) c₁ := h.mono fun c label _ => permits_everything c label
      exact mismatch_step (hall.inv rfl h₀ (Admits.any rfl rfl)) hok hs ih

/-- A deposit. -/
theorem restore_check_deposit :
    let c := Sample.run [Sample.call "key-1" Sample.deposit] (List.replicate 23 (.run 0))
    c.shared.db.ledger.map LedgerEntry.balanceAfter = [1500] ∧ accountBalanceMismatchCount c.shared.db = 0 := by
  have hreach : Reaches (fun c label => (!atCommit backdatesLedger c label) = true)
      (start Sample.settings Sample.shared [Sample.call "key-1" Sample.deposit])
      (Sample.run [Sample.call "key-1" Sample.deposit] (List.replicate 23 (.run 0))) :=
    Reaches.followed_of _ (by decide +kernel)
  refine ⟨by decide +kernel, restore_check Sample.initial (by decide) (hreach.mono ?_)⟩
  exact fun c label hok => by simpa using hok

/-- The CANCEL began before the deposit and posted after it: the drill compares the balance with the deposit's entry. -/
theorem restore_check_alarm :
    Reaches anyStep (start Sample.settings Sample.shared
        [Sample.call "key-1" Sample.deposit, Sample.call "key-2" Sample.cancel]) Sample.overtaken ∧
      Sample.overtaken.shared.db.ledger.map LedgerEntry.balanceAfter = [1500, 1000] ∧
      accountBalanceMismatchCount Sample.overtaken.shared.db = 1 :=
  ⟨Sample.reaches_run _ _, by decide +kernel⟩

end Check

end EventConsistency
