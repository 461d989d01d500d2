import EventConsistency.Books
import EventConsistency.Services.Api

/-!
# The currency of a balance

`get_account_balance` reports every balance in the default currency of its response, and an event comes with any
currency. Only a CANCEL is compared with its original, so amounts of different currencies meet in one balance.

* `InOneCurrency db` : the events of an account that have moved money are all in the currency that is reported for it;
* `postsForeign` : the step commits a ledger entry for a request in another currency;
* **`balances_in_one_currency`** : a run without such a step keeps every balance in one currency.
-/

namespace EventConsistency

open Lib TransactionEventService

/-- The event has a ledger entry. -/
def Db.InLedger (db : Db) (e : TransactionEvent) : Prop := ∃ r ∈ db.ledger, r.transactionEventId = e.id

/-- All events of one account with a ledger entry carry the currency that is reported for the account. -/
def InOneCurrency (db : Db) : Prop :=
  ∀ accountNo a response, db.accountByNo accountNo = some a → Api.getAccountBalance db accountNo = .ok response →
    ∀ e ∈ db.events, e.accountId = a.id → db.InLedger e → e.currency = response.currency

/-- The currency that `get_account_balance` reports. -/
def reportedCurrency : String := "KRW"

theorem getAccountBalance_currency {db : Db} {accountNo : String} {response : Api.AccountBalanceResponse}
    (h : Api.getAccountBalance db accountNo = .ok response) : response.currency = reportedCurrency := by
  unfold Api.getAccountBalance at h
  split at h
  · cases h
  · cases h
    rfl

/-- Every event with a ledger entry carries this currency. -/
def PostedIn (currency : String) (db : Db) : Prop := ∀ e ∈ db.events, db.InLedger e → e.currency = currency

theorem PostedIn.inOneCurrency {db : Db} (h : PostedIn reportedCurrency db) : InOneCurrency db := by
  intro accountNo a response _ reported e he _ posted
  rw [h e he posted, getAccountBalance_currency reported]

/-- The step commits a ledger entry for a request in another currency. -/
def postsForeign : Config → Label → Bool :=
  atCommit fun _ l => !l.work.ledger.inserted.isEmpty && l.request.currency != reportedCurrency

/-! ## One commit -/

section Commits

variable {st : Settings} {opts : Opts} {w : Wiring} {hit : Option CacheEntry} {init db db' : Db} {key : String}
  {request : TransactionEventCreateRequest} {W : Overlay} {reply : TransactionProcessingResult} {currency : String}

theorem EventStep.currency_eq {e e' : TransactionEvent} (h : EventStep e e') : e'.currency = e.currency := by
  rcases h with rfl | ⟨_, _, rfl⟩ <;> rfl

/-- A commit adds at most one event, in the currency of its request; without a ledger entry of its transaction, the event
has none. -/
theorem Committed.adds (h : Committed st opts w hit init db key request W reply) (hv : db.Valid) :
    ((W.apply db).events = db.events ∧ (W.apply db).ledger = db.ledger) ∨
      ∃ ev, ev.currency = request.currency ∧ (∀ r ∈ db.ledger, r.transactionEventId ≠ ev.id) ∧
        (∀ e ∈ db.events, e.id ≠ ev.id) ∧ Added db (W.apply db) ev ∧
        ((W.apply db).ledger = db.ledger ∨
          ∃ r, W.ledger.inserted = [r] ∧ r.transactionEventId = ev.id ∧ (W.apply db).ledger = db.ledger ++ [r]) := by
  cases h with
  | replay _ _ _ => exact .inl ⟨by simp, by simp⟩
  | cached _ _ _ _ => exact .inl ⟨by simp, by simp⟩
  | refused _ _ => exact .inl ⟨by simp, by simp⟩
  | duplicate _ _ _ _ _ => exact .inl ⟨by simp, by simp⟩
  | @failed rec a orig ev x _ _ _ t t' _ _ _ hc _ _ =>
      have same : ev.currency = request.currency := by rw [hc.row]; rfl
      exact .inr ⟨withStatus ev .failed t, same, hc.noLedger, hc.fresh, Added.append (by simp), .inl (by simp)⟩
  | @applied rec a orig ev amount balance i i₁ i₂ i₃ i₄ t t' _ hl hr hc hx _ hn =>
      have same : ev.currency = request.currency := by rw [hc.row]; rfl
      refine .inr ⟨withStatus ev .completed t, same, hc.noLedger, hc.fresh, ?_, .inr ⟨_, rfl, rfl, by simp⟩⟩
      cases hr with
      | none _ => exact Added.append (by simp [appliedEvents])
      | @some y o hty _ ho =>
          have hcc : ev.eventType = .cancel := by rw [hc.row]; exact hty
          exact Added.cancel (t := t) hv (event_mem ho) (ledgerAmount_cancel hx hcc).2.1 (by simp [appliedEvents])

/-- **A commit keeps the currency** unless it posts a request in another one. -/
theorem PostedIn.commit (h : PostedIn currency db) (hv : db.Valid)
    (hc : Committed st opts w hit init db key request W reply)
    (hcur : W.ledger.inserted ≠ [] → request.currency = currency) : PostedIn currency (W.apply db) := by
  rcases hc.adds hv with ⟨events, ledger⟩ | ⟨ev, same, noLedger, fresh, added, ledger⟩
  · intro e he posted
    rw [events] at he
    rw [Db.InLedger, ledger] at posted
    exact h e he posted
  · intro e' he' posted
    obtain ⟨r, hr, hid⟩ := posted
    rcases ledger with ledger | ⟨new, inserted, newId, ledger⟩
    · rw [ledger] at hr
      rcases added.only e' he' with rfl | ⟨e, he, step⟩
      · exact absurd hid (noLedger r hr)
      · rw [step.currency_eq]
        exact h e he ⟨r, hr, hid.trans step.id_eq⟩
    · have posts : request.currency = currency := hcur (by simp [inserted])
      rcases added.only e' he' with rfl | ⟨e, he, step⟩
      · exact same.trans posts
      · rw [step.currency_eq]
        rw [ledger] at hr
        rcases List.mem_append.mp hr with hr | hr
        · exact h e he ⟨r, hr, hid.trans step.id_eq⟩
        · -- the new entry is that of the new event
          rw [List.mem_singleton.mp hr, newId, step.id_eq] at hid
          exact absurd hid.symm (fresh e he)

end Commits

/-! ## Whole runs -/

section Runs

variable {st : Settings} {calls : List Call} {sh : Shared} {c : Config}

/-- **A balance is in one currency**, as long as no step posts a request in another one. -/
theorem balances_in_one_currency (h₀ : Initial sh) (hp : PostedIn reportedCurrency sh.db)
    (h : Reaches (fun c label => postsForeign c label = false) (start st sh calls) c) : InOneCurrency c.shared.db := by
  suffices hposted : PostedIn reportedCurrency c.shared.db from hposted.inOneCurrency
  induction h with
  | refl => exact hp
  | @step c c' label h hok hs ih =>
      have hany : Reaches (permits everything) (start st sh calls) c := h.mono fun c label _ => permits_everything c label
      have hinv := hany.inv rfl h₀ (Admits.any rfl rfl)
      rcases step_tables hinv (permits_everything c label) hs with
        ⟨-, events, ledger, -⟩ | ⟨i, l, reply, k, rfl, ht, howed, hsh⟩
      · intro e he posted
        rw [events] at he
        rw [Db.InLedger, ledger] at posted
        exact ih e he posted
      · rw [hsh]
        refine ih.commit hinv.coh.valid howed.shape ?_
        intro posts
        rw [postsForeign, atCommit_eq _ ht] at hok
        simpa [posts] using hok

end Runs

theorem balances_in_one_currency_deposit :
    let c := Sample.run [Sample.plainCall "key-1" Sample.deposit] (List.replicate 21 (.run 0))
    c.shared.db.ledger.map LedgerEntry.amount = [500] ∧ InOneCurrency c.shared.db := by
  have hsteps : everyStep (fun c label => !postsForeign c label)
      (start Sample.settings Sample.shared [Sample.plainCall "key-1" Sample.deposit]) (List.replicate 21 (.run 0))
        = true := by
    decide +kernel
  have domestic : ∀ c label, (!postsForeign c label) = true → postsForeign c label = false := by
    intro c label hok
    simpa using hok
  have hreach := (Reaches.followed_of _ hsteps).mono domestic
  have hp : PostedIn reportedCurrency Sample.shared.db := by simp [PostedIn, Sample.shared, Sample.db]
  exact ⟨by decide +kernel, balances_in_one_currency Sample.initial hp hreach⟩

namespace Sample

/-- A deposit of dollars on the same account. -/
def dollars : TransactionEventCreateRequest :=
  { deposit with
    externalEventId := "evt-3"
    currency := "USD"
    externalEventId_length := by decide
    currency_length := by decide }

def dollarSettings : Settings where
  sha256 bytes :=
    if bytes = canonicalizePayload dollars.modelDump then
      "803d2f160fbb23da8c8edb4651638267e709e3b55e07546133f43f547de7cee7"
    else sha256 bytes

def dollarCalls : List Call := [plainCall "key-1" deposit, plainCall "key-2" dollars]

/-- The two deposits one after the other. -/
def mixed : Config :=
  (follow (start dollarSettings shared dollarCalls) (List.replicate 21 (.run 0) ++ List.replicate 21 (.run 1))).getD
    (start dollarSettings shared dollarCalls)

end Sample

/-- 500 won and 500 dollars are added to one balance, reported in won. -/
theorem currencies_meet :
    Initial Sample.shared ∧ PostedIn reportedCurrency Sample.shared.db ∧
      Reaches anyStep (start Sample.dollarSettings Sample.shared Sample.dollarCalls) Sample.mixed ∧
      ¬InOneCurrency Sample.mixed.shared.db := by
  have hp : PostedIn reportedCurrency Sample.shared.db := by simp [PostedIn, Sample.shared, Sample.db]
  refine ⟨Sample.initial, hp, Reaches.followed _ fun _ _ _ => trivial, ?_⟩
  intro h
  have hfound : Sample.mixed.shared.db.accountByNo "ACC-1" = some ⟨1, "ACC-1", 2000, "ACTIVE"⟩ ∧
      ∃ e ∈ Sample.mixed.shared.db.events, e.accountId = 1 ∧
        (∃ r ∈ Sample.mixed.shared.db.ledger, r.transactionEventId = e.id) ∧ e.currency = "USD" := by decide +kernel
  obtain ⟨haccount, e, he, howner, hposted, hdollars⟩ := hfound
  have hreport : Api.getAccountBalance Sample.mixed.shared.db "ACC-1" =
      .ok { accountNo := Api.maskAccountNo "ACC-1", balance := 2000 } := by simp only [Api.getAccountBalance, haccount]
  have hwon := h "ACC-1" _ _ haccount hreport e he howner hposted
  rw [hdollars] at hwon
  exact absurd hwon (by decide)

end EventConsistency
