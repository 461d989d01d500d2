import EventConsistency.Bank
import EventConsistency.Serial

/-!
# The service is the bank

* `bankOf db` : the bank that a database stands for;
* `Heeds.serve` : what heeds the verdict on a database is what the bank does;
* `Paired.bankOf_eq` : databases that are the same up to ids and timestamps stand for the same bank;
* **`bank_refinement`** : whatever calls have committed among each other, the bank has served them in some order, with
  the same answers and the same balances, bookings and remembered answers in the end.
-/

namespace EventConsistency

open Lib TransactionEventService

/-! ## The bank of a database -/

/-- The balance that a body names. -/
def balanceOf (body : List (String × Json)) : Option Int :=
  match body.lookup "balance_after" with
  | some (.int n) => some n
  | _ => none

def receiptOf (reply : TransactionProcessingResult) : Receipt := ⟨reply.statusCode, balanceOf reply.body, reply.duplicated⟩

/-- What a record is replayed as. -/
def replayOf (r : IdempotencyRecord) : Option Receipt :=
  match r.status with
  | .processing => some (receiptOf alreadyProcessingResult)
  | .completed => (replayResult r.responseCode r.responseBody 200).toOption.map receiptOf
  | .failed => (replayResult r.responseCode r.responseBody 422).toOption.map receiptOf

def bookingOf (db : Db) (e : TransactionEvent) : Booking where
  account := e.accountId
  eventType := e.eventType
  amount := e.amount
  currency := e.currency
  occurredAt := e.occurredAt
  status := e.status
  balanceAfter := (db.ledgerByEventId e.id).map LedgerEntry.balanceAfter

def bankOf (db : Db) : Bank where
  holder no := (db.accountByNo no).map Account.id
  balance i := ((db.accounts.find? fun a => a.id == i).map Account.balance).getD 0
  quarantined i := (db.activeQuarantine "ACCOUNT" (toString i)).isSome
  booking x := (db.eventByExternalId x).map (bookingOf db)
  answered key := (db.recordByKey key).map fun r => (r.requestHash, replayOf r)

/-- A call as the bank meets it. -/
def Call.instruction (st : Settings) (call : Call) : Instruction where
  key := call.key
  hash := requestHash st call.request
  request := call.request
  guarded := call.wiring.quarantineService

section Refinement

variable {st : Settings} {w : Wiring} {db : Db} {key : String} {request : TransactionEventCreateRequest} {W : Overlay}
  {reply : TransactionProcessingResult} {a : Account}

/-! ## Answers -/

theorem replayOf_eq {r : IdempotencyRecord} (h : Replayed r reply) : replayOf r = some (receiptOf reply) := by
  unfold Replayed at h
  unfold replayOf
  cases hs : r.status with
  | processing =>
      rw [hs] at h
      rw [h]
  | completed =>
      rw [hs] at h
      rw [h]
      rfl
  | failed =>
      rw [hs] at h
      rw [h]
      rfl

theorem codeOr_statusCode (x : Exc) : codeOr (some (statusCodeForException x)) 422 = statusCodeForException x := by
  cases x <;> rfl

theorem replayOf_failed (rec : IdempotencyRecord) (x : Exc) (t : Time) :
    replayOf (failedRecord rec x t) = some ⟨statusCodeForException x, none, true⟩ := by
  show some (receiptOf ⟨codeOr (some (statusCodeForException x)) 422, errorBody x, false, true⟩) = _
  rw [codeOr_statusCode]
  rfl

/-! ## Amounts -/

/-- The original as the bank keeps it. -/
def originalBooking (db : Db) (orig : Option TransactionEvent) : Option (String × Booking) :=
  orig.map fun o => (o.externalEventId, bookingOf db o)

theorem externalEventId_of_found {x : String} {e : TransactionEvent} (h : db.eventByExternalId x = some e) :
    e.externalEventId = x := by
  simpa using List.find?_some h

theorem original_eq (request : TransactionEventCreateRequest) :
    (bankOf db).original request =
      ((originalOf db request).map (originalBooking db)).mapError statusCodeForException := by
  unfold Bank.original originalOf
  by_cases hcancel : request.eventType ≠ .cancel
  · rw [if_pos hcancel, if_pos hcancel]
    rfl
  · rw [if_neg hcancel, if_neg hcancel]
    cases request.originalExternalEventId with
    | none => rfl
    | some x =>
        cases hx : db.eventByExternalId x with
        | none =>
            simp only [bankOf, hx, Option.map_none]
            rfl
        | some o =>
            simp only [bankOf, hx, Option.map_some]
            rw [← externalEventId_of_found hx]
            rfl

/-- The checks of a CANCEL. -/
theorem change_cancel {ev o : TransactionEvent} (db : Db) (hev : ev.accountId = a.id ∧ ev.amount = request.amount ∧
    ev.currency = request.currency) (hcancel : request.eventType = .cancel) :
    Bank.change a.id request (originalBooking db (some o)) =
      ((LedgerService.validateCancelOriginal ev o).map fun _ => -(bookingOf db o).added).mapError
        statusCodeForException := by
  obtain ⟨hacc, hamount, hcurrency⟩ := hev
  unfold Bank.change LedgerService.validateCancelOriginal originalBooking
  rw [hcancel, hacc, hamount, hcurrency]
  dsimp only [Option.map_some, bookingOf]
  by_cases htype : o.eventType = .cancel
  · have hkind : o.eventType ≠ .deposit ∧ o.eventType ≠ .withdraw := by simp [htype]
    rw [if_pos htype, if_pos hkind]
    rfl
  have hkind : ¬ (o.eventType ≠ .deposit ∧ o.eventType ≠ .withdraw) := by
    cases ho : o.eventType with
    | deposit => simp
    | withdraw => simp
    | cancel => exact absurd ho htype
  rw [if_neg htype, if_neg hkind]
  by_cases hsettled : o.status = .settled
  · rw [if_pos (Or.inl hsettled), if_pos hsettled]
    rfl
  rw [if_neg hsettled]
  by_cases hcancelled : o.status = .cancelled
  · rw [if_pos (Or.inr hcancelled), if_pos hcancelled]
    rfl
  rw [if_neg (by simp [hsettled, hcancelled]), if_neg hcancelled]
  by_cases hcompleted : o.status = .completed
  · rw [if_neg (not_not_intro hcompleted)]
    by_cases ho : o.accountId = a.id ∧ o.amount = request.amount ∧ o.currency = request.currency
    · rw [if_pos ⟨hcompleted, ho⟩, if_neg (not_not_intro ho.1), if_neg (not_not_intro ho.2.1),
        if_neg (not_not_intro ho.2.2)]
      rfl
    · rw [if_neg (fun h => ho h.2)]
      by_cases haccount : o.accountId ≠ a.id
      · rw [if_pos haccount]
        rfl
      rw [if_neg haccount]
      by_cases hvalue : o.amount ≠ request.amount
      · rw [if_pos hvalue]
        rfl
      have hother : o.currency ≠ request.currency := fun h => ho ⟨not_not.mp haccount, not_not.mp hvalue, h⟩
      rw [if_neg hvalue, if_pos hother]
      rfl
  · rw [if_neg (fun h => hcompleted h.1), if_pos hcompleted]
    rfl

/-- What `apply_event` adds, before it looks at the balance. -/
def amountOf (ev : TransactionEvent) (orig : Option TransactionEvent) : Except Exc Int :=
  match LedgerService.originalEventType ev orig with
  | .error x => .error x
  | .ok originalType => calculateLedgerAmount ev.eventType ev.amount originalType

theorem ledgerAmount_eq (account : Account) (ev : TransactionEvent) (orig : Option TransactionEvent) :
    LedgerService.ledgerAmount account ev orig = (amountOf ev orig).bind fun amount =>
      if account.balance + amount < 0 then .error .insufficientBalance else .ok (amount, account.balance + amount) := by
  unfold LedgerService.ledgerAmount amountOf
  cases LedgerService.originalEventType ev orig with
  | error x => rfl
  | ok originalType =>
      dsimp only
      cases calculateLedgerAmount ev.eventType ev.amount originalType with
      | error x => rfl
      | ok amount => rfl

/-- **The service adds to an account what the bank does**, or refuses with the same code. -/
theorem change_eq (k : String) (orig : Option TransactionEvent) :
    Bank.change a.id request (originalBooking db orig) =
      (amountOf (receivedEvent k request a 0 0) orig).mapError statusCodeForException := by
  have hpos : ¬ request.amount ≤ 0 := not_le.mpr request.amount_pos
  have hev : (receivedEvent k request a 0 0).accountId = a.id ∧
      (receivedEvent k request a 0 0).amount = request.amount ∧
      (receivedEvent k request a 0 0).currency = request.currency := ⟨rfl, rfl, rfl⟩
  have hkind : (receivedEvent k request a 0 0).eventType = request.eventType := rfl
  generalize receivedEvent k request a 0 0 = ev at hev hkind ⊢
  unfold amountOf LedgerService.originalEventType
  rw [hkind, hev.2.1]
  cases htype : request.eventType with
  | deposit =>
      unfold Bank.change calculateLedgerAmount
      rw [htype]
      dsimp only
      rw [if_neg hpos]
      rfl
  | withdraw =>
      unfold Bank.change calculateLedgerAmount
      rw [htype]
      dsimp only
      rw [if_neg hpos]
      rfl
  | cancel =>
      cases orig with
      | none =>
          unfold Bank.change
          rw [htype]
          rfl
      | some o =>
          rw [change_cancel db hev htype]
          dsimp only
          cases hv : LedgerService.validateCancelOriginal ev o with
          | error x => rfl
          | ok u =>
              obtain ⟨horiginal, _, _, hvalue, _⟩ := validateCancelOriginal_ok hv
              rw [hev.2.1] at hvalue
              unfold bookingOf Booking.added calculateLedgerAmount
              dsimp only
              rw [if_neg hpos, hvalue]
              rcases horiginal with ho | ho
              · rw [ho]
                rfl
              · rw [ho]
                exact congrArg Except.ok (neg_neg _)

/-! ## Changes of the tables -/

/-- The record of a new key. -/
theorem bankOf_remember {o : Instruction} {r : IdempotencyRecord} {receipt : Receipt}
    (absent : db.recordByKey o.key = none) (hkey : r.idempotencyKey = o.key) (hhash : r.requestHash = o.hash)
    (hreplay : replayOf r = some { receipt with duplicated := true }) (hs : List EventStateHistory) :
    bankOf { db with records := db.records ++ [r], histories := hs } = (bankOf db).remember o receipt := by
  have hanswered : (bankOf { db with records := db.records ++ [r], histories := hs }).answered =
      ((bankOf db).remember o receipt).answered := by
    funext k
    show ((db.records ++ [r]).find? fun s => s.idempotencyKey == k).map (fun s => (s.requestHash, replayOf s)) =
      Function.update (bankOf db).answered o.key (some (o.hash, some { receipt with duplicated := true })) k
    unfold Function.update
    rw [List.find?_append]
    by_cases hk : k = o.key
    · subst hk
      have hnone : db.records.find? (fun s => s.idempotencyKey == o.key) = none := absent
      simp [hnone, hkey, hhash, hreplay]
    · have hne : (r.idempotencyKey == k) = false := by simpa [hkey] using Ne.symm hk
      simp [hk, hne, bankOf, Db.recordByKey]
  exact congrArg (fun answered => { bankOf db with answered := answered }) hanswered

/-- An event under a new external id. -/
theorem bankOf_book {ev : TransactionEvent} (absent : db.eventByExternalId ev.externalEventId = none) :
    bankOf { db with events := db.events ++ [ev] } = (bankOf db).book ev.externalEventId (bookingOf db ev) := by
  have hbooking : (bankOf { db with events := db.events ++ [ev] }).booking =
      ((bankOf db).book ev.externalEventId (bookingOf db ev)).booking := by
    funext x
    show ((db.events ++ [ev]).find? fun e => e.externalEventId == x).map (bookingOf db) =
      Function.update (bankOf db).booking ev.externalEventId (some (bookingOf db ev)) x
    unfold Function.update
    rw [List.find?_append]
    by_cases hx : x = ev.externalEventId
    · subst hx
      have hnone : db.events.find? (fun e => e.externalEventId == ev.externalEventId) = none := absent
      simp [hnone]
    · have hne : (ev.externalEventId == x) = false := by simpa using Ne.symm hx
      simp [hx, hne, bankOf, Db.eventByExternalId]
  exact congrArg (fun booking => { bankOf db with booking := booking }) hbooking

/-- An entry of an event that is not there yet. -/
theorem bankOf_ledger {r : LedgerEntry} (fresh : r.transactionEventId ∉ db.eventIds) :
    bankOf { db with ledger := db.ledger ++ [r] } = bankOf db := by
  have hbooking : (bankOf { db with ledger := db.ledger ++ [r] }).booking = (bankOf db).booking := by
    funext x
    show (db.eventByExternalId x).map (bookingOf { db with ledger := db.ledger ++ [r] }) =
      (db.eventByExternalId x).map (bookingOf db)
    cases hx : db.eventByExternalId x with
    | none => rfl
    | some e =>
        have hmem : e.id ∈ db.eventIds := List.mem_map_of_mem (List.mem_of_find?_eq_some hx)
        have hne : (r.transactionEventId == e.id) = false := by
          rw [beq_eq_false_iff_ne]
          intro h
          exact fresh (h ▸ hmem)
        simp [bookingOf, Db.ledgerByEventId, List.find?_append, hne]
  exact congrArg (fun booking => { bankOf db with booking := booking }) hbooking

/-- The original of a CANCEL. -/
theorem bankOf_retire (valid : db.Valid) {o : TransactionEvent} {t : Time} (hmem : o ∈ db.events) :
    bankOf { db with events := Delta.replace (withStatus o .cancelled t) db.events } =
      (bankOf db).retire (originalBooking db (some o)) := by
  have hsame : ∀ e ∈ db.events, e.id = o.id → e = o := fun e he hid =>
    List.inj_on_of_nodup_map valid.event_id he hmem hid
  have hbooking : (bankOf { db with events := Delta.replace (withStatus o .cancelled t) db.events }).booking =
      ((bankOf db).retire (originalBooking db (some o))).booking := by
    funext x
    show ((Delta.replace (withStatus o .cancelled t) db.events).find? fun e => e.externalEventId == x).map
        (bookingOf db) = Function.update (bankOf db).booking o.externalEventId
          (some { bookingOf db o with status := .cancelled }) x
    rw [Delta.find?_replace fun e he hid => by rw [hsame e he hid]; rfl]
    unfold Function.update
    by_cases hx : x = o.externalEventId
    · subst hx
      rw [(find?_eq_some_iff valid.event_external).mpr ⟨hmem, rfl⟩]
      simp [bookingOf, withStatus]
    · rw [dif_neg hx]
      show _ = (db.events.find? fun e => e.externalEventId == x).map (bookingOf db)
      cases hfind : db.events.find? fun e => e.externalEventId == x with
      | none => rfl
      | some e =>
          obtain ⟨he, hex⟩ := (find?_eq_some_iff valid.event_external).mp hfind
          have hne : Row.rowId e ≠ Row.rowId (withStatus o .cancelled t) := by
            intro hid
            exact hx (by rw [← hex, hsame e he hid])
          rw [Option.map_some, if_neg hne]
  exact congrArg (fun booking => { bankOf db with booking := booking }) hbooking

theorem balance_of_mem (distinct : (db.accounts.map Account.id).Nodup) (ha : a ∈ db.accounts) : (bankOf db).balance a.id = a.balance := by
  show ((db.accounts.find? fun b => b.id == a.id).map Account.balance).getD 0 = a.balance
  rw [(find?_eq_some_iff distinct).mpr ⟨ha, rfl⟩]
  rfl

/-- The balance of an account. -/
theorem bankOf_credit (distinct : (db.accounts.map Account.id).Nodup) (ha : a ∈ db.accounts) (amount : Int) :
    bankOf { db with accounts := Delta.replace { a with balance := a.balance + amount } db.accounts } =
      (bankOf db).credit a.id amount := by
  have hsame : ∀ b ∈ db.accounts, b.id = a.id → b = a := fun b hb hid =>
    List.inj_on_of_nodup_map distinct hb ha hid
  have hbalance : (bankOf { db with
      accounts := Delta.replace { a with balance := a.balance + amount } db.accounts }).balance =
      ((bankOf db).credit a.id amount).balance := by
    have hcurrent : (bankOf db).balance a.id = a.balance := balance_of_mem distinct ha
    funext i
    show (((Delta.replace { a with balance := a.balance + amount } db.accounts).find? fun b => b.id == i).map
        Account.balance).getD 0 =
      Function.update (bankOf db).balance a.id ((bankOf db).balance a.id + amount) i
    rw [Delta.find?_replace fun b hb hid => by rw [hsame b hb hid], hcurrent]
    unfold Function.update
    by_cases hi : i = a.id
    · subst hi
      rw [(find?_eq_some_iff distinct).mpr ⟨ha, rfl⟩]
      simp
    · rw [dif_neg hi]
      show _ = ((db.accounts.find? fun b => b.id == i).map Account.balance).getD 0
      cases hfind : db.accounts.find? fun b => b.id == i with
      | none => rfl
      | some b =>
          obtain ⟨_, hbi⟩ := (find?_eq_some_iff distinct).mp hfind
          have hne : Row.rowId b ≠ Row.rowId { a with balance := a.balance + amount } := by
            rw [rowId_account, hbi]
            exact hi
          rw [Option.map_some, if_neg hne]
  have hholder : (bankOf { db with
      accounts := Delta.replace { a with balance := a.balance + amount } db.accounts }).holder =
      (bankOf db).holder := by
    funext no
    show ((Delta.replace { a with balance := a.balance + amount } db.accounts).find? fun b => b.accountNo == no).map
      Account.id = (db.accounts.find? fun b => b.accountNo == no).map Account.id
    rw [Delta.find?_replace fun b hb hid => by rw [hsame b hb hid], Option.map_map]
    congr 1
    funext b
    dsimp only [Function.comp]
    split
    · rename_i hid
      exact hid.symm
    · rfl
  exact congrArg₂ (fun holder balance => { bankOf db with holder := holder, balance := balance }) hholder hbalance

theorem ledgerByEventId_fresh (valid : db.Valid) {i : Nat} (fresh : i ∉ db.eventIds) : db.ledgerByEventId i = none := by
  refine List.find?_eq_none.mpr ?_
  intro r hr heq
  obtain ⟨e, he, hid⟩ := valid.ledger_fk r hr
  have hi : r.transactionEventId = i := by simpa using heq
  exact fresh (hi ▸ hid ▸ List.mem_map_of_mem he)

/-! ## One request -/

/-- The call has a verdict on the database, and the bank of the database does the same. -/
def Serves (db : Db) (o : Instruction) (W : Overlay) (reply : TransactionProcessingResult) : Prop :=
  (bankOf db).serve datetimesMatch o = some (receiptOf reply, bankOf (W.apply db))

/-- A refusal that only answers the key. -/
theorem refuse_eq {rec : IdempotencyRecord} {x : Exc} {t : Time} {o : Instruction}
    (absent : db.recordByKey o.key = none) (hkey : rec.idempotencyKey = o.key) (hhash : rec.requestHash = o.hash) :
    (bankOf db).refuse o (statusCodeForException x) =
      (receiptOf (failureResult x), bankOf ((refusedWork (failedRecord rec x t)).apply db)) := by
  rw [refusedWork_apply]
  exact congrArg (Prod.mk _)
    (bankOf_remember (r := failedRecord rec x t) absent hkey hhash (replayOf_failed rec x t) db.histories).symm

/-- A refusal that books its event as FAILED. -/
theorem fail_eq {rec : IdempotencyRecord} {x : Exc} {t t' : Time} {i₁ i₂ i₃ : Nat} {ev : TransactionEvent}
    {o : Instruction} (valid : db.Valid) (fresh : ev.id ∉ db.eventIds)
    (unbooked : db.eventByExternalId o.request.externalEventId = none)
    (absent : db.recordByKey o.key = none) (hkey : rec.idempotencyKey = o.key) (hhash : rec.requestHash = o.hash)
    (row : ev = receivedEvent key o.request a ev.id t) :
    ((bankOf db).book o.request.externalEventId (Bank.booked o a.id .failed none)).refuse o (statusCodeForException x) =
      (receiptOf (failureResult x),
        bankOf ((eventWork (failedRecord rec x t') (withStatus ev .failed t) (failedHistories ev x i₁ i₂ i₃ t)).apply
          db)) := by
  have hname : (withStatus ev .failed t).externalEventId = o.request.externalEventId := by
    rw [row]
    rfl
  have hbooking : bookingOf db (withStatus ev .failed t) = Bank.booked o a.id .failed none := by
    unfold bookingOf
    rw [show (withStatus ev .failed t).id = ev.id from rfl, ledgerByEventId_fresh valid fresh, row]
    rfl
  have hbook : bankOf { db with events := db.events ++ [withStatus ev .failed t] } =
      (bankOf db).book o.request.externalEventId (Bank.booked o a.id .failed none) := by
    rw [bankOf_book (hname ▸ unbooked), hname, hbooking]
  have habsent : Db.recordByKey { db with events := db.events ++ [withStatus ev .failed t] } o.key = none := absent
  rw [eventWork_apply, ← hbook]
  exact congrArg (Prod.mk _)
    (bankOf_remember (r := failedRecord rec x t') habsent hkey hhash (replayOf_failed rec x t') _).symm

theorem ensureDuplicateMatchesRequest_code {e : TransactionEvent} {i : Nat} {x : Exc}
    (h : ensureDuplicateMatchesRequest e request i = .error x) : statusCodeForException x = 422 := by
  unfold ensureDuplicateMatchesRequest at h
  split_ifs at h <;> cases h <;> rfl

theorem originalOf_mem {orig : Option TransactionEvent} {e : TransactionEvent}
    (h : originalOf db request = .ok orig) (he : e ∈ orig) : e ∈ db.events := by
  unfold originalOf at h
  split at h
  · cases h
    cases he
  · split at h
    · cases h
    · split at h
      · cases h
      · rename_i found
        cases h
        cases he
        exact List.mem_of_find?_eq_some found

theorem fresh_of_nodup {events : List TransactionEvent} {e : TransactionEvent}
    (h : ((events ++ [e]).map TransactionEvent.id).Nodup) : e.id ∉ events.map TransactionEvent.id := by
  rw [List.map_append] at h
  intro hmem
  exact List.disjoint_of_nodup_append h hmem List.mem_cons_self

/-- The events before that of an applied request. -/
theorem appliedEvents_kept (valid : db.Valid) {orig : Option TransactionEvent} (horig : ∀ e ∈ orig, e ∈ db.events)
    (t : Time) {x : String} (unbooked : db.eventByExternalId x = none) :
    ∃ kept, (∀ ev, appliedEvents orig t ev db.events = kept ++ [ev]) ∧
      bankOf { db with events := kept } = (bankOf db).retire (originalBooking db orig) ∧
      kept.map TransactionEvent.id = db.eventIds ∧ Db.eventByExternalId { db with events := kept } x = none := by
  cases orig with
  | none => exact ⟨db.events, fun _ => rfl, rfl, rfl, unbooked⟩
  | some e =>
      have hmem : e ∈ db.events := horig e rfl
      refine ⟨Delta.replace (withStatus e .cancelled t) db.events, fun _ => rfl, bankOf_retire valid hmem,
        Delta.map_rowId_replace (withStatus e .cancelled t) db.events, ?_⟩
      refine (Delta.find?_replace ?_).trans (congrArg (Option.map _) unbooked)
      intro e' he' hid
      rw [List.inj_on_of_nodup_map valid.event_id he' hmem hid]
      rfl

/-- An applied request. -/
theorem applied_eq {rec : IdempotencyRecord} {orig : Option TransactionEvent} {t t' : Time} {i i₁ i₂ i₃ i₄ : Nat}
    {ev : TransactionEvent} {o : Instruction} {amount : Int} (valid : db.Valid) (ha : a ∈ db.accounts)
    (horig : ∀ e ∈ orig, e ∈ db.events) (fresh : ev.id ∉ db.eventIds)
    (unbooked : db.eventByExternalId o.request.externalEventId = none)
    (absent : db.recordByKey o.key = none) (hkey : rec.idempotencyKey = o.key) (hhash : rec.requestHash = o.hash)
    (row : ev = receivedEvent key o.request a ev.id t) :
    ((((bankOf db).retire (originalBooking db orig)).book o.request.externalEventId
        (Bank.booked o a.id .completed (some (a.balance + amount)))).credit a.id amount).remember o
        ⟨200, some (a.balance + amount), false⟩ =
      bankOf ((appliedWork (completedRecord rec (successResult (withStatus ev .completed t)
            (ledgerRow i ev a amount (a.balance + amount) t) true false) t')
          (withStatus ev .completed t) (cancelledRows orig t) (appliedHistories ev orig i₁ i₂ i₃ i₄ t)
          { a with balance := a.balance + amount } (ledgerRow i ev a amount (a.balance + amount) t)).apply db) := by
  obtain ⟨kept, hkept, hretired, hids, hunbooked⟩ := appliedEvents_kept valid horig t unbooked
  rw [appliedWork_apply, hkept]
  have hfresh : (ledgerRow i ev a amount (a.balance + amount) t).transactionEventId ∉
      Db.eventIds { db with events := kept } := by
    show ev.id ∉ kept.map TransactionEvent.id
    rw [hids]
    exact fresh
  have hname : (withStatus ev .completed t).externalEventId = o.request.externalEventId := by
    rw [row]
    rfl
  have hbooking : bookingOf { db with
      events := kept, ledger := db.ledger ++ [ledgerRow i ev a amount (a.balance + amount) t] }
      (withStatus ev .completed t) = Bank.booked o a.id .completed (some (a.balance + amount)) := by
    have hfound : Db.ledgerByEventId { db with
        events := kept, ledger := db.ledger ++ [ledgerRow i ev a amount (a.balance + amount) t] } ev.id =
        some (ledgerRow i ev a amount (a.balance + amount) t) := by
      have hnone : db.ledger.find? (fun l => l.transactionEventId == ev.id) = none := ledgerByEventId_fresh valid fresh
      show (db.ledger ++ [_]).find? _ = _
      rw [List.find?_append, hnone]
      simp [ledgerRow]
    unfold bookingOf
    rw [show (withStatus ev .completed t).id = ev.id from rfl, hfound, row]
    rfl
  have hbooked : bankOf { db with
      events := kept ++ [withStatus ev .completed t]
      ledger := db.ledger ++ [ledgerRow i ev a amount (a.balance + amount) t] } =
      ((bankOf db).retire (originalBooking db orig)).book o.request.externalEventId
        (Bank.booked o a.id .completed (some (a.balance + amount))) := by
    have habsent : Db.eventByExternalId { db with
        events := kept, ledger := db.ledger ++ [ledgerRow i ev a amount (a.balance + amount) t] }
        (withStatus ev .completed t).externalEventId = none := hname ▸ hunbooked
    refine (bankOf_book habsent).trans ?_
    rw [hname, hbooking, ← hretired]
    exact congrArg (fun b => Bank.book b _ _) (bankOf_ledger hfresh)
  have hcredited : bankOf { db with
      accounts := Delta.replace { a with balance := a.balance + amount } db.accounts
      events := kept ++ [withStatus ev .completed t]
      ledger := db.ledger ++ [ledgerRow i ev a amount (a.balance + amount) t] } =
      (bankOf { db with
        events := kept ++ [withStatus ev .completed t]
        ledger := db.ledger ++ [ledgerRow i ev a amount (a.balance + amount) t] }).credit a.id amount := by
    have hdistinct : ((Db.accounts { db with
        events := kept ++ [withStatus ev .completed t]
        ledger := db.ledger ++ [ledgerRow i ev a amount (a.balance + amount) t] }).map Account.id).Nodup :=
      valid.account_id
    exact bankOf_credit hdistinct ha amount
  have habsent : Db.recordByKey { db with
      accounts := Delta.replace { a with balance := a.balance + amount } db.accounts
      events := kept ++ [withStatus ev .completed t]
      ledger := db.ledger ++ [ledgerRow i ev a amount (a.balance + amount) t] } o.key = none := absent
  have hreplay : replayOf (completedRecord rec (successResult (withStatus ev .completed t)
      (ledgerRow i ev a amount (a.balance + amount) t) true false) t') =
      some { (⟨200, some (a.balance + amount), false⟩ : Receipt) with duplicated := true } := rfl
  rw [← hbooked, ← hcredited]
  exact (bankOf_remember (r := completedRecord rec _ t') habsent hkey hhash hreplay _).symm

theorem matching_eq (e : TransactionEvent) (db : Db) :
    Bank.matching datetimesMatch (bookingOf db e) a.id request = true ↔
      ensureDuplicateMatchesRequest e request a.id = .ok () := by
  unfold Bank.matching ensureDuplicateMatchesRequest bookingOf
  simp only [Bool.and_eq_true, beq_iff_eq]
  split_ifs <;> simp_all

/-- A request of a known event. -/
theorem Heeds.revisit_eq {o : Instruction} {e : TransactionEvent} (absent : db.recordByKey o.key = none)
    (hhash : o.hash = requestHash st o.request)
    (h : Heeds st o.key o.request (verdictOnKnown db o.request a e) W reply) :
    (bankOf db).revisit datetimesMatch o a.id (bookingOf db e) = (receiptOf reply, bankOf (W.apply db)) := by
  unfold verdictOnKnown at h
  unfold Bank.revisit
  cases hm : ensureDuplicateMatchesRequest e o.request a.id with
  | error x =>
      have hother : Bank.matching datetimesMatch (bookingOf db e) a.id o.request = false := by
        rw [← Bool.not_eq_true, matching_eq, hm]
        exact fun hx => by cases hx
      have hcode : statusCodeForException x = 422 := ensureDuplicateMatchesRequest_code hm
      rw [hm] at h
      rw [hother]
      cases h with
      | refused new =>
          rw [← hcode]
          exact refuse_eq absent new.key_eq (new.hash_eq.trans hhash.symm)
  | ok u =>
      have hsame : Bank.matching datetimesMatch (bookingOf db e) a.id o.request = true := matching_eq e db |>.mpr hm
      rw [hm] at h
      rw [hsame]
      dsimp only at h
      cases hl : db.ledgerByEventId e.id with
      | none =>
          have hbalance : (bookingOf db e).balanceAfter = none := by simp [bookingOf, hl]
          rw [hl] at h
          rw [hbalance]
          cases h with
          | refused new =>
              exact refuse_eq (x := .invalidTransactionEvent _) absent new.key_eq (new.hash_eq.trans hhash.symm)
      | some r =>
          have hbalance : (bookingOf db e).balanceAfter = some r.balanceAfter := by simp [bookingOf, hl]
          rw [hl] at h
          rw [hbalance]
          cases h with
          | @duplicate rec _ _ t new =>
              rw [refusedWork_apply]
              have hreplay : replayOf (completedRecord rec (successResult e r false true) t) =
                  some { (⟨200, some r.balanceAfter, true⟩ : Receipt) with duplicated := true } := rfl
              exact congrArg (Prod.mk _) (bankOf_remember (r := completedRecord rec _ t) absent new.key_eq
                (new.hash_eq.trans hhash.symm) hreplay db.histories).symm

/-- A request of a new event. -/
theorem Heeds.accept_eq {o : Instruction} (valid : db.Valid) (valid' : (W.apply db).Valid) (ha : a ∈ db.accounts)
    (unbooked : db.eventByExternalId o.request.externalEventId = none) (absent : db.recordByKey o.key = none)
    (hhash : o.hash = requestHash st o.request)
    (h : Heeds st o.key o.request (verdictOnNew db o.key o.request a) W reply) :
    (bankOf db).accept o a.id = (receiptOf reply, bankOf (W.apply db)) := by
  unfold verdictOnNew at h
  replace h := h.fit
  unfold Bank.accept
  rw [original_eq]
  cases horig : originalOf db o.request with
  | error x =>
      rw [horig] at h
      cases h with
      | refused new => exact refuse_eq absent new.key_eq (new.hash_eq.trans hhash.symm)
  | ok orig =>
      have hmem : ∀ e ∈ orig, e ∈ db.events := fun e he => originalOf_mem horig he
      rw [horig] at h
      show (bankOf db).enter o a.id (originalBooking db orig) = _
      replace h := h.fit
      rw [verdictOnLedger, ledgerAmount_eq] at h
      unfold Bank.enter
      rw [change_eq o.key, balance_of_mem valid.account_id ha]
      cases hamount : amountOf (receivedEvent o.key o.request a 0 0) orig with
      | error x =>
          rw [hamount] at h
          cases h with
          | @failed rec _ ev _ i₁ i₂ i₃ t t' new row _ =>
              have fresh : ev.id ∉ db.eventIds := by
                rw [eventWork_apply] at valid'
                exact fresh_of_nodup (e := withStatus ev .failed t) valid'.event_id
              exact fail_eq valid fresh unbooked absent new.key_eq (new.hash_eq.trans hhash.symm) row
      | ok amount =>
          rw [hamount] at h
          show (if a.balance + amount < 0 then _ else _) = _
          dsimp only [bind, Except.bind] at h
          by_cases hshort : a.balance + amount < 0
          · rw [if_pos hshort] at h ⊢
            cases h with
            | @failed rec _ ev _ i₁ i₂ i₃ t t' new row _ =>
                have fresh : ev.id ∉ db.eventIds := by
                  rw [eventWork_apply] at valid'
                  exact fresh_of_nodup (e := withStatus ev .failed t) valid'.event_id
                exact fail_eq (x := .insufficientBalance) valid fresh unbooked absent new.key_eq
                  (new.hash_eq.trans hhash.symm) row
          · rw [if_neg hshort] at h ⊢
            cases h with
            | @applied rec _ _ ev _ _ i i₁ i₂ i₃ i₄ t t' new row _ _ =>
                obtain ⟨kept, hkept, _, hids, _⟩ := appliedEvents_kept valid hmem t unbooked
                have fresh : ev.id ∉ db.eventIds := by
                  rw [appliedWork_apply, hkept] at valid'
                  rw [← hids]
                  exact fresh_of_nodup (e := withStatus ev .completed t) valid'.event_id
                exact congrArg (Prod.mk _)
                  (applied_eq valid ha hmem fresh unbooked absent new.key_eq (new.hash_eq.trans hhash.symm) row)

/-- **What heeds the verdict on a database is what the bank does.** -/
theorem Heeds.serve {o : Instruction} (hkey : o.key = key) (hhash : o.hash = requestHash st request)
    (hrequest : o.request = request) (hguard : o.guarded = w.quarantineService) (valid : db.Valid)
    (valid' : (W.apply db).Valid) (h : Heeds st key request (verdict w db key request) W reply) :
    Serves db o W reply := by
  subst hkey hrequest
  unfold Serves Bank.serve
  unfold verdict at h
  cases hk : db.recordByKey o.key with
  | some r =>
      rw [hk] at h
      cases h with
      | replayed hh hr =>
          rw [Overlay.apply_empty]
          simp [bankOf, hk, hh, hhash, replayOf_eq hr]
  | none =>
      have hanswered : (bankOf db).answered o.key = none := by simp [bankOf, hk]
      rw [hk] at h
      rw [hanswered]
      replace h := h.fit
      dsimp only
      cases ha : db.accountByNo o.request.accountNo with
      | none =>
          have hholder : (bankOf db).holder o.request.accountNo = none := by simp [bankOf, ha]
          rw [ha] at h
          rw [hholder]
          cases h with
          | refused new => exact congrArg some (refuse_eq (x := .accountNotFound) hk new.key_eq (new.hash_eq.trans hhash.symm))
      | some a =>
          have hholder : (bankOf db).holder o.request.accountNo = some a.id := by simp [bankOf, ha]
          rw [ha] at h
          rw [hholder]
          dsimp only at h ⊢
          unfold verdictOn quarantineOf at h
          cases hq : (if w.quarantineService then db.activeQuarantine "ACCOUNT" (toString a.id) else none) with
          | some q =>
              rw [hq] at h
              have hrefused : (o.guarded && (bankOf db).quarantined a.id) = true := by
                rw [hguard]
                cases hw : w.quarantineService <;> simp [hw, bankOf] at hq ⊢
                simp [hq]
              rw [if_pos hrefused]
              cases h with
              | refused new =>
                  exact congrArg some (refuse_eq (x := .targetQuarantined _ _) hk new.key_eq (new.hash_eq.trans hhash.symm))
          | none =>
              rw [hq] at h
              have hallowed : ¬ (o.guarded && (bankOf db).quarantined a.id) = true := by
                rw [hguard]
                cases hw : w.quarantineService <;> simp [hw, bankOf] at hq ⊢
                exact hq
              rw [if_neg hallowed]
              replace h : Heeds st o.key o.request (verdictOnEvent db o.key o.request a) W reply := h
              unfold verdictOnEvent at h
              replace h := h.fit
              cases he : db.eventByExternalId o.request.externalEventId with
              | some e =>
                  have hbooked : (bankOf db).booking o.request.externalEventId = some (bookingOf db e) := by
                    simp [bankOf, he]
                  rw [he] at h
                  rw [hbooked]
                  exact congrArg some (h.fit.revisit_eq hk hhash)
              | none =>
                  have hunbooked : (bankOf db).booking o.request.externalEventId = none := by simp [bankOf, he]
                  rw [he] at h
                  rw [hunbooked]
                  dsimp only at h ⊢
                  exact congrArg some (h.accept_eq valid valid' (List.mem_of_find?_eq_some ha) he hk hhash)

end Refinement

/-! ## Databases that are the same -/

section Same

variable {old : List IdempotencyRecord} {ids ids' : List Nat} {init db db' : Db}

theorem SameBody.balanceOf_eq {body body' : List (String × Json)} (h : SameBody old ids ids' body body') :
    balanceOf body' = balanceOf body := by
  cases h with
  | event _ => rfl
  | plain _ => rfl
  | old _ _ => rfl

theorem SameReply.receiptOf_eq {reply reply' : TransactionProcessingResult} (h : SameReply old ids ids' reply reply') :
    receiptOf reply' = receiptOf reply := by
  unfold receiptOf
  rw [h.body.balanceOf_eq, h.answer]

theorem SameRecord.replayOf_eq {r r' : IdempotencyRecord} (h : SameRecord old ids ids' r r') :
    replayOf r' = replayOf r := by
  obtain ⟨b, b', hb, hb', body⟩ := h.body
  have kept : ∀ default, (replayResult r'.responseCode r'.responseBody default).toOption.map receiptOf =
      (replayResult r.responseCode r.responseBody default).toOption.map receiptOf := by
    intro default
    have hbalance : balanceOf b' = balanceOf b := body.balanceOf_eq
    rw [hb, hb', h.code]
    show some (Receipt.mk _ (balanceOf b') _) = some (Receipt.mk _ (balanceOf b) _)
    rw [hbalance]
  unfold replayOf
  rw [h.status]
  cases r.status with
  | processing => rfl
  | completed => exact kept 200
  | failed => exact kept 422

theorem Paired.bookingOf_eq {ahead : List IdempotencyRecord} (h : Paired init ahead db db') {e e' : TransactionEvent}
    (same : SameEvent e e') (place : Renames db.eventIds db'.eventIds e.id e'.id) :
    bookingOf db' e' = bookingOf db e := by
  have hbalance : (db'.ledgerByEventId e'.id).map LedgerEntry.balanceAfter =
      (db.ledgerByEventId e.id).map LedgerEntry.balanceAfter := by
    obtain ⟨absent, absent'⟩ | ⟨r, r', found, found', ledger⟩ := h.ledgerByEventId place
    · rw [absent, absent']
    · rw [found, found', Option.map_some, Option.map_some, ledger.row]
  unfold bookingOf
  rw [hbalance, same]

/-- **Databases that are the same up to ids and timestamps stand for the same bank.** -/
theorem Paired.bankOf_eq (h : Paired init [] db db') : bankOf db' = bankOf db := by
  have hholder : (bankOf db').holder = (bankOf db).holder := by
    unfold bankOf Db.accountByNo
    rw [h.accounts]
  have hbalance : (bankOf db').balance = (bankOf db).balance := by
    unfold bankOf
    rw [h.accounts]
  have hquarantined : (bankOf db').quarantined = (bankOf db).quarantined := by
    unfold bankOf Db.activeQuarantine
    rw [h.quarantines]
  have hbooking : (bankOf db').booking = (bankOf db).booking := by
    funext x
    show (db'.eventByExternalId x).map (bookingOf db') = (db.eventByExternalId x).map (bookingOf db)
    obtain ⟨absent, absent'⟩ | ⟨e, e', found, found', same, place⟩ := h.eventByExternalId x
    · rw [absent, absent']
      rfl
    · rw [found, found', Option.map_some, Option.map_some, h.bookingOf_eq same place]
  have hanswered : (bankOf db').answered = (bankOf db).answered := by
    funext key
    show (db'.recordByKey key).map (fun r => (r.requestHash, replayOf r)) =
      (db.recordByKey key).map fun r => (r.requestHash, replayOf r)
    have other : ∀ r ∈ ([] : List IdempotencyRecord), r.idempotencyKey ≠ key := fun _ hr => absurd hr List.not_mem_nil
    obtain ⟨absent, absent'⟩ | ⟨r, _, found, found'⟩ | ⟨r, r', found, found', same⟩ := h.recordByKey other
    · rw [absent, absent']
    · rw [found, found']
    · rw [found, found', Option.map_some, Option.map_some, same.replayOf_eq, same.hash]
  have eta : ∀ b : Bank, b = ⟨b.holder, b.balance, b.quarantined, b.booking, b.answered⟩ := fun _ => rfl
  rw [eta (bankOf db'), hholder, hbalance, hquarantined, hbooking, hanswered]

end Same

/-! ## Runs -/

section Run

variable {st : Settings} {sh : Shared} {calls : List Call} {c : Config}

/-- A call alone is one request at the bank. -/
theorem Call.alone_serves (call : Call) (h₀ : Initial sh) (free : sh.locks = [])
    (plain : call.wiring.responseCache = false) {reply : TransactionProcessingResult}
    (answered : (call.alone st (fun _ => false) sh).1 = .ok reply) :
    (bankOf sh.db).serve datetimesMatch (call.instruction st) =
      some (receiptOf reply, bankOf (call.alone st (fun _ => false) sh).2.1.db) := by
  obtain ⟨W, written, heeds⟩ := call.alone_heeds h₀ free plain answered
  have valid' : (W.apply sh.db).Valid := written ▸ (Call.alone_initial h₀ fun _ => false).valid
  have served : Serves sh.db (call.instruction st) W reply := heeds.serve rfl rfl rfl rfl h₀.valid valid'
  rw [written]
  exact served

/-- Calls one after another are requests at the bank. -/
theorem serially_serves (h₀ : Initial sh) (plain : ∀ call ∈ calls, call.wiring.responseCache = false)
    {replies : List TransactionProcessingResult} (answered : (serially st sh calls).1 = replies.map .ok) :
    Initial (serially st sh calls).2.later ∧
      (bankOf sh.db).serveAll datetimesMatch (calls.map (Call.instruction st)) =
        some (replies.map receiptOf, bankOf (serially st sh calls).2.db) := by
  induction calls using List.reverseRecOn generalizing replies with
  | nil =>
      have none : replies = [] := List.map_eq_nil_iff.mp answered.symm
      subst none
      exact ⟨h₀.later, rfl⟩
  | append_singleton calls call ih =>
      rw [serially_append] at answered ⊢
      unfold serialStep at answered ⊢
      obtain ⟨before, last, hreplies, hbefore, hlast⟩ := List.map_eq_append_iff.mp answered.symm
      obtain ⟨reply, hreply, hanswer⟩ : ∃ reply, last = [reply] ∧ Except.ok reply =
          (call.alone st (fun _ => false) (serially st sh calls).2.later).1 := by
        obtain ⟨reply, rest, hcons, hanswer, hnil⟩ := List.map_eq_cons_iff.mp hlast
        rw [List.map_eq_nil_iff] at hnil
        exact ⟨reply, hnil ▸ hcons, hanswer⟩
      obtain ⟨initial, served⟩ := ih (fun y hy => plain y (List.mem_append_left _ hy)) hbefore.symm
      have plain_call := plain call (List.mem_append_right _ List.mem_cons_self)
      refine ⟨(Call.alone_initial initial _).later, ?_⟩
      rw [hreplies, hreply, List.map_append, List.map_append, List.map_singleton, List.map_singleton]
      exact Bank.serveAll_append datetimesMatch served (call.alone_serves initial rfl plain_call hanswer.symm)

/-- The answers of the serial run are those that were given. -/
theorem replies_of {old : List IdempotencyRecord} {ids ids' : List Nat} {order : List Commit}
    {answers : List (Except Exc TransactionProcessingResult)}
    (h : List.Forall₂ (fun x r => ∃ reply, r = .ok reply ∧ SameReply old ids ids' x.reply reply) order answers) :
    ∃ replies : List TransactionProcessingResult, answers = replies.map .ok ∧
      replies.map receiptOf = order.map fun x => receiptOf x.reply := by
  induction h with
  | nil => exact ⟨[], rfl, rfl⟩
  | cons related _ ih =>
      obtain ⟨reply, hr, same⟩ := related
      obtain ⟨replies, hanswers, hreceipts⟩ := ih
      refine ⟨reply :: replies, ?_, ?_⟩
      · rw [hr, hanswers, List.map_cons]
      · rw [List.map_cons, List.map_cons, hreceipts, same.receiptOf_eq]

/-- The calls of a serial run with the same tables and answers are requests at the bank. -/
theorem serves_of_same (h₀ : Initial sh) {db : Db} (valid : db.Valid) {order : List Commit}
    (plain : ∀ x ∈ order, x.wiring.responseCache = false)
    (tables : SameTables sh.db db (serially st sh (order.map Commit.call)).2.db)
    (records : SameRecords sh.db [] db (serially st sh (order.map Commit.call)).2.db)
    (answers : List.Forall₂ (fun x r => ∃ reply, r = .ok reply ∧ SameReply sh.db.records db.eventIds
      (serially st sh (order.map Commit.call)).2.db.eventIds x.reply reply) order
      (serially st sh (order.map Commit.call)).1) :
    (bankOf sh.db).serveAll datetimesMatch (order.map fun x => x.call.instruction st) =
      some (order.map fun x => receiptOf x.reply, bankOf db) := by
  have plain_order : ∀ call ∈ order.map Commit.call, call.wiring.responseCache = false := by
    intro call mem
    obtain ⟨x, hx, rfl⟩ := List.mem_map.mp mem
    exact plain x hx
  obtain ⟨replies, answered, receipts⟩ := replies_of answers
  obtain ⟨initial, served⟩ := serially_serves h₀ plain_order answered
  have paired : Paired sh.db [] db (serially st sh (order.map Commit.call)).2.db :=
    { tables with records := records, start := h₀.valid, valid := valid, valid' := initial.valid }
  rw [receipts, paired.bankOf_eq, List.map_map] at served
  exact served

/-- **The service is a bank that serves one request after the other.** With the plain idempotency service, and as long as
nobody deletes records or changes quarantines: the bank of the tables, given what has committed in some order, answers as
the calls have answered, and is the bank of the tables that they have left. -/
theorem bank_refinement (h₀ : Initial sh) (plain : ∀ call ∈ calls, call.wiring.responseCache = false)
    (h : Reaches (fun _ label => label.deletes = false ∧ label.requarantines = false) (start st sh calls) c) :
    ∃ order : List Commit, order.Perm c.shared.log ∧
      (∀ x ∈ order, calls[x.tid]? = some x.call ∧
        ∀ l reply, c.threads[x.tid]? = some ⟨l, .ret reply⟩ → x.reply = reply) ∧
      (bankOf sh.db).serveAll datetimesMatch (order.map fun x => x.call.instruction st) =
        some (order.map fun x => receiptOf x.reply, bankOf c.shared.db) := by
  obtain ⟨order, perm, told, tables, records, answers⟩ := serializable h₀ plain h
  have reached : Reaches (permits {}) (start st sh calls) c := h.mono fun c label ok => permits_fixed c ok
  have valid : c.shared.db.Valid := (reached.inv rfl h₀ (Admits.any rfl rfl)).coh.valid
  have plain_order : ∀ x ∈ order, x.wiring.responseCache = false := by
    intro x hx
    exact plain _ (List.mem_of_getElem? (told x hx).1)
  exact ⟨order, perm, told, serves_of_same h₀ valid plain_order tables records answers⟩

theorem bank_refinement_overtaken :
    ((bankOf Sample.shared.db).balance 2, (bankOf Sample.missed.shared.db).balance 2) = (0, 500) ∧
    ∃ order : List Commit, order.Perm Sample.missed.shared.log ∧
      (bankOf Sample.shared.db).serveAll datetimesMatch (order.map fun x => x.call.instruction Sample.settings) =
        some (order.map fun x => receiptOf x.reply, bankOf Sample.missed.shared.db) := by
  obtain ⟨order, perm, _, served⟩ := bank_refinement Sample.initial (by simp [Sample.plainCall]) Sample.missed_reached
  exact ⟨by decide +kernel, order, perm, served⟩

end Run

end EventConsistency
