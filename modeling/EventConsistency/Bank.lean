import EventConsistency.Domain
import Mathlib.Logic.Function.Basic

/-!
# What the service is for

A bank without rows, ids, histories and timestamps, that serves one request after the other.

* `Bank` : who holds an account, its balance, what has been booked under an external id, and what has been answered
  under a key;
* `Bank.change` : what a request adds to its account: a CANCEL takes back what its original has added, and only once;
* `Bank.serve` : a key is answered once, an external id is booked once, and no balance becomes negative;
* `Bank.serveAll` : requests one after another.
-/

namespace EventConsistency

/-- A transaction as the bank keeps it, with the balance behind it when it has changed one. -/
structure Booking where
  account : Nat
  eventType : EventType
  amount : Int
  currency : String
  occurredAt : Datetime
  status : TransactionStatus
  balanceAfter : Option Int
  deriving DecidableEq

/-- An answer: its status code, the balance that it names, and whether it repeats an earlier one. -/
structure Receipt where
  code : Nat
  balance : Option Int
  duplicated : Bool
  deriving DecidableEq

/-- A request as the bank meets it. -/
structure Instruction where
  key : String
  hash : String
  request : TransactionEventCreateRequest
  /-- Quarantined accounts are to be refused. -/
  guarded : Bool

structure Bank where
  holder : String → Option Nat
  balance : Nat → Int
  quarantined : Nat → Bool
  booking : String → Option Booking
  /-- The hash of the request that the key was used with, and the answer that it has got, if it has one. -/
  answered : String → Option (String × Option Receipt)

/-- What the booking has added to its account. -/
def Booking.added (p : Booking) : Int :=
  match p.eventType with
  | .deposit => p.amount
  | .withdraw => -p.amount
  | .cancel => 0

namespace Bank

/-- The key is answered once and for all. -/
def remember (b : Bank) (o : Instruction) (receipt : Receipt) : Bank :=
  { b with answered := Function.update b.answered o.key (some (o.hash, some { receipt with duplicated := true })) }

def book (b : Bank) (externalEventId : String) (p : Booking) : Bank :=
  { b with booking := Function.update b.booking externalEventId (some p) }

def credit (b : Bank) (account : Nat) (amount : Int) : Bank :=
  { b with balance := Function.update b.balance account (b.balance account + amount) }

def retire (b : Bank) : Option (String × Booking) → Bank
  | none => b
  | some (externalEventId, p) => b.book externalEventId { p with status := .cancelled }

/-- A refusal that leaves no trace but its answer. -/
def refuse (b : Bank) (o : Instruction) (code : Nat) : Receipt × Bank :=
  let receipt : Receipt := ⟨code, none, false⟩
  (receipt, b.remember o receipt)

/-- The booking of a request. -/
def booked (o : Instruction) (account : Nat) (status : TransactionStatus) (balanceAfter : Option Int) : Booking where
  account := account
  eventType := o.request.eventType
  amount := o.request.amount
  currency := o.request.currency
  occurredAt := o.request.occurredAt
  status := status
  balanceAfter := balanceAfter

/-- The booking that a CANCEL is about. -/
def original (b : Bank) (request : TransactionEventCreateRequest) : Except Nat (Option (String × Booking)) :=
  if request.eventType ≠ .cancel then .ok none
  else match request.originalExternalEventId with
    | none => .error 422
    | some x => match b.booking x with
      | none => .error 404
      | some p => .ok (some (x, p))

/-- What the request adds to its account, or the code that it is refused with. Only a completed deposit or withdrawal of
the same account, amount and currency can be cancelled. -/
def change (account : Nat) (request : TransactionEventCreateRequest) (original : Option (String × Booking)) :
    Except Nat Int :=
  match request.eventType, original with
  | .deposit, _ => .ok request.amount
  | .withdraw, _ => .ok (-request.amount)
  | .cancel, none => .error 422
  | .cancel, some (_, p) =>
      if p.eventType = .cancel then .error 422
      else if p.status = .settled ∨ p.status = .cancelled then .error 409
      else if p.status = .completed ∧ p.account = account ∧ p.amount = request.amount ∧ p.currency = request.currency then
        .ok (-p.added)
      else .error 422

/-- A request under a new external id: it is booked, whether it is applied or not. -/
def enter (b : Bank) (o : Instruction) (account : Nat) (original : Option (String × Booking)) : Receipt × Bank :=
  let fail (code : Nat) := (b.book o.request.externalEventId (booked o account .failed none)).refuse o code
  match change account o.request original with
  | .error code => fail code
  | .ok amount =>
      let balance := b.balance account + amount
      if balance < 0 then fail 422
      else
        let receipt : Receipt := ⟨200, some balance, false⟩
        let booking := booked o account .completed (some balance)
        (receipt, (((b.retire original).book o.request.externalEventId booking).credit account amount).remember o receipt)

/-- The same, when the original of a CANCEL may be missing. -/
def accept (b : Bank) (o : Instruction) (account : Nat) : Receipt × Bank :=
  match b.original o.request with
  | .error code => b.refuse o code
  | .ok original => b.enter o account original

section Serve

variable (sameTime : Datetime → Datetime → Bool)

/-- The booking is what the request asks for. -/
def matching (p : Booking) (account : Nat) (request : TransactionEventCreateRequest) : Bool :=
  p.account == account && p.eventType == request.eventType && p.amount == request.amount &&
    p.currency == request.currency && sameTime p.occurredAt request.occurredAt

/-- A request under an external id that has a booking. -/
def revisit (b : Bank) (o : Instruction) (account : Nat) (p : Booking) : Receipt × Bank :=
  match matching sameTime p account o.request, p.balanceAfter with
  | true, some balance =>
      let receipt : Receipt := ⟨200, some balance, true⟩
      (receipt, b.remember o receipt)
  | _, _ => b.refuse o 422

/-- One request. There is no answer to a key that was used with another request. -/
def serve (b : Bank) (o : Instruction) : Option (Receipt × Bank) :=
  match b.answered o.key with
  | some (hash, receipt) => if hash = o.hash then receipt.map fun receipt => (receipt, b) else none
  | none => match b.holder o.request.accountNo with
    | none => some (b.refuse o 404)
    | some account =>
        if o.guarded && b.quarantined account then some (b.refuse o 409)
        else match b.booking o.request.externalEventId with
          | some p => some (b.revisit sameTime o account p)
          | none => some (b.accept o account)

/-- Requests one after another, all of them with an answer. -/
def serveAll (b : Bank) : List Instruction → Option (List Receipt × Bank)
  | [] => some ([], b)
  | o :: rest => (b.serve sameTime o).bind fun done =>
      (done.2.serveAll rest).map fun all => (done.1 :: all.1, all.2)

/-- One request more. -/
theorem serveAll_append {b b' b'' : Bank} {instructions : List Instruction} {o : Instruction} {receipts : List Receipt}
    {receipt : Receipt} (h : b.serveAll sameTime instructions = some (receipts, b'))
    (hs : b'.serve sameTime o = some (receipt, b'')) :
    b.serveAll sameTime (instructions ++ [o]) = some (receipts ++ [receipt], b'') := by
  induction instructions generalizing b receipts with
  | nil =>
      cases h
      simp [serveAll, hs]
  | cons first rest ih =>
      simp only [serveAll, Option.bind_eq_some_iff, Option.map_eq_some_iff] at h
      obtain ⟨done, hfirst, all, hrest, heq⟩ := h
      cases heq
      rw [List.cons_append, serveAll, hfirst, Option.bind_some, ih hrest]
      rfl

end Serve

end Bank

end EventConsistency
