import EventConsistency.Domain
import EventConsistency.Lib.Table

/-!
# The tables

`app/models`: the rows of the six tables the transaction path reads or writes, the database `Db` that holds
them, the lookups of the repositories, and `Overlay`, the uncommitted changes of one transaction.
-/

namespace EventConsistency

open Lib

/-- Microseconds since the epoch. -/
abbrev Time := Int

structure Account where
  id : Nat
  accountNo : String
  balance : Int
  status : String := "ACTIVE"
  deriving DecidableEq, Repr

structure TransactionEvent where
  id : Nat
  externalEventId : String
  idempotencyKey : String
  accountId : Nat
  eventType : EventType
  amount : Int
  currency : String
  status : TransactionStatus
  occurredAt : Datetime
  createdAt : Time
  updatedAt : Time
  deriving DecidableEq, Repr

inductive EntryType where
  | credit
  | debit
  deriving DecidableEq, Repr

structure LedgerEntry where
  id : Nat
  transactionEventId : Nat
  accountId : Nat
  entryType : EntryType
  amount : Int
  balanceAfter : Int
  createdAt : Time
  deriving DecidableEq, Repr

structure EventStateHistory where
  id : Nat
  transactionEventId : Nat
  oldStatus : Option TransactionStatus
  newStatus : TransactionStatus
  reason : Option String
  createdAt : Time
  deriving DecidableEq, Repr

structure IdempotencyRecord where
  id : Nat
  idempotencyKey : String
  requestHash : String
  status : IdempotencyStatus
  responseCode : Option Nat := none
  responseBody : Option Json := none
  errorMessage : Option String := none
  createdAt : Time
  updatedAt : Time
  completedAt : Option Time := none
  lockedUntil : Option Time
  expiresAt : Option Time
  deriving DecidableEq

structure QuarantineRecord where
  id : Nat
  quarantineId : String
  targetType : String
  targetId : String
  active : Bool
  activatedAt : Time
  deriving DecidableEq, Repr

instance : Row Account := ⟨Account.id⟩
instance : Row TransactionEvent := ⟨TransactionEvent.id⟩
instance : Row LedgerEntry := ⟨LedgerEntry.id⟩
instance : Row EventStateHistory := ⟨EventStateHistory.id⟩
instance : Row IdempotencyRecord := ⟨IdempotencyRecord.id⟩

@[simp] theorem rowId_account (r : Account) : Row.rowId r = r.id := rfl
@[simp] theorem rowId_event (r : TransactionEvent) : Row.rowId r = r.id := rfl
@[simp] theorem rowId_ledger (r : LedgerEntry) : Row.rowId r = r.id := rfl
@[simp] theorem rowId_history (r : EventStateHistory) : Row.rowId r = r.id := rfl
@[simp] theorem rowId_record (r : IdempotencyRecord) : Row.rowId r = r.id := rfl

/-- The committed contents of PostgreSQL. -/
structure Db where
  accounts : List Account := []
  events : List TransactionEvent := []
  ledger : List LedgerEntry := []
  histories : List EventStateHistory := []
  records : List IdempotencyRecord := []
  quarantines : List QuarantineRecord := []
  deriving DecidableEq

namespace Db

def accountByNo (db : Db) (accountNo : String) : Option Account :=
  db.accounts.find? (fun a => a.accountNo == accountNo)

def recordByKey (db : Db) (key : String) : Option IdempotencyRecord :=
  db.records.find? (fun r => r.idempotencyKey == key)

def eventByExternalId (db : Db) (externalEventId : String) : Option TransactionEvent :=
  db.events.find? (fun e => e.externalEventId == externalEventId)

def ledgerByEventId (db : Db) (eventId : Nat) : Option LedgerEntry :=
  db.ledger.find? (fun l => l.transactionEventId == eventId)

/-- `get_active`: the newest active record of the target, by `activated_at` and then `id`. -/
def activeQuarantine (db : Db) (targetType targetId : String) : Option QuarantineRecord :=
  (db.quarantines.filter (fun q => q.active && q.targetType == targetType && q.targetId == targetId)).foldl
    (fun best q => match best with
      | none => some q
      | some b => if b.activatedAt < q.activatedAt ∨ (b.activatedAt = q.activatedAt ∧ b.id < q.id) then some q
          else some b) none

end Db

/-- The uncommitted changes of one transaction. -/
structure Overlay where
  accounts : Delta Account := {}
  events : Delta TransactionEvent := {}
  ledger : Delta LedgerEntry := {}
  histories : Delta EventStateHistory := {}
  records : Delta IdempotencyRecord := {}
  deriving DecidableEq

/-- The database as the transaction sees it; also the database after its commit. -/
def Overlay.apply (o : Overlay) (db : Db) : Db where
  accounts := o.accounts.apply db.accounts
  events := o.events.apply db.events
  ledger := o.ledger.apply db.ledger
  histories := o.histories.apply db.histories
  records := o.records.apply db.records
  quarantines := db.quarantines

@[simp] theorem Overlay.apply_empty (db : Db) : ({} : Overlay).apply db = db := by
  simp [Overlay.apply]

/-- `uq_idempotency_records_key`, `uq_transaction_events_external_event_id`,
`uq_ledger_entries_transaction_event_id`, `uq_accounts_account_no`, the primary keys, and the foreign keys
of ledger entries and histories. -/
structure Db.Valid (db : Db) : Prop where
  account_id : (db.accounts.map Account.id).Nodup
  account_no : (db.accounts.map Account.accountNo).Nodup
  event_id : (db.events.map TransactionEvent.id).Nodup
  event_external : (db.events.map TransactionEvent.externalEventId).Nodup
  ledger_id : (db.ledger.map LedgerEntry.id).Nodup
  ledger_event : (db.ledger.map LedgerEntry.transactionEventId).Nodup
  ledger_fk : ∀ l ∈ db.ledger, ∃ e ∈ db.events, e.id = l.transactionEventId
  history_id : (db.histories.map EventStateHistory.id).Nodup
  history_fk : ∀ h ∈ db.histories, ∃ e ∈ db.events, e.id = h.transactionEventId
  record_id : (db.records.map IdempotencyRecord.id).Nodup
  record_key : (db.records.map IdempotencyRecord.idempotencyKey).Nodup

end EventConsistency
