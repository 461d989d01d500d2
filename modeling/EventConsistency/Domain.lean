import EventConsistency.Lib.Json
import EventConsistency.Lib.Python
import Mathlib.Algebra.Order.Ring.Int

/-!
# The domain rules

`app/domain` and `app/schemas/transaction_event.py`: event types, statuses and the state machine, the
exceptions with their texts, ledger amounts, the request schema and the request hash.
-/

namespace EventConsistency

open Lib

/-! ## Event types and statuses -/

inductive EventType where
  | deposit
  | withdraw
  | cancel
  deriving DecidableEq, Repr

def EventType.value : EventType → String
  | .deposit => "DEPOSIT"
  | .withdraw => "WITHDRAW"
  | .cancel => "CANCEL"

inductive TransactionStatus where
  | received
  | validated
  | processing
  | completed
  | failed
  | cancelled
  | settled
  deriving DecidableEq, Repr

def TransactionStatus.value : TransactionStatus → String
  | .received => "RECEIVED"
  | .validated => "VALIDATED"
  | .processing => "PROCESSING"
  | .completed => "COMPLETED"
  | .failed => "FAILED"
  | .cancelled => "CANCELLED"
  | .settled => "SETTLED"

inductive IdempotencyStatus where
  | processing
  | completed
  | failed
  deriving DecidableEq, Repr

def IdempotencyStatus.value : IdempotencyStatus → String
  | .processing => "PROCESSING"
  | .completed => "COMPLETED"
  | .failed => "FAILED"

inductive IdempotencyDecision where
  | started
  | replayCompleted
  | alreadyProcessing
  | replayFailed
  deriving DecidableEq, Repr

inductive QuarantineTargetType where
  | account
  | client
  | event
  | globalWrite
  deriving DecidableEq, Repr

def QuarantineTargetType.value : QuarantineTargetType → String
  | .account => "ACCOUNT"
  | .client => "CLIENT"
  | .event => "EVENT"
  | .globalWrite => "GLOBAL_WRITE"

/-! ## Exceptions -/

/-- The exceptions that cross the modelled code: the domain's own, Python's, and SQLAlchemy's. `crashed`
is not an exception of the code: it marks a call whose process died. -/
inductive Exc where
  | accountNotFound
  | idempotencyConflict (idempotencyKey : String)
  | insufficientBalance
  | invalidTransactionEvent (message : String)
  | originalTransactionNotFound
  | targetQuarantined (targetType quarantineId : String)
  | transactionAlreadyCancelled
  | transactionAlreadySettled
  | invalidStateTransition (message : String)
  | invalidIdempotencyState (currentStatus attemptedStatus : String)
  | keyError (message : String)
  | valueError (message : String)
  | typeError (message : String)
  | runtimeError (message : String)
  | integrityError
  | operationalError
  | dataError
  | pendingRollbackError
  | crashed
  deriving DecidableEq, Repr

/-- `type(exc).__name__`. -/
def Exc.name : Exc → String
  | accountNotFound => "AccountNotFound"
  | idempotencyConflict _ => "IdempotencyConflict"
  | insufficientBalance => "InsufficientBalance"
  | invalidTransactionEvent _ => "InvalidTransactionEvent"
  | originalTransactionNotFound => "OriginalTransactionNotFound"
  | targetQuarantined _ _ => "TargetQuarantined"
  | transactionAlreadyCancelled => "TransactionAlreadyCancelled"
  | transactionAlreadySettled => "TransactionAlreadySettled"
  | invalidStateTransition _ => "InvalidStateTransition"
  | invalidIdempotencyState _ _ => "InvalidIdempotencyState"
  | keyError _ => "KeyError"
  | valueError _ => "ValueError"
  | typeError _ => "TypeError"
  | runtimeError _ => "RuntimeError"
  | integrityError => "IntegrityError"
  | operationalError => "OperationalError"
  | dataError => "DataError"
  | pendingRollbackError => "PendingRollbackError"
  | crashed => "Crashed"

/-- `str(exc)`; the texts of SQLAlchemy's exceptions come from the driver and are left empty. -/
def Exc.message : Exc → String
  | accountNotFound => "Account not found"
  | idempotencyConflict _ => "Idempotency-Key was already used with a different request body"
  | insufficientBalance => "Insufficient account balance"
  | invalidTransactionEvent m => m
  | originalTransactionNotFound => "Original transaction event not found"
  | targetQuarantined t _ => t ++ " target is quarantined"
  | transactionAlreadyCancelled => "Original transaction event is already cancelled"
  | transactionAlreadySettled => "Settled transaction event cannot be cancelled"
  | invalidStateTransition m => m
  | invalidIdempotencyState c a => "Cannot mark idempotency record from " ++ c ++ " to " ++ a ++ "."
  | keyError m | valueError m | typeError m | runtimeError m => m
  | integrityError | operationalError | dataError | pendingRollbackError | crashed => ""

/-! ## The state machine -/

namespace TransactionStateMachine

/-- `ALLOWED_TRANSITIONS`. -/
def allowedTransitions : TransactionStatus → List TransactionStatus
  | .received => [.validated, .failed]
  | .validated => [.processing, .failed]
  | .processing => [.completed, .failed]
  | .completed => [.settled, .cancelled]
  | .settled => []
  | .failed => []
  | .cancelled => []

def canTransition (current next : TransactionStatus) : Bool := (allowedTransitions current).contains next

def validateTransition (current next : TransactionStatus) : Except Exc Unit :=
  if canTransition current next then .ok ()
  else
    let allowed := ", ".intercalate ((allowedTransitions current).map TransactionStatus.value)
    .error (.invalidStateTransition ("Cannot transition from " ++ current.value ++ " to " ++ next.value
      ++ ". Allowed next statuses: " ++ (if allowed = "" then "none" else allowed) ++ "."))

end TransactionStateMachine

/-! ## Ledger amounts -/

/-- `calculate_ledger_amount`: the signed amount that an event adds to its account. -/
def calculateLedgerAmount (eventType : EventType) (amount : Int) (originalEventType : Option EventType) :
    Except Exc Int :=
  if amount ≤ 0 then .error (.invalidTransactionEvent "Transaction amount must be greater than zero")
  else match eventType with
    | .deposit => .ok amount
    | .withdraw => .ok (-amount)
    | .cancel => match originalEventType with
      | none => .error (.invalidTransactionEvent "CANCEL requires original_event_type")
      | some .deposit => .ok (-amount)
      | some .withdraw => .ok amount
      | some .cancel =>
          .error (.invalidTransactionEvent "CANCEL supports only DEPOSIT or WITHDRAW originals")

/-! ## Times -/

/-- A `datetime`: its wall clock in microseconds from 1970-01-01T00:00:00 and, when timezone-aware, its
UTC offset in microseconds. -/
structure Datetime where
  wall : Int
  utcoffset : Option Int
  deriving DecidableEq, Repr

namespace Datetime

/-- Microseconds since the epoch. -/
def instant (d : Datetime) : Int := d.wall - d.utcoffset.getD 0

/-- PostgreSQL takes UTC offsets of less than 16 hours. -/
def zoneFits (d : Datetime) : Bool := d.utcoffset.all fun offset => decide (-57600000000 < offset ∧ offset < 57600000000)

/-- PostgreSQL gives a stored time back in UTC, and psycopg2 does not read a year before the first. -/
def readable (d : Datetime) : Bool := decide (-62135596800000000 ≤ d.instant)

/-- `timestamp()`: seconds since the epoch as a binary64 number, `sign * m / 2 ^ k` with `m` of 53 bits. -/
def timestamp (instant : Int) : Rat :=
  let n := instant.natAbs
  let k := 52 - Nat.log2 (n / 1000000)
  let m := Lib.Python.roundHalfEven (n * 2 ^ k) 1000000
  mkRat (if instant < 0 then -(m : Int) else m) (2 ^ k)

/-- Year, month and day of a day counted from 1970-01-01 in the proleptic Gregorian calendar. -/
def civil (days : Int) : Int × Nat × Nat :=
  let z := days + 719468
  let era := z / 146097
  let doe := (z % 146097).toNat
  let yoe := (doe - doe / 1460 + doe / 36524 - doe / 146096) / 365
  let doy := doe - (365 * yoe + yoe / 4 - yoe / 100)
  let mp := (5 * doy + 2) / 153
  let month := if mp < 10 then mp + 3 else mp - 9
  (era * 400 + yoe + (if month ≤ 2 then 1 else 0), month, doy - (153 * mp + 2) / 5 + 1)

def pad (width n : Nat) : String :=
  let digits := toString n
  "".pushn '0' (width - digits.length) ++ digits

/-- The ISO text that `model_dump(mode="json")` gives. pydantic takes the sign of the offset from its hours: `-00:30` is
written `+00:30`. -/
def isoformat (d : Datetime) : String :=
  let (year, month, day) := civil (d.wall / 86400000000)
  let time := (d.wall % 86400000000).toNat
  let seconds := time / 1000000
  let fraction := time % 1000000
  let offset := match d.utcoffset with
    | none => ""
    | some 0 => "Z"
    | some o =>
        let minutes := o.natAbs / 60000000
        (if o < 0 ∧ 60 ≤ minutes then "-" else "+") ++ pad 2 (minutes / 60) ++ ":" ++ pad 2 (minutes % 60)
  pad 4 year.toNat ++ "-" ++ pad 2 month ++ "-" ++ pad 2 day ++ "T" ++ pad 2 (seconds / 3600) ++ ":"
    ++ pad 2 (seconds / 60 % 60) ++ ":" ++ pad 2 (seconds % 60)
    ++ (if fraction = 0 then "" else "." ++ pad 6 fraction) ++ offset

end Datetime

/-! ## The request -/

/-- `TransactionEventCreateRequest`: a value of it has passed the schema's checks. -/
structure TransactionEventCreateRequest where
  externalEventId : String
  accountNo : String
  eventType : EventType
  amount : Int
  currency : String
  occurredAt : Datetime
  originalExternalEventId : Option String
  externalEventId_length : 1 ≤ externalEventId.length ∧ externalEventId.length ≤ 128
  accountNo_length : 1 ≤ accountNo.length ∧ accountNo.length ≤ 64
  amount_pos : 0 < amount
  currency_length : 1 ≤ currency.length ∧ currency.length ≤ 10
  occurredAt_aware : occurredAt.utcoffset.isSome = true
  original_length : ∀ o ∈ originalExternalEventId, o.length ≤ 128
  /-- `validate_cancel_reference`: a CANCEL, and only a CANCEL, has a non-empty reference. -/
  cancel_reference : eventType = .cancel ↔ ∃ o, originalExternalEventId = some o ∧ o ≠ ""

/-- `model_dump(mode="json")`. -/
def TransactionEventCreateRequest.modelDump (r : TransactionEventCreateRequest) : Json :=
  .obj [("external_event_id", .str r.externalEventId), ("account_no", .str r.accountNo),
    ("event_type", .str r.eventType.value), ("amount", .int r.amount), ("currency", .str r.currency),
    ("occurred_at", .str r.occurredAt.isoformat),
    ("original_external_event_id", match r.originalExternalEventId with | none => .null | some o => .str o)]

/-- `text.encode("utf-8")`. -/
def utf8 (text : List Char) : List UInt8 := text.flatMap String.utf8EncodeChar

/-- `canonicalize_payload` of a JSON object. -/
def canonicalizePayload (payload : Json) : List UInt8 := utf8 payload.dumps

/-- `generate_request_hash`, over the hash function of `hashlib`. -/
def generateRequestHash (sha256 : List UInt8 → String) (payload : Json) : String :=
  sha256 (canonicalizePayload payload)

/-! ## Results -/

/-- `TransactionProcessingResult`. -/
structure TransactionProcessingResult where
  statusCode : Nat
  body : List (String × Json)
  processed : Bool
  duplicated : Bool
  deriving DecidableEq

/-- `IdempotencyCheckResult`. -/
structure IdempotencyCheckResult where
  decision : IdempotencyDecision
  recordId : Option Nat
  responseCode : Option Nat := none
  responseBody : Option Json := none
  deriving DecidableEq

end EventConsistency
