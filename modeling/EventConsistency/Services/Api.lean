import EventConsistency.Services.TransactionEvent
import EventConsistency.Services.WriteSuspension

/-!
# The API around a call

`app/core/exceptions.py`: which response the exception that leaves a call becomes, and the suspension of financial writes
that goes with a lost database; `app/api/v1/transaction_events.py`: the balance of an account.
-/

namespace EventConsistency

open Lib

/-- `JSONResponse`. -/
structure Response where
  statusCode : Nat
  content : Json
  headers : List (String × String)
  deriving DecidableEq

/-- What a handler finds at the request, the time and the random id it may draw. -/
structure RequestState where
  requestId : Option String
  traceId : Option String
  now : Time
  uuid : String

namespace Api

/-- `_observability_headers`: the ids that are there and not empty. -/
def observabilityHeaders (request : RequestState) : List (String × String) :=
  (match request.requestId with | none | some "" => [] | some i => [("X-Request-ID", i)]) ++
    (match request.traceId with | none | some "" => [] | some i => [("X-Trace-ID", i)])

def optionalStr : Option String → Json
  | none => .null
  | some s => .str s

def errorResponse (code message : String) (requestId : Option String) : Json :=
  .obj [("error", .obj [("code", .str code), ("message", .str message), ("request_id", optionalStr requestId)])]

def unhandledExceptionHandler (request : RequestState) : Response :=
  ⟨500, errorResponse "INTERNAL_SERVER_ERROR" "Unexpected server error" request.requestId, observabilityHeaders request⟩

/-- `domain_exception_handler`, for the exceptions that can leave a call. -/
def domainExceptionHandler (request : RequestState) (exc : Exc) : Response :=
  let statusCode := match exc with
    | .accountNotFound | .originalTransactionNotFound => 404
    | .idempotencyConflict _ | .targetQuarantined .. | .transactionAlreadyCancelled | .transactionAlreadySettled => 409
    | _ => 422
  ⟨statusCode, errorResponse exc.name exc.message request.requestId, observabilityHeaders request⟩

def writeSuspendedExceptionHandler (request : RequestState) (state : WriteSuspendState) : Response :=
  ⟨503, .obj [("error_code", .str "WRITE_SUSPENDED"),
      ("message", .str "Financial write traffic is temporarily suspended."), ("retryable", .bool true),
      ("request_id", optionalStr request.requestId), ("trace_id", optionalStr request.traceId)],
    ("Retry-After", toString state.retryAfterSeconds) :: observabilityHeaders request⟩

def databaseExceptionHandler (request : RequestState) (svc : WriteSuspensionService) :
    Response × WriteSuspensionService :=
  let (state, svc) := svc.enable request.now request.uuid "postgres_unavailable" "api" "sqlalchemy_exception"
  (writeSuspendedExceptionHandler request state, svc)

/-- `register_exception_handlers`: the handler of an exception is that of its nearest registered class.
SQLAlchemy's `IntegrityError`, `DataError` and `PendingRollbackError` are no `OperationalError`. -/
def handleException (request : RequestState) (svc : WriteSuspensionService) (exc : Exc) :
    Response × WriteSuspensionService :=
  match exc with
  | .accountNotFound | .idempotencyConflict _ | .insufficientBalance | .invalidTransactionEvent _
  | .originalTransactionNotFound | .targetQuarantined .. | .transactionAlreadyCancelled | .transactionAlreadySettled
  | .invalidStateTransition _ | .invalidIdempotencyState .. => (domainExceptionHandler request exc, svc)
  | .operationalError => databaseExceptionHandler request svc
  | _ => (unhandledExceptionHandler request, svc)

/-- `create_transaction_event`: the result of the call, or what its exception becomes. -/
def createTransactionEvent (request : RequestState) (svc : WriteSuspensionService)
    (result : Except Exc TransactionProcessingResult) : Response × WriteSuspensionService :=
  match result with
  | .ok result => (⟨result.statusCode, .obj result.body, []⟩, svc)
  | .error exc => handleException request svc exc

/-- `mask_account_no` of `app/schemas/transaction_event.py`. -/
def maskAccountNo (accountNo : String) : String :=
  let n := accountNo.length
  if n ≤ 4 then String.ofList (List.replicate n '*')
  else String.ofList (List.replicate (n - 4) '*' ++ accountNo.toList.drop (n - 4))

/-- `AccountBalanceResponse`, without the time of the account's last update. -/
structure AccountBalanceResponse where
  accountNo : String
  balance : Int
  currency : String := "KRW"
  deriving DecidableEq

/-- `get_account_balance`. -/
def getAccountBalance (db : Db) (accountNo : String) : Except Exc AccountBalanceResponse :=
  match db.accountByNo accountNo with
  | none => .error .accountNotFound
  | some account => .ok { accountNo := maskAccountNo account.accountNo, balance := account.balance }

end Api

end EventConsistency
