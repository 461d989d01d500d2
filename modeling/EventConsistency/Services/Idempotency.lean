import EventConsistency.Sql

/-!
# The idempotency services

`app/services/idempotency_service.py` and `app/services/cached_idempotency_service.py`, with
`app/repositories/idempotency_record_repository.py` and `app/cache/idempotency_cache.py` under them.
`Service` holds the settings they read and how the collaborators of a call are wired.
-/

namespace EventConsistency

open Lib

/-- The settings that all calls share; `sha256` is the hash function of `hashlib`. -/
structure Settings where
  sha256 : List UInt8 → String
  ttlSeconds : Int := 86400
  processingLockSeconds : Int := 30

/-- The services of one call. -/
structure Service extends Settings, Wiring

/-- `timedelta(seconds=n)`. -/
def seconds (n : Int) : Time := n * 1000000

namespace IdempotencyRecordRepository

def getByKey (site : Site) (key : String) : Py (Option IdempotencyRecord) := Py.sql site (.selectRecord key)

def createProcessing (site : Site) (key requestHash : String) (expiresAt lockedUntil : Time) :
    Py IdempotencyRecord :=
  Py.sql site (.insertRecord key requestHash expiresAt lockedUntil)

def markCompleted (site : Site) (record : IdempotencyRecord) (responseCode : Nat) (responseBody : Option Json)
    (completedAt : Time) : Py IdempotencyRecord :=
  Py.sql site (.updateRecord { record with
    status := .completed, responseCode := some responseCode, responseBody := responseBody,
    completedAt := some completedAt, updatedAt := completedAt, lockedUntil := none })

def markFailed (site : Site) (record : IdempotencyRecord) (failedAt : Time) (responseCode : Option Nat)
    (responseBody : Option Json) (errorMessage : Option String) : Py IdempotencyRecord :=
  Py.sql site (.updateRecord { record with
    status := .failed, responseCode := responseCode, responseBody := responseBody,
    errorMessage := errorMessage, updatedAt := failedAt, lockedUntil := none })

/-- `list_expired`: the closed records whose retention is over. -/
def expired (now : Time) (record : IdempotencyRecord) : Bool :=
  (match record.expiresAt with | none => false | some t => decide (t ≤ now))
    && (record.status == .completed || record.status == .failed)

/-- `delete_expired`, run and committed: `ids` are the rows that `list_expired` had read. -/
def deleteExpired (now : Time) (ids : List Nat) (db : Db) : Db :=
  { db with records := db.records.filter (fun r => !(expired now r && ids.contains r.id)) }

end IdempotencyRecordRepository

namespace IdempotencyService

def ensureSameRequestHash (record : IdempotencyRecord) (requestHash : String) : Except Exc Unit :=
  if record.requestHash ≠ requestHash then .error (.idempotencyConflict record.idempotencyKey) else .ok ()

def ensureCompletionMatchesRequest (svc : Service) (record : IdempotencyRecord) (payload : Option Json)
    (requestHash : Option String) : Except Exc Unit :=
  match payload, requestHash with
  | some _, some _ => .error (.valueError "Provide either payload or request_hash, not both.")
  | some p, none => ensureSameRequestHash record (generateRequestHash svc.sha256 p)
  | none, some h => ensureSameRequestHash record h
  | none, none => .ok ()

def isTerminalNoop (record : IdempotencyRecord) (attempted : IdempotencyStatus) : Bool :=
  record.status == attempted

def ensureCanCloseProcessing (record : IdempotencyRecord) (attempted : IdempotencyStatus) : Except Exc Unit :=
  if record.status = .processing then .ok ()
  else .error (.invalidIdempotencyState record.status.value attempted.value)

def getExistingRecord (site : Site) (key : String) : Py IdempotencyRecord := do
  match ← IdempotencyRecordRepository.getByKey site key with
  | none => throw (.keyError "IdempotencyRecord not found")
  | some record => pure record

/-- The answer for a key that has a record: the record's hash has to be the request's. -/
def decide (record : IdempotencyRecord) (requestHash : String) : Except Exc IdempotencyCheckResult := do
  ensureSameRequestHash record requestHash
  match record.status with
  | .processing => pure { decision := .alreadyProcessing, recordId := some record.id }
  | .completed =>
      pure { decision := .replayCompleted, recordId := some record.id
             responseCode := record.responseCode, responseBody := record.responseBody }
  | .failed =>
      pure { decision := .replayFailed, recordId := some record.id
             responseCode := record.responseCode, responseBody := record.responseBody }

def checkOrStart (svc : Service) (key : String) (payload : Json) : Py IdempotencyCheckResult := do
  let checkedAt ← Py.utcNow
  let requestHash := generateRequestHash svc.sha256 payload
  match ← IdempotencyRecordRepository.getByKey .checkOrStart key with
  | none =>
      let newRecord ← IdempotencyRecordRepository.createProcessing .checkOrStart key requestHash
        (checkedAt + seconds svc.ttlSeconds) (checkedAt + seconds svc.processingLockSeconds)
      pure { decision := .started, recordId := some newRecord.id }
  | some record => .lift (decide record requestHash)

/-- The common body of `complete` and `fail`: the record has to be the request's; one that already has the
`attempted` status is returned as it is, and one that is still PROCESSING is closed by `mark`. -/
def closeProcessing (svc : Service) (site : Site) (key : String) (payload : Option Json)
    (requestHash : Option String) (attempted : IdempotencyStatus)
    (mark : IdempotencyRecord → Time → Py IdempotencyRecord) : Py IdempotencyRecord := do
  let record ← getExistingRecord site key
  .lift (ensureCompletionMatchesRequest svc record payload requestHash)
  if isTerminalNoop record attempted then pure record
  else do
    .lift (ensureCanCloseProcessing record attempted)
    let closedAt ← Py.utcNow
    mark record closedAt

def complete (svc : Service) (key : String) (responseCode : Nat) (responseBody : Option Json)
    (payload : Option Json) (requestHash : Option String) : Py IdempotencyRecord :=
  closeProcessing svc .complete key payload requestHash .completed fun record completedAt =>
    IdempotencyRecordRepository.markCompleted .complete record responseCode responseBody completedAt

def fail (svc : Service) (key : String) (responseCode : Option Nat) (responseBody : Option Json)
    (errorMessage : Option String) (payload : Option Json) (requestHash : Option String) :
    Py IdempotencyRecord :=
  closeProcessing svc .fail key payload requestHash .failed fun record failedAt =>
    IdempotencyRecordRepository.markFailed .fail record failedAt responseCode responseBody errorMessage

end IdempotencyService

/-! ## Redis keys and the response cache -/

def hashKey (svc : Service) (value : String) : String := svc.sha256 (utf8 value.toList)

def idempotencyLockKey (svc : Service) (key : String) : String := "lock:idempotency:" ++ hashKey svc key

def idempotencyCacheKey (svc : Service) (key : String) : String := "cache:idempotency:" ++ hashKey svc key

/-- Python's `code or default`. -/
def codeOr (code : Option Nat) (default : Nat) : Nat :=
  match code with
  | none => default
  | some n => if n = 0 then default else n

namespace CachedIdempotencyService

/-- The cache misses or answers another request: the database decides, and a completed answer is cached. -/
def checkOrStartFromDb (svc : Service) (key : String) (payload : Json) : Py IdempotencyCheckResult := do
  let result ← IdempotencyService.checkOrStart svc key payload
  if result.decision = .replayCompleted then do
    Prog.call (Op.cacheSet .checkOrStart (idempotencyCacheKey svc key)
      ⟨generateRequestHash svc.sha256 payload, codeOr result.responseCode 200, result.responseBody⟩)
    pure result
  else pure result

def checkOrStart (svc : Service) (key : String) (payload : Json) : Py IdempotencyCheckResult := do
  match ← Py.cacheGet (idempotencyCacheKey svc key) with
  | none => checkOrStartFromDb svc key payload
  | some cached =>
      if cached.requestHash = generateRequestHash svc.sha256 payload then
        pure { decision := .replayCompleted, recordId := none
               responseCode := some cached.responseCode, responseBody := cached.responseBody }
      else checkOrStartFromDb svc key payload

def complete (svc : Service) (key : String) (responseCode : Nat) (responseBody : Option Json)
    (payload : Option Json) (requestHash : Option String) : Py IdempotencyRecord := do
  let record ← IdempotencyService.complete svc key responseCode responseBody payload requestHash
  match (match requestHash with | some h => some h | none => payload.map (generateRequestHash svc.sha256)) with
  | none => pure record
  | some resolvedHash => do
      Prog.call (Op.cacheSet .complete (idempotencyCacheKey svc key) ⟨resolvedHash, responseCode, responseBody⟩)
      pure record

end CachedIdempotencyService

/-! ## The service as `build_idempotency_service` wires it -/

namespace Service

def checkOrStart (svc : Service) (key : String) (payload : Json) : Py IdempotencyCheckResult :=
  if svc.responseCache then CachedIdempotencyService.checkOrStart svc key payload
  else IdempotencyService.checkOrStart svc key payload

def complete (svc : Service) (key : String) (responseCode : Nat) (responseBody : Json) (payload : Json) :
    Py IdempotencyRecord :=
  if svc.responseCache then
    CachedIdempotencyService.complete svc key responseCode (some responseBody) (some payload) none
  else IdempotencyService.complete svc key responseCode (some responseBody) (some payload) none

/-- `CachedIdempotencyService.fail` only passes its arguments on. -/
def fail (svc : Service) (key : String) (responseCode : Nat) (responseBody : Json) (errorMessage : String)
    (payload : Json) : Py IdempotencyRecord :=
  IdempotencyService.fail svc key (some responseCode) (some responseBody) (some errorMessage) (some payload) none

end Service

end EventConsistency
