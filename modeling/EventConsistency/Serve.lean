import EventConsistency.Services.Idempotency
import EventConsistency.Lib.Threads

/-!
# Calls of the idempotency services, one by one

* `IdempotencyCall.plain`, `IdempotencyCall.cached` : a call as each of the two services makes it; `serve` : the call
  in a transaction of its own, with Redis failing or not;
* `plainEffect`, `cachedEffect` : what comes of it;
* `Yields` : a program that is alone in its transaction has an effect; **`serve_plain`**, **`serve_cached`** : the
  services have theirs.
-/

namespace EventConsistency

open Lib

/-! ## Calls -/

inductive IdempotencyCall where
  | checkOrStart (key : String) (payload : Json)
  | complete (key : String) (responseCode : Nat) (responseBody : Option Json) (payload : Json)
  | fail (key : String) (responseCode : Option Nat) (responseBody : Option Json) (errorMessage : Option String)
      (payload : Json)

def IdempotencyCall.key : IdempotencyCall → String
  | checkOrStart key _ => key
  | complete key _ _ _ => key
  | fail key _ _ _ _ => key

/-- What a call gives back, the record id of a check apart. -/
inductive Answer where
  | checked (decision : IdempotencyDecision) (responseCode : Option Nat) (responseBody : Option Json)
  | closed (record : IdempotencyRecord)
  deriving DecidableEq

def Answer.ofCheck (result : IdempotencyCheckResult) : Answer :=
  .checked result.decision result.responseCode result.responseBody

/-- `payload is not None`. -/
def given (payload : Json) : Option Json := if payload = .null then none else some payload

/-- The call of an `IdempotencyService`. -/
def IdempotencyCall.plain (svc : Service) : IdempotencyCall → Py Answer
  | checkOrStart key payload => do
      let result ← IdempotencyService.checkOrStart svc key payload
      pure (.ofCheck result)
  | complete key responseCode responseBody payload => do
      let record ← IdempotencyService.complete svc key responseCode responseBody (given payload) none
      pure (.closed record)
  | fail key responseCode responseBody errorMessage payload => do
      let record ← IdempotencyService.fail svc key responseCode responseBody errorMessage (given payload) none
      pure (.closed record)

/-- The call of a `CachedIdempotencyService`, whose `fail` only passes its arguments on. -/
def IdempotencyCall.cached (svc : Service) : IdempotencyCall → Py Answer
  | checkOrStart key payload => do
      let result ← CachedIdempotencyService.checkOrStart svc key payload
      pure (.ofCheck result)
  | complete key responseCode responseBody payload => do
      let record ← CachedIdempotencyService.complete svc key responseCode responseBody (given payload) none
      pure (.closed record)
  | fail key responseCode responseBody errorMessage payload => do
      let record ← IdempotencyService.fail svc key responseCode responseBody errorMessage (given payload) none
      pure (.closed record)

/-- Whether Redis fails on a `get`, and on a `set`. -/
structure RedisFaults where
  get : Bool
  set : Bool

def RedisFaults.hit (faults : RedisFaults) : Op → Bool
  | .cacheGet _ => faults.get
  | .cacheSet .. => faults.set
  | _ => false

/-- The steps of a call that is alone. -/
def alone (faults : RedisFaults) (o : Op) : Shared → Session → Except Exc o.Res × Shared × Session :=
  exec (faults.hit o) o

/-- The end of the transaction: it is committed unless the call has raised. -/
def settle {α : Type} (r : Except Exc α) (sh : Shared) (l : Session) : Shared :=
  match r with
  | .ok _ => { sh with db := l.work.apply sh.db }
  | .error _ => sh

/-- A call in a transaction of its own. -/
def serve (faults : RedisFaults) (l : Session) (p : Py Answer) (sh : Shared) : Except Exc Answer × Shared :=
  let (r, sh', l') := p.run alone (fun _ => faults) sh { l.discard with failed := false }
  (r, settle r sh' l')

/-! ## What comes of a call -/

/-- The record that `check_or_start` inserts. -/
def newRecord (svc : Service) (sh : Shared) (key : String) (payload : Json) : IdempotencyRecord where
  id := sh.seqs.record
  idempotencyKey := key
  requestHash := generateRequestHash svc.sha256 payload
  status := .processing
  createdAt := sh.clock
  updatedAt := sh.clock
  lockedUntil := some (sh.clock + seconds svc.processingLockSeconds)
  expiresAt := some (sh.clock + seconds svc.ttlSeconds)

def Shared.addRecord (sh : Shared) (r : IdempotencyRecord) : Shared :=
  { sh with
    db := { sh.db with records := sh.db.records ++ [r] }
    seqs := { sh.seqs with record := sh.seqs.record + 1 } }

def Shared.replaceRecord (sh : Shared) (r : IdempotencyRecord) : Shared :=
  { sh with db := { sh.db with records := Delta.replace r sh.db.records } }

def Shared.store (sh : Shared) (cacheKey : String) (e : CacheEntry) : Shared :=
  { sh with cache := (cacheKey, e) :: sh.cache.filter (fun kv => kv.1 != cacheKey) }

/-- Whether the record is to be closed: it may have the attempted status already, or not be closable. -/
def closing (svc : Service) (record : IdempotencyRecord) (payload : Option Json) (attempted : IdempotencyStatus) :
    Except Exc Bool :=
  match IdempotencyService.ensureCompletionMatchesRequest svc record payload none with
  | .error x => .error x
  | .ok _ =>
      if IdempotencyService.isTerminalNoop record attempted then .ok false
      else match IdempotencyService.ensureCanCloseProcessing record attempted with
        | .error x => .error x
        | .ok _ => .ok true

/-- The same for a request that is given by its payload or by its hash. -/
def closingWith (svc : Service) (record : IdempotencyRecord) (payload : Option Json) (requestHash : Option String)
    (attempted : IdempotencyStatus) : Except Exc Bool :=
  match IdempotencyService.ensureCompletionMatchesRequest svc record payload requestHash with
  | .error x => .error x
  | .ok _ =>
      if IdempotencyService.isTerminalNoop record attempted then .ok false
      else match IdempotencyService.ensureCanCloseProcessing record attempted with
        | .error x => .error x
        | .ok _ => .ok true

theorem closing_eq (svc : Service) (record : IdempotencyRecord) (payload : Option Json) (attempted : IdempotencyStatus) :
    closing svc record payload attempted = closingWith svc record payload none attempted := rfl

def closeEffect (svc : Service) (sh : Shared) (key : String) (payload : Option Json) (attempted : IdempotencyStatus)
    (close : IdempotencyRecord → Time → IdempotencyRecord) : Except Exc IdempotencyRecord × Shared :=
  match sh.db.recordByKey key with
  | none => (.error (.keyError "IdempotencyRecord not found"), sh)
  | some r => match closing svc r payload attempted with
    | .error x => (.error x, sh)
    | .ok false => (.ok r, sh)
    | .ok true => (.ok (close r sh.clock), sh.replaceRecord (close r sh.clock))

def completedAs (responseCode : Nat) (responseBody : Option Json) (r : IdempotencyRecord) (t : Time) :
    IdempotencyRecord :=
  { r with
    status := .completed, responseCode := some responseCode, responseBody := responseBody
    completedAt := some t, updatedAt := t, lockedUntil := none }

def failedAs (responseCode : Option Nat) (responseBody : Option Json) (errorMessage : Option String)
    (r : IdempotencyRecord) (t : Time) : IdempotencyRecord :=
  { r with
    status := .failed, responseCode := responseCode, responseBody := responseBody
    errorMessage := errorMessage, updatedAt := t, lockedUntil := none }

/-- What `check_or_start` of the plain service gives back and leaves. -/
def checkEffect (svc : Service) (sh : Shared) (key : String) (payload : Json) :
    Except Exc IdempotencyCheckResult × Shared :=
  match sh.db.recordByKey key with
  | none => (.ok { decision := .started, recordId := some sh.seqs.record }, sh.addRecord (newRecord svc sh key payload))
  | some r => (IdempotencyService.decide r (generateRequestHash svc.sha256 payload), sh)

def plainEffect (svc : Service) (sh : Shared) : IdempotencyCall → Except Exc Answer × Shared
  | .checkOrStart key payload => (checkEffect svc sh key payload).map (Except.map .ofCheck) id
  | .complete key responseCode responseBody payload =>
      (closeEffect svc sh key (given payload) .completed (completedAs responseCode responseBody)).map
        (Except.map .closed) id
  | .fail key responseCode responseBody errorMessage payload =>
      (closeEffect svc sh key (given payload) .failed (failedAs responseCode responseBody errorMessage)).map
        (Except.map .closed) id

/-- What a `set` of the cache leaves. -/
def setCompleted (svc : Service) (faults : RedisFaults) (writer : Nat) (site : Site) (key : String)
    (response : CachedIdempotencyResponse) (sh : Shared) : Shared :=
  if faults.set then sh else sh.store (idempotencyCacheKey svc key) ⟨response, writer, site⟩

/-- The entry that answers a check. -/
def cachedAnswer (svc : Service) (faults : RedisFaults) (sh : Shared) (key : String) (payload : Json) :
    Option CacheEntry :=
  (if faults.get then none else sh.cache.lookup (idempotencyCacheKey svc key)).filter fun e =>
    e.response.requestHash = generateRequestHash svc.sha256 payload

/-- A check that the cache cannot answer. -/
def fromDbEffect (svc : Service) (faults : RedisFaults) (writer : Nat) (sh : Shared) (key : String) (payload : Json) :
    Except Exc IdempotencyCheckResult × Shared :=
  match checkEffect svc sh key payload with
  | (.ok result, sh') => (.ok result, if result.decision = .replayCompleted then
      setCompleted svc faults writer .checkOrStart key ⟨generateRequestHash svc.sha256 payload, codeOr result.responseCode 200, result.responseBody⟩ sh' else sh')
  | (.error x, sh') => (.error x, sh')

/-- What `check_or_start` of the cached service gives back and leaves. -/
def cachedCheckEffect (svc : Service) (faults : RedisFaults) (writer : Nat) (sh : Shared) (key : String)
    (payload : Json) : Except Exc IdempotencyCheckResult × Shared :=
  match cachedAnswer svc faults sh key payload with
  | some e => (.ok { decision := .replayCompleted, recordId := none
                     responseCode := some e.response.responseCode, responseBody := e.response.responseBody }, sh)
  | none => fromDbEffect svc faults writer sh key payload

/-- What `complete` of the cached service gives back and leaves. -/
def cachedCompleteEffect (svc : Service) (faults : RedisFaults) (writer : Nat) (sh : Shared) (key : String)
    (responseCode : Nat) (responseBody payload : Option Json) : Except Exc IdempotencyRecord × Shared :=
  match closeEffect svc sh key payload .completed (completedAs responseCode responseBody), payload with
  | (.ok r, sh'), some p =>
      (.ok r, setCompleted svc faults writer .complete key
        ⟨generateRequestHash svc.sha256 p, responseCode, responseBody⟩ sh')
  | out, _ => out

def cachedEffect (svc : Service) (faults : RedisFaults) (writer : Nat) (sh : Shared) :
    IdempotencyCall → Except Exc Answer × Shared
  | .checkOrStart key payload => (cachedCheckEffect svc faults writer sh key payload).map (Except.map .ofCheck) id
  | .complete key responseCode responseBody payload =>
      (cachedCompleteEffect svc faults writer sh key responseCode responseBody (given payload)).map
        (Except.map .closed) id
  | .fail key responseCode responseBody errorMessage payload =>
      plainEffect svc sh (.fail key responseCode responseBody errorMessage payload)

/-! ## The services have these effects -/

section Serve

variable {svc : Service} {faults : RedisFaults} {sh sh' : Shared} {l l' : Session} {key : String}

/-- A session between two transactions. -/
structure Session.Idle (l : Session) : Prop where
  work : l.work = {}
  failed : l.failed = false
  startedAt : l.startedAt = none

theorem Session.idle_discard (l : Session) : Session.Idle { l.discard with failed := false } := ⟨rfl, rfl, rfl⟩

theorem run_now : Py.utcNow.run alone (fun _ => faults) sh l = (.ok sh.clock, sh, l) := Prog.run_call Op.now

theorem run_getByKey (hl : l.Idle) (site : Site) (key : String) :
    (IdempotencyRecordRepository.getByKey site key).run alone (fun _ => faults) sh l =
      (.ok (sh.db.recordByKey key), sh, l.begin sh.clock) := by
  refine (Prog.run_call (Op.sql site (.selectRecord key))).trans ?_
  have hs : (Stmt.selectRecord key).sendable = true := rfl
  simp only [alone, RedisFaults.hit, exec, runStmt, hl.failed, hl.work, hs, Session.begin, Overlay.apply_empty,
    Bool.false_and, Bool.not_true, Bool.false_eq_true, if_false]
  rfl

/-- A statement of the transaction that has read before. -/
theorem run_sql (hl : l.Idle) (site : Site) {stmt : Stmt} (hs : stmt.sendable = true) :
    (Py.sql site stmt).run alone (fun _ => faults) sh (l.begin sh.clock) =
      match runStmt stmt sh (l.begin sh.clock) with
      | .ok (r, sh', l') => (.ok r, sh', l')
      | .error x => (.error x, sh, (l.begin sh.clock).fail site x) := by
  refine (Prog.run_call (Op.sql site stmt)).trans ?_
  have hfailed : (l.begin sh.clock).failed = false := hl.failed
  have hbegin : (l.begin sh.clock).begin sh.clock = l.begin sh.clock := by simp [Session.begin]
  simp only [alone, RedisFaults.hit, exec, hfailed, hbegin, hs, Bool.false_and, Bool.not_true, Bool.false_eq_true,
    if_false]
  rfl

theorem run_checkOrStart_none (hl : l.Idle) (payload : Json) (h : sh.db.recordByKey key = none) :
    (IdempotencyService.checkOrStart svc key payload).run alone (fun _ => faults) sh l =
      (.ok ⟨.started, some sh.seqs.record, none, none⟩,
        { sh with seqs := { sh.seqs with record := sh.seqs.record + 1 } },
        { l.begin sh.clock with work := { records := ⟨[], [newRecord svc sh key payload]⟩ } }) := by
  unfold IdempotencyService.checkOrStart
  rw [Prog.run_bind_ok run_now, Prog.run_bind_ok (run_getByKey hl .checkOrStart key), h]
  refine Prog.run_bind_ok (a := newRecord svc sh key payload) ?_
  have hsend : (Stmt.insertRecord key (generateRequestHash svc.sha256 payload) (sh.clock + seconds svc.ttlSeconds)
      (sh.clock + seconds svc.processingLockSeconds)).sendable = true := rfl
  refine (run_sql hl .checkOrStart hsend).trans ?_
  have hwork : (l.begin sh.clock).work = {} := hl.work
  have hnow : (l.begin sh.clock).txnNow sh.clock = sh.clock := by
    simp [Session.begin, Session.txnNow, hl.startedAt]
  simp only [runStmt, hwork, hnow, Overlay.apply_empty, h, Option.isSome_none, Bool.false_eq_true, if_false]
  rfl

theorem run_checkOrStart_some (hl : l.Idle) (payload : Json) {r : IdempotencyRecord}
    (h : sh.db.recordByKey key = some r) :
    (IdempotencyService.checkOrStart svc key payload).run alone (fun _ => faults) sh l =
      (IdempotencyService.decide r (generateRequestHash svc.sha256 payload), sh, l.begin sh.clock) := by
  unfold IdempotencyService.checkOrStart
  rw [Prog.run_bind_ok run_now, Prog.run_bind_ok (run_getByKey hl .checkOrStart key), h]
  exact Prog.run_lift _

/-- Alone in its transaction the program gives back the first part of `out` and leaves the second. -/
def Yields {α : Type} (faults : RedisFaults) (p : Py α) (sh : Shared) (l : Session) (out : Except Exc α × Shared) : Prop :=
  ∃ sh' l', p.run alone (fun _ => faults) sh l = (out.1, sh', l') ∧ settle out.1 sh' l' = out.2 ∧ l'.tid = l.tid

theorem serve_eq {p : Py Answer} {out : Except Exc Answer × Shared}
    (h : Yields faults p sh { l.discard with failed := false } out) : serve faults l p sh = out := by
  obtain ⟨sh', l', hrun, hsettle, _⟩ := h
  unfold serve
  rw [hrun]
  exact Prod.ext rfl hsettle

section Sequences

variable {α β : Type} {p : Py α} {f : α → Py β} {a : α} {b : β} {sh₁ : Shared}

theorem Yields.ok (h : Yields faults p sh l (.ok a, sh₁)) (hf : f a = pure b) :
    Yields faults (p >>= f) sh l (.ok b, sh₁) := by
  obtain ⟨sh', l', hrun, hsettle, htid⟩ := h
  refine ⟨sh', l', (Prog.run_bind_ok hrun).trans ?_, hsettle, htid⟩
  rw [hf]
  rfl

theorem Yields.error {x : Exc} (h : Yields faults p sh l (.error x, sh₁)) :
    Yields faults (p >>= f) sh l (.error x, sh₁) := by
  obtain ⟨sh', l', hrun, hsettle, htid⟩ := h
  exact ⟨sh', l', Prog.run_bind_error hrun, hsettle, htid⟩

theorem Yields.map {out : Except Exc α × Shared} (h : Yields faults p sh l out) (g : α → β) :
    Yields faults (p >>= fun a => pure (g a)) sh l (out.map (Except.map g) id) := by
  obtain ⟨r, sh₁⟩ := out
  cases r with
  | ok a => exact h.ok rfl
  | error x => exact h.error

/-- A program with a `set` of the cache after it. -/
theorem Yields.set {site : Site} {response : CachedIdempotencyResponse} (h : Yields faults p sh l (.ok a, sh₁))
    (hf : f a = Prog.call (Op.cacheSet site (idempotencyCacheKey svc key) response) >>= fun _ => pure b) :
    Yields faults (p >>= f) sh l (.ok b, setCompleted svc faults l.tid site key response sh₁) := by
  obtain ⟨sh', l', hrun, hsettle, htid⟩ := h
  have hsettle : settle (.ok a) sh' l' = sh₁ := hsettle
  subst hsettle
  have hset : (Prog.call (Op.cacheSet site (idempotencyCacheKey svc key) response) : Py Unit).run alone (fun _ => faults)
      sh' l' = alone faults (Op.cacheSet site (idempotencyCacheKey svc key) response) sh' l' := Prog.run_call _
  cases hfault : faults.set with
  | true =>
      have hexec : alone faults (Op.cacheSet site (idempotencyCacheKey svc key) response) sh' l' = (.ok (), sh', l') := by
        simp only [alone, RedisFaults.hit, exec, hfault, if_true]
      refine ⟨sh', l', (Prog.run_bind_ok hrun).trans ?_, ?_, htid⟩
      · rw [hf]
        exact Prog.run_bind_ok (hset.trans hexec)
      · simp only [setCompleted, hfault, if_true]
        rfl
  | false =>
      have hexec : alone faults (Op.cacheSet site (idempotencyCacheKey svc key) response) sh' l' =
          (.ok (), sh'.store (idempotencyCacheKey svc key) ⟨response, l'.tid, site⟩,
            { l' with cacheWrote := some ⟨response, l'.tid, site⟩ }) := by
        simp only [alone, RedisFaults.hit, exec, hfault, Bool.false_eq_true, if_false]
        rfl
      refine ⟨sh'.store (idempotencyCacheKey svc key) ⟨response, l'.tid, site⟩,
        { l' with cacheWrote := some ⟨response, l'.tid, site⟩ }, (Prog.run_bind_ok hrun).trans ?_, ?_, htid⟩
      · rw [hf]
        exact Prog.run_bind_ok (hset.trans hexec)
      · simp only [setCompleted, hfault, Bool.false_eq_true, if_false, ← htid]
        rfl

end Sequences

/-- A program that has only read. -/
theorem Yields.read {α : Type} {p : Py α} {r : Except Exc α} (hl : l.Idle)
    (h : p.run alone (fun _ => faults) sh l = (r, sh, l.begin sh.clock)) : Yields faults p sh l (r, sh) := by
  refine ⟨sh, l.begin sh.clock, h, ?_, rfl⟩
  have hwork : (l.begin sh.clock).work = {} := hl.work
  cases r with
  | ok a => simp only [settle, hwork, Overlay.apply_empty]
  | error x => rfl

theorem checkOrStart_yields (hl : l.Idle) (key : String) (payload : Json) :
    Yields faults (IdempotencyService.checkOrStart svc key payload) sh l (checkEffect svc sh key payload) := by
  unfold checkEffect
  cases h : sh.db.recordByKey key with
  | none =>
      refine ⟨_, _, run_checkOrStart_none hl payload h, ?_, rfl⟩
      simp [settle, Overlay.apply, Shared.addRecord]
  | some r => exact Yields.read hl (run_checkOrStart_some hl payload h)

section CloseProcessing

variable {site : Site} {payload : Option Json} {requestHash : Option String} {attempted : IdempotencyStatus}
  {mark : IdempotencyRecord → Time → Py IdempotencyRecord} {r : IdempotencyRecord}

theorem run_closeProcessing_none (hl : l.Idle) (h : sh.db.recordByKey key = none) :
    (IdempotencyService.closeProcessing svc site key payload requestHash attempted mark).run alone (fun _ => faults) sh l =
      (.error (.keyError "IdempotencyRecord not found"), sh, l.begin sh.clock) := by
  have hread : (IdempotencyRecordRepository.getByKey site key).run alone (fun _ => faults) sh l =
      (.ok (sh.db.recordByKey key), sh, l.begin sh.clock) := run_getByKey hl site key
  rw [h] at hread
  exact Prog.run_bind_error ((Prog.run_bind_ok hread).trans rfl)

theorem run_getExistingRecord (hl : l.Idle) (h : sh.db.recordByKey key = some r) :
    (IdempotencyService.getExistingRecord site key).run alone (fun _ => faults) sh l =
      (.ok r, sh, l.begin sh.clock) := by
  have hread : (IdempotencyRecordRepository.getByKey site key).run alone (fun _ => faults) sh l =
      (.ok (sh.db.recordByKey key), sh, l.begin sh.clock) := run_getByKey hl site key
  rw [h] at hread
  exact (Prog.run_bind_ok hread).trans rfl

theorem run_closeProcessing_error {x : Exc} (hl : l.Idle) (h : sh.db.recordByKey key = some r)
    (hc : closingWith svc r payload requestHash attempted = .error x) :
    (IdempotencyService.closeProcessing svc site key payload requestHash attempted mark).run alone (fun _ => faults) sh l =
      (.error x, sh, l.begin sh.clock) := by
  refine (Prog.run_bind_ok (run_getExistingRecord hl h)).trans ?_
  unfold closingWith at hc
  cases hm : IdempotencyService.ensureCompletionMatchesRequest svc r payload requestHash with
  | error y =>
      rw [hm] at hc
      cases hc
      exact Prog.run_bind_error (Prog.run_lift _)
  | ok u =>
      rw [hm] at hc
      refine (Prog.run_bind_ok (Prog.run_lift _)).trans ?_
      cases hn : IdempotencyService.isTerminalNoop r attempted with
      | true => simp [hn] at hc
      | false =>
          cases hp : IdempotencyService.ensureCanCloseProcessing r attempted with
          | ok v => simp [hn, hp] at hc
          | error y =>
              simp only [hn, hp, Bool.false_eq_true, if_false] at hc
              cases hc
              exact Prog.run_bind_error (Prog.run_lift _)

theorem run_closeProcessing_noop (hl : l.Idle) (h : sh.db.recordByKey key = some r)
    (hc : closingWith svc r payload requestHash attempted = .ok false) :
    (IdempotencyService.closeProcessing svc site key payload requestHash attempted mark).run alone (fun _ => faults) sh l =
      (.ok r, sh, l.begin sh.clock) := by
  refine (Prog.run_bind_ok (run_getExistingRecord hl h)).trans ?_
  unfold closingWith at hc
  cases hm : IdempotencyService.ensureCompletionMatchesRequest svc r payload requestHash with
  | error y => simp [hm] at hc
  | ok u =>
      rw [hm] at hc
      refine (Prog.run_bind_ok (Prog.run_lift _)).trans ?_
      cases hn : IdempotencyService.isTerminalNoop r attempted with
      | true => rfl
      | false => cases hp : IdempotencyService.ensureCanCloseProcessing r attempted <;> simp [hn, hp] at hc

/-- The record that is closed is PROCESSING, and `mark` is what is left to do. -/
theorem run_closeProcessing_close (hl : l.Idle) (h : sh.db.recordByKey key = some r)
    (hc : closingWith svc r payload requestHash attempted = .ok true) :
    (IdempotencyService.closeProcessing svc site key payload requestHash attempted mark).run alone (fun _ => faults) sh l =
      (mark r sh.clock).run alone (fun _ => faults) sh (l.begin sh.clock) := by
  refine (Prog.run_bind_ok (run_getExistingRecord hl h)).trans ?_
  unfold closingWith at hc
  cases hm : IdempotencyService.ensureCompletionMatchesRequest svc r payload requestHash with
  | error y => simp [hm] at hc
  | ok u =>
      rw [hm] at hc
      refine (Prog.run_bind_ok (Prog.run_lift _)).trans ?_
      cases hn : IdempotencyService.isTerminalNoop r attempted with
      | true => simp [hn] at hc
      | false =>
          cases hp : IdempotencyService.ensureCanCloseProcessing r attempted with
          | error y => simp [hn, hp] at hc
          | ok v => exact (Prog.run_bind_ok (Prog.run_lift _)).trans (Prog.run_bind_ok run_now)

end CloseProcessing

/-- The common body of `complete` and `fail`, when `mark` writes the row that `close` gives. -/
theorem closeProcessing_yields (hl : l.Idle) (site : Site) (payload : Option Json) (attempted : IdempotencyStatus)
    {mark : IdempotencyRecord → Time → Py IdempotencyRecord} {close : IdempotencyRecord → Time → IdempotencyRecord}
    (hmark : ∀ r, (mark r sh.clock).run alone (fun _ => faults) sh (l.begin sh.clock) = (.ok (close r sh.clock), sh,
      { l.begin sh.clock with work := { records := ⟨[close r sh.clock], []⟩ } })) :
    Yields faults (IdempotencyService.closeProcessing svc site key payload none attempted mark) sh l
      (closeEffect svc sh key payload attempted close) := by
  unfold closeEffect
  cases h : sh.db.recordByKey key with
  | none => exact Yields.read hl (run_closeProcessing_none hl h)
  | some r =>
      dsimp only
      rw [closing_eq]
      cases hc : closingWith svc r payload none attempted with
      | error x => exact Yields.read hl (run_closeProcessing_error hl h hc)
      | ok closes =>
          cases closes with
          | false => exact Yields.read hl (run_closeProcessing_noop hl h hc)
          | true =>
              refine ⟨_, _, (run_closeProcessing_close hl h hc).trans (hmark r), ?_, rfl⟩
              simp [settle, Overlay.apply, Delta.apply_updated, Shared.replaceRecord]

/-- The UPDATE of a committed row. -/
theorem run_updateRecord (hl : l.Idle) (site : Site) (r : IdempotencyRecord) :
    (Py.sql site (.updateRecord r)).run alone (fun _ => faults) sh (l.begin sh.clock) =
      (.ok r, sh, { l.begin sh.clock with work := { records := ⟨[r], []⟩ } }) := by
  have hsend : (Stmt.updateRecord r).sendable = true := rfl
  refine (run_sql hl site hsend).trans ?_
  have hwork : (l.begin sh.clock).work = {} := hl.work
  simp only [runStmt, hwork]
  rfl

theorem complete_yields (hl : l.Idle) (responseCode : Nat) (responseBody payload : Option Json) :
    Yields faults (IdempotencyService.complete svc key responseCode responseBody payload none) sh l
      (closeEffect svc sh key payload .completed (completedAs responseCode responseBody)) :=
  closeProcessing_yields hl .complete payload .completed fun r =>
    run_updateRecord hl .complete (completedAs responseCode responseBody r sh.clock)

theorem fail_yields (hl : l.Idle) (responseCode : Option Nat) (responseBody : Option Json)
    (errorMessage : Option String) (payload : Option Json) :
    Yields faults (IdempotencyService.fail svc key responseCode responseBody errorMessage payload none) sh l
      (closeEffect svc sh key payload .failed (failedAs responseCode responseBody errorMessage)) :=
  closeProcessing_yields hl .fail payload .failed fun r =>
    run_updateRecord hl .fail (failedAs responseCode responseBody errorMessage r sh.clock)

/-- **A call of the plain service.** -/
theorem plain_yields (hl : l.Idle) (call : IdempotencyCall) :
    Yields faults (call.plain svc) sh l (plainEffect svc sh call) := by
  cases call with
  | checkOrStart key payload => exact (checkOrStart_yields hl key payload).map Answer.ofCheck
  | complete key responseCode responseBody payload =>
      exact (complete_yields hl responseCode responseBody (given payload)).map Answer.closed
  | fail key responseCode responseBody errorMessage payload =>
      exact (fail_yields hl responseCode responseBody errorMessage (given payload)).map Answer.closed

theorem serve_plain (l : Session) (sh : Shared) (call : IdempotencyCall) :
    serve faults l (call.plain svc) sh = plainEffect svc sh call :=
  serve_eq (plain_yields (Session.idle_discard l) call)

/-- `check_or_start` without an answer from the cache. -/
theorem checkOrStartFromDb_yields (hl : l.Idle) (key : String) (payload : Json) :
    Yields faults (CachedIdempotencyService.checkOrStartFromDb svc key payload) sh l
      (fromDbEffect svc faults l.tid sh key payload) := by
  have hplain : Yields faults (IdempotencyService.checkOrStart svc key payload) sh l (checkEffect svc sh key payload) :=
    checkOrStart_yields hl key payload
  unfold fromDbEffect
  cases hout : checkEffect svc sh key payload with
  | mk out sh₁ =>
      rw [hout] at hplain
      cases out with
      | error x => exact hplain.error
      | ok result =>
          by_cases hd : result.decision = .replayCompleted
          · dsimp only
            rw [if_pos hd]
            exact hplain.set (if_pos hd)
          · dsimp only
            rw [if_neg hd]
            exact hplain.ok (if_neg hd)

theorem run_cacheGet_none {cacheKey : String} (h : (if faults.get then none else sh.cache.lookup cacheKey) = none)
    (l : Session) : (Py.cacheGet cacheKey).run alone (fun _ => faults) sh l = (.ok none, sh, l) := by
  refine (Prog.run_call (Op.cacheGet cacheKey)).trans ?_
  simp only [alone, RedisFaults.hit, exec]
  split
  · rfl
  · rename_i e he
    cases h.symm.trans he

theorem run_cacheGet_some {cacheKey : String} {e : CacheEntry}
    (h : (if faults.get then none else sh.cache.lookup cacheKey) = some e) (l : Session) :
    (Py.cacheGet cacheKey).run alone (fun _ => faults) sh l =
      (.ok (some e.response), sh, { l with cacheHit := some e }) := by
  refine (Prog.run_call (Op.cacheGet cacheKey)).trans ?_
  simp only [alone, RedisFaults.hit, exec]
  split
  · rename_i he
    cases h.symm.trans he
  · rename_i e' he
    cases h.symm.trans he
    rfl

theorem cachedCheckOrStart_yields (hl : l.Idle) (key : String) (payload : Json) :
    Yields faults (CachedIdempotencyService.checkOrStart svc key payload) sh l
      (cachedCheckEffect svc faults l.tid sh key payload) := by
  unfold cachedCheckEffect cachedAnswer
  cases hfound : (if faults.get then none else sh.cache.lookup (idempotencyCacheKey svc key)) with
  | none =>
      obtain ⟨sh', l', hrun, hrest⟩ : Yields faults (CachedIdempotencyService.checkOrStartFromDb svc key payload) sh l
          (fromDbEffect svc faults l.tid sh key payload) := checkOrStartFromDb_yields hl key payload
      exact ⟨sh', l', (Prog.run_bind_ok (run_cacheGet_none hfound l)).trans hrun, hrest⟩
  | some e =>
      have hidle : Session.Idle { l with cacheHit := some e } := ⟨hl.work, hl.failed, hl.startedAt⟩
      by_cases hhash : e.response.requestHash = generateRequestHash svc.sha256 payload
      · have hanswer : (some e).filter (fun e => decide (e.response.requestHash = generateRequestHash svc.sha256 payload)) =
            some e := by simp [Option.filter, hhash]
        rw [hanswer]
        refine ⟨sh, { l with cacheHit := some e }, (Prog.run_bind_ok (run_cacheGet_some hfound l)).trans ?_, ?_, rfl⟩
        · dsimp only
          rw [if_pos hhash]
          rfl
        · simp only [settle, hl.work, Overlay.apply_empty]
      · have hanswer : (some e).filter (fun e => decide (e.response.requestHash = generateRequestHash svc.sha256 payload)) =
            none := by simp [Option.filter, hhash]
        rw [hanswer]
        obtain ⟨sh', l', hrun, hrest⟩ : Yields faults (CachedIdempotencyService.checkOrStartFromDb svc key payload) sh
            { l with cacheHit := some e } (fromDbEffect svc faults l.tid sh key payload) :=
          checkOrStartFromDb_yields hidle key payload
        refine ⟨sh', l', (Prog.run_bind_ok (run_cacheGet_some hfound l)).trans ?_, hrest⟩
        dsimp only
        rw [if_neg hhash]
        exact hrun

theorem cachedComplete_yields (hl : l.Idle) (key : String) (responseCode : Nat) (responseBody payload : Option Json) :
    Yields faults (CachedIdempotencyService.complete svc key responseCode responseBody payload none) sh l
      (cachedCompleteEffect svc faults l.tid sh key responseCode responseBody payload) := by
  have hplain : Yields faults (IdempotencyService.complete svc key responseCode responseBody payload none) sh l
      (closeEffect svc sh key payload .completed (completedAs responseCode responseBody)) :=
    complete_yields hl responseCode responseBody payload
  unfold cachedCompleteEffect
  cases hout : closeEffect svc sh key payload .completed (completedAs responseCode responseBody) with
  | mk out sh₁ =>
      rw [hout] at hplain
      cases out with
      | error x => exact hplain.error
      | ok r =>
          cases payload with
          | none => exact hplain.ok rfl
          | some p => exact hplain.set rfl

/-- **A call of the cached service.** -/
theorem cached_yields (hl : l.Idle) (call : IdempotencyCall) :
    Yields faults (call.cached svc) sh l (cachedEffect svc faults l.tid sh call) := by
  cases call with
  | checkOrStart key payload => exact (cachedCheckOrStart_yields hl key payload).map Answer.ofCheck
  | complete key responseCode responseBody payload =>
      exact (cachedComplete_yields hl key responseCode responseBody (given payload)).map Answer.closed
  | fail key responseCode responseBody errorMessage payload =>
      exact plain_yields hl (.fail key responseCode responseBody errorMessage payload)

theorem serve_cached (l : Session) (sh : Shared) (call : IdempotencyCall) :
    serve faults l (call.cached svc) sh = cachedEffect svc faults l.tid sh call :=
  serve_eq (cached_yields (Session.idle_discard l) call)

end Serve

end EventConsistency
