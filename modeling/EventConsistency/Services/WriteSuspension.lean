import EventConsistency.Models

/-!
# Suspension of financial writes

`app/services/write_suspension_service.py` and `guard_financial_write` of `app/api/dependencies/write_suspension.py`. The
state lives in memory and in a state file; `status` lets the file win, `enable` and `disable` set the memory first and
then write the file, which can fail.
-/

namespace EventConsistency

/-- `WriteSuspendState`. -/
structure WriteSuspendState where
  active : Bool
  reason : String
  activatedAt : Option String
  activatedBy : Option String
  retryAfterSeconds : Int
  source : String
  runId : String
  resumedAt : Option String := none
  resumedBy : Option String := none
  resumeReason : Option String := none
  deriving DecidableEq, Repr

/-- `WriteSuspensionService`: its state in memory and the state file, as the service itself writes it. -/
structure WriteSuspensionService where
  retryAfterSeconds : Int
  runtimeState : WriteSuspendState
  stateFile : Option WriteSuspendState := none
  deriving DecidableEq, Repr

/-- The arguments of `enable`, with their defaults. -/
structure EnableArguments where
  reason : String
  activatedBy : String := "system"
  source : String := "manual"
  retryAfterSeconds : Option Int := none
  runId : Option String := none
  deriving DecidableEq, Repr

/-- Where `_write_artifact` raises `OSError`. -/
inductive ArtifactFault where
  | mkdir
  | writeText
  | replace
  deriving DecidableEq, Repr

/-- `value or default` of a text. -/
def orDefault (value default : String) : String := if value = "" then default else value

namespace WriteSuspensionService

def inactiveState (retryAfterSeconds : Int) : WriteSuspendState where
  active := false
  reason := "none"
  activatedAt := none
  activatedBy := none
  retryAfterSeconds := retryAfterSeconds
  source := "runtime"
  runId := "none"

/-- A new instance that finds the state file `stateFile`. -/
def new (retryAfterSeconds : Int) (stateFile : Option WriteSuspendState) : WriteSuspensionService where
  retryAfterSeconds := retryAfterSeconds
  runtimeState := inactiveState retryAfterSeconds
  stateFile := stateFile

/-- `_read_artifact_state`. -/
def readArtifactState (svc : WriteSuspensionService) : Option WriteSuspendState :=
  svc.stateFile.map fun payload =>
    { payload with
      reason := orDefault payload.reason "unknown"
      source := orDefault payload.source "artifact"
      runId := orDefault payload.runId "unknown" }

/-- What `status` returns: the state file, if there is one, else the state in memory. -/
def status (svc : WriteSuspensionService) : WriteSuspendState := svc.readArtifactState.getD svc.runtimeState

/-- The service after `status`, which keeps what it has read. -/
def afterStatus (svc : WriteSuspensionService) : WriteSuspensionService := { svc with runtimeState := svc.status }

/-- `_write_artifact`: the directory, a temporary file, and its rename over the state file. A failure of any of the three
leaves the state file as it was. -/
def writeArtifact (svc : WriteSuspensionService) (fault : Option ArtifactFault) (state : WriteSuspendState) :
    Except ArtifactFault WriteSuspensionService :=
  match fault with
  | none => .ok { svc with stateFile := some state }
  | some fault => .error fault

/-- The end of `enable` and `disable`: the memory is set before the file is written. -/
def setState (svc : WriteSuspensionService) (fault : Option ArtifactFault) (state : WriteSuspendState) :
    Except ArtifactFault WriteSuspendState × WriteSuspensionService :=
  let svc := { svc with runtimeState := state }
  match svc.writeArtifact fault state with
  | .ok svc => (.ok state, svc)
  | .error fault => (.error fault, svc)

/-- `_utc_now`. -/
def utcNow (now : Time) : String := Datetime.isoformat ⟨now, some 0⟩

/-- The state that `enable` builds; `now` and `uuid` are what it draws. -/
def suspendedState (svc : WriteSuspensionService) (arguments : EnableArguments) (now : Time) (uuid : String) :
    WriteSuspendState where
  active := true
  reason := orDefault arguments.reason "unknown"
  activatedAt := some (utcNow now)
  activatedBy := some arguments.activatedBy
  retryAfterSeconds := match arguments.retryAfterSeconds with
    | none | some 0 => svc.retryAfterSeconds
    | some seconds => seconds
  source := arguments.source
  runId := orDefault (arguments.runId.getD "") ("write-suspend-" ++ String.ofList (uuid.toList.take 12))

/-- `enable`, with the failure of its write. -/
def tryEnable (svc : WriteSuspensionService) (arguments : EnableArguments) (now : Time) (uuid : String)
    (fault : Option ArtifactFault) : Except ArtifactFault WriteSuspendState × WriteSuspensionService :=
  svc.setState fault (svc.suspendedState arguments now uuid)

/-- `enable` with a write that succeeds, without `retry_after_seconds` and `run_id`. -/
def enable (svc : WriteSuspensionService) (now : Time) (uuid reason activatedBy source : String) :
    WriteSuspendState × WriteSuspensionService :=
  let state := svc.suspendedState { reason := reason, activatedBy := activatedBy, source := source } now uuid
  (state, { svc with runtimeState := state, stateFile := some state })

theorem tryEnable_none (svc : WriteSuspensionService) (now : Time) (uuid reason activatedBy source : String) :
    svc.tryEnable { reason := reason, activatedBy := activatedBy, source := source } now uuid none =
      (.ok (svc.enable now uuid reason activatedBy source).1, (svc.enable now uuid reason activatedBy source).2) := rfl

/-- The state that `disable` builds. -/
def resumedState (previous : WriteSuspendState) (now : Time) (reason resumedBy : String) : WriteSuspendState :=
  { previous with
    active := false
    resumedAt := some (utcNow now)
    resumedBy := some resumedBy
    resumeReason := some (orDefault reason "operator_resume") }

/-- `disable`, with the failure of its write. -/
def disable (svc : WriteSuspensionService) (now : Time) (reason resumedBy : String) (fault : Option ArtifactFault) :
    Except ArtifactFault WriteSuspendState × WriteSuspensionService :=
  svc.afterStatus.setState fault (resumedState svc.status now reason resumedBy)

/-- How `guard_financial_write` ends: the request goes on, is refused with `WriteSuspended`, or fails with `OSError`. -/
inductive Verdict where
  | admitted
  | writeSuspended (state : WriteSuspendState)
  | osError (fault : ArtifactFault)
  deriving DecidableEq, Repr

/-- `guard_financial_write`; `reachable` is whether PostgreSQL answers the probe. -/
def guardFinancialWrite (svc : WriteSuspensionService) (reachable : Bool) (now : Time) (uuid : String)
    (fault : Option ArtifactFault) : Verdict × WriteSuspensionService :=
  let state := svc.status
  let svc := svc.afterStatus
  if state.active then (.writeSuspended state, svc)
  else if reachable then (.admitted, svc)
  else match svc.tryEnable ⟨"postgres_unavailable", "api", "postgres_probe", none, none⟩ now uuid fault with
    | (.ok state, svc) => (.writeSuspended state, svc)
    | (.error fault, svc) => (.osError fault, svc)

/-! What the operations leave. -/

theorem status_active (svc : WriteSuspensionService) :
    svc.status.active = (svc.stateFile.elim svc.runtimeState.active WriteSuspendState.active) := by
  unfold status readArtifactState
  cases svc.stateFile with
  | none => rfl
  | some payload => rfl

theorem afterStatus_active (svc : WriteSuspensionService) : svc.afterStatus.status.active = svc.status.active := by
  simp only [status_active, afterStatus]
  cases svc.stateFile with
  | none => rfl
  | some payload => rfl

/-- What a reader sees of a state that was set: itself, if it was written; else a file from before still wins. -/
theorem setState_active (svc : WriteSuspensionService) (fault : Option ArtifactFault) (state : WriteSuspendState) :
    (svc.setState fault state).2.status.active =
      if fault.isSome then svc.stateFile.elim state.active WriteSuspendState.active else state.active := by
  cases fault with
  | none => rfl
  | some fault => exact status_active _

end WriteSuspensionService

end EventConsistency
