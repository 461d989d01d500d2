import EventConsistency.Lib.Machine
import EventConsistency.Services.WriteSuspension

/-!
# Write suspension over runs

Any sequence of `enable`, `disable`, `status` and `guard_financial_write` calls on one service, with writes of the state
file that can fail.

* `SuspensionRun.due` : an `enable` was called, by whom ever, and no `disable` has returned since;
* `SuspensionCall.forgets` : the call fails to write where the file, or its absence, then contradicts it;
* **`suspension_sticky`** : as long as no call does that, the guard refuses every request while suspension is due;
  **`suspension_forgotten`** : an `enable` that cannot overwrite the file of an earlier resume.
-/

namespace EventConsistency

open Lib WriteSuspensionService

/-- A call on the service, with what it draws and whether its write fails. -/
inductive SuspensionCall where
  | enable (arguments : EnableArguments) (now : Time) (uuid : String) (fault : Option ArtifactFault)
  | disable (now : Time) (reason resumedBy : String) (fault : Option ArtifactFault)
  | status
  | guardFinancialWrite (reachable : Bool) (now : Time) (uuid : String) (fault : Option ArtifactFault)
  deriving DecidableEq, Repr

/-- The service, and whether an `enable` was called and no `disable` has returned since. -/
structure SuspensionRun where
  service : WriteSuspensionService
  due : Bool := false

namespace SuspensionCall

/-- The call makes an `enable` call. -/
def enables (svc : WriteSuspensionService) : SuspensionCall → Bool
  | enable .. => true
  | guardFinancialWrite reachable _ _ _ => !svc.status.active && !reachable
  | _ => false

/-- The service after the call. -/
def run (svc : WriteSuspensionService) : SuspensionCall → WriteSuspensionService
  | enable arguments now uuid fault => (svc.tryEnable arguments now uuid fault).2
  | disable now reason resumedBy fault => (svc.disable now reason resumedBy fault).2
  | status => svc.afterStatus
  | guardFinancialWrite reachable now uuid fault => (svc.guardFinancialWrite reachable now uuid fault).2

/-- The call is a `disable` that returns. -/
def resumes (svc : WriteSuspensionService) : SuspensionCall → Bool
  | disable now reason resumedBy fault => (svc.disable now reason resumedBy fault).1.isOk
  | _ => false

/-- The call does not get its state into the file, and a reader will not see it: an `enable` whose write fails while the
file holds an inactive state, or a `disable` whose write fails while the suspension is only in memory. -/
def forgets (svc : WriteSuspensionService) (call : SuspensionCall) : Bool :=
  match call with
  | enable _ _ _ fault => fault.isSome && svc.stateFile.any fun payload => !payload.active
  | guardFinancialWrite reachable _ _ fault =>
      !reachable && fault.isSome && svc.stateFile.any fun payload => !payload.active
  | disable _ _ _ fault => fault.isSome && svc.stateFile.isNone && svc.runtimeState.active
  | status => false

end SuspensionCall

namespace SuspensionRun

def step (s : SuspensionRun) (call : SuspensionCall) : Option SuspensionRun :=
  some ⟨call.run s.service,
    if call.enables s.service then true else if call.resumes s.service then false else s.due⟩

variable {s s' : SuspensionRun} {call : SuspensionCall} {svc : WriteSuspensionService}

/-- A file that is not known to be inactive is active, or there is none. -/
theorem elim_active {file : Option WriteSuspendState} (h : (file.any fun payload => !payload.active) = false) :
    file.elim true WriteSuspendState.active = true := by
  cases file with
  | none => rfl
  | some payload => simpa using h

/-- After an `enable` that is seen, the service is suspended. -/
theorem tryEnable_active {arguments : EnableArguments} {now : Time} {uuid : String} {fault : Option ArtifactFault}
    (h : (fault.isSome && svc.stateFile.any fun payload => !payload.active) = false) :
    (svc.tryEnable arguments now uuid fault).2.status.active = true := by
  unfold tryEnable
  rw [setState_active]
  cases fault with
  | none => rfl
  | some fault => exact elim_active (by simpa using h)

/-- A `disable` whose write fails leaves a suspension that is in the file. -/
theorem disable_active {now : Time} {reason resumedBy : String} (fault : ArtifactFault) (h : svc.status.active = true)
    (hfile : (svc.stateFile.isNone && svc.runtimeState.active) = false) :
    (svc.disable now reason resumedBy (some fault)).2.status.active = true := by
  unfold disable
  rw [setState_active]
  rw [status_active] at h
  cases hf : svc.stateFile with
  | none =>
      rw [hf] at h hfile
      simp_all
  | some payload =>
      rw [hf] at h
      simpa [afterStatus, hf] using h

/-- The guard refuses the request of a suspended service. -/
theorem guardFinancialWrite_suspended (h : svc.status.active = true) (reachable : Bool) (now : Time) (uuid : String)
    (fault : Option ArtifactFault) :
    svc.guardFinancialWrite reachable now uuid fault = (.writeSuspended svc.status, svc.afterStatus) := by
  simp [guardFinancialWrite, h]

/-- The guard that finds PostgreSQL lost suspends. -/
theorem guardFinancialWrite_lost (h : svc.status.active = false) (now : Time) (uuid : String)
    (fault : Option ArtifactFault) :
    (svc.guardFinancialWrite false now uuid fault).2 = (svc.afterStatus.tryEnable
      ⟨"postgres_unavailable", "api", "postgres_probe", none, none⟩ now uuid fault).2 := by
  simp only [guardFinancialWrite, h, Bool.false_eq_true, if_false]
  split
  · rename_i heq
    rw [heq]
  · rename_i heq
    rw [heq]

/-- **A due suspension is seen by every reader, as long as no call forgets it.** -/
theorem step_active (h : s.due = true → s.service.status.active = true) (hok : call.forgets s.service = false)
    (hs : s.step call = some s') : s'.due = true → s'.service.status.active = true := by
  obtain ⟨svc, due⟩ := s
  cases hs
  intro hdue
  cases call with
  | enable arguments now uuid fault => exact tryEnable_active hok
  | disable now reason resumedBy fault =>
      cases fault with
      | none => cases hdue
      | some fault => exact disable_active fault (h hdue) (by simpa [SuspensionCall.forgets] using hok)
  | status => exact (afterStatus_active svc).trans (h hdue)
  | guardFinancialWrite reachable now uuid fault =>
      cases hactive : svc.status.active with
      | true =>
          simp only [SuspensionCall.run]
          rw [guardFinancialWrite_suspended hactive]
          exact (afterStatus_active svc).trans hactive
      | false =>
          cases reachable with
          | true =>
              have hdue' : due = true := by simpa [SuspensionCall.enables, SuspensionCall.resumes] using hdue
              rw [h hdue'] at hactive
              cases hactive
          | false =>
              simp only [SuspensionCall.run]
              rw [guardFinancialWrite_lost hactive]
              exact tryEnable_active (by simpa [SuspensionCall.forgets, afterStatus] using hok)

end SuspensionRun

/-- **Write suspension is sticky, as long as no call forgets it.** A new instance on any state file: in every state that
its calls reach, if an `enable` was called and no `disable` has returned since, the guard refuses the request. -/
theorem suspension_sticky {retryAfterSeconds : Int} {stateFile : Option WriteSuspendState} {s : SuspensionRun}
    (h : Runs SuspensionRun.step (fun s call => call.forgets s.service = false)
      ⟨WriteSuspensionService.new retryAfterSeconds stateFile, false⟩ s) (hdue : s.due = true)
    (reachable : Bool) (now : Time) (uuid : String) (fault : Option ArtifactFault) :
    ∃ state, (s.service.guardFinancialWrite reachable now uuid fault).1 = .writeSuspended state := by
  have hactive : s.due = true → s.service.status.active = true :=
    h.invariant (P := fun s => s.due = true → s.service.status.active = true) (fun hfalse => by cases hfalse)
      fun _ _ _ hinv hok hs => SuspensionRun.step_active hinv hok hs
  exact ⟨_, by rw [SuspensionRun.guardFinancialWrite_suspended (hactive hdue)]⟩

namespace Sample

def suspend (fault : Option ArtifactFault) : SuspensionCall :=
  .enable { reason := "manual" } 1778576401000000 "0123456789abcdef0123456789abcdef" fault

def resume (fault : Option ArtifactFault) : SuspensionCall := .disable 1778576402000000 "" "operator" fault

/-- The guard on a healthy database, with a disk that works. -/
def admits (s : SuspensionRun) : Bool := (s.service.guardFinancialWrite true 1778576403000000 "" none).1 == .admitted

end Sample

/-- The `enable` cannot write and there is no file: the memory suspends. -/
theorem suspension_sticky_memory :
    ∃ s, runAll SuspensionRun.step ⟨WriteSuspensionService.new 30 none, false⟩ [.status, Sample.suspend (some .mkdir)] =
        some s ∧ s.due = true ∧ s.service.stateFile = none ∧
      ∃ state, (s.service.guardFinancialWrite true 1778576403000000 "" none).1 = .writeSuspended state := by
  have hall : allMeet SuspensionRun.step (fun s call => !call.forgets s.service)
      ⟨WriteSuspensionService.new 30 none, false⟩ [.status, Sample.suspend (some .mkdir)] = true := by decide
  refine ⟨_, rfl, rfl, rfl, ?_⟩
  exact suspension_sticky ((Runs.of_runAll hall rfl).mono fun _ _ hok => by simpa using hok) rfl true 1778576403000000
    "" none

/-- Suspended, resumed, and suspended again with a rename that fails: the file of the resume wins and the guard admits
the request. The same after a suspension in memory and a resume that raises. -/
theorem suspension_forgotten :
    ((runAll SuspensionRun.step ⟨WriteSuspensionService.new 30 none, false⟩
        [Sample.suspend none, Sample.resume none, Sample.suspend (some .replace)]).map fun s => (s.due, Sample.admits s)) =
        some (true, true) ∧
      ((runAll SuspensionRun.step ⟨WriteSuspensionService.new 30 none, false⟩
        [Sample.suspend (some .mkdir), Sample.resume (some .writeText)]).map fun s => (s.due, Sample.admits s)) =
        some (true, true) := by
  decide

end EventConsistency
