import EventConsistency.FailClosed
import EventConsistency.Scripts.IncidentArtifact

/-!
# The readers of the state file

Three programs decode the write-suspend state file: the service, `write_suspend_state.py` and the incident artifact.
`ReadersAgree` says that all three return and find the same answer to whether writes are suspended; each may run under an
interpreter of its own. `readers_agree_iff` finds the contents they agree on. A text that is not JSON is an active
suspension for the service and the artifact and an exception in the script, and an `active` that is an object is
sanitized before the artifact stores it.
-/

namespace EventConsistency
open Lib.Python IncidentArtifact

/-- `bool` of the `active` field of a state. -/
def activeField : Value → Except PyError Bool
  | .dict state => .ok (getOr state "active" .none).truthy
  | _ => .error .attributeError

/-- The answers of the three readers. -/
def serviceActive (rt : Runtime) (svc : ArtifactService) (now : Text) (bytes : List UInt8) : Except PyError Bool := do
  let (state, _) ← svc.status rt now (.content bytes)
  return state.active

def scriptActive (rt : Runtime) (retryAfterSeconds : Int) (bytes : List UInt8) : Except PyError Bool := do
  activeField (← readState rt retryAfterSeconds (some bytes))

def artifactActive (rt : Runtime) (bytes : List UInt8) : Except PyError Bool := do
  activeField (.dict (← loadSanitizedWriteSuspendState rt (some bytes)))

def ReadersAgree (api cli ph2 : Runtime) (svc : ArtifactService) (now : Text) (retryAfterSeconds : Int) (bytes : List UInt8) :
    Prop :=
  ∃ active, serviceActive api svc now bytes = .ok active ∧ scriptActive cli retryAfterSeconds bytes = .ok active ∧
    artifactActive ph2 bytes = .ok active

/-- A JSON object within the limits of all three that the service takes and whose `active` survives sanitizing. -/
def Common (api cli ph2 : Runtime) (bytes : List UInt8) : Prop :=
  ∃ payload, (∀ rt ∈ [api, cli, ph2], loadsFile rt bytes = .ok (.dict payload)) ∧
    ArtifactService.Accepted api payload ∧
    sanitizeCalls ph2 (.dict payload) ≤ ph2.callDepth ∧
    ∀ v, dictGet payload "active" = some v → ¬Emptied v

/-! ## Each reader -/

/-- The default of `active` does not matter to `bool`. -/
theorem truthy_getOr (payload : List (Text × Value)) :
    (getOr payload "active" (.bool false)).truthy = (getOr payload "active" .none).truthy := by
  unfold getOr
  cases dictGet payload "active" <;> rfl

theorem serviceActive_dict (rt : Runtime) (svc : ArtifactService) (now : Text) {bytes : List UInt8}
    {payload : List (Text × Value)} (h : loadsFile rt bytes = .ok (.dict payload)) (active : Bool) :
    serviceActive rt svc now bytes = .ok active ↔
      ArtifactService.Accepted rt payload ∧ active = (getOr payload "active" .none).truthy := by
  rw [← svc.ofPayload_ok_iff, ← truthy_getOr]
  unfold serviceActive ArtifactService.status
  simp only [ArtifactService.readArtifactState, h]
  cases ho : svc.ofPayload rt (.dict payload) with
  | error e => simp [bind, Except.bind]
  | ok state =>
      have ha := svc.ofPayload_active rt ho
      simp [bind, Except.bind, pure, Except.pure, ha, eq_comm]

theorem scriptActive_eq_ok_iff (rt : Runtime) (retryAfterSeconds : Int) (bytes : List UInt8) (active : Bool) :
    scriptActive rt retryAfterSeconds bytes = .ok active ↔
      ∃ payload, loadsFile rt bytes = .ok (.dict payload) ∧ active = (getOr payload "active" .none).truthy := by
  simp only [scriptActive, readState]
  cases loadsFile rt bytes with
  | error e => simp [bind, Except.bind]
  | ok v => cases v <;> simp [bind, Except.bind, activeField, eq_comm]

theorem getOr_stored (rt : Runtime) (payload : List (Text × Value)) :
    getOr (dictSet (sanitizePairs rt payload) (text "sensitive_data_included") (.bool false)) "active" .none =
      ((dictGet payload "active").map (sanitizePayload rt)).getD .none := by
  have other : text "sensitive_data_included" ≠ text "active" := by decide
  have kept : keeps (text "active") = true := by decide +kernel
  rw [getOr, dictGet_dictSet other, dictGet_sanitizePairs rt kept]

theorem artifactActive_dict (rt : Runtime) {bytes : List UInt8} {payload : List (Text × Value)}
    (h : loadsFile rt bytes = .ok (.dict payload)) (active : Bool) :
    artifactActive rt bytes = .ok active ↔
      sanitizeCalls rt (.dict payload) ≤ rt.callDepth ∧
        active = (((dictGet payload "active").map (sanitizePayload rt)).getD .none).truthy := by
  unfold artifactActive
  simp only [loadSanitizedWriteSuspendState, h, sanitize]
  by_cases hc : sanitizeCalls rt (.dict payload) ≤ rt.callDepth
  · simp [hc, sanitizePayload, bind, Except.bind, pure, Except.pure, activeField, getOr_stored, eq_comm]
  · simp [hc, bind, Except.bind]

/-- The stored answer is the payload's exactly if sanitizing does not empty it. -/
theorem stored_truthy_iff (rt : Runtime) (payload : List (Text × Value)) :
    (((dictGet payload "active").map (sanitizePayload rt)).getD .none).truthy = (getOr payload "active" .none).truthy ↔
      ∀ v, dictGet payload "active" = some v → ¬Emptied v := by
  unfold getOr
  cases dictGet payload "active" with
  | none => simp
  | some v => simp [truthy_sanitizePayload_iff]

/-! ## All three -/

/-- What one of the readers loads, another one that returns has loaded too. -/
theorem loadsFile_same {rt rt' : Runtime} {bytes : List UInt8} {v : Value} (h : loadsFile rt bytes = .ok v)
    (hv : loadsFile rt' bytes ≠ .error .valueError) (hr : loadsFile rt' bytes ≠ .error .recursionError) :
    loadsFile rt' bytes = .ok v := by
  obtain hs | hs | hs := loadsFile_upToLimits rt rt' bytes v h
  · exact hs
  · exact absurd hs hv
  · exact absurd hs hr

theorem serviceActive_raises {rt : Runtime} {bytes : List UInt8} {e : PyError} (h : loadsFile rt bytes = .error e)
    (he : e ≠ .jsonDecodeError) (svc : ArtifactService) (now : Text) : serviceActive rt svc now bytes = .error e := by
  unfold serviceActive ArtifactService.status
  simp only [ArtifactService.readArtifactState, h]
  rfl

theorem artifactActive_raises {rt : Runtime} {bytes : List UInt8} {e : PyError} (h : loadsFile rt bytes = .error e)
    (he : e ≠ .jsonDecodeError) : artifactActive rt bytes = .error e := by
  unfold artifactActive
  simp only [loadSanitizedWriteSuspendState, h]
  rfl

/-- The readers of the state file agree exactly on the contents that are common to them. -/
theorem readers_agree_iff (api cli ph2 : Runtime) (svc : ArtifactService) (now : Text) (retryAfterSeconds : Int)
    (bytes : List UInt8) : ReadersAgree api cli ph2 svc now retryAfterSeconds bytes ↔ Common api cli ph2 bytes := by
  constructor
  · rintro ⟨active, hs, hc, ha⟩
    obtain ⟨payload, hl, he⟩ := (scriptActive_eq_ok_iff cli _ bytes active).mp hc
    have service_loads : loadsFile api bytes = .ok (.dict payload) := by
      refine loadsFile_same hl ?_ ?_
      · intro h
        rw [serviceActive_raises h (by decide)] at hs
        cases hs
      · intro h
        rw [serviceActive_raises h (by decide)] at hs
        cases hs
    have artifact_loads : loadsFile ph2 bytes = .ok (.dict payload) := by
      refine loadsFile_same hl ?_ ?_
      · intro h
        rw [artifactActive_raises h (by decide)] at ha
        cases ha
      · intro h
        rw [artifactActive_raises h (by decide)] at ha
        cases ha
    obtain ⟨accepted, -⟩ := (serviceActive_dict api svc now service_loads active).mp hs
    obtain ⟨fits, hstored⟩ := (artifactActive_dict ph2 artifact_loads active).mp ha
    refine ⟨payload, ?_, accepted, fits, (stored_truthy_iff ph2 payload).mp (hstored.symm.trans he)⟩
    simp [service_loads, hl, artifact_loads]
  · rintro ⟨payload, hl, accepted, fits, hv⟩
    have stored := (stored_truthy_iff ph2 payload).mpr hv
    refine ⟨(getOr payload "active" .none).truthy, ?_, ?_, ?_⟩
    · exact (serviceActive_dict api svc now (hl api (by simp)) _).mpr ⟨accepted, rfl⟩
    · exact (scriptActive_eq_ok_iff cli _ bytes _).mpr ⟨payload, hl cli (by simp), rfl⟩
    · exact (artifactActive_dict ph2 (hl ph2 (by simp)) _).mpr ⟨fits, stored.symm⟩

/-- A state file that was written only in part: the service reports a suspension, the script raises. -/
theorem torn_file_splits_readers :
    ¬ReadersAgree cpython cpython cpython freshService (text "2024-01-01T00:00:00Z") 30 [0x7B, 0x22, 0x61, 0x63] := by
  rintro ⟨active, -, h, -⟩
  have raises : scriptActive cpython 30 [0x7B, 0x22, 0x61, 0x63] = .error .jsonDecodeError := rfl
  rw [raises] at h
  cases h

end EventConsistency
