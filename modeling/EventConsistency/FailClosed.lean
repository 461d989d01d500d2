import EventConsistency.Services.StateFile

/-!
# Reading the state file fail-closed

A state file that cannot be used is to be read as an active suspension. `ReadFailClosed` says so of one content, and
`status_fails_closed_iff` finds the contents it holds of: of all that may be wrong with a file, `_read_artifact_state`
expects only a text that is not JSON. Bytes that are not UTF-8, JSON of another kind than an object, an object nested too
deep or with an integer of too many digits, and an object with a `retry_after_seconds` that is no integer all end
`status`, and with it the guard of the writes, with an exception.
-/

namespace EventConsistency
open Lib.Python

/-- `status` returns for a state file with these bytes, and reports a suspension if they are not a JSON object. -/
def ReadFailClosed (rt : Runtime) (svc : ArtifactService) (now : Text) (bytes : List UInt8) : Prop :=
  ∃ state svc', svc.status rt now (.content bytes) = .ok (state, svc') ∧
    ((∀ payload, loadsFile rt bytes ≠ .ok (.dict payload)) → state.active = true)

/-- The contents that `_read_artifact_state` has a branch for. -/
def Foreseen (rt : Runtime) (bytes : List UInt8) : Prop :=
  ∃ s, readText bytes = some s ∧
    (loads rt s = .error .jsonDecodeError ∨
      ∃ payload, loads rt s = .ok (.dict payload) ∧ ArtifactService.Accepted rt payload)

namespace ArtifactService

variable (rt : Runtime) (svc : ArtifactService)

theorem status_eq_ok_iff (now : Text) (file : StateFile) (state : ArtifactState) (svc' : ArtifactService) :
    svc.status rt now file = .ok (state, svc') ↔
      ∃ read, svc.readArtifactState rt now file = .ok read ∧ state = read.getD svc.runtimeState ∧
        svc' = { svc with runtimeState := state } := by
  unfold status
  cases h : svc.readArtifactState rt now file with
  | error e => simp [bind, Except.bind]
  | ok read =>
      simp only [bind, Except.bind, pure, Except.pure, Except.ok.injEq, Prod.mk.injEq, exists_eq_left']
      constructor
      · rintro ⟨rfl, rfl⟩
        exact ⟨rfl, rfl⟩
      · rintro ⟨rfl, rfl⟩
        exact ⟨rfl, rfl⟩

/-- What `_read_artifact_state` makes of the outcomes of `json.loads`. -/
theorem readArtifactState_content (now : Text) (bytes : List UInt8) (read : Option ArtifactState) :
    svc.readArtifactState rt now (.content bytes) = .ok read ↔
      (loadsFile rt bytes = .error .jsonDecodeError ∧ read = some (svc.corruptState now)) ∨
      ∃ payload state, loadsFile rt bytes = .ok (.dict payload) ∧ svc.ofPayload rt (.dict payload) = .ok state ∧
        read = some state := by
  simp only [readArtifactState]
  cases loadsFile rt bytes with
  | error e => cases e <;> simp [eq_comm]
  | ok payload =>
      cases payload with
      | dict payload =>
          cases ho : svc.ofPayload rt (.dict payload) with
          | error e => simp [ho, bind, Except.bind]
          | ok state => simp [ho, bind, Except.bind, pure, Except.pure, eq_comm]
      | _ => simp [ofPayload, bind, Except.bind]

end ArtifactService

theorem foreseen_iff (rt : Runtime) (bytes : List UInt8) :
    Foreseen rt bytes ↔
      loadsFile rt bytes = .error .jsonDecodeError ∨
        ∃ payload, loadsFile rt bytes = .ok (.dict payload) ∧ ArtifactService.Accepted rt payload := by
  unfold Foreseen loadsFile
  cases h : readText bytes with
  | none => simp
  | some s => simp

/-- The state file is read fail-closed exactly when its content is foreseen. -/
theorem status_fails_closed_iff (rt : Runtime) (svc : ArtifactService) (now : Text) (bytes : List UInt8) :
    ReadFailClosed rt svc now bytes ↔ Foreseen rt bytes := by
  rw [foreseen_iff]
  constructor
  · rintro ⟨state, svc', hs, -⟩
    obtain ⟨read, hr, -, -⟩ := (svc.status_eq_ok_iff rt now _ state svc').mp hs
    obtain ⟨hl, -⟩ | ⟨payload, state, hl, ho, -⟩ := (svc.readArtifactState_content rt now bytes read).mp hr
    · exact .inl hl
    · exact .inr ⟨payload, hl, (svc.ofPayload_ok_iff rt payload).mp ⟨state, ho⟩⟩
  · rintro (hl | ⟨payload, hl, ha⟩)
    · have hr := (svc.readArtifactState_content rt now bytes _).mpr (.inl ⟨hl, rfl⟩)
      exact ⟨_, _, (svc.status_eq_ok_iff rt now _ _ _).mpr ⟨_, hr, rfl, rfl⟩, fun _ => rfl⟩
    · obtain ⟨state, ho⟩ := (svc.ofPayload_ok_iff rt payload).mpr ha
      have hr := (svc.readArtifactState_content rt now bytes _).mpr (.inr ⟨payload, state, hl, ho, rfl⟩)
      refine ⟨_, _, (svc.status_eq_ok_iff rt now _ _ _).mpr ⟨_, hr, rfl, rfl⟩, ?_⟩
      intro h
      exact absurd hl (h payload)

/-- CPython with its default limits; of the Unicode database what ASCII needs, of the floats those of a manifest. -/
def cpython : Runtime where
  maxStrDigits := some 4300
  loadsDepth := 990
  dumpsDepth := 320
  reprDepth := 990
  callDepth := 990
  comprehension := 1
  decimal := fun _ => none
  isSpace := fun c => decide (9 ≤ c ∧ c ≤ 13) || decide (28 ≤ c ∧ c ≤ 32)
  isPrintable := fun _ => false
  lower := List.map fun c => if 0x41 ≤ c ∧ c ≤ 0x5A then c + 0x20 else c
  floatRepr := fun _ x => text (if x < 7 / 10 then "0.6" else "0.8")

theorem cpython_space_ascii (c : Nat) (_ : c < 128) :
    cpython.isSpace c = (decide (9 ≤ c ∧ c ≤ 13) || decide (28 ≤ c ∧ c ≤ 32)) := rfl

/-- A service with its state in memory inactive. -/
def freshService : ArtifactService where
  retryAfterSeconds := 30
  runtimeState := ArtifactService.ofState (WriteSuspensionService.inactiveState 30)

/-- The state file holds an empty JSON array: `status` ends with `AttributeError`. -/
theorem array_is_not_read_fail_closed : ¬ReadFailClosed cpython freshService (text "2024-01-01T00:00:00Z") [0x5B, 0x5D] := by
  rintro ⟨state, svc', h, -⟩
  have raises : freshService.status cpython (text "2024-01-01T00:00:00Z") (.content [0x5B, 0x5D]) =
      .error .attributeError := rfl
  rw [raises] at h
  cases h

end EventConsistency
