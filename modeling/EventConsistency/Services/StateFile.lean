import EventConsistency.Lib.JsonText
import EventConsistency.Services.WriteSuspension

/-!
# The write-suspend state file as bytes

`WriteSuspensionService._read_artifact_state` and `status` over a state file of any content, and `_read_state` of
`scripts/write_suspend_state.py`. `readArtifactState_asdict` : of a file that holds what the service itself writes, they
read what `WriteSuspensionService.readArtifactState` does.
-/

namespace EventConsistency
open Lib.Python

/-- What a process finds at the path of the state file. -/
inductive StateFile where
  | absent
  /-- Reading it raises `OSError`. -/
  | unreadable
  | content (bytes : List UInt8)

/-- `WriteSuspendState` as it is read; the service takes the other fields over as they are. -/
structure ArtifactState where
  active : Bool
  reason : Text
  activatedAt : Value
  activatedBy : Value
  retryAfterSeconds : Int
  source : Text
  runId : Text
  resumedAt : Value := .none
  resumedBy : Value := .none
  resumeReason : Value := .none

/-- `WriteSuspensionService` over a state file of any content. -/
structure ArtifactService where
  retryAfterSeconds : Int
  runtimeState : ArtifactState

/-- `payload.get(key) or default`. -/
def getOrText (payload : List (Text × Value)) (key default : String) : Value :=
  let v := getOr payload key .none
  if v.truthy then v else .str (text default)

namespace ArtifactService

/-- The state of a file that cannot be read. -/
def corruptState (svc : ArtifactService) (now : Text) : ArtifactState where
  active := true
  reason := text "unknown"
  activatedAt := .str now
  activatedBy := .str (text "system")
  retryAfterSeconds := svc.retryAfterSeconds
  source := text "artifact_corrupt"
  runId := text "artifact-corrupt"

/-- The state of a payload; only a `dict` has `get`. -/
def ofPayload (rt : Runtime) (svc : ArtifactService) : Value → Except PyError ArtifactState
  | .dict payload => do
      let active := (getOr payload "active" (.bool false)).truthy
      let reason ← rt.str (getOrText payload "reason" "unknown")
      let retryAfterSeconds ← rt.toInt (getOr payload "retry_after_seconds" (.int svc.retryAfterSeconds))
      let source ← rt.str (getOrText payload "source" "artifact")
      let runId ← rt.str (getOrText payload "run_id" "unknown")
      return {
        active := active
        reason := reason
        activatedAt := getOr payload "activated_at" .none
        activatedBy := getOr payload "activated_by" .none
        retryAfterSeconds := retryAfterSeconds
        source := source
        runId := runId
        resumedAt := getOr payload "resumed_at" .none
        resumedBy := getOr payload "resumed_by" .none
        resumeReason := getOr payload "resume_reason" .none }
  | _ => .error .attributeError

/-- `_read_artifact_state`. Of the exceptions of `json.loads` it names only `json.JSONDecodeError`. -/
def readArtifactState (rt : Runtime) (svc : ArtifactService) (now : Text) :
    StateFile → Except PyError (Option ArtifactState)
  | .absent => .ok none
  | .unreadable => .ok (some (svc.corruptState now))
  | .content bytes => match loadsFile rt bytes with
    | .error .jsonDecodeError => .ok (some (svc.corruptState now))
    | .error e => .error e
    | .ok payload => do return some (← svc.ofPayload rt payload)

/-- `status`, with the service it leaves. -/
def status (rt : Runtime) (svc : ArtifactService) (now : Text) (file : StateFile) :
    Except PyError (ArtifactState × ArtifactService) := do
  let state := (← svc.readArtifactState rt now file).getD svc.runtimeState
  return (state, { svc with runtimeState := state })

end ArtifactService

/-! ## What is read of a payload -/

namespace ArtifactService

variable (rt : Runtime) (svc : ArtifactService)

/-- The conversions of `_read_artifact_state` go through. -/
structure Accepted (payload : List (Text × Value)) : Prop where
  retryAfterSeconds : ∀ v, dictGet payload "retry_after_seconds" = some v → rt.Integral v
  texts : ∀ key ∈ ["reason", "source", "run_id"],
    ∀ v, dictGet payload key = some v → v.truthy = true → v.nesting ≤ rt.reprDepth

theorem nesting_getOrText_iff (payload : List (Text × Value)) (key default : String) :
    (getOrText payload key default).nesting ≤ rt.reprDepth ↔
      ∀ v, dictGet payload key = some v → v.truthy = true → v.nesting ≤ rt.reprDepth := by
  have fits : (Value.str (text default)).nesting ≤ rt.reprDepth := by simp [Value.nesting]
  unfold getOrText getOr
  cases h : dictGet payload key with
  | none => simp [Value.truthy, fits]
  | some v => by_cases ht : v.truthy = true <;> simp [ht, fits]

theorem integral_getOr_iff (payload : List (Text × Value)) (key : String) (n : Int) :
    rt.Integral (getOr payload key (.int n)) ↔ ∀ v, dictGet payload key = some v → rt.Integral v := by
  unfold getOr
  cases h : dictGet payload key with
  | none => simp [Runtime.Integral]
  | some v => simp

theorem ofPayload_ok_iff (payload : List (Text × Value)) :
    (∃ state, svc.ofPayload rt (.dict payload) = .ok state) ↔ Accepted rt payload := by
  have pure_ok : ∀ state : ArtifactState, ∃ b, (pure state : Except PyError ArtifactState) = .ok b := fun state =>
    ⟨state, rfl⟩
  simp only [ofPayload, bind_ok_iff, pure_ok, and_true]
  constructor
  · rintro ⟨reason, hr, seconds, hi, source, hs, runId, hu⟩
    refine ⟨?_, ?_⟩
    · exact (integral_getOr_iff rt payload _ _).mp ((rt.toInt_ok_iff _).mp ⟨seconds, hi⟩)
    · have hr := (nesting_getOrText_iff rt payload _ _).mp ((rt.str_ok_iff _).mp ⟨reason, hr⟩)
      have hs := (nesting_getOrText_iff rt payload _ _).mp ((rt.str_ok_iff _).mp ⟨source, hs⟩)
      have hu := (nesting_getOrText_iff rt payload _ _).mp ((rt.str_ok_iff _).mp ⟨runId, hu⟩)
      intro key hk
      simp only [List.mem_cons, List.not_mem_nil, or_false] at hk
      rcases hk with rfl | rfl | rfl
      · exact hr
      · exact hs
      · exact hu
  · intro h
    obtain ⟨seconds, hi⟩ := (rt.toInt_ok_iff _).mpr
      ((integral_getOr_iff rt payload _ svc.retryAfterSeconds).mpr h.retryAfterSeconds)
    obtain ⟨reason, hr⟩ := (rt.str_ok_iff _).mpr
      ((nesting_getOrText_iff rt payload "reason" "unknown").mpr (h.texts _ (by simp)))
    obtain ⟨source, hs⟩ := (rt.str_ok_iff _).mpr
      ((nesting_getOrText_iff rt payload "source" "artifact").mpr (h.texts _ (by simp)))
    obtain ⟨runId, hu⟩ := (rt.str_ok_iff _).mpr
      ((nesting_getOrText_iff rt payload "run_id" "unknown").mpr (h.texts _ (by simp)))
    exact ⟨reason, hr, seconds, hi, source, hs, runId, hu⟩

theorem ofPayload_active {payload : List (Text × Value)} {state : ArtifactState}
    (h : svc.ofPayload rt (.dict payload) = .ok state) :
    state.active = (getOr payload "active" (.bool false)).truthy := by
  simp only [ofPayload, bind, Except.bind, pure, Except.pure] at h
  repeat' split at h
  all_goals cases h
  rfl

/-! ## What the service itself writes -/

def ofOption : Option String → Value
  | none => .none
  | some s => .str (text s)

/-- `asdict(state)` with its keys in order, as a reader of the file gets it. -/
def written (state : WriteSuspendState) : List (Text × Value) := [
  (text "activated_at", ofOption state.activatedAt),
  (text "activated_by", ofOption state.activatedBy),
  (text "active", .bool state.active),
  (text "reason", .str (text state.reason)),
  (text "resume_reason", ofOption state.resumeReason),
  (text "resumed_at", ofOption state.resumedAt),
  (text "resumed_by", ofOption state.resumedBy),
  (text "retry_after_seconds", .int state.retryAfterSeconds),
  (text "run_id", .str (text state.runId)),
  (text "source", .str (text state.source))]

def ofState (state : WriteSuspendState) : ArtifactState where
  active := state.active
  reason := text state.reason
  activatedAt := ofOption state.activatedAt
  activatedBy := ofOption state.activatedBy
  retryAfterSeconds := state.retryAfterSeconds
  source := text state.source
  runId := text state.runId
  resumedAt := ofOption state.resumedAt
  resumedBy := ofOption state.resumedBy
  resumeReason := ofOption state.resumeReason

theorem str_orDefault {payload : List (Text × Value)} {key s : String} (h : dictGet payload key = some (.str (text s)))
    (default : String) : rt.str (getOrText payload key default) = .ok (text (orDefault s default)) := by
  unfold getOrText getOr orDefault
  rw [h]
  by_cases hs : s = ""
  · subst hs
    simp [Value.truthy, text, Runtime.str]
  · have : (text s).isEmpty = false := by
      simp only [text, List.isEmpty_map, List.isEmpty_eq_false_iff, ne_eq]
      intro h
      exact hs (String.toList_eq_nil_iff.mp h)
    simp [Value.truthy, this, hs, Runtime.str]

/-- The bytes and the typed state file agree. -/
theorem readArtifactState_asdict {bytes : List UInt8} {state : WriteSuspendState}
    (h : loadsFile rt bytes = .ok (.dict (written state))) (now : Text) (typed : WriteSuspensionService)
    (hf : typed.stateFile = some state) :
    svc.readArtifactState rt now (.content bytes) = .ok (typed.readArtifactState.map ofState) := by
  have hr : rt.str (getOrText (written state) "reason" "unknown") = .ok (text (orDefault state.reason "unknown")) :=
    str_orDefault rt rfl _
  have hs : rt.str (getOrText (written state) "source" "artifact") = .ok (text (orDefault state.source "artifact")) :=
    str_orDefault rt rfl _
  have hu : rt.str (getOrText (written state) "run_id" "unknown") = .ok (text (orDefault state.runId "unknown")) :=
    str_orDefault rt rfl _
  have hi : rt.toInt (getOr (written state) "retry_after_seconds" (.int svc.retryAfterSeconds)) =
      .ok state.retryAfterSeconds := rfl
  simp only [readArtifactState, h, ofPayload, hr, hs, hu, hi, WriteSuspensionService.readArtifactState, hf]
  rfl

end ArtifactService

/-- `_read_state` of `scripts/write_suspend_state.py`, for a file that can be read. -/
def readState (rt : Runtime) (retryAfterSeconds : Int) : Option (List UInt8) → Except PyError Value
  | none => .ok (.dict [
      (text "active", .bool false),
      (text "reason", .str (text "none")),
      (text "activated_at", .none),
      (text "activated_by", .none),
      (text "retry_after_seconds", .int retryAfterSeconds),
      (text "source", .str (text "cli")),
      (text "run_id", .str (text "none")),
      (text "resumed_at", .none),
      (text "resumed_by", .none),
      (text "resume_reason", .none)])
  | some bytes => loadsFile rt bytes

end EventConsistency
