import EventConsistency.Lib.Machine
import EventConsistency.Services.WriteSuspension

/-!
# Activations and resumes on one state file

`enable` and `disable` of `WriteSuspensionService`, and of the command line tool `scripts/write_suspend_state.py`, by any
number of processes. An operation is cut at its steps on the state file: `disable` reads it, the tool overwrites it, the
service writes a temporary file and renames it.

* `WriteSuspendCli` : what the tool builds and reads;
* `SuspendFile.step` : the next step of one of the operations;
* `Resume` : what a `disable` that has finished had read, and what was in the file when it wrote;
* `SuspendFile.undisturbed` : no activation is written between the read and the write of a `disable`;
* **`resume_ends_last_activation`** : then a `disable` ends the last activation; **`resume_erases_activation`** : else it
  can end one that it has not seen.
-/

namespace EventConsistency

open Lib

namespace WriteSuspendCli

/-- The state that `enable` of the tool writes. -/
def enabledState (retryAfterSeconds : Int) (arguments : EnableArguments) (now : Time) (uuid : String) :
    WriteSuspendState where
  active := true
  reason := arguments.reason
  activatedAt := some (WriteSuspensionService.utcNow now)
  activatedBy := some arguments.activatedBy
  retryAfterSeconds := match arguments.retryAfterSeconds with
    | none | some 0 => retryAfterSeconds
    | some seconds => seconds
  source := arguments.source
  runId := orDefault (arguments.runId.getD "") ("write-suspend-" ++ String.ofList (uuid.toList.take 12))

/-- `_read_state` of a file that the service or the tool has written. -/
def readState (retryAfterSeconds : Int) (stateFile : Option WriteSuspendState) : WriteSuspendState :=
  stateFile.getD { WriteSuspensionService.inactiveState retryAfterSeconds with source := "cli" }

/-- The state that `disable` of the tool writes. -/
def resumedState (previous : WriteSuspendState) (now : Time) (reason resumedBy : String) : WriteSuspendState :=
  { previous with
    active := false
    resumedAt := some (WriteSuspensionService.utcNow now)
    resumedBy := some resumedBy
    resumeReason := some reason }

end WriteSuspendCli

/-- Who performs an operation: the service of a process, or the tool. -/
inductive Via where
  | service (process : Nat)
  | cli
  deriving DecidableEq, Repr

/-- What a `disable` has read: the `run_id`, and how many activations were written before. -/
structure Seen where
  runId : String
  activations : Nat
  deriving DecidableEq, Repr

/-- An operation that has begun, with the state that it is to write; `seen` tells a `disable` from an `enable`. -/
structure FileOperation where
  via : Via
  state : WriteSuspendState
  seen : Option Seen
  /-- The temporary file is written. -/
  temporary : Bool := false
  done : Bool := false
  deriving DecidableEq, Repr

/-- A `disable` that has finished: the `run_id` it read and the activations before that read, the last activation and the
activations before its write. -/
structure Resume where
  read : String
  seen : Nat
  last : Option String
  written : Nat
  deriving DecidableEq, Repr

/-- The state file, the memory of every service, the settings and the operations; `activations` are the `run_id`s of the
activations that were written, in order. -/
structure SuspendFile where
  file : Option WriteSuspendState
  memory : Nat → WriteSuspendState
  retryAfterSeconds : Via → Int
  operations : List FileOperation
  activations : List String
  resumes : List Resume

inductive SuspendLabel where
  | enable (via : Via) (arguments : EnableArguments) (now : Time) (uuid : String)
  /-- The operation begins with its read of the state file. -/
  | disable (via : Via) (now : Time) (reason resumedBy : String)
  | write (i : Nat)
  | rename (i : Nat)
  deriving DecidableEq, Repr

namespace SuspendFile

/-- No file, and services that have just been built. -/
def start (retryAfterSeconds : Via → Int) : SuspendFile where
  file := none
  memory := fun p => WriteSuspensionService.inactiveState (retryAfterSeconds (.service p))
  retryAfterSeconds := retryAfterSeconds
  operations := []
  activations := []
  resumes := []

/-- The service of a process, as it finds the file now. -/
def service (s : SuspendFile) (p : Nat) : WriteSuspensionService := ⟨s.retryAfterSeconds (.service p), s.memory p, s.file⟩

/-- What `disable` reads. -/
def previous (s : SuspendFile) : Via → WriteSuspendState
  | .service p => (s.service p).status
  | .cli => WriteSuspendCli.readState (s.retryAfterSeconds .cli) s.file

def enabledState (s : SuspendFile) (arguments : EnableArguments) (now : Time) (uuid : String) : Via → WriteSuspendState
  | .service p => (s.service p).suspendedState arguments now uuid
  | .cli => WriteSuspendCli.enabledState (s.retryAfterSeconds .cli) arguments now uuid

def resumedState (previous : WriteSuspendState) (now : Time) (reason resumedBy : String) : Via → WriteSuspendState
  | .service _ => WriteSuspensionService.resumedState previous now reason resumedBy
  | .cli => WriteSuspendCli.resumedState previous now reason resumedBy

/-- The operation begins; a service sets its memory before it writes. -/
def enter (s : SuspendFile) (op : FileOperation) : SuspendFile :=
  { s with
    memory := match op.via with
      | .service p => Function.update s.memory p op.state
      | .cli => s.memory
    operations := s.operations ++ [op] }

/-- The operation replaces the state file and is done. -/
def finish (s : SuspendFile) (i : Nat) (op : FileOperation) : SuspendFile :=
  { s with
    file := some op.state
    operations := s.operations.set i { op with done := true }
    activations := if op.seen.isSome then s.activations else s.activations ++ [op.state.runId]
    resumes := match op.seen with
      | none => s.resumes
      | some seen => s.resumes ++ [⟨seen.runId, seen.activations, s.activations.getLast?, s.activations.length⟩] }

def step (s : SuspendFile) : SuspendLabel → Option SuspendFile
  | .enable via arguments now uuid => some (s.enter ⟨via, s.enabledState arguments now uuid via, none, false, false⟩)
  | .disable via now reason resumedBy =>
      let previous := s.previous via
      some (s.enter ⟨via, resumedState previous now reason resumedBy via,
        some ⟨previous.runId, s.activations.length⟩, false, false⟩)
  | .write i => match s.operations[i]? with
      | none => none
      | some op =>
          if op.done || op.temporary then none
          else match op.via with
            | .cli => some (s.finish i op)
            | .service _ => some { s with operations := s.operations.set i { op with temporary := true } }
  | .rename i => match s.operations[i]? with
      | none => none
      | some op => if op.temporary && !op.done then some (s.finish i op) else none

/-- The step writes an activation to the state file. -/
def activates (s : SuspendFile) : SuspendLabel → Bool
  | .write i => s.operations[i]?.any fun op => op.via == .cli && op.seen.isNone
  | .rename i => s.operations[i]?.any fun op => op.seen.isNone
  | _ => false

/-- A `disable` is between its read and its write. -/
def resuming (s : SuspendFile) : Bool := s.operations.any fun op => op.seen.isSome && !op.done

/-- The step reads, for want of a file, an activation that a service has in memory only. -/
def readsMemory (s : SuspendFile) : SuspendLabel → Bool
  | .disable (.service p) .. => s.file.isNone && (s.memory p).runId != "none"
  | _ => false

/-- No activation is written while a `disable` is between its read and its write, and no `disable` takes its activation
from a memory that was not written yet. -/
def undisturbed (s : SuspendFile) (label : SuspendLabel) : Bool :=
  !(s.activates label && s.resuming) && !s.readsMemory label

/-! ## The invariant -/

/-- `runId` is that of the last activation, or there was none. -/
def Names (activations : List String) (runId : String) : Prop :=
  activations.getLast? = some runId ∨ activations.getLast? = none ∧ runId = "none"

/-- The file names the last activation, and so does every `disable` that has read it and not yet written. -/
structure Ok (s : SuspendFile) : Prop where
  absent : s.file = none → s.activations.getLast? = none
  file : ∀ f, s.file = some f → f.runId ≠ "" ∧ Names s.activations f.runId
  named : ∀ op ∈ s.operations, op.state.runId ≠ ""
  reading : ∀ op ∈ s.operations, op.done = false → ∀ seen, op.seen = some seen →
    seen.activations = s.activations.length ∧ seen.runId = op.state.runId ∧ Names s.activations seen.runId
  resumes : ∀ r ∈ s.resumes, r.written = r.seen ∧ (r.last = some r.read ∨ r.last = none ∧ r.read = "none")

section Invariant

variable {s s' : SuspendFile} {op : FileOperation} {i : Nat} {label : SuspendLabel} {via : Via}
  {arguments : EnableArguments} {now : Time} {uuid reason resumedBy : String}

theorem orDefault_ne {value default : String} (h : default ≠ "") : orDefault value default ≠ "" := by
  unfold orDefault
  split
  · exact h
  · assumption

theorem enabledState_runId_ne : (s.enabledState arguments now uuid via).runId ≠ "" := by
  have hdrawn : "write-suspend-" ++ String.ofList (uuid.toList.take 12) ≠ "" := by
    intro h
    have hlist := congrArg String.toList h
    simp at hlist
  cases via with
  | service p => exact orDefault_ne hdrawn
  | cli => exact orDefault_ne hdrawn

theorem resumedState_runId (previous : WriteSuspendState) :
    (resumedState previous now reason resumedBy via).runId = previous.runId := by
  cases via <;> rfl

/-- What a `disable` reads names the last activation. -/
theorem Ok.previous (h : Ok s) (hmemory : s.readsMemory (.disable via now reason resumedBy) = false) :
    (s.previous via).runId ≠ "" ∧ Names s.activations (s.previous via).runId := by
  cases hf : s.file with
  | none =>
      have hnone : (s.previous via).runId = "none" := by
        cases via with
        | service p =>
            have hp : (s.memory p).runId = "none" := by simpa [readsMemory, hf] using hmemory
            simpa [SuspendFile.previous, SuspendFile.service, WriteSuspensionService.status,
              WriteSuspensionService.readArtifactState, hf] using hp
        | cli => simp [SuspendFile.previous, WriteSuspendCli.readState, hf, WriteSuspensionService.inactiveState]
      rw [hnone]
      exact ⟨by decide, Or.inr ⟨h.absent hf, rfl⟩⟩
  | some f =>
      obtain ⟨hne, hnames⟩ := h.file f hf
      have hsame : (s.previous via).runId = f.runId := by
        cases via with
        | service p => simp [SuspendFile.previous, SuspendFile.service, WriteSuspensionService.status,
            WriteSuspensionService.readArtifactState, hf, orDefault, hne]
        | cli => simp [SuspendFile.previous, WriteSuspendCli.readState, hf]
      rw [hsame]
      exact ⟨hne, hnames⟩

/-- An operation begins: it has a state with a `run_id`, and what it has read names the last activation. -/
theorem Ok.enter (h : Ok s) (hop : op.state.runId ≠ "") (hseen : ∀ seen, op.seen = some seen →
    seen.activations = s.activations.length ∧ seen.runId = op.state.runId ∧ Names s.activations seen.runId) :
    Ok (s.enter op) := by
  refine ⟨h.absent, h.file, ?_, ?_, h.resumes⟩
  · intro o ho
    rcases List.mem_append.mp ho with ho | ho
    · exact h.named o ho
    · rw [List.mem_singleton.mp ho]
      exact hop
  · intro o ho hdone
    rcases List.mem_append.mp ho with ho | ho
    · exact h.reading o ho hdone
    · rw [List.mem_singleton.mp ho]
      exact hseen

/-- An operation writes the state file; an activation only where no `disable` is under way. -/
theorem Ok.finish (h : Ok s) (hop : op ∈ s.operations) (hdone : op.done = false)
    (halone : op.seen = none → s.resuming = false) : Ok (s.finish i op) := by
  have hmem : ∀ o ∈ (s.finish i op).operations, o ∈ s.operations ∨ o = { op with done := true } :=
    fun o ho => List.mem_or_eq_of_mem_set ho
  have hnamed : ∀ o ∈ (s.finish i op).operations, o.state.runId ≠ "" := by
    intro o ho
    rcases hmem o ho with ho | rfl
    · exact h.named o ho
    · exact h.named op hop
  cases hseen : op.seen with
  | none =>
      have hlast : (s.finish i op).activations.getLast? = some op.state.runId := by simp [SuspendFile.finish, hseen]
      refine ⟨by simp [SuspendFile.finish], ?_, hnamed, ?_, ?_⟩
      · rintro f hf
        cases hf
        exact ⟨h.named op hop, Or.inl hlast⟩
      · intro o ho hopen seen hs
        rcases hmem o ho with ho | rfl
        · have hresuming : s.resuming = true := by
            refine List.any_eq_true.mpr ⟨o, ho, ?_⟩
            simp [hs, hopen]
          rw [halone hseen] at hresuming
          cases hresuming
        · cases hopen
      · intro r hr
        refine h.resumes r ?_
        simpa [SuspendFile.finish, hseen] using hr
  | some seen =>
      obtain ⟨hcount, hid, hnames⟩ := h.reading op hop hdone seen hseen
      have hsame : (s.finish i op).activations = s.activations := by simp [SuspendFile.finish, hseen]
      refine ⟨by simp [SuspendFile.finish], ?_, hnamed, ?_, ?_⟩
      · rintro f hf
        cases hf
        rw [hsame, ← hid]
        exact ⟨hid ▸ h.named op hop, hnames⟩
      · intro o ho hopen
        rw [hsame]
        rcases hmem o ho with ho | rfl
        · exact h.reading o ho hopen
        · cases hopen
      · intro r hr
        have hr : r ∈ s.resumes ∨ r = ⟨seen.runId, seen.activations, s.activations.getLast?, s.activations.length⟩ := by
          simpa [SuspendFile.finish, hseen] using hr
        rcases hr with hr | rfl
        · exact h.resumes r hr
        · exact ⟨hcount.symm, hnames⟩

/-- The temporary file is nobody else's. -/
theorem Ok.temporary (h : Ok s) (hop : op ∈ s.operations) :
    Ok { s with operations := s.operations.set i { op with temporary := true } } := by
  have hmem : ∀ o ∈ s.operations.set i { op with temporary := true }, o ∈ s.operations ∨
      o = { op with temporary := true } := fun o ho => List.mem_or_eq_of_mem_set ho
  refine ⟨h.absent, h.file, ?_, ?_, h.resumes⟩
  · intro o ho
    rcases hmem o ho with ho | rfl
    · exact h.named o ho
    · exact h.named op hop
  · intro o ho hopen
    rcases hmem o ho with ho | rfl
    · exact h.reading o ho hopen
    · exact h.reading op hop hopen

theorem Ok.step (h : Ok s) (hok : s.undisturbed label = true) (hs : s.step label = some s') : Ok s' := by
  have hboth : (s.activates label && s.resuming) = false ∧ s.readsMemory label = false := by
    simpa only [undisturbed, Bool.and_eq_true, Bool.not_eq_true'] using hok
  obtain ⟨halone, hmemory⟩ := hboth
  cases label with
  | enable via arguments now uuid =>
      cases hs
      exact h.enter enabledState_runId_ne fun seen hseen => by cases hseen
  | disable via now reason resumedBy =>
      cases hs
      obtain ⟨hne, hnames⟩ := h.previous hmemory
      refine h.enter ?_ ?_
      · rw [resumedState_runId]
        exact hne
      · rintro seen hseen
        cases hseen
        exact ⟨rfl, (resumedState_runId _).symm, hnames⟩
  | write i =>
      cases hi : s.operations[i]? with
      | none => simp [SuspendFile.step, hi] at hs
      | some op =>
          have hop : op ∈ s.operations := List.mem_of_getElem? hi
          simp only [SuspendFile.step, hi] at hs
          split at hs
          · cases hs
          · rename_i hfresh
            have hdone : op.done = false := by simp_all
            split at hs
            · rename_i hvia
              cases hs
              refine h.finish hop hdone fun hseen => ?_
              simpa [activates, hi, hvia, hseen] using halone
            · cases hs
              exact h.temporary hop
  | rename i =>
      cases hi : s.operations[i]? with
      | none => simp [SuspendFile.step, hi] at hs
      | some op =>
          have hop : op ∈ s.operations := List.mem_of_getElem? hi
          simp only [SuspendFile.step, hi] at hs
          split at hs
          · rename_i hready
            have hdone : op.done = false := by simp_all
            cases hs
            refine h.finish hop hdone fun hseen => ?_
            simpa [activates, hi, hseen] using halone
          · cases hs

theorem ok_start (retryAfterSeconds : Via → Int) : Ok (start retryAfterSeconds) := by
  refine ⟨fun _ => rfl, ?_, ?_, ?_, ?_⟩ <;> intro x hx <;> cases hx

end Invariant

end SuspendFile

/-- **A resume ends the last activation**, in every interleaving in which no activation is written between the read and
the write of a `disable`: what it had read is the last activation before its write, and none was written in between. -/
theorem resume_ends_last_activation (retryAfterSeconds : Via → Int) {s : SuspendFile}
    (h : Runs SuspendFile.step (fun s label => s.undisturbed label = true) (SuspendFile.start retryAfterSeconds) s) :
    ∀ r ∈ s.resumes, r.written = r.seen ∧ (r.last = some r.read ∨ r.last = none ∧ r.read = "none") :=
  (Runs.invariant (SuspendFile.ok_start retryAfterSeconds) (fun _ _ _ hok hu hs => hok.step hu hs) h).resumes

namespace Sample

def probe : EnableArguments := ⟨"postgres_unavailable", "api", "postgres_probe", none, some "outage-2"⟩

def manual : EnableArguments := ⟨"manual", "operator", "cli", none, some "outage-1"⟩

/-- The operator ends one suspension while the API enters the next: the probe's `enable` is renamed in between. -/
def overlapping : List SuspendLabel :=
  [.enable .cli manual 1 "", .write 0, .disable .cli 2 "resume" "operator", .enable (.service 0) probe 3 "", .write 2,
    .rename 2, .write 1]

/-- The same with the rename after the resume. -/
def inTurn : List SuspendLabel :=
  [.enable .cli manual 1 "", .write 0, .disable .cli 2 "resume" "operator", .enable (.service 0) probe 3 "", .write 2,
    .write 1, .rename 2]

def suspendFile (labels : List SuspendLabel) : SuspendFile :=
  (runAll SuspendFile.step (SuspendFile.start fun _ => 30) labels).getD (SuspendFile.start fun _ => 30)

end Sample

theorem resume_ends_last_activation_in_turn :
    (Sample.suspendFile Sample.inTurn).resumes = [⟨"outage-1", 1, some "outage-1", 1⟩] ∧
      (∀ r ∈ (Sample.suspendFile Sample.inTurn).resumes,
        r.written = r.seen ∧ (r.last = some r.read ∨ r.last = none ∧ r.read = "none")) ∧
      (Sample.suspendFile Sample.inTurn).file.map (fun f => (f.active, f.runId)) = some (true, "outage-2") :=
  ⟨by decide +kernel, resume_ends_last_activation (fun _ => 30) (Runs.of_allMeet (by decide +kernel)), by decide +kernel⟩

/-- **A resume that erases an activation**: it had read `outage-1`, writes after `outage-2`, and leaves writes open. -/
theorem resume_erases_activation :
    Runs SuspendFile.step (fun _ _ => True) (SuspendFile.start fun _ => 30) (Sample.suspendFile Sample.overlapping) ∧
      (Sample.suspendFile Sample.overlapping).resumes = [⟨"outage-1", 1, some "outage-2", 2⟩] ∧
      (Sample.suspendFile Sample.overlapping).file.map (fun f => (f.active, f.runId)) = some (false, "outage-1") := by
  have hmeet : allMeet SuspendFile.step (fun _ _ => true) (SuspendFile.start fun _ => 30) Sample.overlapping = true := by
    decide +kernel
  exact ⟨Runs.mono (fun _ _ _ => trivial) (Runs.of_allMeet hmeet), by decide +kernel, by decide +kernel⟩

end EventConsistency
