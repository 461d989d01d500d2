import Mathlib.Data.List.Chain
import EventConsistency.Lib.Machine
import EventConsistency.Lib.Threads
import EventConsistency.Services.RecoveryCase

/-!
# Recovery cases under concurrency

Any number of operations on one recovery case, each in a READ COMMITTED transaction of its own: the case is read, the
UPDATE waits for the row lock, and the transaction commits or is rolled back.

* `RecoverySystem.step` : one step of one call;
* `RecoverySystem.unchanged` : an UPDATE finds the case in the status that its call has read;
* **`executes_once`** : then the committed statuses are a path of the table and no case is executed twice;
  **`executes_twice`** : two executors that have both read APPROVED.
-/

namespace EventConsistency

open Lib

/-- Where the transaction of a call is. -/
inductive RecoveryPhase where
  | ready
  /-- The case is read and the object changed, not yet flushed. -/
  | checked (read written : RecoveryCase)
  /-- The UPDATE is done and holds the row lock; `version` is the row that a commit makes visible. -/
  | flushed (version written : RecoveryCase)
  | committed (result : RecoveryCase)
  | raised (x : RecoveryError)
  | rolledBack

structure RecoveryCall where
  operation : RecoveryOperation
  phase : RecoveryPhase := .ready

/-- The committed row of the case, all committed values of its `current_status` from the first on, and the calls. -/
structure RecoverySystem where
  row : RecoveryCase
  statuses : List RecoveryCaseStatus
  calls : List RecoveryCall

inductive RecoveryLabel where
  | read (i : Nat) (now : Time) (uuid : String)
  | update (i : Nat)
  | commit (i : Nat)
  | rollback (i : Nat)

/-- The call holds the row lock. -/
def RecoveryCall.locks (call : RecoveryCall) : Bool := match call.phase with
  | .flushed .. => true
  | _ => false

/-- The transaction of the call is open. -/
def RecoveryCall.isOpen (call : RecoveryCall) : Bool := match call.phase with
  | .ready | .checked .. | .flushed .. => true
  | _ => false

/-- The call has returned and its transaction is committed. -/
def RecoveryCall.done (call : RecoveryCall) : Bool := match call.phase with
  | .committed _ => true
  | _ => false

namespace RecoverySystem

/-- The calls on a case before any of them has done anything. -/
def start (row : RecoveryCase) (operations : List RecoveryOperation) : RecoverySystem where
  row := row
  statuses := [row.status]
  calls := operations.map fun operation => ⟨operation, .ready⟩

/-- The system with another phase of call `i`. -/
def setPhase (s : RecoverySystem) (i : Nat) (operation : RecoveryOperation) (phase : RecoveryPhase) : RecoverySystem :=
  { s with calls := s.calls.set i ⟨operation, phase⟩ }

def step (s : RecoverySystem) : RecoveryLabel → Option RecoverySystem
  | .read i now uuid => match s.calls[i]? with
      | some ⟨operation, .ready⟩ => match operation.apply now uuid (some s.row) with
          | .ok written => some (s.setPhase i operation (.checked s.row written))
          | .error x => some (s.setPhase i operation (.raised x))
      | _ => none
  | .update i => match s.calls[i]? with
      | some ⟨operation, .checked read written⟩ =>
          if s.calls.any RecoveryCall.locks then none
          else some (s.setPhase i operation (.flushed (read.flush written s.row) written))
      | _ => none
  | .commit i => match s.calls[i]? with
      | some ⟨operation, .flushed version written⟩ =>
          some { s.setPhase i operation (.committed written) with
            row := version
            statuses := s.statuses ++ [version.status] }
      | _ => none
  | .rollback i => match s.calls[i]? with
      | some call => if call.isOpen then some (s.setPhase i call.operation .rolledBack) else none
      | none => none

/-- An UPDATE finds the case in the status that its call has read. -/
def unchanged (s : RecoverySystem) : RecoveryLabel → Bool
  | .update i => match s.calls[i]? with
      | some ⟨_, .checked read _⟩ => s.row.status == read.status
      | _ => true
  | _ => true

/-- Call `i` has started the execution, returned and committed. -/
def executed (s : RecoverySystem) (i : Nat) : Bool :=
  s.calls[i]?.any fun call => call.operation == .startExecution && call.done

end RecoverySystem

/-- How far a case has come: every operation moves it further. -/
def RecoveryCaseStatus.stage : RecoveryCaseStatus → Nat
  | .open | .autoAnalyzed | .waitingApproval => 0
  | .approved => 1
  | .executing => 2
  | .executed | .executionFailed => 3
  | .rejected => 4
  | .closed => 5

theorem RecoveryOperation.stage_lt {op : RecoveryOperation} {status : RecoveryCaseStatus}
    (h : op.target ∈ allowedRecoveryTransitions status) : status.stage < op.target.stage := by
  cases op <;> cases status <;> simp_all [target, allowedRecoveryTransitions, RecoveryCaseStatus.stage]

namespace RecoverySystem

variable {s s' : RecoverySystem} {label : RecoveryLabel} {i : Nat} {op : RecoveryOperation}
  {phase phase' : RecoveryPhase}

/-- Everything that a step can do. -/
inductive Move (s : RecoverySystem) : RecoveryLabel → RecoverySystem → Prop where
  | pass {i : Nat} {op : RecoveryOperation} {now : Time} {uuid : String} {written : RecoveryCase}
      (hi : s.calls[i]? = some ⟨op, .ready⟩) (h : op.apply now uuid (some s.row) = .ok written) :
      Move s (.read i now uuid) (s.setPhase i op (.checked s.row written))
  | refuse {i : Nat} {op : RecoveryOperation} {now : Time} {uuid : String} {x : RecoveryError}
      (hi : s.calls[i]? = some ⟨op, .ready⟩) : Move s (.read i now uuid) (s.setPhase i op (.raised x))
  | flush {i : Nat} {op : RecoveryOperation} {read written : RecoveryCase}
      (hi : s.calls[i]? = some ⟨op, .checked read written⟩) (hfree : s.calls.any RecoveryCall.locks = false) :
      Move s (.update i) (s.setPhase i op (.flushed (read.flush written s.row) written))
  | commit {i : Nat} {op : RecoveryOperation} {version written : RecoveryCase}
      (hi : s.calls[i]? = some ⟨op, .flushed version written⟩) :
      Move s (.commit i) { s.setPhase i op (.committed written) with
        row := version
        statuses := s.statuses ++ [version.status] }
  | rollback {i : Nat} {call : RecoveryCall} (hi : s.calls[i]? = some call) (ho : call.isOpen = true) :
      Move s (.rollback i) (s.setPhase i call.operation .rolledBack)

theorem step_move (h : s.step label = some s') : Move s label s' := by
  unfold step at h
  split at h
  · split at h
    · rename_i hi
      split at h
      · rename_i happly
        cases h
        exact .pass hi happly
      · cases h
        exact .refuse hi
    · cases h
  · split at h
    · rename_i hi
      split at h
      · cases h
      · rename_i hfree
        cases h
        exact .flush hi (by simpa using hfree)
    · cases h
  · split at h
    · rename_i hi
      cases h
      exact .commit hi
    · cases h
  · split at h
    · rename_i hi
      split at h
      · rename_i ho
        cases h
        exact .rollback hi ho
      · cases h
    · cases h

/-- What every call has got, and what the committed statuses are. -/
structure Ok (s : RecoverySystem) : Prop where
  path : s.statuses.IsChain fun status next => next ∈ allowedRecoveryTransitions status
  last : s.statuses.getLast? = some s.row.status
  passed : ∀ status ∈ s.statuses, status.stage ≤ s.row.status.stage
  checked : ∀ (i : Nat) (op : RecoveryOperation) (read written : RecoveryCase),
    s.calls[i]? = some ⟨op, .checked read written⟩ →
      op.target ∈ allowedRecoveryTransitions read.status ∧ written.status = op.target
  flushed : ∀ (i : Nat) (op : RecoveryOperation) (version written : RecoveryCase),
    s.calls[i]? = some ⟨op, .flushed version written⟩ →
      op.target ∈ allowedRecoveryTransitions s.row.status ∧ version.status = op.target
  single : ∀ (i j : Nat) (call call' : RecoveryCall), s.calls[i]? = some call → s.calls[j]? = some call' →
    call.locks = true → call'.locks = true → i = j
  executing : ∀ i, s.executed i = true → .executing ∈ s.statuses
  once : ∀ i j, s.executed i = true → s.executed j = true → i = j

theorem ok_start (row : RecoveryCase) (operations : List RecoveryOperation) : Ok (start row operations) := by
  have hready : ∀ {i : Nat} {call : RecoveryCall}, (start row operations).calls[i]? = some call → call.phase = .ready := by
    intro i call h
    simp only [start, List.getElem?_map, Option.map_eq_some_iff] at h
    obtain ⟨_, _, rfl⟩ := h
    rfl
  have hnone : ∀ i, (start row operations).executed i = false := by
    intro i
    unfold executed
    cases h : (start row operations).calls[i]? with
    | none => rfl
    | some call => simp [RecoveryCall.done, hready h]
  refine ⟨by simp [start], rfl, by simp [start], ?_, ?_, ?_, ?_, ?_⟩
  · intro i op read written h
    exact nomatch hready h
  · intro i op version written h
    exact nomatch hready h
  · intro i j call _ h _ hl
    simp [RecoveryCall.locks, hready h] at hl
  · intro i h
    rw [hnone] at h
    cases h
  · intro i j h
    rw [hnone] at h
    cases h

/-- A step that does not end in a commit leaves no new execution. -/
theorem executed_setPhase {j : Nat} (hdone : (⟨op, phase'⟩ : RecoveryCall).done = false)
    (h : (s.setPhase i op phase').executed j = true) : s.executed j = true := by
  unfold executed at h ⊢
  cases hj : (s.setPhase i op phase').calls[j]? with
  | none => rw [hj] at h; cases h
  | some call =>
      rw [hj] at h
      rcases getElem?_set_cases hj with ⟨rfl, rfl⟩ | ⟨_, hj⟩
      · simp [hdone] at h
      · rw [hj]
        exact h

/-- A step of one call that commits nothing. -/
theorem Ok.setPhase (h : Ok s) (hdone : (⟨op, phase'⟩ : RecoveryCall).done = false)
    (hc : ∀ read written, phase' = .checked read written →
      op.target ∈ allowedRecoveryTransitions read.status ∧ written.status = op.target)
    (hf : ∀ version written, phase' = .flushed version written → s.calls.any RecoveryCall.locks = false ∧
      op.target ∈ allowedRecoveryTransitions s.row.status ∧ version.status = op.target) :
    Ok (s.setPhase i op phase') := by
  refine { h with checked := ?_, flushed := ?_, single := ?_, executing := ?_, once := ?_ }
  · intro j op' read written hj
    rcases getElem?_set_cases hj with ⟨rfl, heq⟩ | ⟨_, hj⟩
    · cases heq
      exact hc read written rfl
    · exact h.checked j op' read written hj
  · intro j op' version written hj
    rcases getElem?_set_cases hj with ⟨rfl, heq⟩ | ⟨_, hj⟩
    · cases heq
      exact (hf version written rfl).2
    · exact h.flushed j op' version written hj
  · intro j k call call' hj hk hl hl'
    -- the one that takes the lock finds it free
    have hnew : ∀ {call : RecoveryCall}, call = ⟨op, phase'⟩ → call.locks = true →
        s.calls.any RecoveryCall.locks = false := by
      rintro call rfl hl
      cases phase' with
      | flushed version written => exact (hf version written rfl).1
      | _ => cases hl
    have hold : ∀ {m : Nat} {call : RecoveryCall}, s.calls[m]? = some call → call.locks = true →
        s.calls.any RecoveryCall.locks = true := by
      intro m call hm hl
      exact List.any_eq_true.mpr ⟨call, List.mem_of_getElem? hm, hl⟩
    rcases getElem?_set_cases hj with ⟨hji, heq⟩ | ⟨_, hj'⟩
    · rcases getElem?_set_cases hk with ⟨hki, _⟩ | ⟨_, hk'⟩
      · exact hji.trans hki.symm
      · have hfree := hnew heq hl
        rw [hold hk' hl'] at hfree
        cases hfree
    · rcases getElem?_set_cases hk with ⟨_, heq⟩ | ⟨_, hk'⟩
      · have hfree := hnew heq hl'
        rw [hold hj' hl] at hfree
        cases hfree
      · exact h.single j k call call' hj' hk' hl hl'
  · intro j hj
    exact h.executing j (executed_setPhase hdone hj)
  · intro j k hj hk
    exact h.once j k (executed_setPhase hdone hj) (executed_setPhase hdone hk)

/-- The commit of the call that holds the row lock. -/
theorem Ok.commit {version written : RecoveryCase} (h : Ok s) (hi : s.calls[i]? = some ⟨op, .flushed version written⟩) :
    Ok { s.setPhase i op (.committed written) with row := version, statuses := s.statuses ++ [version.status] } := by
  obtain ⟨hallowed, hversion⟩ := h.flushed i op version written hi
  have hlt : s.row.status.stage < version.status.stage := by
    rw [hversion]
    exact RecoveryOperation.stage_lt hallowed
  -- an execution that is new is the one of call `i`, and then there was none
  have hnew : ∀ j, RecoverySystem.executed { s.setPhase i op (.committed written) with
      row := version
      statuses := s.statuses ++ [version.status] } j = true →
        (j = i ∧ version.status = .executing) ∨ (j ≠ i ∧ s.executed j = true) := by
    intro j hj
    unfold executed at hj
    cases hcall : (s.setPhase i op (.committed written)).calls[j]? with
    | none => simp [hcall] at hj
    | some call =>
        rcases getElem?_set_cases hcall with ⟨rfl, rfl⟩ | ⟨hne, hcall'⟩
        · have hop : op = .startExecution := by simpa [hcall, RecoveryCall.done] using hj
          rw [hversion, hop]
          exact Or.inl ⟨rfl, rfl⟩
        · refine Or.inr ⟨hne, ?_⟩
          simp only [hcall] at hj
          rw [executed, hcall']
          exact hj
  have hnone : version.status = .executing → ∀ j, s.executed j = false := by
    intro hex j
    by_contra hj
    have hle := h.passed _ (h.executing j (by simpa using hj))
    rw [hex] at hlt
    omega
  refine ⟨?_, ?_, ?_, ?_, ?_, ?_, ?_, ?_⟩
  · refine List.isChain_append.mpr ⟨h.path, .singleton _, ?_⟩
    intro status hs next hn
    rw [h.last] at hs
    cases hs
    cases hn
    rw [hversion]
    exact hallowed
  · exact List.getLast?_concat
  · intro status hs
    rcases List.mem_append.mp hs with hs | hs
    · exact (h.passed status hs).trans (Nat.le_of_lt hlt)
    · rw [List.mem_singleton.mp hs]
  · intro j op' read written' hj
    rcases getElem?_set_cases hj with ⟨_, heq⟩ | ⟨_, hj⟩
    · cases heq
    · exact h.checked j op' read written' hj
  · intro j op' version' written' hj
    rcases getElem?_set_cases hj with ⟨_, heq⟩ | ⟨hne, hj⟩
    · cases heq
    · exact absurd (h.single j i _ _ hj hi rfl rfl) hne
  · intro j k call call' hj hk hl hl'
    rcases getElem?_set_cases hj with ⟨_, rfl⟩ | ⟨_, hj⟩
    · cases hl
    · rcases getElem?_set_cases hk with ⟨_, rfl⟩ | ⟨_, hk⟩
      · cases hl'
      · exact h.single j k call call' hj hk hl hl'
  · intro j hj
    rcases hnew j hj with ⟨_, hex⟩ | ⟨_, hj⟩
    · rw [hex]
      exact List.mem_append_right _ (List.mem_singleton_self _)
    · exact List.mem_append_left _ (h.executing j hj)
  · intro j k hj hk
    rcases hnew j hj with ⟨hji, hex⟩ | ⟨_, hj⟩
    · rcases hnew k hk with ⟨hki, _⟩ | ⟨_, hk⟩
      · exact hji.trans hki.symm
      · rw [hnone hex k] at hk
        cases hk
    · rcases hnew k hk with ⟨_, hex⟩ | ⟨_, hk⟩
      · rw [hnone hex j] at hj
        cases hj
      · exact h.once j k hj hk

/-- **One step, if its UPDATE finds the status that its call has read.** -/
theorem Ok.step (h : Ok s) (hok : s.unchanged label = true) (hs : s.step label = some s') : Ok s' := by
  cases step_move hs with
  | @pass i op now uuid written hi happly =>
      refine h.setPhase rfl ?_ (fun _ _ heq => by cases heq)
      intro read written' heq
      cases heq
      have hmoves := RecoveryOperation.apply_moves happly
      exact ⟨hmoves.allowed, hmoves.status⟩
  | refuse hi => exact h.setPhase rfl (fun _ _ heq => by cases heq) (fun _ _ heq => by cases heq)
  | @flush i op read written hi hfree =>
      obtain ⟨hallowed, hwritten⟩ := h.checked i op read written hi
      have hsame : s.row.status = read.status := by simpa [unchanged, hi] using hok
      refine h.setPhase rfl (fun _ _ heq => by cases heq) ?_
      intro version written' heq
      cases heq
      have hmoved : written.status ≠ read.status := by
        intro heq
        have := RecoveryOperation.stage_lt hallowed
        rw [← hwritten, heq] at this
        omega
      have hversion : (read.flush written s.row).status = written.status := if_neg hmoved
      rw [hsame]
      exact ⟨hfree, hallowed, hversion.trans hwritten⟩
  | commit hi => exact h.commit hi
  | rollback hi ho => exact h.setPhase rfl (fun _ _ heq => by cases heq) (fun _ _ heq => by cases heq)

end RecoverySystem

/-- **Recovery actions run at most once**, as long as every UPDATE finds the case in the status that its call has read:
the committed statuses of the case are a path of the table, and at most one `start_execution` returns and commits. -/
theorem executes_once {row : RecoveryCase} {operations : List RecoveryOperation} {s : RecoverySystem}
    (h : Runs RecoverySystem.step (fun s label => s.unchanged label = true) (RecoverySystem.start row operations) s) :
    (s.statuses.IsChain fun status next => next ∈ allowedRecoveryTransitions status) ∧
      ∀ i j, s.executed i = true → s.executed j = true → i = j := by
  have hok : s.Ok := h.invariant (RecoverySystem.ok_start row operations) fun _ _ _ hok hc hs => hok.step hc hs
  exact ⟨hok.path, hok.once⟩

namespace Sample

/-- A case that waits for its approval. -/
def recoveryCase : RecoveryCase where
  sourceKey := "ph5:stale:1"
  caseType := .staleProcessing
  severity := "SEV2"
  classification := "STALE_PROCESSING_DETECTED"
  confidenceCandidate := some (4 / 5)
  detectedBy := "ph5_reconciliation"
  proposedAction := .markCompleted
  caseId := "rc-5d41402abc4b2a76"
  detectedAt := 1778576401000000

/-- An approval and two executors. -/
def executors : RecoverySystem :=
  RecoverySystem.start recoveryCase [.approve "operator-a" (some "ok"), .startExecution, .startExecution]

def approval : List RecoveryLabel := [.read 0 1778576402000000 "", .update 0, .commit 0]

/-- The first executor is done before the second one reads. -/
def oneByOne : List RecoveryLabel :=
  approval ++ [.read 1 1778576403000000 "7d793037a0760186", .update 1, .commit 1,
    .read 2 1778576404000000 "574b0df5e2aef2bb"]

/-- Both executors read before one of them writes. -/
def together : List RecoveryLabel :=
  approval ++ [.read 1 1778576403000000 "7d793037a0760186", .read 2 1778576403000000 "574b0df5e2aef2bb",
    .update 1, .commit 1, .update 2, .commit 2]

end Sample

/-- The second executor is refused. -/
theorem executes_once_refused :
    ∃ s, runAll RecoverySystem.step Sample.executors Sample.oneByOne = some s ∧
      s.statuses = [.waitingApproval, .approved, .executing] ∧ s.executed 1 = true ∧ s.executed 2 = false ∧
      (s.statuses.IsChain fun status next => next ∈ allowedRecoveryTransitions status) ∧
      ∀ i j, s.executed i = true → s.executed j = true → i = j := by
  have hrun : (runAll RecoverySystem.step Sample.executors Sample.oneByOne).isSome = true := by decide
  obtain ⟨s, hs⟩ := Option.isSome_iff_exists.mp hrun
  have hstatuses : ((runAll RecoverySystem.step Sample.executors Sample.oneByOne).map fun s =>
      (s.statuses, s.executed 1, s.executed 2)) = some ([.waitingApproval, .approved, .executing], true, false) := by
    decide
  rw [hs] at hstatuses
  simp only [Option.map_some, Option.some.injEq, Prod.mk.injEq] at hstatuses
  obtain ⟨h₁, h₂, h₃⟩ := hstatuses
  exact ⟨s, hs, h₁, h₂, h₃, executes_once (Runs.of_runAll (by decide) hs)⟩

/-- Both executors return and commit, and EXECUTING is followed by EXECUTING. -/
theorem executes_twice :
    Runs RecoverySystem.step (fun _ _ => True) Sample.executors
        ((runAll RecoverySystem.step Sample.executors Sample.together).getD Sample.executors) ∧
      ((runAll RecoverySystem.step Sample.executors Sample.together).map fun s =>
        (s.statuses, s.executed 1, s.executed 2)) =
        some ([.waitingApproval, .approved, .executing, .executing], true, true) ∧
      .executing ∉ allowedRecoveryTransitions .executing := by
  refine ⟨?_, by decide, by decide⟩
  have hrun : (runAll RecoverySystem.step Sample.executors Sample.together).isSome = true := by decide
  obtain ⟨s, hs⟩ := Option.isSome_iff_exists.mp hrun
  have hall : allMeet RecoverySystem.step (fun _ _ => true) Sample.executors Sample.together = true := by decide
  rw [hs]
  exact (Runs.of_runAll hall hs).mono fun _ _ _ => trivial

end EventConsistency
