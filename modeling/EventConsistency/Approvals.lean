import Mathlib.Data.List.Nodup
import EventConsistency.Recovery

/-!
# Recovery cases one call after another

Calls of `RecoveryCaseService` in any order, each in a transaction of its own that is committed when the call returns and
rolled back when it raises.

* `CaseDesk` : the cases, with the calls so far and how each of them ended; `CaseDesk.step` : the next call;
* `CaseDesk.Move` : all that a call can do, with `CaseDesk.step_move`;
* `CaseDesk.Ok` : the invariant; `Advances` : what becomes of a case;
* **`recovery_approval_guard`** : over every sequence of calls.
-/

namespace EventConsistency

open Lib

/-- A call with its arguments: a case that is to wait for approval, or an operation on the case with an id. -/
inductive CaseCall where
  | createCase (new : NewRecoveryCase)
  | operate (caseId : String) (operation : RecoveryOperation)

/-- How a call can fail: by an exception of the service, by the unique constraint on `case_id`, or because PostgreSQL
does not take what it flushes. -/
inductive CaseError where
  | service (x : RecoveryError)
  | integrityError
  | refused
  deriving DecidableEq, Repr

/-- What a call meets: the clock, the uuid it draws, and whether PostgreSQL takes its flush. -/
structure CaseDraws where
  now : Time
  uuid : String
  refused : Bool := false

/-- `approval_required=True` and `status=WAITING_APPROVAL`, the defaults of `create_case`. -/
def NewRecoveryCase.awaiting (new : NewRecoveryCase) : NewRecoveryCase :=
  { new with approvalRequired := true, status := .waitingApproval }

/-- The cases with the row of a case id replaced. -/
def saveCase (caseId : String) (rc : RecoveryCase) (cases : List RecoveryCase) : List RecoveryCase :=
  cases.map fun o => if o.caseId == caseId then rc else o

def CaseCall.perform (draws : CaseDraws) (cases : List RecoveryCase) :
    CaseCall → Except CaseError RecoveryCase × List RecoveryCase
  | createCase new =>
      match RecoveryCaseService.createCase draws.uuid draws.now new.awaiting cases with
      | .error x => (.error (.service x), cases)
      | .ok (rc, after) =>
          if draws.refused then (.error .refused, cases)
          else if (after.map RecoveryCase.caseId).Nodup then (.ok rc, after)
          else (.error .integrityError, cases)
  | operate caseId operation =>
      match operation.apply draws.now draws.uuid (cases.find? fun rc => rc.caseId == caseId) with
      | .error x => (.error (.service x), cases)
      | .ok rc => if draws.refused then (.error .refused, cases) else (.ok rc, saveCase caseId rc cases)

/-- The cases and the calls that were made, with their ends. -/
structure CaseDesk where
  cases : List RecoveryCase := []
  log : List (CaseCall × Except CaseError RecoveryCase) := []

/-- Whether an entry of the log is a `start_execution` of the case that has returned. -/
def startsExecution (caseId : String) : CaseCall × Except CaseError RecoveryCase → Bool
  | (.operate id .startExecution, .ok _) => id == caseId
  | _ => false

namespace CaseDesk

def step (s : CaseDesk) (label : CaseDraws × CaseCall) : Option CaseDesk :=
  let (result, cases) := label.2.perform label.1 s.cases
  some ⟨cases, s.log ++ [(label.2, result)]⟩

/-- The executions of a case that were started. -/
def starts (s : CaseDesk) (caseId : String) : Nat := (s.log.filter (startsExecution caseId)).length

/-- All that a call can do: nothing, a new case, or an operation on one case. -/
inductive Move (s : CaseDesk) : CaseCall → Except CaseError RecoveryCase → List RecoveryCase → Prop where
  | raised {call : CaseCall} {x : CaseError} : Move s call (.error x) s.cases
  | found {new : NewRecoveryCase} {rc : RecoveryCase} : Move s (.createCase new) (.ok rc) s.cases
  | created {new : NewRecoveryCase} {rc : RecoveryCase} (hnew : ∀ o ∈ s.cases, o.sourceKey ≠ rc.sourceKey)
      (hids : ((s.cases ++ [rc]).map RecoveryCase.caseId).Nodup) (hstatus : rc.status = .waitingApproval)
      (hattempt : rc.actionAttemptId = none) : Move s (.createCase new) (.ok rc) (s.cases ++ [rc])
  | moved {op : RecoveryOperation} {rc rc' : RecoveryCase} (hrc : rc ∈ s.cases) (hmoves : op.Moves rc rc') :
      Move s (.operate rc.caseId op) (.ok rc') (saveCase rc.caseId rc' s.cases)

end CaseDesk

namespace CaseDesk

section Steps

variable {s s' : CaseDesk} {draws : CaseDraws} {call : CaseCall} {result : Except CaseError RecoveryCase}
  {cases : List RecoveryCase}

/-- **All that a call can do.** -/
theorem perform_move (s : CaseDesk) (draws : CaseDraws) (call : CaseCall) :
    s.Move call (call.perform draws s.cases).1 (call.perform draws s.cases).2 := by
  cases call with
  | createCase new =>
      unfold CaseCall.perform RecoveryCaseService.createCase
      obtain ⟨hfresh, hf⟩ | ⟨rc, -, -, -, hf⟩ | ⟨-, hf⟩ :=
        RecoveryCaseRepository.getBySourceKey_cases new.awaiting.sourceKey s.cases
      · simp only [hf]
        split
        · exact .raised
        · split
          · rename_i hids
            exact .created hfresh hids rfl rfl
          · exact .raised
      · simp only [hf]
        split
        · exact .raised
        · split
          · exact .found
          · exact .raised
      · simp only [hf]
        exact .raised
  | operate caseId op =>
      cases hf : s.cases.find? (fun rc => rc.caseId == caseId) with
      | none =>
          have hnone : op.apply draws.now draws.uuid none = .error .recoveryCaseNotFound ∨
              op.apply draws.now draws.uuid none = .error .recoveryApprovalMissingActor := by
            cases op with
            | approve actor reason => by_cases ha : actor = "" <;> simp [RecoveryOperation.apply,
                RecoveryCaseService.approve, RecoveryCaseService.get, ha, throw, throwThe, MonadExceptOf.throw, bind,
                Except.bind]
            | _ => exact Or.inl rfl
          rcases hnone with hx | hx <;> (simp only [CaseCall.perform, hf, hx]; exact .raised)
      | some rc =>
          have hid : rc.caseId = caseId := by simpa using List.find?_some hf
          cases ha : op.apply draws.now draws.uuid (some rc) with
          | error x =>
              simp only [CaseCall.perform, hf, ha]
              exact .raised
          | ok rc' =>
              simp only [CaseCall.perform, hf, ha]
              split
              · exact .raised
              · rw [← hid]
                exact .moved (List.mem_of_find?_eq_some hf) (RecoveryOperation.apply_moves ha)

theorem mem_saveCase {caseId : String} {rc o : RecoveryCase} {cases : List RecoveryCase} :
    o ∈ saveCase caseId rc cases ↔
      (o ∈ cases ∧ o.caseId ≠ caseId) ∨ (o = rc ∧ ∃ o' ∈ cases, o'.caseId = caseId) := by
  unfold saveCase
  rw [List.mem_map]
  constructor
  · rintro ⟨o', ho', rfl⟩
    by_cases heq : o'.caseId = caseId
    · exact Or.inr ⟨if_pos (beq_iff_eq.mpr heq), o', ho', heq⟩
    · rw [if_neg (by simpa using heq)]
      exact Or.inl ⟨ho', heq⟩
  · rintro (⟨ho, hne⟩ | ⟨rfl, o', ho', heq⟩)
    · exact ⟨o, ho, if_neg (by simpa using hne)⟩
    · exact ⟨o', ho', if_pos (beq_iff_eq.mpr heq)⟩

/-- A column that an operation keeps. -/
theorem map_saveCase {β : Type} {f : RecoveryCase → β} {rc rc' : RecoveryCase} {cases : List RecoveryCase}
    (hn : (cases.map RecoveryCase.caseId).Nodup) (hrc : rc ∈ cases) (hf : f rc' = f rc) :
    (saveCase rc.caseId rc' cases).map f = cases.map f := by
  unfold saveCase
  rw [List.map_map]
  refine List.map_congr_left fun o ho => ?_
  by_cases heq : o.caseId = rc.caseId
  · have hor : o = rc := List.inj_on_of_nodup_map hn ho hrc heq
    subst hor
    simp only [Function.comp, beq_self_eq_true, if_true, hf]
  · have hne : (o.caseId == rc.caseId) = false := by simpa using heq
    simp only [Function.comp, hne, Bool.false_eq_true, if_false]

theorem starts_append (caseId : String) (log : List (CaseCall × Except CaseError RecoveryCase))
    (e : CaseCall × Except CaseError RecoveryCase) :
    starts ⟨cases, log ++ [e]⟩ caseId = starts ⟨cases, log⟩ caseId + if startsExecution caseId e then 1 else 0 := by
  unfold starts
  rw [List.filter_append, List.length_append]
  by_cases h : startsExecution caseId e = true <;> simp [h]

end Steps

/-- The invariant: ids and source keys are unique, no execution was started twice, none before the approval, and a case
that is approved or further names the actor of an approval that has succeeded. -/
structure Ok (s : CaseDesk) : Prop where
  ids : (s.cases.map RecoveryCase.caseId).Nodup
  keys : (s.cases.map fun rc => rc.sourceKey).Nodup
  once : ∀ caseId, s.starts caseId ≤ 1
  absent : ∀ caseId, (∀ rc ∈ s.cases, rc.caseId ≠ caseId) → s.starts caseId = 0
  early : ∀ rc ∈ s.cases, rc.status.stage < 2 → rc.actionAttemptId = none ∧ s.starts rc.caseId = 0
  approval : ∀ rc ∈ s.cases, 1 ≤ rc.status.stage → rc.status.stage ≤ 3 → ∃ actor reason result, actor ≠ "" ∧
    (CaseCall.operate rc.caseId (.approve actor reason), Except.ok result) ∈ s.log ∧ rc.approvedBy = some actor

section Invariant

variable {s s' : CaseDesk} {draws : CaseDraws} {call : CaseCall} {result : Except CaseError RecoveryCase}
  {cases : List RecoveryCase} {e : CaseCall × Except CaseError RecoveryCase}

/-- A call that starts no execution and leaves the cases. -/
theorem Ok.log (h : Ok s) (he : ∀ caseId, startsExecution caseId e = false) : Ok ⟨s.cases, s.log ++ [e]⟩ := by
  have hstarts : ∀ caseId, starts ⟨s.cases, s.log ++ [e]⟩ caseId = s.starts caseId := by
    intro caseId
    rw [starts_append, he caseId]
    rfl
  refine ⟨h.ids, h.keys, fun caseId => (hstarts caseId).trans_le (h.once caseId), ?_, ?_, ?_⟩
  · exact fun caseId habs => (hstarts caseId).trans (h.absent caseId habs)
  · exact fun rc hrc hstage => ⟨(h.early rc hrc hstage).1, (hstarts _).trans (h.early rc hrc hstage).2⟩
  · intro rc hrc hlow hhigh
    obtain ⟨actor, reason, result, hactor, hmem, hby⟩ := h.approval rc hrc hlow hhigh
    exact ⟨actor, reason, result, hactor, List.mem_append_left _ hmem, hby⟩

/-- A case with a new id and a new source key that waits for approval. -/
theorem Ok.create (h : Ok s) {rc : RecoveryCase} (hnew : ∀ o ∈ s.cases, o.sourceKey ≠ rc.sourceKey)
    (hids : ((s.cases ++ [rc]).map RecoveryCase.caseId).Nodup) (hstatus : rc.status = .waitingApproval)
    (hattempt : rc.actionAttemptId = none) : Ok ⟨s.cases ++ [rc], s.log⟩ := by
  have hfresh : ∀ o ∈ s.cases, o.caseId ≠ rc.caseId := by
    rw [List.map_append, List.map_singleton] at hids
    have hdisjoint := List.disjoint_of_nodup_append hids
    intro o ho heq
    exact hdisjoint (List.mem_map_of_mem ho) (by simp [heq])
  refine ⟨hids, ?_, h.once, ?_, ?_, ?_⟩
  · rw [List.map_append, List.map_singleton]
    refine List.Nodup.append h.keys (List.nodup_singleton _) ?_
    rw [List.disjoint_singleton]
    intro hmem
    obtain ⟨o, ho, heq⟩ := List.mem_map.mp hmem
    exact hnew o ho heq
  · exact fun caseId habs => h.absent caseId fun o ho => habs o (List.mem_append_left _ ho)
  · intro o ho hstage
    rcases List.mem_append.mp ho with ho | ho
    · exact h.early o ho hstage
    · rw [List.mem_singleton.mp ho]
      exact ⟨hattempt, h.absent rc.caseId hfresh⟩
  · intro o ho hlow hhigh
    rcases List.mem_append.mp ho with ho | ho
    · exact h.approval o ho hlow hhigh
    · rw [List.mem_singleton.mp ho, hstatus] at hlow
      exact absurd hlow (by decide)

/-- An operation on one of the cases. -/
theorem Ok.operate (h : Ok s) {op : RecoveryOperation} {rc rc' : RecoveryCase} (hrc : rc ∈ s.cases)
    (hmoves : op.Moves rc rc') :
    Ok ⟨saveCase rc.caseId rc' s.cases, s.log ++ [(.operate rc.caseId op, .ok rc')]⟩ := by
  have hstage := RecoveryOperation.stage_lt hmoves.allowed
  -- the only operation that counts is `start_execution`, on a case that was not started
  have hother : ∀ caseId, caseId ≠ rc.caseId ∨ op ≠ .startExecution →
      starts ⟨saveCase rc.caseId rc' s.cases, s.log ++ [(.operate rc.caseId op, .ok rc')]⟩ caseId = s.starts caseId := by
    intro caseId hne
    rw [starts_append]
    have hfalse : startsExecution caseId (.operate rc.caseId op, .ok rc') = false := by
      rcases hne with hne | hne
      · cases op <;> simp [startsExecution, hne.symm]
      · cases op <;> simp_all [startsExecution]
    rw [hfalse]
    rfl
  have hstart : op = .startExecution →
      starts ⟨saveCase rc.caseId rc' s.cases, s.log ++ [(.operate rc.caseId op, .ok rc')]⟩ rc.caseId = 1 := by
    rintro rfl
    have hbefore : rc.status.stage < 2 := hstage
    rw [starts_append]
    have hzero : s.starts rc.caseId = 0 := (h.early rc hrc hbefore).2
    unfold starts at hzero ⊢
    simp [hzero, startsExecution]
  refine ⟨?_, ?_, ?_, ?_, ?_, ?_⟩
  · show ((saveCase rc.caseId rc' s.cases).map RecoveryCase.caseId).Nodup
    rw [map_saveCase h.ids hrc hmoves.caseId]
    exact h.ids
  · show ((saveCase rc.caseId rc' s.cases).map fun rc => rc.sourceKey).Nodup
    rw [map_saveCase h.ids hrc hmoves.sourceKey]
    exact h.keys
  · intro caseId
    by_cases hid : caseId = rc.caseId
    · by_cases hop : op = .startExecution
      · rw [hid, hstart hop]
      · rw [hother caseId (Or.inr hop)]
        exact h.once caseId
    · rw [hother caseId (Or.inl hid)]
      exact h.once caseId
  · intro caseId habs
    have hid : caseId ≠ rc.caseId := by
      rintro rfl
      exact habs rc' (mem_saveCase.mpr (Or.inr ⟨rfl, rc, hrc, rfl⟩)) hmoves.caseId
    rw [hother caseId (Or.inl hid)]
    exact h.absent caseId fun o ho heq => habs o (mem_saveCase.mpr (Or.inl ⟨ho, heq ▸ hid⟩)) heq
  · intro o ho hlow
    rcases mem_saveCase.mp ho with ⟨ho, hid⟩ | ⟨rfl, _⟩
    · rw [hother o.caseId (Or.inl hid)]
      exact h.early o ho hlow
    · rw [hmoves.status] at hlow
      have hop : op ≠ .startExecution := by
        rintro rfl
        exact absurd hlow (by decide)
      have hearly := h.early rc hrc (Nat.lt_trans hstage hlow)
      rw [hother o.caseId (Or.inr hop), hmoves.caseId]
      exact ⟨(hmoves.attempt.resolve_left hop).trans hearly.1, hearly.2⟩
  · intro o ho hlow hhigh
    rcases mem_saveCase.mp ho with ⟨ho, hid⟩ | ⟨rfl, _⟩
    · obtain ⟨actor, reason, result, hactor, hmem, hby⟩ := h.approval o ho hlow hhigh
      exact ⟨actor, reason, result, hactor, List.mem_append_left _ hmem, hby⟩
    · rcases hmoves.approvedBy with ⟨actor, reason, rfl, hactor, hby⟩ | ⟨htarget, hby⟩
      · refine ⟨actor, reason, o, hactor, ?_, hby⟩
        rw [hmoves.caseId]
        exact List.mem_append_right _ (List.mem_singleton.mpr rfl)
      · rw [hmoves.status] at hlow hhigh
        -- what is not an approval moves a case that has one
        have hbefore : 1 ≤ rc.status.stage := by
          have hallowed := hmoves.allowed
          cases op <;> cases hs : rc.status <;>
            simp_all [RecoveryOperation.target, allowedRecoveryTransitions, RecoveryCaseStatus.stage]
        obtain ⟨actor, reason, result, hactor, hmem, hby'⟩ := h.approval rc hrc hbefore (by omega)
        refine ⟨actor, reason, result, hactor, ?_, hby.trans hby'⟩
        rw [hmoves.caseId]
        exact List.mem_append_left _ hmem

theorem step_move {label : CaseDraws × CaseCall} (h : s.step label = some s') :
    ∃ result cases, s' = ⟨cases, s.log ++ [(label.2, result)]⟩ ∧ s.Move label.2 result cases :=
  ⟨_, _, (Option.some.inj h).symm, perform_move s label.1 label.2⟩

theorem Ok.step (h : Ok s) {label : CaseDraws × CaseCall} (hs : s.step label = some s') : Ok s' := by
  obtain ⟨draws, call⟩ := label
  obtain ⟨result, cases, rfl, hmove⟩ := step_move hs
  cases hmove with
  | @raised call x =>
      have hno : ∀ caseId, startsExecution caseId (call, .error x) = false := by
        intro caseId
        cases call with
        | createCase new => rfl
        | operate id op => cases op <;> rfl
      exact h.log hno
  | @found new rc => exact h.log (e := (.createCase new, .ok rc)) fun caseId => rfl
  | @created new rc hnew hids hstatus hattempt =>
      exact (h.create hnew hids hstatus hattempt).log (e := (.createCase new, .ok rc)) fun caseId => rfl
  | moved hrc hmoves => exact h.operate hrc hmoves

end Invariant

end CaseDesk

/-! ## What becomes of a case -/

/-- What becomes of a case: nothing, or it has moved on, with the attempt id that it had; a rejected one is closed. -/
structure Advances (rc rc' : RecoveryCase) : Prop where
  caseId : rc'.caseId = rc.caseId
  moved : rc' = rc ∨ rc.status.stage < rc'.status.stage
  attempt : ∀ a, rc.actionAttemptId = some a → rc'.actionAttemptId = some a
  rejected : rc.status = .rejected → rc' = rc ∨ rc' = { rc with status := .closed }

section Advances

variable {s s' : CaseDesk} {rc rc' rc'' : RecoveryCase}

theorem RecoveryCaseStatus.stage_le (status : RecoveryCaseStatus) : status.stage ≤ 5 := by
  cases status <;> decide

theorem Advances.refl (rc : RecoveryCase) : Advances rc rc := ⟨rfl, Or.inl rfl, fun _ h => h, fun _ => Or.inl rfl⟩

theorem Advances.of_closed (h : Advances rc rc') (hc : rc.status = .closed) : rc' = rc := by
  refine h.moved.resolve_right fun hlt => ?_
  have hle := rc'.status.stage_le
  rw [hc] at hlt
  exact absurd (Nat.lt_of_lt_of_le hlt hle) (by decide)

theorem Advances.trans (h : Advances rc rc') (h' : Advances rc' rc'') : Advances rc rc'' where
  caseId := h'.caseId.trans h.caseId
  moved := by
    rcases h.moved with rfl | hlt
    · exact h'.moved
    · rcases h'.moved with rfl | hlt'
      · exact Or.inr hlt
      · exact Or.inr (Nat.lt_trans hlt hlt')
  attempt := fun a ha => h'.attempt a (h.attempt a ha)
  rejected := by
    intro hr
    rcases h.rejected hr with rfl | hclosed
    · exact h'.rejected hr
    · have hc : rc'.status = .closed := by rw [hclosed]
      rw [h'.of_closed hc]
      exact Or.inr hclosed

/-- The attempt id of a case is given before the operation or by it, never changed. -/
theorem RecoveryOperation.Moves.advances {op : RecoveryOperation} (h : op.Moves rc rc')
    (hearly : rc.status.stage < 2 → rc.actionAttemptId = none) : Advances rc rc' where
  caseId := h.caseId
  moved := Or.inr (by rw [h.status]; exact RecoveryOperation.stage_lt h.allowed)
  attempt := by
    intro a ha
    rcases h.attempt with rfl | hsame
    · have hbefore : rc.status.stage < 2 := RecoveryOperation.stage_lt h.allowed
      rw [hearly hbefore] at ha
      cases ha
    · rw [hsame, ha]
  rejected := by
    intro hr
    have hallowed := h.allowed
    rw [hr] at hallowed
    have hop : op = .close := by
      cases op <;> simp_all [target, allowedRecoveryTransitions]
    exact Or.inr (h.closes hop)

theorem CaseDesk.Ok.advances (h : s.Ok) {label : CaseDraws × CaseCall} (hs : s.step label = some s')
    (hrc : rc ∈ s.cases) : ∃ rc' ∈ s'.cases, Advances rc rc' := by
  obtain ⟨result, cases, rfl, hmove⟩ := CaseDesk.step_move hs
  generalize label.2 = call at hmove
  cases hmove with
  | raised => exact ⟨rc, hrc, Advances.refl rc⟩
  | found => exact ⟨rc, hrc, Advances.refl rc⟩
  | created _ _ _ _ => exact ⟨rc, List.mem_append_left _ hrc, Advances.refl rc⟩
  | @moved op o o' ho hmoves =>
      by_cases hid : rc.caseId = o.caseId
      · have heq : rc = o := List.inj_on_of_nodup_map h.ids hrc ho hid
        subst heq
        exact ⟨o', CaseDesk.mem_saveCase.mpr (Or.inr ⟨rfl, rc, hrc, rfl⟩),
          hmoves.advances fun hstage => (h.early rc hrc hstage).1⟩
      · exact ⟨rc, CaseDesk.mem_saveCase.mpr (Or.inl ⟨hrc, hid⟩), Advances.refl rc⟩

end Advances

/-! ## Runs -/

section Runs

variable {s s' : CaseDesk} {rc : RecoveryCase}

theorem CaseDesk.Ok.run (h : s.Ok) (hrun : Runs CaseDesk.step (fun _ _ => True) s s') : s'.Ok :=
  Runs.invariant h (fun _ _ _ hok _ hs => hok.step hs) hrun

theorem CaseDesk.ok_start : CaseDesk.Ok {} := by
  refine ⟨List.nodup_nil, List.nodup_nil, fun _ => Nat.zero_le _, fun _ _ => rfl, ?_, ?_⟩
  · intro rc hrc
    cases hrc
  · intro rc hrc
    cases hrc

theorem CaseDesk.Ok.follows (h : s.Ok) (hrun : Runs CaseDesk.step (fun _ _ => True) s s') (hrc : rc ∈ s.cases) :
    ∃ rc' ∈ s'.cases, Advances rc rc' := by
  have hboth : s'.Ok ∧ ∃ rc' ∈ s'.cases, Advances rc rc' := by
    refine Runs.invariant (P := fun s' : CaseDesk => s'.Ok ∧ ∃ rc' ∈ s'.cases, Advances rc rc')
      ⟨h, rc, hrc, Advances.refl rc⟩ ?_ hrun
    rintro s₁ s₂ label ⟨hok, rc₁, hrc₁, hadv₁⟩ _ hs
    obtain ⟨rc₂, hrc₂, hadv₂⟩ := hok.advances hs hrc₁
    exact ⟨hok.step hs, rc₂, hrc₂, hadv₁.trans hadv₂⟩
  exact hboth.2

end Runs

/-- **The approval guard over whole runs.** In every state that a sequence of calls reaches from an empty table: ids and
source keys are unique; a case that is EXECUTING, EXECUTED or EXECUTION_FAILED names the actor of an approval of it that
has succeeded; `start_execution` has succeeded at most once for a case; from then on a case keeps its attempt id, a
CLOSED one stays as it is and a REJECTED one can only be closed; and a call that raises changes no case. -/
theorem recovery_approval_guard {s : CaseDesk} (h : Runs CaseDesk.step (fun _ _ => True) {} s) :
    (s.cases.map RecoveryCase.caseId).Nodup ∧ (s.cases.map fun rc => rc.sourceKey).Nodup ∧
    (∀ rc ∈ s.cases, rc.status = .executing ∨ rc.status = .executed ∨ rc.status = .executionFailed →
      ∃ actor reason result, actor ≠ "" ∧
        (CaseCall.operate rc.caseId (.approve actor reason), Except.ok result) ∈ s.log ∧ rc.approvedBy = some actor) ∧
    (∀ caseId, s.starts caseId ≤ 1) ∧
    (∀ s', Runs CaseDesk.step (fun _ _ => True) s s' → ∀ rc ∈ s.cases, ∃ rc' ∈ s'.cases, rc'.caseId = rc.caseId ∧
      (∀ attempt, rc.actionAttemptId = some attempt → rc'.actionAttemptId = some attempt) ∧
      (rc.status = .closed → rc' = rc) ∧
      (rc.status = .rejected → rc' = rc ∨ rc' = { rc with status := .closed })) ∧
    (∀ draws call x, (CaseCall.perform draws s.cases call).1 = .error x →
      (CaseCall.perform draws s.cases call).2 = s.cases) := by
  have hok : s.Ok := CaseDesk.ok_start.run h
  refine ⟨hok.ids, hok.keys, ?_, hok.once, ?_, ?_⟩
  · rintro rc hrc (hs | hs | hs)
    · exact hok.approval rc hrc (by simp [hs, RecoveryCaseStatus.stage]) (by simp [hs, RecoveryCaseStatus.stage])
    · exact hok.approval rc hrc (by simp [hs, RecoveryCaseStatus.stage]) (by simp [hs, RecoveryCaseStatus.stage])
    · exact hok.approval rc hrc (by simp [hs, RecoveryCaseStatus.stage]) (by simp [hs, RecoveryCaseStatus.stage])
  · intro s' h' rc hrc
    obtain ⟨rc', hrc', hadv⟩ := hok.follows h' hrc
    exact ⟨rc', hrc', hadv.caseId, hadv.attempt, hadv.of_closed, hadv.rejected⟩
  · intro draws call x hx
    have hmove := CaseDesk.perform_move s draws call
    rw [hx] at hmove
    generalize (CaseCall.perform draws s.cases call).2 = cases at hmove
    cases hmove with
    | raised => rfl

namespace Sample

def newCase : NewRecoveryCase where
  sourceKey := "ph5:stale:1"
  caseType := .staleProcessing
  severity := "SEV2"
  classification := "STALE_PROCESSING_DETECTED"
  confidenceCandidate := none
  detectedBy := "ph5_reconciliation"
  proposedAction := .markCompleted

/-- A case is created twice, approved and executed; the execution is tried before the approval and once more after its
start. -/
def caseCalls : List (CaseDraws × CaseCall) :=
  [(⟨1, "0123456789abcdef", false⟩, .createCase newCase), (⟨2, "fedcba9876543210", false⟩, .createCase newCase),
    (⟨3, "a", false⟩, .operate "rc-0123456789abcdef" .startExecution),
    (⟨4, "b", false⟩, .operate "rc-0123456789abcdef" (.approve "operator-a" none)),
    (⟨5, "c", false⟩, .operate "rc-0123456789abcdef" .startExecution),
    (⟨6, "d", false⟩, .operate "rc-0123456789abcdef" .startExecution)]

def caseDesk : CaseDesk := (runAll CaseDesk.step {} caseCalls).getD {}

end Sample

/-- The case is EXECUTING once, with the actor who approved it. -/
theorem recovery_approval_guard_executing :
    Sample.caseDesk.cases.map (fun rc => (rc.status, rc.approvedBy, rc.actionAttemptId)) =
      [(.executing, some "operator-a", some "attempt-c")] ∧
    Sample.caseDesk.starts "rc-0123456789abcdef" ≤ 1 ∧
    ∀ rc ∈ Sample.caseDesk.cases, rc.status = .executing → ∃ actor reason result, actor ≠ "" ∧
      (CaseCall.operate rc.caseId (.approve actor reason), Except.ok result) ∈ Sample.caseDesk.log ∧
      rc.approvedBy = some actor := by
  have hmeet : allMeet CaseDesk.step (fun _ _ => true) {} Sample.caseCalls = true := by decide +kernel
  have hrun : Runs CaseDesk.step (fun _ _ => True) {} Sample.caseDesk :=
    Runs.mono (fun _ _ _ => trivial) (Runs.of_allMeet hmeet)
  have hguard := recovery_approval_guard hrun
  exact ⟨by decide +kernel, hguard.2.2.2.1 _, fun rc hrc hs => hguard.2.2.1 rc hrc (Or.inl hs)⟩

end EventConsistency
