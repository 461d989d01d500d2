import EventConsistency.Services.Reconciliation
import EventConsistency.System

/-!
# Recovery cases of a reconciliation

* `Issue` : what a count other than that of stale records counts; `caseMappings` : those that have a case type;
* `openCases` : the cases of a list of issues, with **`createReconciliationCases_eq`**; `CasesOpened` : what they come to,
  with `openCases_cases`;
* **`reconcile_opens_cases`** : every positive count with a case type gets the case of its source key, the earlier one as
  it is or a new one, and when there is none because of an exception; **`reconcile_leaves_closed`** : what remains
  without an open case.
-/

namespace EventConsistency

open Lib

/-- The counts that say that something is wrong with the tables. -/
inductive Issue where
  | duplicateLedger
  | duplicateExternalEvent
  | completedIdempotencyWithoutTransactionEvent
  | transactionEventWithoutLedger
  | ledgerWithoutTransactionEvent
  | accountBalanceMismatch
  deriving DecidableEq, Repr

namespace Issue

def count (counts : ReconciliationCounts) : Issue → Nat
  | duplicateLedger => counts.duplicateLedgerCount
  | duplicateExternalEvent => counts.duplicateExternalEventCount
  | completedIdempotencyWithoutTransactionEvent => counts.completedIdempotencyWithoutTransactionEventCount
  | transactionEventWithoutLedger => counts.transactionEventWithoutLedgerCount
  | ledgerWithoutTransactionEvent => counts.ledgerWithoutTransactionEventCount
  | accountBalanceMismatch => counts.accountBalanceMismatchCount

/-- The name of the count. -/
def issueType : Issue → String
  | duplicateLedger => "duplicate_ledger"
  | duplicateExternalEvent => "duplicate_external_event"
  | completedIdempotencyWithoutTransactionEvent => "completed_idempotency_without_transaction_event"
  | transactionEventWithoutLedger => "transaction_event_without_ledger"
  | ledgerWithoutTransactionEvent => "ledger_without_transaction_event"
  | accountBalanceMismatch => "account_balance_mismatch"

def sourceKey (issue : Issue) : String := "ph5:reconcile:" ++ issue.issueType

theorem sourceKey_inj {i j : Issue} (h : i.sourceKey = j.sourceKey) : i = j := by
  cases i <;> cases j <;> first | rfl | (revert h; decide)

end Issue

/-- An issue with the arguments of its `_create_count_case`. -/
structure CaseMapping where
  issue : Issue
  caseType : RecoveryCaseType
  proposedAction : RecoveryProposedAction
  severity : String
  quarantineGlobal : Bool

/-- The issues with a case type, in the order of `_create_reconciliation_cases`. -/
def caseMappings : List CaseMapping :=
  [⟨.duplicateLedger, .duplicateLedger, .keepQuarantined, "SEV1", true⟩,
    ⟨.accountBalanceMismatch, .balanceMismatch, .keepQuarantined, "SEV1", true⟩,
    ⟨.completedIdempotencyWithoutTransactionEvent, .orphanIdempotency, .noopReviewOnly, "SEV2", false⟩,
    ⟨.transactionEventWithoutLedger, .failoverInDoubt, .keepQuarantined, "SEV1", true⟩,
    ⟨.ledgerWithoutTransactionEvent, .consistencyIssueCandidate, .keepQuarantined, "SEV1", true⟩]

/-- A case that is not EXECUTED, REJECTED or CLOSED. -/
def RecoveryCase.isOpen (rc : RecoveryCase) : Bool := !([.executed, .rejected, .closed].contains rc.status)

namespace ReconciliationService

/-- The case of one issue. -/
def createIssueCase (draws : ReconcileDraws) (quarantineService : Bool) (m : CaseMapping) : Work RecoveryCaseLink :=
  createCountCase draws quarantineService m.issue.issueType m.caseType m.proposedAction m.severity m.quarantineGlobal

/-- The links so far and those of the issues that are left, a case for each with a positive count. -/
def openCases (draws : ReconcileDraws) (quarantineService : Bool) (counts : ReconciliationCounts) :
    List CaseMapping → List RecoveryCaseLink → Work (List RecoveryCaseLink)
  | [], links => pure links
  | m :: rest, links =>
      if m.issue.count counts > 0 then do
        let link ← createIssueCase draws quarantineService m
        openCases draws quarantineService counts rest (links ++ [link])
      else openCases draws quarantineService counts rest links

theorem createReconciliationCases_eq (draws : ReconcileDraws) (quarantineService : Bool)
    (counts : ReconciliationCounts) :
    createReconciliationCases draws quarantineService counts =
      openCases draws quarantineService counts caseMappings [] := rfl

end ReconciliationService

/-- The cases of the issue. -/
def Issue.cases (issue : Issue) (cases : List RecoveryCase) : Nat :=
  cases.countP fun rc => rc.sourceKey == issue.sourceKey

/-- The link of an issue and its case: the earlier case of the source key, or else a new one. -/
structure Linked (issue : Issue) (cases cases' : List RecoveryCase) (link : RecoveryCaseLink) (rc : RecoveryCase) :
    Prop where
  issueType : link.issueType = issue.issueType
  sourceKey : link.sourceKey = rc.sourceKey
  caseId : link.caseId = rc.caseId
  key : rc.sourceKey = issue.sourceKey
  mem : rc ∈ cases'
  earlier : rc ∈ cases ∨ (∀ earlier ∈ cases, earlier.sourceKey ≠ issue.sourceKey) ∧ rc.status = .waitingApproval

/-- What the cases of a list of issues come to: no issue had several, every one with a positive count is linked, and
nothing else is. -/
structure CasesOpened (counts : ReconciliationCounts) (mappings : List CaseMapping) (links : List RecoveryCaseLink)
    (cases : List RecoveryCase) (links' : List RecoveryCaseLink) (cases' : List RecoveryCase) : Prop where
  linksKept : ∀ link ∈ links, link ∈ links'
  casesKept : ∀ rc ∈ cases, rc ∈ cases'
  single : ∀ m ∈ mappings, 0 < m.issue.count counts → m.issue.cases cases ≤ 1
  linked : ∀ m ∈ mappings, 0 < m.issue.count counts → ∃ link ∈ links', ∃ rc, Linked m.issue cases cases' link rc
  only : ∀ link ∈ links', link ∈ links ∨
    ∃ m ∈ mappings, link.issueType = m.issue.issueType ∧ link.sourceKey = m.issue.sourceKey

section CasesOpened

variable {issue issue' : Issue} {counts : ReconciliationCounts} {m : CaseMapping} {mappings : List CaseMapping}
  {cases cases' cases'' : List RecoveryCase} {link : RecoveryCaseLink} {links links' : List RecoveryCaseLink}
  {rc rc' : RecoveryCase}

/-- What the case of one issue adds is no case of another. -/
theorem Linked.cases_ne (h : Linked issue cases cases' link rc) (hcases : cases' = cases ∨ cases' = cases ++ [rc])
    (hne : issue' ≠ issue) : issue'.cases cases' = issue'.cases cases ∧
      ∀ o ∈ cases', o.sourceKey = issue'.sourceKey → o ∈ cases := by
  have hkey : rc.sourceKey ≠ issue'.sourceKey := by
    rw [h.key]
    exact fun heq => hne (Issue.sourceKey_inj heq).symm
  rcases hcases with rfl | rfl
  · exact ⟨rfl, fun o ho _ => ho⟩
  · constructor
    · simp [Issue.cases, List.countP_append, hkey]
    · intro o ho hsame
      rcases List.mem_append.mp ho with ho | ho
      · exact ho
      · rw [List.mem_singleton.mp ho] at hsame
        exact absurd hsame hkey

theorem CasesOpened.nil : CasesOpened counts [] links cases links cases where
  linksKept _ h := h
  casesKept _ h := h
  single _ hm := absurd hm List.not_mem_nil
  linked _ hm := absurd hm List.not_mem_nil
  only _ h := .inl h

/-- An issue that has not been counted. -/
theorem CasesOpened.skip (h : CasesOpened counts mappings links cases links' cases') (hzero : ¬m.issue.count counts > 0) :
    CasesOpened counts (m :: mappings) links cases links' cases' where
  linksKept := h.linksKept
  casesKept := h.casesKept
  single m' hm hpos := by
    rcases List.mem_cons.mp hm with rfl | hm
    · exact absurd hpos hzero
    · exact h.single m' hm hpos
  linked m' hm hpos := by
    rcases List.mem_cons.mp hm with rfl | hm
    · exact absurd hpos hzero
    · exact h.linked m' hm hpos
  only link hl := by
    rcases h.only link hl with hold | ⟨m', hm, hissue⟩
    · exact .inl hold
    · exact .inr ⟨m', List.mem_cons_of_mem _ hm, hissue⟩

/-- The case of an issue before those of the others. -/
theorem CasesOpened.cons (h : CasesOpened counts mappings (links ++ [link]) cases' links' cases'')
    (hlinked : Linked m.issue cases cases' link rc) (hcases : cases' = cases ∨ cases' = cases ++ [rc])
    (hsingle : m.issue.cases cases ≤ 1) (hother : ∀ m' ∈ mappings, m'.issue ≠ m.issue) :
    CasesOpened counts (m :: mappings) links cases links' cases'' where
  linksKept o ho := h.linksKept o (List.mem_append_left _ ho)
  casesKept o ho := by
    rcases hcases with rfl | rfl
    · exact h.casesKept o ho
    · exact h.casesKept o (List.mem_append_left _ ho)
  single m' hm hpos := by
    rcases List.mem_cons.mp hm with rfl | hm
    · exact hsingle
    · rw [← (hlinked.cases_ne hcases (hother m' hm)).1]
      exact h.single m' hm hpos
  linked m' hm hpos := by
    rcases List.mem_cons.mp hm with rfl | hm
    · exact ⟨link, h.linksKept _ (List.mem_append_right _ (List.mem_singleton_self link)), rc,
        { hlinked with mem := h.casesKept rc hlinked.mem }⟩
    · obtain ⟨link', hl, rc', hlinked'⟩ := h.linked m' hm hpos
      have hcases' := (hlinked.cases_ne hcases (hother m' hm)).2
      refine ⟨link', hl, rc', { hlinked' with earlier := ?_ }⟩
      rcases hlinked'.earlier with hold | ⟨hnone, hstatus⟩
      · exact .inl (hcases' rc' hold hlinked'.key)
      · refine .inr ⟨fun o ho => hnone o ?_, hstatus⟩
        rcases hcases with rfl | rfl
        · exact ho
        · exact List.mem_append_left _ ho
  only link' hl := by
    rcases h.only link' hl with hold | ⟨m', hm, hissue⟩
    · rcases List.mem_append.mp hold with hold | hnew
      · exact .inl hold
      · rw [List.mem_singleton.mp hnew]
        exact .inr ⟨m, List.mem_cons_self, hlinked.issueType, hlinked.sourceKey.trans hlinked.key⟩
    · exact .inr ⟨m', List.mem_cons_of_mem _ hm, hissue⟩

end CasesOpened

namespace ReconciliationService

section Specs

variable {draws : ReconcileDraws} {quarantineService : Bool} {counts : ReconciliationCounts} {m : CaseMapping}
  {mappings : List CaseMapping} {x : RecoveryError} {rc : RecoveryCase} {cases : List RecoveryCase}

/-- The case of an issue, as `_create_count_case` asks for it. -/
def issueCase (m : CaseMapping) : NewRecoveryCase where
  sourceKey := m.issue.sourceKey
  caseType := m.caseType
  severity := m.severity
  classification := m.issue.issueType.toUpper ++ "_DETECTED"
  confidenceCandidate := some (17 / 20)
  detectedBy := "ph5_reconciliation"
  proposedAction := m.proposedAction

/-- `_create_count_case` when `create_case` raises. -/
theorem createIssueCase_error {s : Db × List RecoveryCase}
    (h : RecoveryCaseService.createCase (draws.caseUuid m.issue.issueType) (draws.caseNow m.issue.issueType)
      (issueCase m) s.2 = .error x) : createIssueCase draws quarantineService m s = .error (.recovery x) := by
  show Except.bind (Except.map _ ((RecoveryCaseService.createCase _ _ (issueCase m) s.2).mapError _)) _ = _
  rw [h]
  rfl

/-- What it does with the case, and the link that it returns. -/
theorem createIssueCase_ok (quarantineService : Bool) {s : Db × List RecoveryCase}
    (h : RecoveryCaseService.createCase (draws.caseUuid m.issue.issueType) (draws.caseNow m.issue.issueType)
      (issueCase m) s.2 = .ok (rc, cases)) : ∃ quarantineId db, createIssueCase draws quarantineService m s =
        .ok (⟨m.issue.issueType, m.caseType, rc.sourceKey, rc.caseId, quarantineId⟩, (db, cases)) := by
  have run : createIssueCase draws quarantineService m s = Except.bind (Except.map _
      ((RecoveryCaseService.createCase _ _ (issueCase m) s.2).mapError _)) _ := rfl
  rw [run, h]
  by_cases hq : (m.quarantineGlobal && quarantineService) = true
  · simp only [hq, if_true]
    exact ⟨_, _, rfl⟩
  · simp only [hq]
    exact ⟨_, _, rfl⟩

/-- **The case of one issue**, or it has several. -/
theorem createIssueCase_cases (draws : ReconcileDraws) (quarantineService : Bool) (m : CaseMapping)
    (s : Db × List RecoveryCase) :
    (m.issue.cases s.2 ≤ 1 ∧ ∃ link s', createIssueCase draws quarantineService m s = .ok (link, s') ∧
      ∃ rc, Linked m.issue s.2 s'.2 link rc ∧ (s'.2 = s.2 ∨ s'.2 = s.2 ++ [rc])) ∨
    (1 < m.issue.cases s.2 ∧
      createIssueCase draws quarantineService m s = .error (.recovery .multipleResultsFound)) := by
  obtain ⟨hnone, hfound⟩ | ⟨rc, hmem, honly, hkey, hfound⟩ | ⟨hseveral, hfound⟩ :=
    RecoveryCaseRepository.getBySourceKey_cases (issueCase m).sourceKey s.2
  · have hcreated : RecoveryCaseService.createCase (draws.caseUuid m.issue.issueType)
        (draws.caseNow m.issue.issueType) (issueCase m) s.2 = .ok (RecoveryCaseService.newCase (draws.caseUuid m.issue.issueType)
          (draws.caseNow m.issue.issueType) (issueCase m), s.2 ++ [RecoveryCaseService.newCase
          (draws.caseUuid m.issue.issueType) (draws.caseNow m.issue.issueType) (issueCase m)]) := by
      unfold RecoveryCaseService.createCase
      rw [hfound]
    obtain ⟨quarantineId, db, run⟩ := createIssueCase_ok quarantineService hcreated
    have hzero : m.issue.cases s.2 = 0 := List.countP_eq_zero.mpr fun rc hrc hsame =>
      hnone rc hrc (beq_iff_eq.mp hsame)
    exact .inl ⟨by omega, _, _, run, _, ⟨rfl, rfl, rfl, rfl, List.mem_append_right _ (List.mem_singleton_self _),
      .inr ⟨hnone, rfl⟩⟩, .inr rfl⟩
  · have hcreated : RecoveryCaseService.createCase (draws.caseUuid m.issue.issueType)
        (draws.caseNow m.issue.issueType) (issueCase m) s.2 = .ok (rc, s.2) := by
      unfold RecoveryCaseService.createCase
      rw [hfound]
    obtain ⟨quarantineId, db, run⟩ := createIssueCase_ok quarantineService hcreated
    have hone : m.issue.cases s.2 = 1 := List.countP_eq_length_filter.trans (congrArg List.length honly)
    exact .inl ⟨by omega, _, _, run, rc, ⟨rfl, rfl, rfl, hkey, hmem, .inl hmem⟩, .inl rfl⟩
  · refine .inr ⟨hseveral, createIssueCase_error ?_⟩
    unfold RecoveryCaseService.createCase
    rw [hfound]

/-- **The cases of a list of issues**, or one that was counted has several. -/
theorem openCases_cases (draws : ReconcileDraws) (quarantineService : Bool) (counts : ReconciliationCounts)
    (hn : (mappings.map CaseMapping.issue).Nodup) (links : List RecoveryCaseLink)
    (s : Db × List RecoveryCase) :
    (∃ links' s', openCases draws quarantineService counts mappings links s = .ok (links', s') ∧
      CasesOpened counts mappings links s.2 links' s'.2) ∨
    (openCases draws quarantineService counts mappings links s = .error (.recovery .multipleResultsFound) ∧
      ∃ m ∈ mappings, 0 < m.issue.count counts ∧ 1 < m.issue.cases s.2) := by
  induction mappings generalizing links s with
  | nil => exact .inl ⟨links, s, rfl, .nil⟩
  | cons m rest ih =>
      obtain ⟨hhead, hn⟩ := List.nodup_cons.mp hn
      unfold openCases
      split
      · rename_i hpos
        obtain ⟨hsingle, link, s', run, rc, hlinked, hcases⟩ | ⟨hseveral, run⟩ :=
          createIssueCase_cases draws quarantineService m s
        · have hother : ∀ m' ∈ rest, m'.issue ≠ m.issue := fun m' hm heq => hhead (heq ▸ List.mem_map_of_mem hm)
          have hrun : ∀ r, openCases draws quarantineService counts rest (links ++ [link]) s' = r →
              (do let link ← createIssueCase draws quarantineService m
                  openCases draws quarantineService counts rest (links ++ [link]) : Work _) s = r := by
            rintro r rfl
            show Except.bind (createIssueCase draws quarantineService m s) _ = _
            rw [run]
            rfl
          obtain ⟨links', s'', hrest, hopened⟩ | ⟨hrest, m', hm, hpos', hseveral⟩ := ih hn (links ++ [link]) s'
          · exact .inl ⟨links', s'', hrun _ hrest, hopened.cons hlinked hcases hsingle hother⟩
          · rw [(hlinked.cases_ne hcases (hother m' hm)).1] at hseveral
            exact .inr ⟨hrun _ hrest, m', List.mem_cons_of_mem _ hm, hpos', hseveral⟩
        · refine .inr ⟨?_, m, List.mem_cons_self, hpos, hseveral⟩
          show Except.bind (createIssueCase draws quarantineService m s) _ = _
          rw [run]
          rfl
      · rename_i hzero
        obtain ⟨links', s', hrest, hopened⟩ | ⟨hrest, m', hm, hseveral⟩ := ih hn links s
        · exact .inl ⟨links', s', hrest, hopened.skip hzero⟩
        · exact .inr ⟨hrest, m', List.mem_cons_of_mem _ hm, hseveral⟩

end Specs

end ReconciliationService

open ReconciliationService

/-- **The cases of a reconciliation.** When it returns, every positive count with a case type has a link to the recovery
case of its source key. That case is the earlier one as it is, if there was one, and else a new one that waits for
approval; it is open unless an earlier one was not. Nothing is linked to `duplicate_external_event_count`. It raises
exactly when its threshold cannot be computed, when the event of a stale record cannot be read, or when there are
several earlier cases of the source key of such a count. -/
theorem reconcile_opens_cases (st : Settings) (draws : ReconcileDraws) (quarantineService : Bool) (now now' : Time)
    (thresholdMinutes : Int) (db : Db) (cases : List RecoveryCase) :
    (∀ counts links s,
      reconcile st draws quarantineService now now' thresholdMinutes true (db, cases) = .ok ((counts, links), s) →
      (∀ issue : Issue, issue ≠ .duplicateExternalEvent → 0 < issue.count counts →
        ∃ link ∈ links, ∃ rc ∈ s.2, link.issueType = issue.issueType ∧ link.caseId = rc.caseId ∧
          rc.sourceKey = issue.sourceKey ∧
          (rc ∈ cases ∨ (∀ earlier ∈ cases, earlier.sourceKey ≠ issue.sourceKey) ∧ rc.status = .waitingApproval) ∧
          ((∀ earlier ∈ cases, earlier.sourceKey = issue.sourceKey → earlier.isOpen = true) → rc.isOpen = true)) ∧
      (∀ link ∈ links, link.issueType ≠ Issue.duplicateExternalEvent.issueType ∧
        link.sourceKey ≠ Issue.duplicateExternalEvent.sourceKey)) ∧
    ((∃ x, reconcile st draws quarantineService now now' thresholdMinutes true (db, cases) = .error x) ↔
      inRange now thresholdMinutes = false ∨ inRange now' thresholdMinutes = false ∨ Obscured now' thresholdMinutes db ∨
      ∃ counts, reconciliationCounts st draws.toDraws now now' thresholdMinutes db cases = .ok counts ∧
        ∃ issue : Issue, issue ≠ .duplicateExternalEvent ∧ 0 < issue.count counts ∧ 1 < issue.cases cases) := by
  have mapped : ∀ issue : Issue, issue ≠ .duplicateExternalEvent ↔ ∃ m ∈ caseMappings, m.issue = issue := by
    intro issue
    cases issue <;> decide
  have hnodup : (caseMappings.map CaseMapping.issue).Nodup := by decide
  obtain ⟨fits, fits', hclear, counts, hcounts⟩ | ⟨hraises, x, hcounts⟩ := reconciliationCounts_cases st db cases
    now now' thresholdMinutes draws.toDraws
  · rw [reconcile_counted hcounts, if_pos rfl, createReconciliationCases_eq]
    obtain ⟨links, s, run, hopened⟩ | ⟨run, m, hm, hpos, hseveral⟩ := openCases_cases draws
      quarantineService counts hnodup [] (db, cases)
    · rw [run]
      refine ⟨?_, ?_⟩
      · rintro _ _ _ ⟨⟩
        refine ⟨fun issue hne hpos => ?_, fun link hl => ?_⟩
        · obtain ⟨m, hm, rfl⟩ := (mapped issue).mp hne
          obtain ⟨link, hl, rc, hlinked⟩ := hopened.linked m hm hpos
          refine ⟨link, hl, rc, hlinked.mem, hlinked.issueType, hlinked.caseId, hlinked.key, hlinked.earlier, ?_⟩
          intro hearlier
          rcases hlinked.earlier with hold | ⟨_, hs⟩
          · exact hearlier rc hold hlinked.key
          · simp [RecoveryCase.isOpen, hs]
        · rcases hopened.only link hl with hnil | ⟨m, hm, htype, hkey⟩
          · exact absurd hnil List.not_mem_nil
          · have hne := (mapped m.issue).mpr ⟨m, hm, rfl⟩
            rw [htype, hkey]
            refine ⟨fun heq => ?_, fun heq => hne (Issue.sourceKey_inj heq)⟩
            exact hne (Issue.sourceKey_inj (congrArg ("ph5:reconcile:" ++ ·) heq))
      · constructor
        · rintro ⟨x, hx⟩
          cases hx
        · rintro (overflows | overflows | hobscured | ⟨counts', hcounts', issue, hne, hpos, hseveral⟩)
          · rw [fits] at overflows
            cases overflows
          · rw [fits'] at overflows
            cases overflows
          · exact absurd hobscured hclear
          · rw [hcounts] at hcounts'
            cases hcounts'
            obtain ⟨m, hm, rfl⟩ := (mapped issue).mp hne
            exact absurd (hopened.single m hm hpos) (Nat.not_le_of_gt hseveral)
    · rw [run]
      refine ⟨?_, ?_⟩
      · rintro _ _ _ ⟨⟩
      · exact ⟨fun _ => .inr (.inr (.inr ⟨counts, hcounts, m.issue, (mapped _).mpr ⟨m, hm, rfl⟩, hpos, hseveral⟩)),
          fun _ => ⟨_, rfl⟩⟩
  · rw [reconcile_error hcounts]
    refine ⟨?_, fun _ => ?_, fun _ => ⟨_, rfl⟩⟩
    · rintro _ _ _ ⟨⟩
    · exact hraises.imp id fun h => h.imp id .inl

/-- Whether the links lead to an open case of the issue. -/
def Issue.opened (issue : Issue) (links : List RecoveryCaseLink) (cases : List RecoveryCase) : Bool :=
  links.any fun link => cases.any fun rc =>
    link.caseId == rc.caseId && rc.sourceKey == issue.sourceKey && rc.isOpen

namespace Sample

def twiceReceived (id : Nat) : TransactionEvent :=
  ⟨id, "evt-1", "key-1", 1, .deposit, 500, "KRW", .completed, ⟨1778576400000000, some 0⟩, 0, 0⟩

/-- An external event that was stored twice, the first time with two ledger entries. -/
def duplicated : Db where
  accounts := [⟨1, "ACC-1", 1000, "ACTIVE"⟩]
  events := [twiceReceived 1, twiceReceived 2]
  ledger := [⟨1, 1, 1, .credit, 500, 500, 0⟩, ⟨2, 1, 1, .credit, 500, 1000, 0⟩]

/-- The case of an earlier duplicate, which was closed. -/
def closedCase : RecoveryCase where
  sourceKey := "ph5:reconcile:duplicate_ledger"
  caseType := .duplicateLedger
  severity := "SEV1"
  classification := "DUPLICATE_LEDGER_DETECTED"
  confidenceCandidate := some (17 / 20)
  detectedBy := "ph5_reconciliation"
  proposedAction := .keepQuarantined
  status := .closed
  caseId := "rc-0123456789abcdef"
  detectedAt := 0

def reconcileDraws : ReconciliationService.ReconcileDraws where
  uuid := fun _ => "fedcba9876543210"
  now := fun _ => 0
  caseUuid := fun issueType => issueType
  caseNow := fun _ => 0
  quarantineRow := fun _ => 1
  quarantineUuid := fun issueType => issueType
  quarantineNow := fun _ => 0

def reconciled : (ReconciliationCounts × List RecoveryCaseLink) × Db × List RecoveryCase :=
  (reconcile settings reconcileDraws true 0 0 5 true (duplicated, [closedCase])).toOption.getD
    (({}, []), duplicated, [closedCase])

theorem reconciled_eq :
    reconcile settings reconcileDraws true 0 0 5 true (duplicated, [closedCase]) = .ok reconciled := by
  have returned : (reconcile settings reconcileDraws true 0 0 5 true (duplicated, [closedCase])).isOk = true := by
    decide +kernel
  unfold reconciled
  revert returned
  cases reconcile settings reconcileDraws true 0 0 5 true (duplicated, [closedCase]) with
  | error x => exact nofun
  | ok out => exact fun _ => rfl

end Sample

/-- Neither the duplicate ledger entry nor the duplicate event gets an open case. -/
theorem reconcile_leaves_closed :
    reconcile Sample.settings Sample.reconcileDraws true 0 0 5 true (Sample.duplicated, [Sample.closedCase]) =
      .ok Sample.reconciled ∧
    (0 < Issue.duplicateLedger.count Sample.reconciled.1.1 ∧
      Issue.duplicateLedger.opened Sample.reconciled.1.2 Sample.reconciled.2.2 = false) ∧
    (0 < Issue.duplicateExternalEvent.count Sample.reconciled.1.1 ∧
      Issue.duplicateExternalEvent.opened Sample.reconciled.1.2 Sample.reconciled.2.2 = false) :=
  ⟨Sample.reconciled_eq, by decide +kernel, by decide +kernel⟩

/-- The event without an entry gets one. -/
theorem reconcile_opens_cases_event :
    0 < Issue.transactionEventWithoutLedger.count Sample.reconciled.1.1 ∧
      ∃ link ∈ Sample.reconciled.1.2, ∃ rc ∈ Sample.reconciled.2.2, link.caseId = rc.caseId ∧
        rc.sourceKey = Issue.transactionEventWithoutLedger.sourceKey ∧ rc.isOpen = true := by
  have hpos : 0 < Issue.transactionEventWithoutLedger.count Sample.reconciled.1.1 := by decide +kernel
  obtain ⟨link, hl, rc, hrc, _, hid, hkey, _, hopen⟩ := ((reconcile_opens_cases Sample.settings Sample.reconcileDraws
    true 0 0 5 Sample.duplicated [Sample.closedCase]).1 _ _ _ Sample.reconciled_eq).1 .transactionEventWithoutLedger
    (by decide) hpos
  exact ⟨hpos, link, hl, rc, hrc, hid, hkey, hopen (by decide)⟩

end EventConsistency
