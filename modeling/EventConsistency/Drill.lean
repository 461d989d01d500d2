import EventConsistency.Scripts.RestoreDrill
import Mathlib.Data.List.TakeWhile

/-!
# The restore drill from end to end

* `Consistent`, `checks_zero_iff` : what the rows of the query are for; `consistent_reached` : the service keeps it;
* `restore_wp`, `restoreDrill_wp`, `backup_wp` : what the scripts do, with any programs failing;
* **`drill_sound`** : a drill that succeeds has restored the source, and the source is consistent; **`drill_passes`** :
  the drill of a database that the service has reached succeeds;
* **`drill_frame`** : nothing but the restore database and the files of the backup changes;
* **`checksum_ignored`** : no drill depends on what the check of the checksum file answers.
-/

namespace EventConsistency

open Lib Lib.Shell Lib.Shell.Command

namespace DrConsistencyCheck

/-- What the checks are for. -/
structure Consistent (d : Database) : Prop where
  externalIds : (d.db.events.map TransactionEvent.externalEventId).Nodup
  ledgerEvents : (d.db.ledger.map LedgerEntry.transactionEventId).Nodup
  keys : (d.db.records.map IdempotencyRecord.idempotencyKey).Nodup
  owned : ∀ le ∈ d.db.ledger, ∃ te ∈ d.db.events, te.id = le.transactionEventId
  posted : ∀ te ∈ d.db.events, te.status = .completed ∨ te.status = .settled →
    ∃ le ∈ d.db.ledger, le.transactionEventId = te.id
  accounts : ∀ le ∈ d.db.ledger, ∀ te ∈ d.db.events, te.id = le.transactionEventId → le.accountId = te.accountId
  balances : ∀ a ∈ d.db.accounts, ∀ le, latestLedger d.db a.id = some le → le.balanceAfter = a.balance
  sequences : ∀ x ∈ sequencePositions d, x.1 ≤ x.2

section Checks

variable {db : Db} {d : Database}

theorem orphanLedgerCount_eq_zero :
    orphanLedgerCount db = 0 ↔ ∀ le ∈ db.ledger, ∃ te ∈ db.events, te.id = le.transactionEventId := by
  unfold orphanLedgerCount
  rw [List.length_eq_zero_iff, List.filter_eq_nil_iff]
  refine forall₂_congr fun le _ => ?_
  simp

theorem completedEventWithoutLedgerCount_eq_zero :
    completedEventWithoutLedgerCount db = 0 ↔ ∀ te ∈ db.events, te.status = .completed ∨ te.status = .settled →
      ∃ le ∈ db.ledger, le.transactionEventId = te.id := by
  unfold completedEventWithoutLedgerCount
  rw [List.length_eq_zero_iff, List.filter_eq_nil_iff]
  refine forall₂_congr fun te _ => ?_
  simp

theorem ledgerAccountMismatchCount_eq_zero :
    ledgerAccountMismatchCount db = 0 ↔ ∀ le ∈ db.ledger, ∀ te ∈ db.events, te.id = le.transactionEventId →
      le.accountId = te.accountId := by
  unfold ledgerAccountMismatchCount
  rw [List.length_eq_zero_iff, List.flatMap_eq_nil_iff]
  refine forall₂_congr fun le _ => ?_
  rw [List.filter_eq_nil_iff]
  refine forall₂_congr fun te _ => ?_
  simp

theorem sequencePositionLagCount_eq_zero :
    sequencePositionLagCount d = 0 ↔ ∀ x ∈ sequencePositions d, x.1 ≤ x.2 := by
  unfold sequencePositionLagCount
  rw [List.countP_eq_zero]
  refine forall₂_congr fun x _ => ?_
  simp

/-- **All counts are zero exactly in a consistent database.** -/
theorem checks_zero_iff : (∀ c ∈ checks d, c.2 = 0) ↔ Consistent d := by
  unfold checks
  simp only [List.forall_mem_cons, List.not_mem_nil, false_imp_iff, implies_true, and_true,
    accountBalanceMismatchCount_eq_zero, completedEventWithoutLedgerCount_eq_zero, orphanLedgerCount_eq_zero,
    ledgerAccountMismatchCount_eq_zero, sequencePositionLagCount_eq_zero]
  unfold duplicatedExternalEventCount duplicatedIdempotencyKeyCount duplicatedLedgerEventCount
  simp only [List.length_eq_zero_iff, groupDuplicates_eq_nil]
  constructor
  · rintro ⟨balances, posted, externalIds, keys, ledgerEvents, accounts, owned, sequences⟩
    exact ⟨externalIds, ledgerEvents, keys, owned, posted, accounts, balances, sequences⟩
  · intro h
    exact ⟨h.balances, h.posted, h.externalIds, h.keys, h.ledgerEvents, h.accounts, h.owned, h.sequences⟩

theorem le_maxId_iff {ids : List Nat} {last : Nat} : maxId ids ≤ last ↔ ∀ i ∈ ids, i ≤ last := by
  unfold maxId
  induction ids with
  | nil => simp
  | cons i ids ih => simp only [List.foldr_cons, Nat.max_le, List.forall_mem_cons, ih]

end Checks

/-- The sequences have gone as far as the service, and as the accounts that were there before it. -/
structure Covers (p : SequencePositions) (sh : Shared) : Prop where
  accounts : ∀ a ∈ sh.init.accounts, a.id ≤ p.accounts
  events : sh.seqs.event ≤ p.events + 1
  ledger : sh.seqs.ledger ≤ p.ledger + 1
  records : sh.seqs.record ≤ p.records + 1
  histories : sh.seqs.history ≤ p.histories + 1

section Reachable

variable {st : Settings} {calls : List Call} {sh : Shared} {c : Config} {p : SequencePositions}

theorem sequences_covered (h₀ : Initial sh) (h : Reaches anyStep (start st sh calls) c) (hp : Covers p c.shared) :
    ∀ y ∈ sequencePositions ⟨c.shared.db, p⟩, y.1 ≤ y.2 := by
  have drawn := (h.coherent_any h₀).1.kept.drawn
  unfold sequencePositions
  simp only [List.forall_mem_cons, List.not_mem_nil, false_imp_iff, implies_true, and_true, le_maxId_iff,
    List.forall_mem_map]
  refine ⟨fun a ha => ?_, fun e he => ?_, fun r hr => ?_, fun r hr => ?_, fun e he => ?_⟩
  · rcases (h.accounts_grow h₀).mem ha with ⟨a₀, ha₀, hid, _⟩ | hnew
    · rw [hid]
      refine hp.accounts a₀ ?_
      rw [h.init_eq]
      show a₀ ∈ sh.init.accounts
      rw [h₀.init_eq]
      exact ha₀
    · exact hnew.elim
  · have hlt := drawn.event e he
    have hle := hp.events
    omega
  · have hlt := drawn.ledger r hr
    have hle := hp.ledger
    omega
  · have hlt := drawn.record r hr
    have hle := hp.records
    omega
  · have hlt := drawn.history e he
    have hle := hp.histories
    omega

/-- What calls reach is consistent as long as no entry is committed behind a younger one. -/
theorem consistent_reached (h₀ : Initial sh) (he : sh.db.events = []) (hl : sh.db.ledger = [])
    (h : Reaches (fun c label => atCommit backdatesLedger c label = false) (start st sh calls) c)
    (hp : Covers p c.shared) : Consistent ⟨c.shared.db, p⟩ := by
  have hany : Reaches anyStep (start st sh calls) c := h.mono fun _ _ _ => trivial
  obtain ⟨hcoh, hchain⟩ := hany.coherent_any h₀
  have hbooks := (Books.empty he hl).chain hchain
  have hmismatch : accountBalanceMismatchCount c.shared.db = 0 := by
    clear hany hcoh hchain hbooks hp
    induction h with
    | refl =>
        rw [accountBalanceMismatchCount_eq_zero]
        intro a _ r hr
        have hnone : latestLedger sh.db a.id = none := by
          unfold latestLedger Db.entriesOf
          rw [hl]
          rfl
        exact absurd (hnone.symm.trans hr) nofun
    | @step c₁ c₂ label h hok hs ih =>
        have hall : Reaches (permits everything) (start st sh calls) c₁ := h.mono fun c label _ => permits_everything c label
        exact mismatch_step (hall.inv rfl h₀ (Admits.any rfl rfl)) hok hs ih
  exact {
    externalIds := hcoh.valid.event_external
    ledgerEvents := hcoh.valid.ledger_event
    keys := hcoh.valid.record_key
    owned := hcoh.valid.ledger_fk
    posted := fun te hte hs => hbooks.posted te hte ((TransactionStatus.posted_iff te.status).mpr (by tauto))
    accounts := by
      intro le hle te hte hid
      obtain ⟨e, he', hid', haccount, _⟩ := hbooks.owner le hle
      have hsame : e = te := List.inj_on_of_nodup_map hcoh.valid.event_id he' hte (hid'.trans hid.symm)
      rw [← haccount, hsame]
    balances := accountBalanceMismatchCount_eq_zero.mp hmismatch
    sequences := sequences_covered h₀ hany hp }

end Reachable

end DrConsistencyCheck

namespace RestoreDrill

open DrConsistencyCheck

/-! ## Waiting -/

/-- Time passes. -/
def idle : Shell.Change World where
  rel w w' := w' = { w with clock := w'.clock, steps := w'.steps }
  refl _ := rfl
  trans h h' := by rw [h', h]

/-- A program that looks only. -/
def Idle : Program → Prop
  | .tool _ | .composeUp _ | .pgIsready .. | .sha256Check .. | .du _ => True
  | _ => False

/-- Every program does its work, and the names are valid. -/
structure Clean (x : Surroundings) (o : Options) : Prop where
  answers : ∀ trace p, x.answer trace p = 0
  restoreDb : validIdentifier o.restoreDb = true
  restoreUser : validIdentifier o.restoreUser = true

section Waiting

variable {x : Surroundings} {o : Options} {p ready : Program} {q : Script} {rest : List Script} {s : State Program World}
  {Q : Ending → State Program World → Prop}

theorem Clean.unless {n : Nat} (h : x.answer s.trace p = n + 1) : ¬Clean x o := by
  intro hclean
  have hzero := hclean.answers s.trace p
  omega

theorem world_after {code : Nat} : (s.after (outside x) p code).world = effect x p code s.world := rfl

theorem effect_idle (hp : Idle p) (code : Nat) (w : World) : idle.rel w (effect x p code w) := by
  cases p with
  | tool _ | composeUp _ | pgIsready _ _ _ | sha256Check _ _ | du _ => rfl
  | pgDump _ _ _ _ | sha256 _ _ | psql _ _ _ _ | pgRestore _ _ _ _ => exact hp.elim

theorem quiet_attempts (hready : Idle ready) (n : Nat) : Quiet (outside x) idle Idle (attempts ready n) := by
  induction n with
  | zero => exact .ret 1
  | succ n ih =>
      refine .block ?_
      intro p hp
      simp only [List.mem_cons, List.not_mem_nil, or_false] at hp
      obtain rfl | rfl | rfl := hp
      · exact .cond (.run hready (effect_idle hready)) (.ret 0) .skip
      · exact .assign fun _ => rfl
      · exact ih

theorem attempts_clean (hclean : Clean x o) (n : Nat) :
    (call (attempts ready (n + 1)) (outside x) true s).1 = .status 0 := by
  have hzero : (outside x).answer s.trace ready = 0 := hclean.answers _ _
  unfold attempts Command.call Command.block Command.cond run
  dsimp only
  rw [hzero]
  rfl

/-- One of the loops in a script. -/
theorem wait_block (hready : Idle ready) (hfails : ∀ n s', ¬Clean x o → Q (.exited (n + 1)) s')
    (hnext : ∀ s', Since idle Idle s s' → (block (q :: rest)).wp (outside x) true Q s') :
    (block (call (attempts ready 30) :: q :: rest)).wp (outside x) true Q s := by
  refine Quiet.wp_block (quiet_attempts hready 30).call (.call _) ?_ ?_
  · intro n s' _ hfailed
    exact hfails n s' fun hclean => hfailed (attempts_clean hclean 29)
  · intro s' hsince _
    exact hnext s' hsince

/-- `x="$(p)"` in a script. -/
theorem capturing_block {p : Script} : (block (capturing p :: q :: rest)).wp (outside x) true Q s ↔
    p.wp (outside x) false (fun e => between true Q ((block (q :: rest)).wp (outside x) true Q) (.status e.code))
      { s with world := { s.world with output := [] } } := by
  unfold capturing
  rw [wp_block, wp_block_assign, wp_block_last, wp_capture]
  unfold wp
  dsimp only
  generalize hcode : Ending.code _ = code
  cases code with
  | zero => rfl
  | succ n => rfl

theorem capturing_run_block (hfails : ∀ n s', x.answer s.trace p = n + 1 → Q (.exited (n + 1)) s')
    (hnext : (block (q :: rest)).wp (outside x) true Q
      (State.after { s with world := { s.world with output := [] } } (outside x) p 0)) :
    (block (capturing (run p) :: q :: rest)).wp (outside x) true Q s := by
  rw [capturing_block, wp_run]
  have hfails := fun n s' => hfails n s'
  generalize hcode : (outside x).answer _ p = code
  cases code with
  | zero => exact hnext
  | succ n => exact hfails n _ hcode

end Waiting

/-! ## The report -/

/-- The restore has kept to `RTO_TARGET_SECONDS`, if that is an integer. -/
def InTime (o : Options) (restoreDurationSeconds : Nat) : Prop :=
  ∀ n, integer o.rtoTargetSeconds = some n → (restoreDurationSeconds : Int) ≤ n

theorem exceeds_eq_false {o : Options} {n : Nat} : exceeds n o.rtoTargetSeconds = false ↔ InTime o n := by
  unfold exceeds InTime
  cases integer o.rtoTargetSeconds with
  | none => simp
  | some target => simp

/-- A text that is no integer lets any duration pass. -/
example : exceeds 700 "600" = true ∧ exceeds 700 "10m" = false := by decide +kernel

/-- The restored database is the one of the dump, and it has passed. -/
structure Passed (o : Options) (d : Database) (w : World) : Prop where
  restored : w.databases (o.restoreService, clipped o.restoreDb) = some (some d)
  consistent : Consistent d
  reported : ∃ r, w.report = some r ∧ r.drStatus = "PASS" ∧ r.checkOutput = rows d ∧
    InTime o r.restoreDurationSeconds

/-- How a drill ends that restores `content`. -/
structure Concluded (x : Surroundings) (o : Options) (content : Option Database) (code : Nat) (w : World) : Prop where
  sound : code = 0 → ∃ d, content = some d ∧ Passed o d w
  complete : Clean x o → ∀ d, content = some d → ∃ r, w.report = some r ∧ r.checkOutput = rows d ∧
    (code = 0 ↔ Consistent d ∧ InTime o r.restoreDurationSeconds)

theorem Concluded.failed {x : Surroundings} {o : Options} {content : Option Database} {n : Nat} {w : World}
    (h : ¬Clean x o) : Concluded x o content (n + 1) w where
  sound hzero := absurd hzero n.succ_ne_zero
  complete hclean := absurd hclean h

theorem requiredChecks_rows (d : Database) :
    (requiredChecks.all fun name => (rows d).any fun c => c.1 == name) = true := by
  simp [requiredChecks, rows, checks]

theorem repr_eq_zero {n : Nat} : n.repr = "0" ↔ n = 0 := by
  constructor
  · intro h
    have digits : Nat.toDigits 10 n = ['0'] := by
      rw [← Nat.toList_repr, h]
      rfl
    rw [← Nat.ofDigitChars_ten_toDigits (n := n), digits]
    rfl
  · intro h
    rw [h]
    rfl

theorem countsPass_rows {d : Database} : countsPass (rows d) = true ↔ Consistent d := by
  rw [← checks_zero_iff]
  have named : ∀ c ∈ checks d, c.1 ≠ "" := by
    simp [checks]
  unfold countsPass rows
  rw [List.all_map, List.all_eq_true]
  refine forall₂_congr fun c hc => ?_
  simp [named c hc, repr_eq_zero]

theorem result_eq_pass {b : Bool} : result b = "PASS" ↔ b = true := by
  cases b <;> simp [result]

section Restore

variable {x : Surroundings} {o : Options} {d : Database} {content : Option Database} {s : State Program World}

theorem evaluate_wp {file checksumStatus : String} {restoreStartEpoch restoreEndEpoch : Nat}
    (hdb : s.world.databases (o.restoreService, clipped o.restoreDb) = some (some d)) :
    (evaluate o file checksumStatus (rows d) restoreStartEpoch restoreEndEpoch).wp (outside x) true
      (fun e s' => Concluded x o (some d) e.code s'.world) s := by
  unfold evaluate
  refine wp_block_exit ?_ ?_
  · intro hmissing
    exact absurd (requiredChecks_rows d) (Bool.eq_false_iff.mp hmissing)
  intro _
  refine wp_block_run (fun n hanswer => .failed (Clean.unless hanswer)) ?_
  rw [wp_block_assign]
  have verdict : (o.report s.world file checksumStatus (rows d) restoreStartEpoch restoreEndEpoch).drStatus = "PASS" ↔
      Consistent d ∧ InTime o (restoreEndEpoch - restoreStartEpoch) := by
    unfold Options.report
    simp only [result_eq_pass, Bool.and_eq_true, countsPass_rows, Bool.not_eq_true', exceeds_eq_false]
  refine wp_block_exit ?_ ?_
  · intro hfail
    have hstatus := fun h => Bool.eq_false_iff.mp hfail (beq_iff_eq.mpr h)
    exact {
      sound := fun hzero => absurd hzero Nat.one_ne_zero
      complete := by
        rintro _ _ ⟨⟩
        exact ⟨_, rfl, rfl, ⟨fun hzero => absurd hzero Nat.one_ne_zero, fun h => absurd (verdict.mpr h) hstatus⟩⟩ }
  · intro hpass
    have hstatus := beq_iff_eq.mp hpass
    exact {
      sound := fun _ => ⟨d, rfl, hdb, (verdict.mp hstatus).1, _, rfl, hstatus, rfl, (verdict.mp hstatus).2⟩
      complete := by
        rintro _ _ ⟨⟩
        exact ⟨_, rfl, rfl, ⟨fun _ => verdict.mp hstatus, fun _ => rfl⟩⟩ }

theorem dumps_execute {service db : String} {statement : Statement} {w : World} :
    (statement.execute service db w).dumps = w.dumps := by
  unfold Statement.execute
  cases statement with
  | terminateBackends _ | dropDatabase _ | createDatabase _ _ => rfl
  | countRequiredTables | consistencyCheck =>
      dsimp only
      split <;> rfl

theorem dumps_psql {service user db : String} {statement : Statement} {w : World} :
    (effect x (.psql service user db statement) 0 w).dumps = w.dumps := dumps_execute

/-- A dump is restored. -/
theorem databases_pgRestore {service user db file : String} {w : World} (h : w.dumps file = some (.dump content)) :
    (effect x (.pgRestore service user db file) 0 w).databases (service, clipped db) = some content := by
  simp only [effect, h]
  exact if_pos rfl

theorem psql_countRequiredTables {service db : String} {w : World} (user : String)
    (h : w.databases (service, clipped db) = some content) :
    effect x (.psql service user db .countRequiredTables) 0 w =
      (w.tick x).print [(if content.isSome then "5" else "0", "")] := by
  have hticked : (w.tick x).databases (service, clipped db) = some content := h
  cases content with
  | none => simp [effect, Statement.execute, hticked]
  | some d => simp [effect, Statement.execute, hticked]

theorem psql_consistencyCheck {service db : String} {w : World} (user : String)
    (h : w.databases (service, clipped db) = some (some d)) :
    effect x (.psql service user db .consistencyCheck) 0 w = (w.tick x).print (rows d) := by
  have hticked : (w.tick x).databases (service, clipped db) = some (some d) := h
  simp only [effect, Statement.execute, hticked]

/-- **The drill behind the checks of the files.** -/
theorem restore_wp {file checksumStatus : String} (hdump : s.world.dumps file = some (.dump content)) :
    (restore o file checksumStatus).wp (outside x) true (fun e s' => Concluded x o content e.code s'.world) s := by
  unfold restore waitForRestoreDb
  rw [wp_letIn]
  refine wp_block_run (fun n hanswer => .failed (Clean.unless hanswer)) ?_
  refine wait_block trivial (fun n s' h => .failed h) ?_
  intro s₁ hsince
  have hdump₁ : s₁.world.dumps file = some (.dump content) := by
    rw [hsince.world]
    exact hdump
  refine wp_block_run (fun n hanswer => .failed (Clean.unless hanswer)) ?_
  refine wp_block_run (fun n hanswer => .failed (Clean.unless hanswer)) ?_
  refine wp_block_run (fun n hanswer => .failed (Clean.unless hanswer)) ?_
  refine wp_block_orElse ?_ ?_
  · intro n hanswer
    exact .failed (Clean.unless hanswer)
  generalize hs₂ : State.after _ (outside x) (.pgRestore _ _ _ _) 0 = s₂
  have hdb : s₂.world.databases (o.restoreService, clipped o.restoreDb) = some content := by
    rw [← hs₂]
    show (effect x (.pgRestore o.restoreService o.restoreUser o.restoreDb file) 0 _).databases _ = _
    refine databases_pgRestore ?_
    rw [world_after, dumps_psql, world_after, dumps_psql, world_after, dumps_psql, hdump₁]
  refine capturing_run_block (fun n s' hanswer => .failed (Clean.unless hanswer)) ?_
  generalize hs₃ : State.after _ (outside x) (.psql _ _ _ .countRequiredTables) 0 = s₃
  obtain ⟨hdb₃, hout₃⟩ : s₃.world.databases = s₂.world.databases ∧
      s₃.world.output = [(if content.isSome then "5" else "0", "")] := by
    have heffect := psql_countRequiredTables (x := x) (w := { s₂.world with output := [] }) o.restoreUser hdb
    rw [← hs₃]
    rw [world_after, heffect]
    exact ⟨rfl, rfl⟩
  refine wp_block_exit ?_ ?_
  · intro hfail
    exact {
      sound := fun hzero => absurd hzero Nat.one_ne_zero
      complete := by
        rintro _ d rfl
        exact absurd (beq_iff_eq.mpr hout₃) (Bool.eq_false_iff.mp hfail) }
  intro hpass
  cases content with
  | none => exact absurd ((beq_iff_eq.mp hpass).symm.trans hout₃) (by decide)
  | some d =>
      rw [← hdb₃] at hdb
      refine capturing_run_block (fun n s' hanswer => .failed (Clean.unless hanswer)) ?_
      generalize hs₄ : State.after _ (outside x) (.psql _ _ _ .consistencyCheck) 0 = s₄
      obtain ⟨hdb₄, hout₄⟩ : s₄.world.databases = s₃.world.databases ∧ s₄.world.output = rows d := by
        have heffect := psql_consistencyCheck (x := x) (w := { s₃.world with output := [] }) o.restoreUser hdb
        rw [← hs₄]
        rw [world_after, heffect]
        exact ⟨rfl, rfl⟩
      rw [wp_block_last, wp_letIn, wp_letIn, hout₄]
      refine wp_mono (evaluate_wp (by rw [hdb₄]; exact hdb)) ?_
      intro e s' h
      rw [Ending.code_strict]
      exact h

/-- Whatever the check of the checksum file answers, it prints `PASS`. -/
theorem verifyChecksum_wp {file : String} {Q : Ending → State Program World → Prop}
    (hsum : (s.world.checksums file).isSome = true) (hnext : ∀ s', Since idle Idle s s' →
      Q (.status 0) { s' with world := s'.world.print [("checksum_status", "PASS")] }) :
    (verifyChecksum o file).wp (outside x) false Q s := by
  unfold verifyChecksum
  rw [wp_call, wp_block_test hsum]
  have quiet : ∀ {p : Program}, Idle p → Quiet (outside x) idle Idle (run p) := fun hp => .run hp (effect_idle hp)
  refine Quiet.wp_block_ignored (.cond (quiet trivial) (quiet trivial) (quiet trivial))
    (.cond (.run _) (.run _) (.run _)) ?_
  intro s' hsince
  rw [wp_block_last, wp_assign]
  exact hnext s' hsince

theorem restoreDrill_wp {file : String} (hdump : s.world.dumps file = some (.dump content))
    (hsum : (s.world.checksums file).isSome = true) :
    (restoreDrill o file).wp (outside x) true (fun e s' => Concluded x o content e.code s'.world) s := by
  have filled : s.world.filled file = true := by
    unfold World.filled
    rw [hdump]
  have present : (s.world.dumps file).isSome = true := by
    rw [hdump]
    rfl
  unfold restoreDrill validateIdentifier
  refine wp_block_exit (fun hinvalid => .failed fun hclean => ?_) fun _ => ?_
  · exact absurd hclean.restoreDb (Bool.eq_false_iff.mp hinvalid)
  refine wp_block_exit (fun hinvalid => .failed fun hclean => ?_) fun _ => ?_
  · exact absurd hclean.restoreUser (Bool.eq_false_iff.mp hinvalid)
  rw [wp_block_test present, wp_block_test filled, capturing_block]
  refine verifyChecksum_wp hsum ?_
  intro s' hsince
  have hworld : s'.world = { s.world with output := [], clock := s'.world.clock, steps := s'.world.steps } :=
    hsince.world
  have houtput : s'.world.output = [] := by rw [hworld]
  have hdump' : s'.world.dumps file = some (.dump content) := by
    rw [hworld]
    exact hdump
  show between true _ _ (.status 0) _
  rw [between_zero, wp_block_last, wp_letIn]
  have hstatus : ((s'.world.print [("checksum_status", "PASS")]).output.lookup "checksum_status").getD "" = "PASS" := by
    unfold World.print
    rw [houtput]
    rfl
  rw [hstatus, wp_block_test (by rfl), wp_block_last]
  refine wp_mono (restore_wp hdump') ?_
  intro e s'' h
  rw [Ending.code_strict, Ending.code_strict]
  exact h

end Restore

/-! ## The backup -/

/-- How a backup of `content` ends. -/
structure BackedUp (x : Surroundings) (o : Options) (content : Option Database) (file : String) (code : Nat)
    (w : World) : Prop where
  done : code = 0 → w.dumps file = some (.dump content) ∧ (w.checksums file).isSome = true ∧
    w.output.lookup "backup_file" = some file
  complete : Clean x o → code = 0

theorem BackedUp.failed {x : Surroundings} {o : Options} {content : Option Database} {file : String} {n : Nat} {w : World}
    (h : ¬Clean x o) : BackedUp x o content file (n + 1) w where
  done hzero := absurd hzero n.succ_ne_zero
  complete hclean := absurd hclean h

section Backup

variable {x : Surroundings} {o : Options} {file : String} {q : Script} {rest : List Script} {s : State Program World}
  {Q : Ending → State Program World → Prop}

/-- A checksum file is written, and nothing else. -/
theorem checksumFile_block (hfails : ∀ n s', ¬Clean x o → Q (.exited (n + 1)) s')
    (hnext : ∀ s', (s'.world.checksums file).isSome = true → s'.world.dumps = s.world.dumps →
      s'.world.output = s.world.output → (block (q :: rest)).wp (outside x) true Q s') :
    (block (checksumFile file :: q :: rest)).wp (outside x) true Q s := by
  have written : ∀ (tool : String) (s' : State Program World), s'.world.dumps = s.world.dumps →
      s'.world.output = s.world.output → (run (.sha256 tool file)).wp (outside x) true
        (fun e => between true Q ((block (q :: rest)).wp (outside x) true Q) e.atCall) s' := by
    intro tool s' hdumps houtput
    rw [wp_run]
    generalize hcode : (outside x).answer s'.trace (.sha256 tool file) = code
    cases code with
    | zero => exact hnext _ (by rw [world_after]; exact congrArg Option.isSome (if_pos rfl)) hdumps houtput
    | succ n => exact hfails n _ (Clean.unless hcode)
  unfold checksumFile
  rw [wp_block, wp_call, wp_cond, wp_run]
  generalize (outside x).answer s.trace (.tool "sha256sum") = code
  cases code with
  | zero => exact written _ _ rfl rfl
  | succ n => exact written _ _ rfl rfl

theorem backup_wp (hout : s.world.output = []) :
    (backup x o).wp (outside x) true (fun e s' => BackedUp x o (s.world.databases (o.sourceService, clipped o.sourceDb)).join
      (backupFile x o s.world) e.code s'.world) s := by
  unfold backup waitForSourceDb
  rw [wp_letIn]
  generalize backupFile x o s.world = file
  refine wp_block_run (fun n hanswer => .failed (Clean.unless hanswer)) ?_
  refine wait_block trivial (fun n s' h => .failed h) ?_
  intro s₁ hsince
  have hworld : s₁.world = { s.world with clock := s₁.world.clock, steps := s₁.world.steps } := hsince.world
  refine wp_block_orElse ?_ ?_
  · intro n hanswer
    rw [wp_block_assign, wp_block_last]
    exact .failed (Clean.unless hanswer)
  generalize hs₂ : s₁.after (outside x) (.pgDump ..) 0 = s₂
  have hdump : s₂.world.dumps file = some (.dump (s.world.databases (o.sourceService, clipped o.sourceDb)).join) := by
    rw [← hs₂]
    refine (if_pos rfl).trans ?_
    rw [hworld]
  have hout₂ : s₂.world.output = [] := by
    rw [← hs₂]
    show s₁.world.output = []
    rw [hworld]
    exact hout
  have filled : s₂.world.filled file = true := by
    unfold World.filled
    rw [hdump]
  rw [wp_block_test filled]
  refine checksumFile_block (fun n s' h => .failed h) ?_
  intro s₃ hsum hdumps houtput
  refine wp_block_run (fun n hanswer => .failed (Clean.unless hanswer)) ?_
  rw [wp_block_last, wp_assign]
  refine ⟨fun _ => ⟨?_, hsum, ?_⟩, fun _ => rfl⟩
  · show s₃.world.dumps file = _
    rw [hdumps]
    exact hdump
  · show (s₃.world.output ++ [("backup_file", file), _]).lookup "backup_file" = some file
    rw [houtput, hout₂]
    rfl

theorem backupFile_ne (w : World) : (backupFile x o w != "") = true := by
  rw [bne_iff_ne]
  intro h
  have hlist := congrArg String.toList h
  unfold backupFile at hlist
  simp at hlist

/-- **The drill from the backup on.** -/
theorem drDrill_wp (hfile : '=' ∉ (backupFile x o s.world).toList) :
    (drDrill x o).wp (outside x) true
      (fun e s' => Concluded x o (s.world.databases (o.sourceService, clipped o.sourceDb)).join e.code s'.world) s := by
  have hbackup : (backup x o).wp (outside x) true
      (fun e s' => BackedUp x o (s.world.databases (o.sourceService, clipped o.sourceDb)).join (backupFile x o s.world) e.code
        s'.world) { s with world := { s.world with output := [] } } :=
    backup_wp (s := { s with world := { s.world with output := [] } }) rfl
  unfold drDrill
  rw [wp_letIn, capturing_block, wp_child]
  refine wp_mono hbackup ?_
  intro e s' h
  show between true _ _ (.status e.code) s'
  cases hcode : e.code with
  | succ n =>
      refine .failed fun hclean => ?_
      have hzero := h.complete hclean
      omega
  | zero =>
      obtain ⟨hdump, hsum, hout⟩ := h.done hcode
      have hsecond : second s'.world "backup_file" = backupFile x o s.world := by
        unfold second
        have plain : ∀ c ∈ (backupFile x o s.world).toList, (c != '=') = true := by
          intro c hc
          rw [bne_iff_ne]
          rintro rfl
          exact hfile hc
        rw [hout, Option.getD_some, List.takeWhile_eq_self_iff.mpr plain, String.ofList_toList]
      rw [between_zero, wp_block_last, wp_letIn, hsecond, wp_block_test (backupFile_ne _), wp_block_last, wp_child]
      refine wp_mono (restoreDrill_wp hdump hsum) ?_
      intro e' s'' h'
      rw [Ending.code_strict, Ending.code_strict]
      refine ⟨fun hzero => ?_, fun hclean => h'.complete ⟨hclean.answers, hclean.restoreDb, hclean.restoreUser⟩⟩
      obtain ⟨d, hd, hpassed⟩ := h'.sound hzero
      exact ⟨d, hd, hpassed.restored, hpassed.consistent, hpassed.reported⟩

end Backup

namespace Sample

/-- Every program does its work in a second. -/
def prompt : Surroundings where
  answer _ _ := 0
  lasts _ := 1
  left _ := none
  stamp _ := "20260512T090001"

/-- A deposit has been processed. -/
def processed : Config :=
  EventConsistency.Sample.run [EventConsistency.Sample.call "key-1" EventConsistency.Sample.deposit]
    (List.replicate 23 (.run 0))

def positions : SequencePositions where
  accounts := 2
  events := 1
  ledger := 1
  records := 1
  histories := 3

/-- The source is what the service has left. -/
def before : State Program World where
  world := {
    databases := fun key =>
      if key = ("postgres", "financial_events") then some (some ⟨processed.shared.db, positions⟩) else none
    dumps := fun _ => none
    checksums := fun _ => none
    output := []
    report := none
    clock := 1778576402
    steps := 0 }
  trace := []

end Sample

section Runs

variable {x : Surroundings} {o : Options} {s : State Program World}

/-- **A drill that succeeds has restored the source and found it consistent.** Whichever programs fail on the way, when
`postgres_dr_drill.sh` ends with 0 the restore database holds what the source held, that is consistent, and the report
says so within the time allowed. -/
theorem drill_sound (hfile : '=' ∉ (backupFile x o s.world).toList)
    (h : (drDrill x o (outside x) true s).1.code = 0) :
    ∃ d, s.world.databases (o.sourceService, clipped o.sourceDb) = some (some d) ∧
      Passed o d (drDrill x o (outside x) true s).2.world := by
  obtain ⟨d, hjoin, hpassed⟩ := (drDrill_wp hfile).sound h
  exact ⟨d, Option.join_eq_some_iff.mp hjoin, hpassed⟩

theorem drill_sound_prompt :
    Passed {} ⟨Sample.processed.shared.db, Sample.positions⟩
      (drDrill Sample.prompt {} (outside Sample.prompt) true Sample.before).2.world := by
  obtain ⟨d, hsource, hpassed⟩ := drill_sound (x := Sample.prompt) (o := {}) (s := Sample.before) (by decide +kernel)
    (by decide +kernel)
  have hd : some (some ⟨Sample.processed.shared.db, Sample.positions⟩) = some (some d) := hsource
  rw [Option.some_inj.mp (Option.some_inj.mp hd)]
  exact hpassed

/-- **A drill of whatever the service has reached passes.** At any moment of any run of the service, as long as no entry
was committed behind a younger one, a drill whose programs do their work writes a report in which every count is 0, and
it succeeds exactly when the restore has kept to its time. -/
theorem drill_passes {st : Settings} {calls : List Call} {sh : Shared} {c : Config} {p : SequencePositions}
    (h₀ : Initial sh) (he : sh.db.events = []) (hl : sh.db.ledger = [])
    (h : Reaches (fun c label => atCommit backdatesLedger c label = false) (start st sh calls) c)
    (hp : Covers p c.shared) (hclean : Clean x o) (hfile : '=' ∉ (backupFile x o s.world).toList)
    (hsource : s.world.databases (o.sourceService, clipped o.sourceDb) = some (some ⟨c.shared.db, p⟩)) :
    ∃ r, (drDrill x o (outside x) true s).2.world.report = some r ∧
      r.checkOutput.map Prod.fst = (checks ⟨c.shared.db, p⟩).map Prod.fst ∧ (∀ line ∈ r.checkOutput, line.2 = "0") ∧
      ((drDrill x o (outside x) true s).1.code = 0 ↔ InTime o r.restoreDurationSeconds) := by
  have hconsistent := consistent_reached h₀ he hl h hp
  have hjoin := Option.join_eq_some_iff.mpr hsource
  obtain ⟨r, hreport, houtput, hcode⟩ := (drDrill_wp hfile).complete hclean _ hjoin
  refine ⟨r, hreport, ?_, ?_, ?_⟩
  · rw [houtput]
    rfl
  · intro line hline
    rw [houtput] at hline
    obtain ⟨check, hcheck, rfl⟩ := List.mem_map.mp hline
    exact repr_eq_zero.mpr (checks_zero_iff.mpr hconsistent check hcheck)
  · rw [hcode]
    exact ⟨And.right, fun hlasts => ⟨hconsistent, hlasts⟩⟩

theorem drill_passes_prompt :
    ∃ r, (drDrill Sample.prompt {} (outside Sample.prompt) true Sample.before).2.world.report = some r ∧
      r.checkOutput.map Prod.fst = (checks ⟨Sample.processed.shared.db, Sample.positions⟩).map Prod.fst ∧
      (∀ line ∈ r.checkOutput, line.2 = "0") ∧
      ((drDrill Sample.prompt {} (outside Sample.prompt) true Sample.before).1.code = 0 ↔
        InTime {} r.restoreDurationSeconds) := by
  have hreach : Reaches (fun c label => (!atCommit backdatesLedger c label) = true)
      (start EventConsistency.Sample.settings EventConsistency.Sample.shared
        [EventConsistency.Sample.call "key-1" EventConsistency.Sample.deposit]) Sample.processed := by
    unfold Sample.processed EventConsistency.Sample.run
    exact Reaches.followed_of _ (by decide +kernel)
  have hsource : Sample.before.world.databases ("postgres", "financial_events") =
      some (some ⟨Sample.processed.shared.db, Sample.positions⟩) := by
    show ite (("postgres", "financial_events") = ("postgres", "financial_events")) _ none = _
    exact if_pos rfl
  have hlast : (∀ a ∈ Sample.processed.shared.init.accounts, a.id ≤ 2) ∧
      Sample.processed.shared.seqs = ⟨2, 2, 4, 2⟩ := by
    decide +kernel
  have hcovers : Covers Sample.positions Sample.processed.shared := by
    refine ⟨hlast.1, ?_, ?_, ?_, ?_⟩
    all_goals
      rw [hlast.2]
      decide
  have hclean : Clean Sample.prompt {} := ⟨fun _ _ => rfl, by decide +kernel, by decide +kernel⟩
  exact drill_passes EventConsistency.Sample.initial rfl rfl (hreach.mono fun c label hok => by simpa using hok) hcovers
    hclean (by decide +kernel) hsource

end Runs

/-! ## What a drill leaves alone -/

/-- Only databases among `keys` change, and the files of one backup. -/
def within (keys : String × String → Prop) (file : String) : Shell.Change World where
  rel w w' := (∀ key, ¬keys key → w'.databases key = w.databases key) ∧
    ∀ f, f ≠ file → w'.dumps f = w.dumps f ∧ w'.checksums f = w.checksums f
  refl _ := ⟨fun _ _ => rfl, fun _ _ => ⟨rfl, rfl⟩⟩
  trans h h' := by
    refine ⟨fun key hkey => (h'.1 key hkey).trans (h.1 key hkey), fun f hf => ?_⟩
    exact ⟨(h'.2 f hf).1.trans (h.2 f hf).1, (h'.2 f hf).2.trans (h.2 f hf).2⟩

/-- The program writes nothing else. -/
def Allowed (keys : String × String → Prop) (file : String) : Program → Prop
  | .pgDump _ _ _ f | .sha256 _ f => f = file
  | .psql service _ _ (.dropDatabase db) | .psql service _ _ (.createDatabase db _) => keys (service, folded db)
  | .pgRestore service _ db _ => keys (service, clipped db)
  | _ => True

section Frame

variable {x : Surroundings} {o : Options} {keys : String × String → Prop} {file : String} {p : Program} {w : World}

theorem within_setDatabase {key : String × String} {content : Option (Option Database)} (hkey : keys key) :
    (within keys file).rel w (w.setDatabase key content) := by
  refine ⟨fun k hk => if_neg ?_, fun _ _ => ⟨rfl, rfl⟩⟩
  rintro rfl
  exact hk hkey

theorem within_of_eq {w' : World} (hdatabases : w'.databases = w.databases) (hdumps : w'.dumps = w.dumps)
    (hchecksums : w'.checksums = w.checksums) : (within keys file).rel w w' :=
  ⟨fun _ _ => by rw [hdatabases], fun _ _ => ⟨by rw [hdumps], by rw [hchecksums]⟩⟩

theorem effect_allowed (hp : Allowed keys file p) (code : Nat) (w : World) :
    (within keys file).rel w (effect x p code w) := by
  cases p with
  | tool _ | composeUp _ | pgIsready _ _ _ | sha256Check _ _ | du _ => exact within_of_eq rfl rfl rfl
  | pgDump service user db f =>
      cases hp
      refine ⟨fun _ _ => ?_, fun f hf => ?_⟩
      · cases code <;> rfl
      · cases code with
        | zero => exact ⟨if_neg hf, rfl⟩
        | succ n => exact ⟨if_neg hf, rfl⟩
  | sha256 tool f =>
      cases hp
      refine ⟨fun _ _ => ?_, fun f hf => ?_⟩
      · cases code <;> rfl
      · cases code with
        | zero => exact ⟨rfl, if_neg hf⟩
        | succ n => exact ⟨rfl, if_neg hf⟩
  | psql service user db statement =>
      have ticked : (within keys file).rel w (w.tick x) := within_of_eq rfl rfl rfl
      cases statement with
      | terminateBackends _ => cases code <;> exact ticked
      | dropDatabase _ | createDatabase _ _ =>
          cases code <;> exact (within keys file).trans ticked (within_setDatabase hp)
      | countRequiredTables | consistencyCheck =>
          cases code with
          | zero =>
              refine (within keys file).trans ticked ?_
              show (within keys file).rel _ (Statement.execute service db (w.tick x) _)
              unfold Statement.execute
              dsimp only
              split <;> exact within_of_eq rfl rfl rfl
          | succ n => exact ticked
  | pgRestore service user db f =>
      have ticked : (within keys file).rel w (w.tick x) := within_of_eq rfl rfl rfl
      cases code with
      | zero =>
          simp only [effect]
          split
          · exact (within keys file).trans ticked (within_setDatabase hp)
          · exact ticked
      | succ n => exact (within keys file).trans ticked (within_setDatabase hp)

theorem keeps_run (hp : Allowed keys file p) : Keeps (outside x) (within keys file) (Allowed keys file) (run p) :=
  .run hp (effect_allowed hp)

theorem keeps_attempts {ready : Program} (hready : Allowed keys file ready) (n : Nat) :
    Keeps (outside x) (within keys file) (Allowed keys file) (attempts ready n) := by
  induction n with
  | zero => exact .ret 1
  | succ n ih =>
      refine .block ?_
      simp only [List.forall_mem_cons, List.not_mem_nil, false_imp_iff, implies_true, and_true]
      exact ⟨.cond (keeps_run hready) (.ret 0) .skip, .assign fun _ => within_of_eq rfl rfl rfl, ih⟩

theorem keeps_capturing {p : Script} (hp : Keeps (outside x) (within keys file) (Allowed keys file) p) :
    Keeps (outside x) (within keys file) (Allowed keys file) (capturing p) := by
  refine .block ?_
  simp only [List.forall_mem_cons, List.not_mem_nil, false_imp_iff, implies_true, and_true]
  exact ⟨.assign fun _ => within_of_eq rfl rfl rfl, hp.capture⟩

theorem keeps_print (lines : List (String × String)) :
    Keeps (outside x) (within keys file) (Allowed keys file) (assign (World.print · lines)) :=
  .assign fun _ => within_of_eq rfl rfl rfl

/-- What `postgres_backup.sh` does once its file is chosen. -/
theorem keeps_backup {s : State Program World} (keys : String × String → Prop) :
    Since (within keys (backupFile x o s.world)) (Allowed keys (backupFile x o s.world)) s
      (backup x o (outside x) true s).2 := by
  show Since _ _ s ((letIn (backupFile x o) fun file => block _) (outside x) true s).2
  unfold letIn
  generalize backupFile x o s.world = file
  have hremove : Keeps (outside x) (within keys file) (Allowed keys file)
      (block [assign (World.remove · file), exit 1]) := by
    refine .block ?_
    simp only [List.forall_mem_cons, List.not_mem_nil, false_imp_iff, implies_true, and_true]
    exact ⟨.assign fun _ => ⟨fun _ _ => rfl, fun f hf => ⟨if_neg hf, if_neg hf⟩⟩, .exit 1⟩
  refine Keeps.block ?_ true s
  simp only [List.forall_mem_cons, List.not_mem_nil, false_imp_iff, implies_true, and_true]
  exact ⟨keeps_run trivial, (keeps_attempts (by exact trivial) _).call, .orElse (keeps_run rfl) hremove,
    .orElse (.test _) hremove, Keeps.call (.cond (keeps_run trivial) (keeps_run rfl) (keeps_run rfl)), keeps_run trivial,
    keeps_print _⟩

theorem keeps_restore {f checksumStatus : String}
    (hkeys : ∀ db, db = clipped o.restoreDb ∨ db = folded o.restoreDb → keys (o.restoreService, db)) :
    Keeps (outside x) (within keys file) (Allowed keys file) (restore o f checksumStatus) := by
  refine .letIn fun restoreStartEpoch => .block ?_
  simp only [List.forall_mem_cons, List.not_mem_nil, false_imp_iff, implies_true, and_true]
  refine ⟨keeps_run trivial, (keeps_attempts (by exact trivial) _).call, keeps_run trivial, keeps_run (hkeys _ (.inr rfl)),
    keeps_run (hkeys _ (.inr rfl)), .orElse (keeps_run (hkeys _ (.inl rfl))) (.exit 1), keeps_capturing (keeps_run trivial),
    .orElse (.test _) (.exit 1), keeps_capturing (keeps_run trivial),
    .letIn fun checkOutput => .letIn fun restoreEndEpoch => .block ?_⟩
  simp only [List.forall_mem_cons, List.not_mem_nil, false_imp_iff, implies_true, and_true]
  exact ⟨.orElse (.test _) (.exit 1), keeps_run trivial, .assign fun _ => within_of_eq rfl rfl rfl,
    .orElse (.test _) (.exit 1), .skip⟩

theorem keeps_verifyChecksum {f : String} :
    Keeps (outside x) (within keys file) (Allowed keys file) (verifyChecksum o f) := by
  refine (Keeps.block ?_).call
  simp only [List.forall_mem_cons, List.not_mem_nil, false_imp_iff, implies_true, and_true]
  refine ⟨.orElse (.test _) (.block ?_), .cond (keeps_run trivial) (keeps_run trivial) (keeps_run trivial), keeps_print _⟩
  simp only [List.forall_mem_cons, List.not_mem_nil, false_imp_iff, implies_true, and_true]
  refine ⟨?_, keeps_print _, .ret 0⟩
  split
  · exact .exit 1
  · exact .skip

/-- The databases that a restore drill may write. -/
def Target (o : Options) (key : String × String) : Prop :=
  validIdentifier o.restoreDb = true ∧ validIdentifier o.restoreUser = true ∧ key.1 = o.restoreService ∧
    (key.2 = clipped o.restoreDb ∨ key.2 = folded o.restoreDb)

theorem restoreDrill_frame {f : String} {s : State Program World} (file : String) :
    (restoreDrill o f).wp (outside x) true
      (fun _ => Since (within (Target o) file) (Allowed (Target o) file) s) s := by
  unfold restoreDrill validateIdentifier
  refine wp_block_exit (fun _ => .refl s) fun hdb => ?_
  refine wp_block_exit (fun _ => .refl s) fun huser => ?_
  have hkeys : ∀ db, db = clipped o.restoreDb ∨ db = folded o.restoreDb → Target o (o.restoreService, db) :=
    fun db h => ⟨hdb, huser, rfl, h⟩
  refine Keeps.wp (.block ?_) fun _ _ h => h
  simp only [List.forall_mem_cons, List.not_mem_nil, false_imp_iff, implies_true, and_true]
  refine ⟨.orElse (.test _) (.exit 1), .orElse (.test _) (.exit 1), keeps_capturing keeps_verifyChecksum,
    .letIn fun checksumStatus => .block ?_⟩
  simp only [List.forall_mem_cons, List.not_mem_nil, false_imp_iff, implies_true, and_true]
  exact ⟨.orElse (.test _) (.exit 1), keeps_restore hkeys⟩

/-- **A drill writes the restore database and its own backup, and nothing else.** Whichever programs fail, every database
but the restore database, by the 63 bytes that PostgreSQL takes of its name or by these in lower case, is as before, and
so is every dump and checksum file but those of this backup; when one of the names is not an identifier no database changes at all. -/
theorem drill_frame (x : Surroundings) (o : Options) (s : State Program World) :
    (∀ key, ¬Target o key → (drDrill x o (outside x) true s).2.world.databases key = s.world.databases key) ∧
      ∀ f, f ≠ backupFile x o s.world →
        (drDrill x o (outside x) true s).2.world.dumps f = s.world.dumps f ∧
        (drDrill x o (outside x) true s).2.world.checksums f = s.world.checksums f := by
  have hrun : (drDrill x o).wp (outside x) true
      (fun _ => Since (within (Target o) (backupFile x o s.world)) (Allowed (Target o) (backupFile x o s.world)) s) s := by
    unfold drDrill
    rw [wp_letIn, capturing_block, wp_child]
    have hbackup : (backup x o).wp (outside x) true
        (fun _ => Since (within (Target o) (backupFile x o s.world)) (Allowed (Target o) (backupFile x o s.world)) s)
        { s with world := { s.world with output := [] } } := by
      have hsince := keeps_backup (x := x) (o := o) (s := { s with world := { s.world with output := [] } }) (Target o)
      exact ⟨hsince.world, hsince.trace⟩
    refine wp_mono hbackup ?_
    intro e s' hsince
    show between true _ _ (.status e.code) s'
    cases e.code with
    | succ n => exact hsince
    | zero =>
        rw [between_zero, wp_block_last, wp_letIn]
        refine wp_block_exit (fun _ => hsince) fun _ => ?_
        rw [wp_block_last, wp_child]
        refine wp_mono (restoreDrill_frame (backupFile x o s.world)) ?_
        intro _ s'' hsince'
        exact hsince.trans ⟨hsince'.world, hsince'.trace⟩
  exact hrun.world

end Frame

/-! ## The check of the checksum -/

def isCheck : Program → Bool
  | .sha256Check .. => true
  | _ => false

section Blind

variable {P : Program → Bool} {w w' : Outside Program World} {b : Bool} {o : Options} {file : String}

theorem blind_capturing {p : Script} (hp : Blind P w w' false p) : Blind P w w' b (capturing p) := by
  refine .block ?_
  simp only [List.forall_mem_cons, List.not_mem_nil, false_imp_iff, implies_true, and_true]
  exact ⟨.assign _, hp.capture⟩

theorem blind_attempts {ready : Program} (hw : w.Alike P w') (hready : P ready = false) (n : Nat) :
    Blind P w w' b (attempts ready n) := by
  induction n with
  | zero => exact .ret 1
  | succ n ih =>
      refine .block ?_
      simp only [List.forall_mem_cons, List.not_mem_nil, false_imp_iff, implies_true, and_true]
      exact ⟨.cond (.run hw hready) (.ret 0) .skip, .assign _, ih⟩

variable (hw : w.Alike isCheck w')
include hw

theorem blind_restore {checksumStatus : String} : Blind isCheck w w' b (restore o file checksumStatus) := by
  refine .letIn fun restoreStartEpoch => .block ?_
  simp only [List.forall_mem_cons, List.not_mem_nil, false_imp_iff, implies_true, and_true]
  refine ⟨.run hw rfl, (blind_attempts hw rfl _).call, .run hw rfl, .run hw rfl, .run hw rfl,
    .orElse (.run hw rfl) (.exit 1), blind_capturing (.run hw rfl), .orElse (.test _) (.exit 1),
    blind_capturing (.run hw rfl), .letIn fun checkOutput => .letIn fun restoreEndEpoch => .block ?_⟩
  simp only [List.forall_mem_cons, List.not_mem_nil, false_imp_iff, implies_true, and_true]
  exact ⟨.orElse (.test _) (.exit 1), .run hw rfl, .assign _, .orElse (.test _) (.exit 1), .skip⟩

/-- `set -e` is not in force in `$(verify_checksum)`. -/
theorem blind_verifyChecksum : Blind isCheck w w' false (verifyChecksum o file) := by
  have hmissing : Blind isCheck w w' false (block [
      if o.requireChecksum then exit 1 else skip,
      assign (World.print · [("checksum_status", "SKIPPED")]),
      ret 0]) := by
    refine .block ?_
    simp only [List.forall_mem_cons, List.not_mem_nil, false_imp_iff, implies_true, and_true]
    refine ⟨?_, .assign _, .ret 0⟩
    split
    · exact .exit 1
    · exact .skip
  have hchecked : Blind isCheck w w' false (block [
      Command.cond (run (.tool "sha256sum")) (run (.sha256Check "sha256sum" file)) (run (.sha256Check "shasum" file)),
      assign (World.print · [("checksum_status", "PASS")])]) := by
    refine .block_ignored (.cond_run hw rfl (.run hw) (.run hw)) (.block ?_)
    simp only [List.forall_mem_cons, List.not_mem_nil, false_imp_iff, implies_true, and_true]
    exact .assign _
  exact (Blind.block_cons (.orElse (.test _) hmissing) hchecked).call

theorem blind_restoreDrill : Blind isCheck w w' b (restoreDrill o file) := by
  refine .block ?_
  simp only [List.forall_mem_cons, List.not_mem_nil, false_imp_iff, implies_true, and_true]
  refine ⟨.orElse (.test _) (.exit 1), .orElse (.test _) (.exit 1), .orElse (.test _) (.exit 1),
    .orElse (.test _) (.exit 1), blind_capturing (blind_verifyChecksum hw), .letIn fun checksumStatus => .block ?_⟩
  simp only [List.forall_mem_cons, List.not_mem_nil, false_imp_iff, implies_true, and_true]
  exact ⟨.orElse (.test _) (.exit 1), blind_restore hw⟩

theorem blind_backup {x : Surroundings} : Blind isCheck w w' b (backup x o) := by
  refine .letIn fun file => .block ?_
  have hremove : Blind isCheck w w' b (block [assign (World.remove · file), exit 1]) := by
    refine .block ?_
    simp only [List.forall_mem_cons, List.not_mem_nil, false_imp_iff, implies_true, and_true]
    exact ⟨.assign _, .exit 1⟩
  simp only [List.forall_mem_cons, List.not_mem_nil, false_imp_iff, implies_true, and_true]
  exact ⟨.run hw rfl, (blind_attempts hw rfl _).call, .orElse (.run hw rfl) hremove, .orElse (.test _) hremove,
    (Blind.cond (.run hw rfl) (.run hw rfl) (.run hw rfl)).call, .run hw rfl, .assign _⟩

theorem blind_drDrill {x : Surroundings} : Blind isCheck w w' b (drDrill x o) := by
  refine .letIn fun drDrillStartEpoch => .block ?_
  simp only [List.forall_mem_cons, List.not_mem_nil, false_imp_iff, implies_true, and_true]
  refine ⟨blind_capturing (blind_backup hw).child, .letIn fun file => .block ?_⟩
  simp only [List.forall_mem_cons, List.not_mem_nil, false_imp_iff, implies_true, and_true]
  exact ⟨.orElse (.test _) (.exit 1), (blind_restoreDrill hw).child⟩

end Blind

/-- The programs answer as they do, but the check of the checksum file may answer otherwise. -/
def Unchecked (x : Surroundings) (answer : List (Program × Nat) → Program → Nat) : Prop :=
  ∀ t t' p, isCheck p = false → masked isCheck t' = masked isCheck t → answer t' p = x.answer t p

theorem Unchecked.alike {x : Surroundings} {answer : List (Program × Nat) → Program → Nat} (h : Unchecked x answer) :
    (outside x).Alike isCheck (outside { x with answer := answer }) where
  answer := h
  effect _ _ _ := rfl
  ignored p code code' hp := by
    cases p with
    | sha256Check _ _ => rfl
    | tool _ | composeUp _ | pgIsready _ _ _ | pgDump _ _ _ _ | sha256 _ _ | du _ | psql _ _ _ _ | pgRestore _ _ _ _ =>
        exact absurd hp Bool.false_ne_true

/-- **No drill depends on the checksum.** However `sha256sum -c` answers, the restore drill ends in the same way with the
same databases and the same report, for any dump and any options, and so does the whole drill: `set -e` is not in force
where the checksum is verified. -/
theorem checksum_ignored {x : Surroundings} {answer : List (Program × Nat) → Program → Nat} (h : Unchecked x answer)
    (o : Options) (s : State Program World) :
    (∀ file,
      (restoreDrill o file (outside { x with answer := answer }) true s).1 = (restoreDrill o file (outside x) true s).1 ∧
      (restoreDrill o file (outside { x with answer := answer }) true s).2.world =
        (restoreDrill o file (outside x) true s).2.world) ∧
    (drDrill { x with answer := answer } o (outside { x with answer := answer }) true s).1 =
      (drDrill x o (outside x) true s).1 ∧
    (drDrill { x with answer := answer } o (outside { x with answer := answer }) true s).2.world =
      (drDrill x o (outside x) true s).2.world := by
  have same : Alike isCheck s s := ⟨rfl, rfl⟩
  refine ⟨fun file => ?_, ?_⟩
  · obtain ⟨hend, hafter⟩ := blind_restoreDrill (o := o) h.alike s s same
    exact ⟨hend, hafter.world⟩
  · obtain ⟨hend, hafter⟩ := blind_drDrill (x := x) (o := o) h.alike s s same
    exact ⟨hend, hafter.world⟩

/-- The check fails, and the drill is the same. -/
theorem checksum_ignored_prompt :
    let mismatch := fun _ p => if isCheck p then 1 else 0
    (drDrill { Sample.prompt with answer := mismatch } {} (outside { Sample.prompt with answer := mismatch }) true
      Sample.before).1 = (drDrill Sample.prompt {} (outside Sample.prompt) true Sample.before).1 := by
  intro mismatch
  have hanswers : Unchecked Sample.prompt mismatch := by
    intro t t' p hp _
    exact if_neg (Bool.eq_false_iff.mp hp)
  exact (checksum_ignored hanswers {} Sample.before).2.1

end RestoreDrill

end EventConsistency
