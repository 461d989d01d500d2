import EventConsistency.Balances
import EventConsistency.Deadlock
import EventConsistency.Services.Quarantine

/-!
# Account quarantine

Transactions of `QuarantineService` next to any number of `process` calls.

* `quarantineSteps` : runs in which quarantines change only by transactions of the service;
* `QuarantineTransaction.overtakes` : the transaction quarantines an account that an open call has found free already;
* `Cleared` : an account that an open call has found free is free;
* **`quarantine_barrier`** : without overtaking, nothing is posted to a quarantined account before its release;
  **`quarantine_overtakes`** : a quarantine between the check of a deposit and its commit.
-/

namespace EventConsistency

open Lib

/-- The call does not come to its quarantine check next. -/
def pastCheck (t : Thread Op Op.Res Exc Session TransactionProcessingResult) : Bool := match t.prog with
  | .op (.sql _ (.selectActiveQuarantine ..)) _ => false
  | _ => true

/-- The transaction quarantines an account whose row is locked by a call that is past its quarantine check. -/
def QuarantineTransaction.overtakes (c : Config) (x : QuarantineTransaction) : Bool :=
  x.inserted.any fun q => c.threads.any fun t => t.loc.accountLocks.any q.bars && pastCheck t

/-- Quarantines change only by transactions of the service with `P`. -/
def quarantineSteps (P : Config → QuarantineTransaction → Prop) (c : Config) : Label → Prop
  | .setQuarantines quarantines => ∃ x : QuarantineTransaction, P c x ∧ quarantines = x.commit c.shared.db.quarantines
  | _ => True

/-- The account that the progress has found free is free. -/
def Progress.Free (g : Progress) (db : Db) : Prop :=
  g.checked = true → ∀ a, g.account = some a → ∀ q ∈ db.quarantines, q.bars a = false

/-- What every call has found free is free. -/
def Cleared (c : Config) : Prop :=
  ∀ (i : Nat) (t : Thread Op Op.Res Exc Session TransactionProcessingResult), c.threads[i]? = some t →
    ∃ g, TracksCall g t ∧ g.Free c.shared.db

section Barrier

variable {st : Settings} {opts : Opts} {calls : List Call} {sh sh' : Shared} {c c' : Config} {g : Progress}
  {l l' : Session}

theorem runStmt_quarantines {stmt : Stmt} {r : stmt.Res} (h : runStmt stmt sh l = .ok (r, sh', l')) :
    sh'.db.quarantines = sh.db.quarantines := by
  cases stmt <;> simp only [runStmt] at h <;> (repeat' split at h) <;> cases h <;> rfl

/-- No operation of a call writes quarantines. -/
theorem exec_quarantines (fault : Bool) (o : Op) (sh : Shared) (l : Session) :
    (exec fault o sh l).2.1.db.quarantines = sh.db.quarantines := by
  cases o with
  | sql site stmt =>
      obtain ⟨⟨r, sh', l'⟩, hx⟩ : ∃ out, exec fault (.sql site stmt) sh l = out := ⟨_, rfl⟩
      rw [hx]
      rcases exec_sql_cases hx with ⟨x, rfl, rfl, _⟩ | ⟨_, _, _, a, rfl, hrun⟩
      · rfl
      · exact runStmt_quarantines hrun
  | commit reply => simp only [exec]; split_ifs <;> rfl
  | lockAcquire key => simp only [exec]; split_ifs <;> rfl
  | lockRelease key token => simp only [exec]; split_ifs <;> rfl
  | cacheGet key => simp only [exec]; split <;> rfl
  | cacheSet site key response => simp only [exec]; split_ifs <;> rfl
  | _ => rfl

theorem Progress.Free.same {db db' : Db} (h : g.Free db) (hq : db'.quarantines = db.quarantines) : g.Free db' := by
  unfold Progress.Free
  rw [hq]
  exact h

/-- A progress that has not got past the check claims nothing. -/
theorem Progress.Free.unchecked {db : Db} (h : g.checked = false) : g.Free db := by
  intro hc
  rw [h] at hc
  cases hc

/-- An answered statement: the check finds what the table holds. -/
theorem Progress.Free.afterStmt {stmt : Stmt} {r : stmt.Res} {w : Wiring} (h : g.Free sh.db)
    (hpre : g.permitsStmt w stmt) (hrun : runStmt stmt sh l = .ok (r, sh', l')) : (g.afterStmt stmt r).Free sh.db := by
  cases stmt with
  | selectAccountForUpdate no =>
      obtain ⟨_, hc, _⟩ := hpre
      cases r with
      | none => exact h
      | some a => exact Progress.Free.unchecked hc
  | selectActiveQuarantine targetType targetId =>
      obtain ⟨rfl, _, a, ha, rfl⟩ := hpre
      cases hrun
      cases hq : sh.db.activeQuarantine "ACCOUNT" (toString a) with
      | some q => exact h
      | none =>
          intro _ b hb
          have hab : a = b := Option.some.inj (ha.symm.trans hb)
          rw [← hab]
          exact Db.activeQuarantine_eq_none.mp hq
  | selectEventForUpdate _ => cases r <;> exact h
  | _ => exact h

theorem Progress.Free.after {fault : Bool} {o : Op} {r : Except Exc o.Res} {w : Wiring} (h : g.Free sh.db)
    (hf : g.failed = l.failed) (hpre : g.permits w o) (hx : exec fault o sh l = (r, sh', l')) :
    (g.after o r).Free sh.db := by
  cases o with
  | sql site stmt =>
      cases r with
      | error x =>
          rcases g.after_error site stmt x with hg | hg
          · rw [hg]
            exact h
          · rw [hg]
            exact Progress.Free.unchecked rfl
      | ok r =>
          rcases exec_sql_cases hx with ⟨x, hr, _⟩ | ⟨hok, _, _, a, hr, hrun⟩
          · cases hr
          · cases hr
            exact h.afterStmt (hpre (hf.trans hok)) hrun
  | commit _ => cases r <;> exact Progress.Free.unchecked rfl
  | rollback => exact Progress.Free.unchecked rfl
  | _ => exact h

/-- A call past its check is seen by a transaction that quarantines its account. -/
theorem TracksCall.free_commit {t : Thread Op Op.Res Exc Session TransactionProcessingResult} {x : QuarantineTransaction}
    (h : TracksCall g t) (hfree : g.Free c.shared.db) (ht : t ∈ c.threads) (hx : x.overtakes c = false)
    {db : Db} (hdb : db.quarantines = x.commit c.shared.db.quarantines) : g.Free db := by
  intro hc a ha q hq
  rw [hdb] at hq
  by_contra hbars
  rw [Bool.not_eq_false] at hbars
  have hactive : q.active = true := by
    simp only [QuarantineRecord.bars, Bool.and_eq_true] at hbars
    exact hbars.1.1
  rcases QuarantineTransaction.active_commit hq hactive with hold | hnew
  · rw [hfree hc a ha q hold] at hbars
    cases hbars
  · have hlock : t.loc.accountLocks.any q.bars = true := by
      rw [h.tracks.account, ha]
      simpa using hbars
    have hpast : pastCheck t = true := by
      obtain ⟨l, p⟩ := t
      unfold pastCheck
      dsimp only
      split
      · -- the check comes only to a call that has not made it
        exfalso
        have hfailed : g.failed = false := by
          by_contra hf
          rw [h.tracks.gone (by simpa using hf)] at hc
          cases hc
        obtain ⟨_, hunchecked, _⟩ := (h.rest () trivial).1 hfailed
        rw [hc] at hunchecked
        cases hunchecked
      · rfl
    have hover : x.overtakes c = true := by
      simp only [QuarantineTransaction.overtakes, hnew, Option.any_some]
      exact List.any_eq_true.mpr ⟨t, ht, by rw [hlock, hpast]; rfl⟩
    rw [hover] at hx
    cases hx

/-- Only one kind of step writes quarantines. -/
theorem step_quarantines {label : Label} (hs : step c label = some c') :
    c'.shared.db.quarantines = c.shared.db.quarantines ∨ ∃ quarantines, label = .setQuarantines quarantines ∧
      c'.shared.db.quarantines = quarantines ∧ c'.threads = c.threads := by
  cases label with
  | run i =>
      obtain ⟨l, o, k, _, _, rfl⟩ := step_run hs
      exact Or.inl (exec_quarantines _ _ _ _)
  | outage i =>
      obtain ⟨l, o, k, _, rfl⟩ := step_outage hs
      exact Or.inl (exec_quarantines _ _ _ _)
  | crash i =>
      obtain ⟨l, o, k, _, rfl⟩ := step_crash hs
      exact Or.inl rfl
  | setQuarantines quarantines => cases hs; exact Or.inr ⟨quarantines, rfl, rfl, rfl⟩
  | _ => cases hs; exact Or.inl rfl

theorem Cleared.step {Q : Except Exc TransactionProcessingResult → Shared → Session → Prop} {label : Label}
    (hinv : Inv (logic st opts) (Coherent st opts calls) Q c) (h : Cleared c)
    (hok : quarantineSteps (fun c x => x.overtakes c = false) c label) (hs : step c label = some c') : Cleared c' := by
  intro i t ht
  rcases step_quarantines hs with hsame | ⟨quarantines, rfl, hq, hthreads⟩
  · rcases step_thread hs ht with hold | ⟨l, o, k, hold, ⟨fault, r, sh', _, hx, hprog⟩ | rfl⟩
    · obtain ⟨g, hg, hfree⟩ := h i t hold
      exact ⟨g, hg, hfree.same hsame⟩
    · obtain ⟨g, hg, hfree⟩ := h i _ hold
      have hpre := (hinv.wp _ (List.mem_of_getElem? hold) c.shared ((logic st opts).rely_refl l c.shared)).1
      have htr := hg.exec hpre hx
      rw [← hprog] at htr
      exact ⟨_, htr, (hfree.after hg.tracks.failed (hg.rest () trivial).1 hx).same hsame⟩
    · exact ⟨_, TracksCall.crash l, Progress.Free.unchecked rfl⟩
  · obtain ⟨x, hover, rfl⟩ := hok
    rw [hthreads] at ht
    obtain ⟨g, hg, hfree⟩ := h i t ht
    exact ⟨g, hg, hg.free_commit hfree (List.mem_of_getElem? ht) hover hq⟩

/-- **As long as no quarantine overtakes a call, every account that an open call has found free is free.** -/
theorem Reaches.cleared (h₀ : Initial sh)
    (h : Reaches (quarantineSteps fun c x => x.overtakes c = false) (start st sh calls) c) : Cleared c := by
  induction h with
  | refl =>
      intro i t ht
      obtain ⟨call, _, rfl⟩ := getElem?_start ht
      exact ⟨_, TracksCall.start call i, Progress.Free.unchecked rfl⟩
  | @step c₁ c₂ label h hok hs ih =>
      have hall : Reaches (permits everything) (start st sh calls) c₁ := h.mono fun c label _ => permits_everything c label
      exact ih.step (hall.inv rfl h₀ (Admits.any rfl rfl)) hok hs

/-! ## The barrier -/

/-- Neither the entries nor the row of the account differ. -/
structure Untouched (accountId : Nat) (db db' : Db) : Prop where
  entries : db'.entriesOf accountId = db.entriesOf accountId
  row : ∀ a : Account, a.id = accountId → (a ∈ db'.accounts ↔ a ∈ db.accounts)

theorem Untouched.same {accountId : Nat} {db db' : Db} (ha : db'.accounts = db.accounts) (hl : db'.ledger = db.ledger) :
    Untouched accountId db db' := by
  refine ⟨?_, fun a _ => by rw [ha]⟩
  unfold Db.entriesOf
  rw [hl]

theorem Untouched.trans {accountId : Nat} {db db' db'' : Db} (h : Untouched accountId db db')
    (h' : Untouched accountId db' db'') : Untouched accountId db db'' :=
  ⟨h'.entries.trans h.entries, fun a ha => (h'.row a ha).trans (h.row a ha)⟩

/-- A commit that posts to other accounts. -/
theorem Untouched.enter {accountId : Nat} {db db' : Db} {a : Account} {ev : TransactionEvent} {r : LedgerEntry}
    (hn : Entered db a ev r) (hne : r.accountId ≠ accountId)
    (ha : db'.accounts = Delta.replace { a with balance := r.balanceAfter } db.accounts)
    (hl : db'.ledger = db.ledger ++ [r]) : Untouched accountId db db' := by
  have hid : a.id ≠ accountId := fun heq => hne (hn.entryOwner.trans heq)
  constructor
  · simp [Db.entriesOf, hl, hne]
  · intro b hb
    rw [ha, Delta.mem_replace]
    constructor
    · rintro (⟨hmem, _⟩ | ⟨rfl, _⟩)
      · exact hmem
      · exact absurd hb hid
    · intro hmem
      exact Or.inl ⟨hmem, fun heq => hid (heq.symm.trans hb)⟩

/-- What a commit posts stays away from the accounts that its transaction has not written for. -/
theorem Untouched.posting {accountId : Nat} {db : Db} {W : Overlay} {request : TransactionEventCreateRequest}
    (hp : Posting request W db) (hW : W.ledger.updated = []) (hne : ∀ r ∈ W.ledger.inserted, r.accountId ≠ accountId) :
    Untouched accountId db (W.apply db) := by
  cases hp with
  | quiet ha _ hl => exact Untouched.same ha hl
  | failed _ _ _ ha _ hl => exact Untouched.same ha hl
  | direct hn _ ha _ hl => exact Untouched.enter hn (hne _ (inserted_of_ledger hW hl)) ha hl
  | cancel hn _ _ _ _ _ _ _ _ _ ha _ hl => exact Untouched.enter hn (hne _ (inserted_of_ledger hW hl)) ha hl

/-- One step under a quarantine. -/
theorem Cleared.untouched {Q : Except Exc TransactionProcessingResult → Shared → Session → Prop} {label : Label}
    {q : QuarantineRecord} {accountId : Nat} (hw : ∀ call ∈ calls, call.wiring.quarantineService = true)
    (hinv : Inv (logic st everything) (Coherent st everything calls) Q c) (h : Cleared c)
    (hq : q ∈ c.shared.db.quarantines) (hb : q.bars accountId = true) (hs : EventConsistency.step c label = some c') :
    Untouched accountId c.shared.db c'.shared.db := by
  rcases step_tables hinv (permits_everything c label) hs with ⟨ha, _, hl, _⟩ | ⟨i, l, reply, k, rfl, ht, howed, hsh⟩
  · exact Untouched.same ha hl
  · rw [hsh]
    refine Untouched.posting howed.shape.posting howed.covered.noLedgerUpdates fun r hr hacc => ?_
    obtain ⟨g, hg, hfree⟩ := h i _ ht
    obtain ⟨_, haccount, hchecked⟩ := hg.tracks.ledger r hr
    have hwired : l.wiring.quarantineService = true :=
      hw _ (List.mem_of_getElem? (hinv.coh.made i l (getElem?_locs ht)).2)
    have hfalse := hfree (hchecked hwired) r.accountId haccount q hq
    rw [hacc, hb] at hfalse
    cases hfalse

/-- **Account quarantine is a barrier, as long as no quarantine overtakes a call.** From the commit of a quarantine of an
account on, nothing is posted to the account and its row does not change before the release of the record. -/
theorem quarantine_barrier {q : QuarantineRecord} {accountId : Nat} (h₀ : Initial sh)
    (hw : ∀ call ∈ calls, call.wiring.quarantineService = true)
    (h : Reaches (quarantineSteps fun c x => x.overtakes c = false) (start st sh calls) c)
    (hq : q ∈ c.shared.db.quarantines) (hb : q.bars accountId = true)
    (h' : Reaches (quarantineSteps fun c x => x.overtakes c = false ∧ x.releases q = false) c c') :
    q ∈ c'.shared.db.quarantines ∧ Untouched accountId c.shared.db c'.shared.db := by
  induction h' with
  | refl => exact ⟨hq, Untouched.same rfl rfl⟩
  | @step c₁ c₂ label h' hok hs ih =>
      obtain ⟨hq₁, hsame⟩ := ih
      have hreach : Reaches (quarantineSteps fun c x => x.overtakes c = false) (start st sh calls) c₁ := by
        refine h.trans (h'.mono fun c label hok => ?_)
        cases label with
        | setQuarantines _ =>
            obtain ⟨x, ⟨hx, _⟩, heq⟩ := hok
            exact ⟨x, hx, heq⟩
        | _ => trivial
      have hall : Reaches (permits everything) (start st sh calls) c₁ :=
        hreach.mono fun c label _ => permits_everything c label
      have hstep := (hreach.cleared h₀).untouched hw (hall.inv rfl h₀ (Admits.any rfl rfl)) hq₁ hb hs
      refine ⟨?_, hsame.trans hstep⟩
      rcases step_quarantines hs with heq | ⟨quarantines, rfl, heq, _⟩
      · rw [heq]
        exact hq₁
      · obtain ⟨x, ⟨_, hx⟩, rfl⟩ := hok
        rw [heq]
        exact QuarantineTransaction.mem_commit hq₁ hx

end Barrier

/-! ## A quarantine before and during a deposit -/

namespace Sample

/-- A quarantine of the account ACC-1. -/
def quarantine : QuarantineTransaction :=
  .create none .account "1" 1 "5d41402abc4b2a76b9719d911017c592" 1778576402000000

/-- The state after the commit of the quarantine. -/
def quarantined (c : Config) : Config :=
  ⟨{ c.shared with db := { c.shared.db with quarantines := quarantine.commit c.shared.db.quarantines } }, c.threads⟩

theorem reaches_quarantined {P : Config → QuarantineTransaction → Prop} {c : Config} (h : P c quarantine) :
    Reaches (quarantineSteps P) c (quarantined c) := by
  have hs : step c (.setQuarantines (quarantine.commit c.shared.db.quarantines)) = some (quarantined c) := rfl
  have hok : quarantineSteps P c (.setQuarantines (quarantine.commit c.shared.db.quarantines)) := ⟨quarantine, h, rfl⟩
  exact .step .refl hok hs

theorem reaches_quarantine_runs {P : Config → QuarantineTransaction → Prop} (c : Config) (n : Nat) :
    Reaches (quarantineSteps P) c ((follow c (List.replicate n (.run 0))).getD c) :=
  Reaches.followed c fun label hl _ => by rw [List.eq_of_mem_replicate hl]; trivial

/-- A quarantine after `n` steps of a deposit, and the state `m` steps later. -/
def interrupted (n : Nat) : Config := quarantined (run [call "key-1" deposit] (List.replicate n (.run 0)))

def resumed (n m : Nat) : Config := (follow (interrupted n) (List.replicate m (.run 0))).getD (interrupted n)

/-- The record of the quarantine. -/
def barring : QuarantineRecord :=
  { id := 1, quarantineId := "qr-5d41402abc4b2a76", targetType := "ACCOUNT", targetId := "1", active := true,
    activatedAt := 1778576402000000 }

theorem reaches_interrupted {P : Config → QuarantineTransaction → Prop} {n : Nat}
    (h : P (run [call "key-1" deposit] (List.replicate n (.run 0))) quarantine) :
    Reaches (quarantineSteps P) (start settings shared [call "key-1" deposit]) (interrupted n) :=
  (reaches_quarantine_runs _ n).trans (reaches_quarantined h)

theorem reaches_resumed {P : Config → QuarantineTransaction → Prop} (n m : Nat) :
    Reaches (quarantineSteps P) (interrupted n) (resumed n m) :=
  reaches_quarantine_runs (interrupted n) m

end Sample

/-- The deposit has locked the account and comes to its check: it is refused. -/
theorem quarantine_barrier_deposit :
    (outcome (Sample.resumed 7 8) 0).map (fun e => e.2.toOption.map TransactionProcessingResult.statusCode)
        = some (some 409) ∧
      Untouched 1 (Sample.interrupted 7).shared.db (Sample.resumed 7 8).shared.db := by
  have hover : Sample.quarantine.overtakes
      (Sample.run [Sample.call "key-1" Sample.deposit] (List.replicate 7 (.run 0))) = false := by decide +kernel
  have hmem : Sample.barring ∈ (Sample.interrupted 7).shared.db.quarantines := by decide +kernel
  have hbars : Sample.barring.bars 1 = true := by decide
  have hw : ∀ call ∈ [Sample.call "key-1" Sample.deposit], call.wiring.quarantineService = true := by simp [Sample.call]
  refine ⟨by decide +kernel, ?_⟩
  exact (quarantine_barrier Sample.initial hw (Sample.reaches_interrupted hover) hmem hbars
    (Sample.reaches_resumed 7 8)).2

/-- The deposit has made its check: it posts 500 to the quarantined account. -/
theorem quarantine_overtakes :
    Reaches (quarantineSteps fun _ _ => True) (start Sample.settings Sample.shared [Sample.call "key-1" Sample.deposit])
        (Sample.interrupted 8) ∧
      Sample.barring ∈ (Sample.interrupted 8).shared.db.quarantines ∧ Sample.barring.bars 1 = true ∧
      Reaches (quarantineSteps fun _ x => x.releases Sample.barring = false) (Sample.interrupted 8) (Sample.resumed 8 15) ∧
      ((Sample.interrupted 8).shared.db.entriesOf 1).map LedgerEntry.amount = [] ∧
      ((Sample.resumed 8 15).shared.db.entriesOf 1).map LedgerEntry.amount = [500] ∧
      ¬ Untouched 1 (Sample.interrupted 8).shared.db (Sample.resumed 8 15).shared.db := by
  have hbefore : ((Sample.interrupted 8).shared.db.entriesOf 1).map LedgerEntry.amount = [] := by decide +kernel
  have hafter : ((Sample.resumed 8 15).shared.db.entriesOf 1).map LedgerEntry.amount = [500] := by decide +kernel
  refine ⟨Sample.reaches_interrupted trivial, by decide +kernel, by decide, Sample.reaches_resumed 8 15, hbefore,
    hafter, fun h => ?_⟩
  rw [h.entries, hbefore] at hafter
  cases hafter

end EventConsistency
