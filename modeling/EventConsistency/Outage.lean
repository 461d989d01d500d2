import EventConsistency.Runs
import EventConsistency.Services.Api

/-!
# A lost database

What becomes of a call, among any others, when PostgreSQL is lost at one of its statements.

* `Op.site` : the method that a statement, or the commit, belongs to; `sends` : that of a call's next one;
* `FailsClosed` : the exception that leaves the call is an `OperationalError`, so that the API answers 503 and suspends
  writes, and the call has committed nothing;
* `Met.run`, `outage_escapes` : the lost statement stays on record, and decides the exception that leaves the call;
* **`outage_fails_closed_iff`** : a call fails closed exactly when the statement belongs to `check_or_start`, to `fail`
  or is the commit. Behind every other statement stands `fail`, whose own statement then raises `PendingRollbackError`.
-/

namespace EventConsistency

open Lib TransactionEventService

/-- The method that the statement belongs to; none for operations that need no database. -/
def Op.site : Op → Option Site
  | .sql site _ => some site
  | .commit _ => some .commit
  | _ => none

/-- The operation asks PostgreSQL for something: the session has not failed, and within a transaction psycopg2 takes the
texts of the statement. -/
def Op.asks : Op → Session → Bool
  | .sql _ stmt, l => !l.failed && (l.startedAt.isNone || stmt.sendable)
  | .commit _, l => !l.failed
  | _, _ => false

/-- The method of the statement, or commit, with which the call asks PostgreSQL next. -/
def sends (c : Config) (i : Nat) : Option Site :=
  match c.threads[i]? with
  | some ⟨l, .op o _⟩ => if o.asks l then o.site else none
  | _ => none

/-- The end of a call under the policy of `docs/36`: `OperationalError`, 503 with `Retry-After`, writes suspended,
nothing committed. -/
structure FailsClosed (c : Config) (i : Nat) (request : RequestState) (svc : WriteSuspensionService)
    (r : Except Exc TransactionProcessingResult) : Prop where
  raised : r = .error .operationalError
  status : (Api.createTransactionEvent request svc r).1.statusCode = 503
  retryAfter : ("Retry-After", toString svc.retryAfterSeconds) ∈ (Api.createTransactionEvent request svc r).1.headers
  suspended : (Api.createTransactionEvent request svc r).2.status.active = true
  uncommitted : ∀ x ∈ c.shared.log, x.tid ≠ i

section Outage

variable {st : Settings} {calls : List Call} {sh : Shared} {c c₁ c₂ : Config} {i : Nat} {l : Session} {o : Op} {site : Site}
  {r : Except Exc TransactionProcessingResult}

theorem runStmt_faults {stmt : Stmt} {l' : Session} {r : stmt.Res} {sh' : Shared}
    (h : runStmt stmt sh l = .ok (r, sh', l')) : l'.faults = l.faults := by
  cases stmt <;> simp only [runStmt] at h <;> (repeat' split at h) <;> cases h <;> rfl

/-- A fault that has been met stays on record. -/
theorem mem_faults_exec {f : Site × Exc} (fault : Bool) (o : Op) (sh : Shared) (l : Session) (h : f ∈ l.faults) :
    f ∈ (exec fault o sh l).2.2.faults := by
  have hfail : ∀ site x, f ∈ (l.fail site x).faults := fun site x => List.mem_append_left _ h
  cases o with
  | sql site stmt =>
      obtain ⟨⟨r, sh', l'⟩, hx⟩ : ∃ out, exec fault (.sql site stmt) sh l = out := ⟨_, rfl⟩
      rw [hx]
      rcases exec_sql_cases hx with ⟨x, _, _, rfl | rfl⟩ | ⟨_, _, _, _, _, hrun⟩
      · exact h
      · exact hfail site x
      · show f ∈ l'.faults
        rw [runStmt_faults hrun]
        exact h
  | commit reply =>
      simp only [exec]
      split_ifs
      · exact h
      · exact hfail _ _
      · exact h
  | lockAcquire key => simp only [exec]; split_ifs <;> exact h
  | lockRelease key token => simp only [exec]; split_ifs <;> exact h
  | cacheGet key => simp only [exec]; split <;> exact h
  | cacheSet site key response => simp only [exec]; split_ifs <;> exact h
  | _ => exact h

/-- The statement at which the database is lost goes on record. -/
theorem mem_faults_outage (hs : o.site = some site) (hl : o.asks l = true) :
    (site, Exc.operationalError) ∈ (exec true o sh l).2.2.faults := by
  cases o with
  | sql site' stmt =>
      cases hs
      simp only [Op.asks, Bool.and_eq_true, Bool.not_eq_true'] at hl
      simp [exec, hl.1, hl.2, Session.fail]
  | commit reply =>
      cases hs
      simp only [Op.asks, Bool.not_eq_true'] at hl
      simp [exec, hl, Session.fail]
  | _ => cases hs

theorem sends_eq (h : sends c i = some site) :
    ∃ l o k, c.threads[i]? = some ⟨l, .op o k⟩ ∧ o.site = some site ∧ o.asks l = true := by
  unfold sends at h
  split at h
  · rename_i l o k ht
    split at h
    · rename_i hl
      exact ⟨l, o, k, ht, h, hl⟩
    · cases h
  · cases h

/-- The call has met the fault. -/
def Met (c : Config) (i : Nat) (f : Site × Exc) : Prop := ∀ t, c.threads[i]? = some t → f ∈ t.loc.faults

theorem Met.outage (h : sends c i = some site) (hs : step c (.outage i) = some c₁) :
    Met c₁ i (site, .operationalError) := by
  intro t ht
  obtain ⟨l, o, k, hl, hsite, hok⟩ := sends_eq h
  obtain ⟨l', o', k', hl', rfl⟩ := step_outage hs
  rw [hl] at hl'
  cases hl'
  rcases getElem?_set_cases ht with ⟨_, rfl⟩ | ⟨hne, _⟩
  · exact mem_faults_outage hsite hok
  · exact absurd rfl hne

theorem Met.step {f : Site × Exc} {label : Label} (h : Met c i f) (hs : step c label = some c₁) : Met c₁ i f := by
  intro t ht
  rcases step_thread hs ht with hold | ⟨l, o, k, hold, ⟨fault, r, sh, _, hx, _⟩ | rfl⟩
  · exact h t hold
  · have hkept := mem_faults_exec fault o c.shared l (h _ hold)
    rw [hx] at hkept
    exact hkept
  · have hkept : f ∈ l.faults := h _ hold
    exact hkept

/-- A fault that a call has met is on record to the end of every run. -/
theorem Met.run {f : Site × Exc} (h : Met c₁ i f) (h' : Reaches anyStep c₁ c₂) : Met c₂ i f := by
  induction h' with
  | refl => exact h
  | step _ _ hs ih => exact ih.step hs

/-- A call that has lost the database at a statement of `site` ends with what `escape` says, and leaves no trace. -/
theorem outage_escapes (h₀ : Initial sh) (h : Reaches anyStep (start st sh calls) c)
    (hmet : Met c i (site, .operationalError)) (hend : outcome c i = some (l, r)) (halive : r ≠ .error .crashed) :
    r = .error (escape site .operationalError) ∧ ∀ x ∈ c.shared.log, x.tid ≠ i := by
  have ht := outcome_eq hend
  have hinv := (h.mono fun c label _ => permits_everything c label).inv rfl h₀ (Admits.any rfl rfl)
  have hended : Ended st everything l.identity r c.shared l :=
    (Logic.wp_lift.mp (hinv.wp _ (List.mem_of_getElem? ht)) _ (Rely.refl _ _)).resolve_left halive
  have htid : l.tid = i := (hinv.coh.made i l (by simp [Pool.locs, ht])).1
  have hmem : (site, Exc.operationalError) ∈ l.faults := hmet _ ht
  -- what lies behind the last attempt is no outage
  have hbehind : ∀ {F n}, Trail everything F n → (site, Exc.operationalError) ∉ F := by
    rintro F n (⟨rfl, _⟩ | ⟨rfl, _⟩) hF
    · cases hF
    · cases List.mem_singleton.mp hF
  cases hended with
  | denied _ h => rw [h.faults] at hmem; cases hmem
  | done htrail _ h => rw [h.faults] at hmem; exact absurd hmem (hbehind htrail)
  | rejected htrail _ h => rw [h.faults] at hmem; exact absurd hmem (hbehind htrail)
  | faulted htrail _ _ _ h =>
      rw [h.faults] at hmem
      obtain ⟨rfl, rfl⟩ := Prod.mk.inj (List.mem_singleton.mp ((List.mem_append.mp hmem).resolve_left (hbehind htrail)))
      exact ⟨rfl, fun x hx => htid ▸ h.fresh x hx⟩
  | unanswered htrail _ _ h => rw [h.faults] at hmem; exact absurd hmem (hbehind htrail)

theorem failsClosed_operational (request : RequestState) (svc : WriteSuspensionService)
    (hlog : ∀ x ∈ c.shared.log, x.tid ≠ i) : FailsClosed c i request svc (.error .operationalError) :=
  ⟨rfl, rfl, List.mem_cons_self, rfl, hlog⟩

/-- **A call that loses the database fails closed exactly when the statement belongs to `check_or_start`, to `fail`, or is
the commit.** In every run, with any other calls and outages around it and at either attempt. -/
theorem outage_fails_closed_iff (h₀ : Initial sh) (request : RequestState) (svc : WriteSuspensionService)
    (h : Reaches anyStep (start st sh calls) c) (hsends : sends c i = some site)
    (hlost : step c (.outage i) = some c₁) (h' : Reaches anyStep c₁ c₂) (hend : outcome c₂ i = some (l, r))
    (halive : r ≠ .error .crashed) :
    FailsClosed c₂ i request svc r ↔ site = .checkOrStart ∨ site = .fail ∨ site = .commit := by
  have hreach : Reaches anyStep (start st sh calls) c₂ := (Reaches.step h trivial hlost).trans h'
  obtain ⟨rfl, hlog⟩ := outage_escapes h₀ hreach ((Met.outage hsends hlost).run h') hend halive
  constructor
  · intro hclosed
    have hraised := hclosed.raised
    cases site <;> simp [escape] at hraised <;> simp
  · rintro (rfl | rfl | rfl) <;> exact failsClosed_operational request svc hlog

end Outage

/-! ## Deposits that lose the database -/

namespace Sample

def requestState : RequestState := ⟨some "req-1", none, 1778576401000000, "0123456789abcdef0123456789abcdef"⟩

/-- A service that suspends nothing: the guard lets the request pass. -/
def suspension : WriteSuspensionService := { retryAfterSeconds := 30, runtimeState := WriteSuspensionService.inactiveState 30 }

/-- Two calls with one key: the second has met the record of the first, and is about to read it in its second attempt. -/
def retrying : Config :=
  run [bareCall "key-1" deposit, bareCall "key-1" deposit]
    ([.run 0, .run 0, .run 1, .run 1] ++ List.replicate 17 (.run 0) ++ List.replicate 5 (.run 1))

/-- There it loses the database. -/
def lostAgain : Config := (step retrying (.outage 1)).getD retrying

/-- A deposit that is about to lock its account. -/
def locking : Config := run [bareCall "key-1" deposit] (List.replicate 4 (.run 0))

/-- There it loses the database. -/
def lostLocking : Config := (step locking (.outage 0)).getD locking

end Sample

theorem step_getD {label : Label} (h : (step c label).isSome = true) : step c label = some ((step c label).getD c) := by
  obtain ⟨c', hc⟩ := Option.isSome_iff_exists.mp h
  rw [hc]
  rfl

/-- Lost at the `SELECT` of `check_or_start`, in the second attempt. -/
theorem outage_at_check_or_start :
    let c := (follow Sample.lostAgain (List.replicate 2 (.run 1))).getD Sample.lostAgain
    ∃ l r, outcome c 1 = some (l, r) ∧ l.retries = 1 ∧ FailsClosed c 1 Sample.requestState Sample.suspension r := by
  intro c
  have hend : (outcome c 1).map (fun o => (o.1.retries, o.2 == .error .crashed)) = some (1, false) := by decide +kernel
  obtain ⟨⟨l, r⟩, ho, hr⟩ := Option.map_eq_some_iff.mp hend
  obtain ⟨hretries, halive⟩ := Prod.mk.inj hr
  have hreach : Reaches anyStep (start Sample.settings Sample.shared _) Sample.retrying := Sample.reaches_run _ _
  have hsends : sends Sample.retrying 1 = some .checkOrStart := by decide +kernel
  have hlost : step Sample.retrying (.outage 1) = some Sample.lostAgain := step_getD (by decide +kernel)
  have hrest : Reaches anyStep Sample.lostAgain c := Reaches.followed _ fun _ _ _ => trivial
  refine ⟨l, r, ho, hretries, ?_⟩
  exact (outage_fails_closed_iff Sample.initial Sample.requestState Sample.suspension hreach hsends hlost hrest ho
    (by simpa using halive)).mpr (Or.inl rfl)

/-- Lost at the `SELECT ... FOR UPDATE` of the account: `PendingRollbackError` leaves the call, the API answers 500, and
writes go on. -/
theorem outage_at_account_lock :
    let c := (follow Sample.lostLocking (List.replicate 4 (.run 0))).getD Sample.lostLocking
    Reaches anyStep (start Sample.settings Sample.shared [Sample.bareCall "key-1" Sample.deposit]) Sample.locking ∧
      sends Sample.locking 0 = some .applyStartedRequest ∧
      step Sample.locking (.outage 0) = some Sample.lostLocking ∧ Reaches anyStep Sample.lostLocking c ∧
      ∃ l, outcome c 0 = some (l, .error .pendingRollbackError) ∧
        (Api.createTransactionEvent Sample.requestState Sample.suspension (.error .pendingRollbackError)).1.statusCode =
          500 ∧
        (Api.createTransactionEvent Sample.requestState Sample.suspension (.error .pendingRollbackError)).2.status.active =
          false ∧
        ¬ FailsClosed c 0 Sample.requestState Sample.suspension (.error .pendingRollbackError) := by
  intro c
  have hend : (outcome c 0).map Prod.snd = some (.error .pendingRollbackError) := by decide +kernel
  obtain ⟨⟨l, r⟩, ho, rfl⟩ := Option.map_eq_some_iff.mp hend
  refine ⟨Sample.reaches_run _ _, by decide +kernel, step_getD (by decide +kernel),
    Reaches.followed _ fun _ _ _ => trivial, l, ho, rfl, rfl, fun h => ?_⟩
  cases h.raised

end EventConsistency
