import EventConsistency.Runs

/-!
# Recovery from unique conflicts

* `Recovered` : a call that has met an `IntegrityError` has rolled its first attempt back, has made exactly one second
  attempt, and has decided from what is committed for its key;
* `clashFree` : the steps other than deletions and than an event insert that meets a committed event with its external id;
* **`conflict_recovery`** : as long as no event insert meets such an event, every call recovers from every conflict;
* `conflict_at_event_insert` : a call whose event insert does meet one sends `fail` on the failed session and ends with
  `PendingRollbackError`, without a second attempt.
-/

namespace EventConsistency

open Lib TransactionEventService

/-- The step is an event insert that meets a committed event with its external id. -/
def clashes (c : Config) : Label → Bool
  | .run i => match c.threads[i]? with
      | some ⟨l, .op o _⟩ => o.meetsDuplicate c.shared l
      | _ => false
  | _ => false

def clashFree (c : Config) (label : Label) : Bool := !label.deletes && !clashes c label

/-- Nothing is excluded but deletions and clashes, and all bodies are objects. -/
def clashing : Opts := { quarantines := true, duplicates := false, dicts := true }

theorem permits_clashing {c : Config} {label : Label} (h : clashFree c label = true) : permits clashing c label := by
  simp only [clashFree, Bool.and_eq_true, Bool.not_eq_true'] at h
  cases label with
  | run i =>
      intro _ l o k ht
      have := h.2
      rwa [clashes, ht] at this
  | outage i => exact fun h => absurd h (by decide)
  | deleteExpired _ _ => cases h.1
  | setQuarantines _ => exact rfl
  | crash _ => trivial
  | tick _ => trivial
  | expireLock _ => trivial
  | evict _ => trivial

/-- What is committed for the key of the call decides how it ends. -/
inductive Decided (st : Settings) (sh : Shared) (l : Session) : Except Exc TransactionProcessingResult → Prop where
  | answered {r : IdempotencyRecord} {reply : TransactionProcessingResult} (hr : sh.db.recordByKey l.key = some r)
      (hh : r.requestHash = requestHash st l.request) (h : Replayed r reply) : Decided st sh l (.ok reply)
  | cached {x : Commit} {e : CacheEntry} {reply : TransactionProcessingResult} (hw : l.wiring.responseCache = true)
      (hx : x ∈ sh.log) (ht : x.tid = l.tid) (he : x.cacheHit = some e)
      (hh : e.response.requestHash = requestHash st l.request)
      (h : replayResult (some e.response.responseCode) e.response.responseBody 200 = .ok reply) :
      Decided st sh l (.ok reply)
  | conflict {r : IdempotencyRecord} (hr : sh.db.recordByKey l.key = some r)
      (hh : r.requestHash ≠ requestHash st l.request) : Decided st sh l (.error (.idempotencyConflict l.key))

/-- The call has recovered from a unique conflict. -/
structure Recovered (st : Settings) (sh : Shared) (l : Session) (r : Except Exc TransactionProcessingResult) :
    Prop where
  /-- One second attempt. -/
  retries : l.retries = 1
  /-- The second attempt meets no conflict. -/
  once : (l.faults.filter fun f => f.2 == .integrityError) = [(.checkOrStart, .integrityError)]
  /-- The first attempt has left nothing behind, and the second writes nothing. -/
  rolledBack : ∀ x ∈ sh.log, x.tid = l.tid → x.work = {}
  /-- Unless PostgreSQL is lost to it, the second attempt ends in a result or in `IdempotencyConflict`. -/
  decided : (∀ site, (site, Exc.operationalError) ∉ l.faults) → Decided st sh l r

section Conflicts

variable {st : Settings} {opts : Opts} {calls : List Call} {sh : Shared} {c : Config} {l : Session}

/-- A commit that writes nothing was decided by the record of its key, which is still there, or by the cache. -/
theorem Chain.decided {init db : Db} {log : List Commit} {x : Commit} (hd : opts.deletes = false)
    (h : Chain st opts init log db) (hx : x ∈ log) (hW : x.work = {}) :
    (∃ r, db.recordByKey x.key = some r ∧ r.requestHash = requestHash st x.request ∧ Replayed r x.reply) ∨
      ∃ e, x.wiring.responseCache = true ∧ x.cacheHit = some e ∧
        e.response.requestHash = requestHash st x.request ∧
        replayResult (some e.response.responseCode) e.response.responseBody 200 = .ok x.reply := by
  induction h with
  | nil => cases hx
  | commit _ _ hcom hcov ih =>
      rcases List.mem_append.mp hx with hx | hx
      · exact (ih hx).imp_left fun ⟨r, hr, h⟩ => ⟨r, by rw [recordByKey_apply hcov, hr, Option.some_or], h⟩
      · cases List.mem_singleton.mp hx
        rw [hW, Overlay.apply_empty]
        rw [hW] at hcom
        exact hcom.unwritten hd
  | deleteExpired _ hd' _ _ _ => rw [hd] at hd'; cases hd'
  | setQuarantines _ _ _ ih => exact ih hx

/-- **A call recovers from a unique conflict, as long as no event insert meets a committed event.** In every run
without deletions and clashes, every call that has ended and has met an `IntegrityError` has recovered from it. -/
theorem conflict_recovery (h₀ : Initial sh) (hb : BodiesOk sh.db) (hc : CachedOk sh.cache)
    (h : Reaches (fun c label => clashFree c label = true) (start st sh calls) c) {i : Nat}
    {r : Except Exc TransactionProcessingResult} (ht : c.threads[i]? = some ⟨l, .lift r⟩) (hr : r ≠ .error .crashed)
    {site : Site} (hf : (site, Exc.integrityError) ∈ l.faults) : Recovered st c.shared l r := by
  have h' : Reaches (permits clashing) (start st sh calls) c := h.mono fun c label hok => permits_clashing hok
  have hinv := h'.inv rfl h₀ ⟨fun hcold => absurd hcold (by decide), fun _ => ⟨hb, hc⟩⟩
  have hend : Ended st clashing l.identity r c.shared l := by
    have := Logic.wp_lift.mp (hinv.wp _ (List.mem_of_getElem? ht)) _ (Rely.refl _ _)
    exact this.resolve_left hr
  have hone : ∀ x ∈ c.shared.log, ∀ y ∈ c.shared.log, x.tid = l.tid → y.tid = l.tid → x = y := fun x hx y hy hxt hyt =>
    List.inj_on_of_nodup_map hinv.coh.once hx hy (hxt.trans hyt.symm)
  cases hend with
  | denied _ h => rw [h.faults] at hf; cases hf
  | done htrail hW h =>
      rcases htrail with ⟨rfl, _⟩ | ⟨rfl, rfl, _⟩
      · rw [h.faults] at hf; cases hf
      · obtain ⟨x, hx, hxt, hxw, hxk, hxr, rfl, rfl⟩ := h.logged
        have hW := hW (by simp) rfl
        refine ⟨h.retries, by rw [h.faults]; rfl, fun y hy hyt => ?_, fun _ => ?_⟩
        · rw [hone y hy x hx hyt hxt]; exact hW
        · rcases Chain.decided rfl hinv.coh.chain hx hW with ⟨rec, hrec, hh, hrep⟩ | ⟨e, hw, he, hh, hrep⟩
          · rw [hxk] at hrec
            rw [hxr] at hh
            exact .answered hrec hh hrep
          · rw [hxr] at hh
            rw [hxw] at hw
            exact .cached hw hx hxt he hh hrep
  | rejected htrail hz h =>
      rcases htrail with ⟨rfl, _⟩ | ⟨rfl, rfl, _⟩
      · rw [h.faults] at hf; cases hf
      · refine ⟨h.retries, by rw [h.faults]; rfl, fun y hy hyt => absurd hyt (h.fresh y hy), fun _ => ?_⟩
        cases hz with
        | conflict _ hrec hh => exact .conflict (hrec rfl) hh
        | body hno => cases hno
  | @faulted F n site' y _ _ htrail hy hone' hk h =>
      rcases htrail with ⟨rfl, _⟩ | ⟨rfl, rfl, _⟩
      · -- without a trail the fault is the first one: no conflict ends the call so
        rw [h.faults] at hf
        obtain ⟨rfl, rfl⟩ := Prod.mk.inj (List.mem_singleton.mp hf)
        cases hk with
        | record _ _ => exact absurd rfl (hy rfl rfl)
        | event _ hd => cases hd
      · obtain ⟨rfl, _⟩ := hone' (by simp) rfl
        refine ⟨h.retries, by rw [h.faults]; rfl, fun y hy hyt => absurd hyt (h.fresh y hy), fun hno => ?_⟩
        refine absurd ?_ (hno site')
        rw [h.faults]
        exact List.mem_append_right _ List.mem_cons_self
  | unanswered _ hF _ h => rw [h.faults, hF rfl] at hf; cases hf

end Conflicts

/-- Two calls with one key: the second meets the record of the first, tries once more, and replays its answer. -/
theorem conflict_recovery_record :
    let calls := [⟨⟨false, false, true⟩, "key-1", Sample.deposit⟩, ⟨⟨false, false, true⟩, "key-1", Sample.deposit⟩]
    let c := Sample.run calls
      ([.run 0, .run 0, .run 1, .run 1] ++ List.replicate 17 (.run 0) ++ List.replicate 7 (.run 1))
    ∃ l reply, c.threads[1]? = some ⟨l, .lift (.ok reply)⟩ ∧ l.faults = [(.checkOrStart, .integrityError)] ∧
      Recovered Sample.settings c.shared l (.ok reply) := by
  intro calls c
  have hend : (outcome c 1).map (fun o => (o.1.faults, o.2.toOption.isSome)) =
      some ([(.checkOrStart, .integrityError)], true) := by decide +kernel
  obtain ⟨⟨l, r⟩, ho, hr⟩ := Option.map_eq_some_iff.mp hend
  obtain ⟨hf, hok⟩ := Prod.mk.inj hr
  obtain ⟨reply, rfl⟩ : ∃ reply, r = .ok reply := by
    cases r with
    | ok reply => exact ⟨reply, rfl⟩
    | error x => cases hok
  refine ⟨l, reply, outcome_eq ho, hf, ?_⟩
  have hreach : Reaches (fun c label => clashFree c label = true) (start Sample.settings Sample.shared calls) c :=
    Reaches.followed_of _ (by decide +kernel)
  have hbodies : BodiesOk Sample.shared.db := fun _ h => by cases h
  have hcached : CachedOk Sample.shared.cache := fun _ h => by cases h
  have hmem : (Site.checkOrStart, Exc.integrityError) ∈ l.faults := by
    rw [hf]
    exact List.mem_cons_self
  exact conflict_recovery Sample.initial hbodies hcached hreach (outcome_eq ho) (by simp) hmem

/-- Two accounts racing on one external event id: the second insert meets the committed event of the first, `fail` is
sent on the failed session, and `PendingRollbackError` leaves the call. There is no second attempt. -/
theorem conflict_at_event_insert :
    let calls := [Sample.plainCall "key-1" Sample.deposit, Sample.plainCall "key-2" Sample.rival]
    let c := Sample.run calls
      (List.replicate 8 (.run 1) ++ List.replicate 21 (.run 0) ++ List.replicate 6 (.run 1))
    Reaches (fun _ label => label.deletes = false) (start Sample.settings Sample.shared calls) c ∧
      ∃ l, c.threads[1]? = some ⟨l, .raise .pendingRollbackError⟩ ∧
        l.faults = [(.applyStartedRequest, .integrityError)] ∧ l.retries = 0 ∧
        ¬ Recovered Sample.settings c.shared l (.error .pendingRollbackError) := by
  intro calls c
  refine ⟨Sample.reaches_run_of _ (by decide), ?_⟩
  have hend : (outcome c 1).map (fun o => (o.1.faults, o.1.retries, match o.2 with | .error x => some x | .ok _ => none)) =
      some ([(.applyStartedRequest, .integrityError)], 0, some .pendingRollbackError) := by decide +kernel
  obtain ⟨⟨l, r⟩, ho, hr⟩ := Option.map_eq_some_iff.mp hend
  obtain ⟨hf, hn, hx⟩ : l.faults = _ ∧ l.retries = 0 ∧ _ := by simpa only [Prod.mk.injEq] using hr
  obtain rfl : r = .error .pendingRollbackError := by
    cases r with
    | ok reply => cases hx
    | error x => cases hx; rfl
  exact ⟨l, outcome_eq ho, hf, hn, fun h => absurd (h.retries.symm.trans hn) (by decide)⟩

end EventConsistency
