import EventConsistency.Records

/-!
# Success answers and the response cache

* `Backed` : the committed database stands behind a success answer: a COMPLETED record of the key and the request with
  this body, and the event and the ledger entry that the body names;
* `outruns` : the step commits a call that answers from a cache entry of a `complete` whose call has not committed;
* **`success_backed`** : as long as no step does, every call that returns 200 is backed, from its return on;
* `success_before_commit` : `complete` writes the cache inside the open transaction; when its commit then fails, the
  next call with the key returns 200 while the database is empty.
-/

namespace EventConsistency

open Lib TransactionEventService

/-- The committed database stands behind the success answer. -/
structure Backed (st : Settings) (db : Db) (key : String) (request : TransactionEventCreateRequest)
    (reply : TransactionProcessingResult) : Prop where
  record : ∃ r, db.recordByKey key = some r ∧ r.status = .completed ∧ r.requestHash = requestHash st request ∧
    r.responseBody = some (.obj reply.body)
  named : ∃ e ∈ db.events, ∃ l ∈ db.ledger, l.transactionEventId = e.id ∧ Names reply.body e l

/-- The entry was written under another key, or by `complete` in a call that has not committed. -/
def CacheEntry.unbacked (e : CacheEntry) (c : Config) (key : String) : Bool :=
  !(c.threads[e.writer]?.any fun t => t.loc.key == key) ||
    (e.site == .complete && !c.shared.log.any fun x => x.tid == e.writer)

/-- The step commits a call that answers its request from such an entry. -/
def outruns (st : Settings) (c : Config) : Label → Bool
  | .run i => match c.threads[i]? with
      | some ⟨l, .op (.commit _) _⟩ => match l.cacheHit with
          | some e => e.response.requestHash == requestHash st l.request && e.unbacked c l.key
          | none => false
      | _ => false
  | _ => false

/-- Nothing is excluded but the deletion of records, and the cache is empty at the start. -/
def coldStart : Opts := { quarantines := true, cold := true }

theorem permits_coldStart {label : Label} (c : Config) (h : label.deletes = false) : permits coldStart c label := by
  cases label with
  | run i => exact fun h => absurd h (by decide)
  | outage i => exact fun h => absurd h (by decide)
  | deleteExpired _ _ => cases h
  | setQuarantines _ => exact rfl
  | crash _ => trivial
  | tick _ => trivial
  | expireLock _ => trivial
  | evict _ => trivial

section Backed

variable {st : Settings} {opts : Opts} {w : Wiring} {hit : Option CacheEntry} {init db db' : Db} {key : String}
  {request : TransactionEventCreateRequest} {W : Overlay} {reply : TransactionProcessingResult}
  {r : IdempotencyRecord}

/-- Growth of the database keeps what stands behind an answer. -/
theorem Backed.mono (h : Backed st db key request reply) (hg : Evolves opts db db') (hd : opts.deletes = false) :
    Backed st db' key request reply where
  record := by
    obtain ⟨r, hr, hrest⟩ := h.record
    obtain ⟨r', rfl, hr'⟩ := (hg.records hd).find?_some (fun a b hab => by rw [hab]) hr
    exact ⟨r', hr', hrest⟩
  named := by
    obtain ⟨e, he, l, hl, hid, hn⟩ := h.named
    obtain ⟨e', he', hstep⟩ := hg.events.mem_left he
    obtain ⟨l', hl', rfl⟩ := hg.ledger.mem_left hl
    exact ⟨e', he', l', hl', hid.trans hstep.id_eq.symm, hn.step hstep⟩

/-- A closed record stands behind the answer it gives. -/
theorem Closed.backed (h : Closed db r) (hk : db.recordByKey key = some r) (hs : r.status = .completed)
    (hh : r.requestHash = requestHash st request) (hb : dictOf r.responseBody = .ok reply.body) :
    Backed st db key request reply := by
  obtain ⟨_, body, e, l, hbody, he, hl, hid, hn⟩ := h.completed hs
  rw [hbody] at hb
  obtain rfl : body = reply.body := by
    injection hb
  exact ⟨⟨r, hk, hs, hh, hbody⟩, e, he, l, hl, hid, hn⟩

theorem replayResult_ok {code : Option Nat} {body : Option Json} {default : Nat}
    (h : replayResult code body default = .ok reply) :
    dictOf body = .ok reply.body ∧ reply.statusCode = codeOr code default := by
  unfold replayResult at h
  split at h
  · cases h
  · rename_i kvs hd
    cases h
    exact ⟨hd, rfl⟩

/-- A closed record that answers 200 is completed. -/
theorem Closed.replayed (h : Closed db r) (hr : Replayed r reply) (h200 : reply.statusCode = 200) :
    r.status = .completed ∧ dictOf r.responseBody = .ok reply.body := by
  unfold Replayed at hr
  split at hr
  · rename_i hs; exact absurd hs h.notProcessing
  · rename_i hs; exact ⟨hs, (replayResult_ok hr).1⟩
  · rename_i hs
    have hcode := (replayResult_ok hr).2
    rw [h200] at hcode
    rcases (h.failed hs).1 with hc | hc | hc <;> rw [hc] at hcode <;> cases hcode

theorem failureResult_ne_200 {x : Exc} (h : isDomainFailure x = true) : (failureResult x).statusCode ≠ 200 := by
  change statusCodeForException x ≠ 200
  rcases statusCode_of_domain h with hc | hc | hc <;> rw [hc] <;> decide

/-- The record that a commit writes is the record of its key from then on. -/
theorem Opened.recordByKey {rec rec' : IdempotencyRecord} {al el : List Nat} (h : Opened st db key request rec)
    (hc : Covered W al el) (hW : W.records.inserted = [rec']) (hk : rec'.idempotencyKey = rec.idempotencyKey) :
    (W.apply db).recordByKey key = some rec' := by
  rw [recordByKey_apply hc, h.absent, hW]
  simp [hk, h.key_eq]

/-- A commit that answers 200 is backed, if the cache entry it may have read repeats the record of its key. -/
theorem Committed.backed {al el : List Nat} (h : Committed st opts w hit init db key request W reply)
    (hd : opts.deletes = false) (hc : Covered W al el) (hclosed : ∀ r ∈ db.records, Closed db r)
    (hhit : ∀ e, hit = some e → e.response.requestHash = requestHash st request → Repeats db key e.response)
    (h200 : reply.statusCode = 200) : Backed st (W.apply db) key request reply := by
  have hnew := h.closed
  cases h with
  | @replay r _ hr hh h =>
      have hcl := hclosed r (List.mem_of_find?_eq_some (hr hd))
      obtain ⟨hs, hb⟩ := hcl.replayed h h200
      rw [Overlay.apply_empty]
      exact hcl.backed (hr hd) hs hh hb
  | @cached e _ hw he hh h =>
      obtain ⟨r, hr, hs, hrh, hrb, _⟩ := hhit e he hh
      rw [Overlay.apply_empty]
      refine (hclosed r (List.mem_of_find?_eq_some hr)).backed hr hs (hrh.trans hh) ?_
      rw [hrb]
      exact (replayResult_ok h).1
  | refused _ hx => exact absurd h200 (failureResult_ne_200 hx.domain)
  | duplicate ho _ _ _ _ =>
      exact (hnew _ List.mem_cons_self).backed (ho.recordByKey hc rfl rfl) rfl ho.hash_eq rfl
  | failed _ _ _ _ _ hx => exact absurd h200 (failureResult_ne_200 (ledgerAmount_error hx))
  | applied ho _ _ _ _ _ _ =>
      exact (hnew _ List.mem_cons_self).backed (ho.recordByKey hc rfl rfl) rfl ho.hash_eq rfl

end Backed

/-! ## Whole runs -/

section Runs

variable {st : Settings} {calls : List Call} {sh : Shared} {c : Config}

/-- What a call has read from the cache repeats the record of its key: `check_or_start` has set it from the committed
record, or `complete` has and its call has committed. -/
theorem Coherent.repeats (h : Coherent st coldStart calls c.shared c.locs) {l : Session} (hl : l ∈ c.locs)
    {e : CacheEntry} (he : l.cacheHit = some e) (hbacked : e.unbacked c l.key = false) :
    Repeats c.shared.db l.key e.response := by
  obtain ⟨m, hm, hw⟩ := h.hits rfl l hl e he
  obtain ⟨hmt, -⟩ := h.made _ m hm
  obtain ⟨t, ht, rfl⟩ : ∃ t, c.threads[e.writer]? = some t ∧ t.loc = m := by
    simpa [Pool.locs] using hm
  simp only [CacheEntry.unbacked, ht, Option.any_some, Bool.or_eq_false_iff, Bool.not_eq_false', beq_iff_eq] at hbacked
  obtain ⟨hkey, hsettled⟩ := hbacked
  rw [← hkey]
  refine (h.wrote t.loc (List.mem_of_getElem? hm) e hw).2 rfl ?_
  by_cases hsite : e.site = .complete
  · simp only [hsite, beq_self_eq_true, Bool.true_and, Bool.not_eq_false', List.any_eq_true, beq_iff_eq] at hsettled
    obtain ⟨x, hx, hxt⟩ := hsettled
    exact Or.inr ⟨x, hx, hxt.trans hmt.symm⟩
  · exact Or.inl hsite

/-- Every commit that has answered 200 is backed. -/
theorem Reaches.backed (h₀ : Initial sh) (hcold : sh.cache = []) (hr : ∀ r ∈ sh.db.records, Closed sh.db r)
    (h : Reaches (fun c label => label.deletes = false ∧ outruns st c label = false) (start st sh calls) c) :
    ∀ x ∈ c.shared.log, x.reply.statusCode = 200 → Backed st c.shared.db x.key x.request x.reply := by
  induction h with
  | refl =>
      intro x hx
      rw [show (start st sh calls).shared.log = [] from h₀.log_eq] at hx
      cases hx
  | @step c c' label h hok hs ih =>
      have hadmits : Admits coldStart sh := ⟨fun _ => hcold, fun hf => absurd hf (by decide)⟩
      have h' : Reaches (permits coldStart) (start st sh calls) c := h.mono fun c _ hok => permits_coldStart c hok.1
      have hinv := h'.inv rfl h₀ hadmits
      have hold : ∀ x ∈ c.shared.log, x.reply.statusCode = 200 →
          Backed st c'.shared.db x.key x.request x.reply := fun x hx h200 =>
        (ih x hx h200).mono ((step_write hinv (permits_coldStart c hok.1) hs).evolves hinv.coh.valid) rfl
      rcases step_commit hinv hs with hlog | ⟨i, l, reply, k, rfl, ht, howed, hsh⟩
      · rw [hlog]; exact hold
      · rw [hsh] at hold ⊢
        intro x hx h200
        rcases List.mem_append.mp hx with hx | hx
        · exact hold x hx h200
        · obtain rfl := List.mem_singleton.mp hx
          refine howed.shape.backed rfl howed.covered ?_ (fun e he hh => ?_) h200
          · exact Closed.chain hr (h'.chain rfl h₀ hadmits)
          · -- the step is no commit that outruns the writer of the entry
            have hout := hok.2
            simp only [outruns, ht, he, hh, beq_self_eq_true, Bool.true_and] at hout
            exact hinv.coh.repeats (by simpa [Pool.locs] using ⟨_, List.mem_of_getElem? ht, rfl⟩) he hout

/-- **No success without a commit, as long as no call answers from what `complete` has cached in a call that has not
committed.** In every run without deletions in which no step does, the committed database stands behind every call that
has returned 200. -/
theorem success_backed (h₀ : Initial sh) (hcold : sh.cache = []) (hr : ∀ r ∈ sh.db.records, Closed sh.db r)
    (h : Reaches (fun c label => label.deletes = false ∧ outruns st c label = false) (start st sh calls) c)
    {i : Nat} {l : Session} {reply : TransactionProcessingResult} (ht : c.threads[i]? = some ⟨l, .ret reply⟩)
    (h200 : reply.statusCode = 200) : Backed st c.shared.db l.key l.request reply := by
  have h' : Reaches (permits coldStart) (start st sh calls) c := h.mono fun c _ hok => permits_coldStart c hok.1
  obtain ⟨x, hx, _, _, hk, hreq, rfl⟩ :=
    h'.returned rfl h₀ ⟨fun _ => hcold, fun hf => absurd hf (by decide)⟩ ht (by rw [h200]; decide)
  rw [← hk, ← hreq]
  exact h.backed h₀ hcold hr x hx h200

/-- A deposit, and the same request twice more: after an eviction the second call answers from the database and caches the
answer, but loses its commit; the third answers from the cache. -/
theorem success_backed_replay :
    let calls := List.replicate 3 (Sample.call "key-1" Sample.deposit)
    let c := Sample.run calls
      (List.replicate 23 (.run 0) ++ [.evict ("cache:idempotency:" ++ Sample.settings.sha256 (utf8 "key-1".toList))] ++
        List.replicate 5 (.run 1) ++ [.outage 1] ++ List.replicate 3 (.run 1) ++ List.replicate 4 (.run 2))
    ∃ l reply, c.threads[2]? = some ⟨l, .ret reply⟩ ∧ reply.statusCode = 200 ∧ l.cacheHit.isSome = true ∧
      Backed Sample.settings c.shared.db l.key l.request reply := by
  intro calls c
  have hend : (outcome c 2).map (fun o => (o.1.cacheHit.isSome, o.2.toOption.map (·.statusCode))) =
      some (true, some 200) := by decide +kernel
  obtain ⟨⟨l, r⟩, ho, hr⟩ := Option.map_eq_some_iff.mp hend
  obtain ⟨hhit, hcode⟩ := Prod.mk.inj hr
  have hreach : Reaches (fun c label => (!label.deletes && !outruns Sample.settings c label) = true)
      (start Sample.settings Sample.shared calls) c := Reaches.followed_of _ (by decide +kernel)
  have hreach' : Reaches (fun c label => label.deletes = false ∧ outruns Sample.settings c label = false)
      (start Sample.settings Sample.shared calls) c := hreach.mono fun c label hok => by simpa using hok
  cases r with
  | error x => cases hcode
  | ok reply =>
      have h200 : reply.statusCode = 200 := Option.some.inj hcode
      exact ⟨l, reply, outcome_eq ho, h200, hhit,
        success_backed Sample.initial rfl (by simp [Sample.shared, Sample.db]) hreach' (outcome_eq ho) h200⟩

/-- PostgreSQL is lost at the commit of a deposit, whose answer is already in the cache: the next call with the key
returns 200 from there, and the database holds neither a record nor an event nor a ledger entry. -/
theorem success_before_commit :
    let calls := [Sample.call "key-1" Sample.deposit, Sample.call "key-1" Sample.deposit]
    let c := Sample.run calls
      (List.replicate 21 (.run 0) ++ [.outage 0] ++ List.replicate 3 (.run 0) ++ List.replicate 4 (.run 1))
    Reaches (fun _ label => label.deletes = false) (start Sample.settings Sample.shared calls) c ∧
      ∃ l reply, c.threads[1]? = some ⟨l, .ret reply⟩ ∧ reply.statusCode = 200 ∧ c.shared.db = Sample.db ∧
        ¬ Backed Sample.settings c.shared.db l.key l.request reply := by
  intro calls c
  refine ⟨Sample.reaches_run_of _ (by decide), ?_⟩
  have hend : (outcome c 1).map (fun o => o.2.toOption.map (·.statusCode)) = some (some 200) := by decide +kernel
  obtain ⟨⟨l, r⟩, ho, hcode⟩ := Option.map_eq_some_iff.mp hend
  have hdb : c.shared.db = Sample.db := by decide +kernel
  cases r with
  | error x => cases hcode
  | ok reply =>
      refine ⟨l, reply, outcome_eq ho, Option.some.inj hcode, hdb, fun h => ?_⟩
      obtain ⟨r, hr, _⟩ := h.record
      rw [hdb] at hr
      cases hr

end Runs

end EventConsistency
