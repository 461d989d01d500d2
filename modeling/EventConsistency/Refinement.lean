import EventConsistency.Lib.Machine
import EventConsistency.Runs
import EventConsistency.Serve
import Mathlib.Data.List.Find

/-!
# The cached service against the plain one

* `Column` : the `JSONB` column of the bodies, which may give a value back in another form;
* `Twin` : both services on the same sequence of calls, with the entries of the cache evicted at any time;
* `Faithful` : the databases are the same, and every entry of the cache repeats the COMPLETED record of its key;
* `Restates` : what a call stores in the cache is the answer that the record will give;
* **`cached_refines`** : over steps that all meet `Restates` the services cannot be told apart; **`cached_overwrites`** :
  over another `complete` they can.
-/

namespace EventConsistency

open Lib

/-! ## The column of the bodies -/

/-- The `JSONB` column of `response_body`: the values that PostgreSQL takes, and what it gives back of one. Redis gives
back the text that it was given. -/
structure Column where
  takes : Json → Bool
  reads : Json → Json

namespace Column

/-- What has been read from the column goes through it as it is. -/
def Stable (column : Column) : Prop :=
  ∀ b, column.takes b = true → column.takes (column.reads b) = true ∧ column.reads (column.reads b) = column.reads b

/-- The column takes the body and gives it back as it is. -/
def Keeps (column : Column) (body : Option Json) : Prop := ∀ b ∈ body, column.takes b = true ∧ column.reads b = b

/-- The column does not give the body back in another form. -/
def Spares (column : Column) (body : Option Json) : Prop := ∀ b ∈ body, column.takes b = true → column.reads b = b

instance (column : Column) (body : Option Json) : Decidable (column.Spares body) :=
  inferInstanceAs (Decidable (∀ b ∈ body, column.takes b = true → column.reads b = b))

/-- The record as later transactions read it. -/
def reread (column : Column) (r : IdempotencyRecord) : IdempotencyRecord :=
  { r with responseBody := r.responseBody.map column.reads }

/-- Among the bodies is one that PostgreSQL does not take. -/
def refuses (column : Column) (sh : Shared) : Bool :=
  sh.db.records.any fun r => r.responseBody.any fun b => !column.takes b

def rereadAll (column : Column) (sh : Shared) : Shared :=
  { sh with db := { sh.db with records := sh.db.records.map column.reread } }

/-- What a transaction gives back and leaves, with its bodies in the column: a body that PostgreSQL does not take makes
the flush raise `DataError`, and nothing is left. -/
def through (column : Column) (before : Shared) (out : Except Exc Answer × Shared) : Except Exc Answer × Shared :=
  if column.refuses out.2 then (.error .dataError, before) else (out.1, column.rereadAll out.2)

end Column

/-! ## Both services -/

inductive TwinEvent where
  | turn (clock : Time) (faults : RedisFaults) (call : IdempotencyCall)
  | evict (cacheKey : String)

/-- Both services on the same calls: what each of them has left, and what each has given back call by call. -/
structure Twin where
  plain : Shared
  cached : Shared
  outcomes : List (Except Exc Answer × Except Exc Answer) := []

def Twin.step (column : Column) (svc : Service) (l : Session) (t : Twin) : TwinEvent → Option Twin
  | .turn clock faults call =>
      let plain := { t.plain with clock := clock }
      let cached := { t.cached with clock := clock }
      let ours := column.through plain (serve faults l (call.plain svc) plain)
      let theirs := column.through cached (serve faults l (call.cached svc) cached)
      some ⟨ours.2, theirs.2, t.outcomes ++ [(ours.1, theirs.1)]⟩
  | .evict cacheKey =>
      some { t with cached := { t.cached with cache := t.cached.cache.filter fun kv => kv.1 != cacheKey } }

/-- The keys of the calls. -/
def TwinEvent.within (keys : List String) : TwinEvent → Prop
  | .turn _ _ call => call.key ∈ keys
  | .evict _ => True

/-- What the call stores in the cache is the answer that the record will give: a check that it answers from the database
finds a response code other than `NULL` and 0, a `complete` of a COMPLETED record repeats its answer, and one that closes
the record gives it a body that the column gives back as it is. -/
def Restates (column : Column) (svc : Service) (t : Twin) : TwinEvent → Prop
  | .turn _ faults (.checkOrStart key payload) =>
      faults.set = false → cachedAnswer svc faults t.cached key payload = none →
      ∀ r ∈ t.cached.db.recordByKey key, r.status = .completed →
        r.requestHash = generateRequestHash svc.sha256 payload → ∃ n ∈ r.responseCode, n ≠ 0
  | .turn _ faults (.complete key responseCode responseBody payload) =>
      faults.set = false →
      ∀ r ∈ t.cached.db.recordByKey key, (given payload).map (generateRequestHash svc.sha256) = some r.requestHash →
        (r.status = .completed → r.responseCode = some responseCode ∧ r.responseBody = responseBody) ∧
        (r.status = .processing → column.Spares responseBody)
  | .turn _ _ (.fail ..) => True
  | .evict _ => True

instance (column : Column) (svc : Service) (t : Twin) (e : TwinEvent) : Decidable (Restates column svc t e) :=
  match e with
  | .turn _ faults (.checkOrStart key payload) => inferInstanceAs (Decidable (faults.set = false →
      cachedAnswer svc faults t.cached key payload = none →
      ∀ r ∈ t.cached.db.recordByKey key, r.status = .completed →
        r.requestHash = generateRequestHash svc.sha256 payload → ∃ n ∈ r.responseCode, n ≠ 0))
  | .turn _ faults (.complete key responseCode responseBody payload) => inferInstanceAs (Decidable (faults.set = false →
      ∀ r ∈ t.cached.db.recordByKey key, (given payload).map (generateRequestHash svc.sha256) = some r.requestHash →
        (r.status = .completed → r.responseCode = some responseCode ∧ r.responseBody = responseBody) ∧
        (r.status = .processing → column.Spares responseBody)))
  | .turn _ _ (.fail ..) => inferInstanceAs (Decidable True)
  | .evict _ => inferInstanceAs (Decidable True)

instance (keys : List String) (e : TwinEvent) : Decidable (e.within keys) :=
  match e with
  | .turn _ _ call => inferInstanceAs (Decidable (call.key ∈ keys))
  | .evict _ => inferInstanceAs (Decidable True)

/-! ## Records and entries -/

/-- The entry repeats the answer of the record. -/
structure Repeated (r : IdempotencyRecord) (e : CacheEntry) : Prop where
  status : r.status = .completed
  requestHash : r.requestHash = e.response.requestHash
  responseCode : r.responseCode = some e.response.responseCode
  responseBody : r.responseBody = e.response.responseBody

section Rows

variable {sh : Shared} {r r' : IdempotencyRecord} {key key' : String}

theorem recordByKey_key {db : Db} (h : db.recordByKey key = some r) : r.idempotencyKey = key := by
  simpa using List.find?_some h

/-- A record that is there is found also after an insertion. -/
theorem recordByKey_addRecord (h : sh.db.recordByKey key = some r) (new : IdempotencyRecord) :
    (sh.addRecord new).db.recordByKey key = some r := by
  have hfind : sh.db.records.find? (fun r => r.idempotencyKey == key) = some r := h
  simp [Db.recordByKey, Shared.addRecord, List.find?_append, hfind]

/-- A closed record is found under its key in its new version. -/
theorem recordByKey_replaceRecord (hn : (sh.db.records.map IdempotencyRecord.id).Nodup)
    (h : sh.db.recordByKey key = some r) (hid : r'.id = r.id) (hkey : r'.idempotencyKey = r.idempotencyKey) :
    (sh.replaceRecord r').db.recordByKey key' = if key' = key then some r' else sh.db.recordByKey key' := by
  have hmem : r ∈ sh.db.records := List.mem_of_find?_eq_some h
  have hsame : ∀ x ∈ sh.db.records, x.id = r'.id → x = r := fun x hx hxid =>
    List.inj_on_of_nodup_map hn hx hmem (hxid.trans hid)
  have hkeys : ∀ x ∈ sh.db.records,
      ((fun x : IdempotencyRecord => x.idempotencyKey == key') ∘ fun x => if x.id = r'.id then r' else x) x =
        (x.idempotencyKey == key') := by
    intro x hx
    by_cases hxid : x.id = r'.id
    · have hxr := hsame x hx hxid
      subst hxr
      simp [hid, hkey]
    · simp [hxid]
  have hfind : (sh.replaceRecord r').db.recordByKey key' =
      (sh.db.recordByKey key').map fun x => if x.id = r'.id then r' else x := by
    show (Delta.replace r' sh.db.records).find? _ = _
    rw [Delta.replace, List.find?_map]
    exact congrArg _ (List.find?_congr hkeys)
  rw [hfind]
  cases hx : sh.db.recordByKey key' with
  | none =>
      have hne : key' ≠ key := fun heq => by
        rw [heq, h] at hx
        cases hx
      rw [if_neg hne]
      rfl
  | some x =>
      have hxmem : x ∈ sh.db.records := List.mem_of_find?_eq_some hx
      by_cases hk : key' = key
      · subst hk
        rw [h] at hx
        cases hx
        simp [hid]
      · have hxid : x.id ≠ r'.id := by
          intro heq
          have hxr := hsame x hxmem heq
          subst hxr
          exact hk ((recordByKey_key hx).symm.trans (recordByKey_key h))
        simp [hxid, hk]

end Rows

/-- The record that `complete` closes is found in its new version. -/
theorem recordByKey_completedAs {sh : Shared} {r : IdempotencyRecord} {key key' : String} (responseCode : Nat)
    (responseBody : Option Json) (hn : (sh.db.records.map IdempotencyRecord.id).Nodup)
    (h : sh.db.recordByKey key = some r) :
    (sh.replaceRecord (completedAs responseCode responseBody r sh.clock)).db.recordByKey key' =
      if key' = key then some (completedAs responseCode responseBody r sh.clock) else sh.db.recordByKey key' :=
  recordByKey_replaceRecord hn h rfl rfl

/-- What the checks of `complete` and `fail` have found out. -/
theorem closing_ok {svc : Service} {r : IdempotencyRecord} {payload : Option Json} {attempted : IdempotencyStatus}
    {close : Bool} (h : closing svc r payload attempted = .ok close) :
    r.status = (if close then .processing else attempted) ∧
      ∀ p, payload = some p → r.requestHash = generateRequestHash svc.sha256 p := by
  unfold closing at h
  split at h
  · cases h
  · rename_i u hm
    have hhash : ∀ p, payload = some p → r.requestHash = generateRequestHash svc.sha256 p := by
      intro p hp
      subst hp
      unfold IdempotencyService.ensureCompletionMatchesRequest IdempotencyService.ensureSameRequestHash at hm
      by_contra hne
      simp [hne] at hm
    split at h
    · rename_i hnoop
      cases h
      exact ⟨by simpa [IdempotencyService.isTerminalNoop] using hnoop, hhash⟩
    · split at h
      · cases h
      · rename_i v hc
        cases h
        refine ⟨?_, hhash⟩
        by_contra hne
        simp only [IdempotencyService.ensureCanCloseProcessing] at hc
        rw [if_neg (by simpa using hne)] at hc
        cases hc

/-! ## The simulation -/

/-- The database `sh`, which both services have, and the cache `cache` in front of one of them: every entry under one of
the keys repeats the COMPLETED record of the key. -/
structure Faithful (svc : Service) (keys : List String) (sh : Shared) (cache : List (String × CacheEntry)) : Prop where
  ids : (sh.db.records.map IdempotencyRecord.id).Nodup
  drawn : ∀ r ∈ sh.db.records, r.id < sh.seqs.record
  entries : ∀ key ∈ keys, ∀ e, cache.lookup (idempotencyCacheKey svc key) = some e →
    ∃ r, sh.db.recordByKey key = some r ∧ Repeated r e

namespace Faithful

variable {svc : Service} {keys : List String} {sh : Shared} {cache : List (String × CacheEntry)} {key : String}
  {r r' : IdempotencyRecord}

theorem addRecord (h : Faithful svc keys sh cache) {new : IdempotencyRecord} (hid : new.id = sh.seqs.record) :
    Faithful svc keys (sh.addRecord new) cache where
  ids := by
    simp only [Shared.addRecord, List.map_append, List.map_cons, List.map_nil]
    refine List.nodup_append.mpr ⟨h.ids, by simp, fun i hi j hj => ?_⟩
    obtain ⟨x, hx, rfl⟩ := List.mem_map.mp hi
    have hlt := h.drawn x hx
    rw [List.mem_singleton.mp hj, hid]
    omega
  drawn x hx := by
    have hx : x ∈ sh.db.records ++ [new] := hx
    show x.id < sh.seqs.record + 1
    rcases List.mem_append.mp hx with hx | hx
    · have := h.drawn x hx
      omega
    · rw [List.mem_singleton.mp hx, hid]
      omega
  entries key hk e he := by
    obtain ⟨x, hx, hrep⟩ := h.entries key hk e he
    exact ⟨x, recordByKey_addRecord hx new, hrep⟩

/-- Only a PROCESSING record is closed, and the cache has no entry for it. -/
theorem replaceRecord (h : Faithful svc keys sh cache) (hr : sh.db.recordByKey key = some r)
    (hs : r.status = .processing) (hid : r'.id = r.id) (hkey : r'.idempotencyKey = r.idempotencyKey) :
    Faithful svc keys (sh.replaceRecord r') cache where
  ids := by
    have hmap : (Delta.replace r' sh.db.records).map IdempotencyRecord.id = sh.db.records.map IdempotencyRecord.id := by
      rw [Delta.replace, List.map_map]
      refine List.map_congr_left fun x _ => ?_
      by_cases hx : x.id = r'.id <;> simp [hx]
    show ((Delta.replace r' sh.db.records).map IdempotencyRecord.id).Nodup
    rw [hmap]
    exact h.ids
  drawn x hx := by
    rcases Delta.mem_replace.mp hx with ⟨hx, _⟩ | ⟨rfl, _⟩
    · exact h.drawn x hx
    · rw [hid]
      exact h.drawn r (List.mem_of_find?_eq_some hr)
  entries key' hk e he := by
    obtain ⟨x, hx, hrep⟩ := h.entries key' hk e he
    rw [recordByKey_replaceRecord h.ids hr hid hkey]
    by_cases heq : key' = key
    · subst heq
      rw [hr] at hx
      cases hx
      have hcompleted := hrep.status
      rw [hs] at hcompleted
      cases hcompleted
    · exact ⟨x, by rw [if_neg heq, hx], hrep⟩

theorem store (h : Faithful svc keys sh cache)
    (hkeys : ∀ k ∈ keys, ∀ k' ∈ keys, idempotencyCacheKey svc k = idempotencyCacheKey svc k' → k = k')
    (hk : key ∈ keys) {e : CacheEntry} (hr : sh.db.recordByKey key = some r) (hrep : Repeated r e) :
    Faithful svc keys sh
      ((idempotencyCacheKey svc key, e) :: cache.filter fun kv => kv.1 != idempotencyCacheKey svc key) :=
  { h with
    entries := fun key' hk' e' he' => by
      by_cases heq : idempotencyCacheKey svc key' = idempotencyCacheKey svc key
      · rw [heq, List.lookup_cons_self] at he'
        cases he'
        rw [hkeys key' hk' key hk heq]
        exact ⟨r, hr, hrep⟩
      · have hne : (idempotencyCacheKey svc key' == idempotencyCacheKey svc key) = false := by simpa using heq
        rw [List.lookup_cons, hne] at he'
        exact h.entries key' hk' e' ((lookup_filter_ne heq).symm.trans he') }

theorem evict (h : Faithful svc keys sh cache) (cacheKey : String) :
    Faithful svc keys sh (cache.filter fun kv => kv.1 != cacheKey) :=
  { h with
    entries := fun key hk e he => by
      by_cases heq : idempotencyCacheKey svc key = cacheKey
      · rw [heq, lookup_filter_self] at he
        cases he
      · rw [lookup_filter_ne heq] at he
        exact h.entries key hk e he }

end Faithful

def Shared.withCache (sh : Shared) (cache : List (String × CacheEntry)) : Shared := { sh with cache := cache }

section Simulation

variable {svc : Service} {keys : List String} {sh : Shared} {cache : List (String × CacheEntry)} {faults : RedisFaults}
  {key : String} {payload : Json} {r : IdempotencyRecord}

/-- The plain service does not look at the cache. -/
theorem checkEffect_withCache : checkEffect svc (sh.withCache cache) key payload =
    ((checkEffect svc sh key payload).1, (checkEffect svc sh key payload).2.withCache cache) := by
  have hdb : (sh.withCache cache).db = sh.db := rfl
  unfold checkEffect
  rw [hdb]
  cases sh.db.recordByKey key <;> rfl

theorem closeEffect_withCache {payload : Option Json} {attempted : IdempotencyStatus}
    {close : IdempotencyRecord → Time → IdempotencyRecord} :
    closeEffect svc (sh.withCache cache) key payload attempted close =
      ((closeEffect svc sh key payload attempted close).1,
        (closeEffect svc sh key payload attempted close).2.withCache cache) := by
  have hdb : (sh.withCache cache).db = sh.db := rfl
  unfold closeEffect
  rw [hdb]
  cases sh.db.recordByKey key with
  | none => rfl
  | some r =>
      dsimp only
      cases closing svc r payload attempted with
      | error _ => rfl
      | ok close => cases close <;> rfl

theorem decide_completed (hs : r.status = .completed) {requestHash : String} (hh : r.requestHash = requestHash) :
    IdempotencyService.decide r requestHash = .ok
      { decision := .replayCompleted, recordId := some r.id
        responseCode := r.responseCode, responseBody := r.responseBody } := by
  simp only [IdempotencyService.decide, IdempotencyService.ensureSameRequestHash, hh, ne_eq, not_true, if_false, hs]
  rfl

/-- A completed answer is that of a COMPLETED record of the request. -/
theorem decide_replayCompleted {requestHash : String} {result : IdempotencyCheckResult}
    (h : IdempotencyService.decide r requestHash = .ok result) (hd : result.decision = .replayCompleted) :
    r.status = .completed ∧ r.requestHash = requestHash ∧ result.responseCode = r.responseCode ∧
      result.responseBody = r.responseBody := by
  by_cases hh : r.requestHash = requestHash
  · cases hs : r.status with
    | completed =>
        rw [decide_completed hs hh] at h
        cases h
        exact ⟨rfl, hh, rfl, rfl⟩
    | processing =>
        simp only [IdempotencyService.decide, IdempotencyService.ensureSameRequestHash, hh, ne_eq, not_true, if_false,
          hs] at h
        cases h
        cases hd
    | failed =>
        simp only [IdempotencyService.decide, IdempotencyService.ensureSameRequestHash, hh, ne_eq, not_true, if_false,
          hs] at h
        cases h
        cases hd
  · simp only [IdempotencyService.decide, IdempotencyService.ensureSameRequestHash, ne_eq, hh, not_false_eq_true,
      if_true] at h
    cases h

/-- An answer from the cache is that of an entry under the key, with the hash of the request. -/
theorem cachedAnswer_some {e : CacheEntry} (h : cachedAnswer svc faults sh key payload = some e) :
    sh.cache.lookup (idempotencyCacheKey svc key) = some e ∧
      e.response.requestHash = generateRequestHash svc.sha256 payload := by
  obtain ⟨hfound, hhash⟩ := Option.filter_eq_some_iff.mp h
  refine ⟨?_, by simpa using hhash⟩
  split at hfound
  · cases hfound
  · exact hfound

theorem Faithful.checkEffect (h : Faithful svc keys sh cache) (key : String) (payload : Json) :
    Faithful svc keys (checkEffect svc sh key payload).2 cache := by
  unfold EventConsistency.checkEffect
  cases sh.db.recordByKey key with
  | none => exact h.addRecord rfl
  | some r => exact h

theorem Faithful.closeEffect (h : Faithful svc keys sh cache) (key : String) (payload : Option Json)
    (attempted : IdempotencyStatus) {close : IdempotencyRecord → Time → IdempotencyRecord}
    (hclose : ∀ r t, (close r t).id = r.id ∧ (close r t).idempotencyKey = r.idempotencyKey) :
    Faithful svc keys (closeEffect svc sh key payload attempted close).2 cache := by
  unfold EventConsistency.closeEffect
  cases hr : sh.db.recordByKey key with
  | none => exact h
  | some r =>
      dsimp only
      cases hc : closing svc r payload attempted with
      | error _ => exact h
      | ok closes =>
          cases closes with
          | false => exact h
          | true => exact h.replaceRecord hr (closing_ok hc).1 (hclose r sh.clock).1 (hclose r sh.clock).2

/-- A `set` of the cache that repeats a record. -/
theorem Faithful.setCompleted (h : Faithful svc keys sh cache) (writer : Nat) (site : Site)
    (hkeys : ∀ k ∈ keys, ∀ k' ∈ keys, idempotencyCacheKey svc k = idempotencyCacheKey svc k' → k = k')
    (hk : key ∈ keys) {response : CachedIdempotencyResponse}
    (hrep : faults.set = false → ∃ r, sh.db.recordByKey key = some r ∧ Repeated r ⟨response, writer, site⟩) :
    ∃ cache', setCompleted svc faults writer site key response (sh.withCache cache) = sh.withCache cache' ∧
      Faithful svc keys sh cache' := by
  unfold EventConsistency.setCompleted
  cases hf : faults.set with
  | true => exact ⟨cache, rfl, h⟩
  | false =>
      obtain ⟨r, hr, hrep⟩ := hrep hf
      exact ⟨_, rfl, h.store hkeys hk hr hrep⟩

/-- **One `check_or_start` of both services.** -/
theorem check_simulates (h : Faithful svc keys sh cache) (writer : Nat)
    (hkeys : ∀ k ∈ keys, ∀ k' ∈ keys, idempotencyCacheKey svc k = idempotencyCacheKey svc k' → k = k')
    (hk : key ∈ keys)
    (hcode : faults.set = false → cachedAnswer svc faults (sh.withCache cache) key payload = none →
      ∀ r ∈ sh.db.recordByKey key, r.status = .completed →
        r.requestHash = generateRequestHash svc.sha256 payload → ∃ n ∈ r.responseCode, n ≠ 0) :
    (cachedCheckEffect svc faults writer (sh.withCache cache) key payload).1.map Answer.ofCheck =
        (checkEffect svc sh key payload).1.map Answer.ofCheck ∧
      ∃ cache', (cachedCheckEffect svc faults writer (sh.withCache cache) key payload).2 =
          (checkEffect svc sh key payload).2.withCache cache' ∧
        Faithful svc keys (checkEffect svc sh key payload).2 cache' := by
  unfold cachedCheckEffect
  cases hanswer : cachedAnswer svc faults (sh.withCache cache) key payload with
  | some e =>
      obtain ⟨hlookup, hhash⟩ := cachedAnswer_some hanswer
      obtain ⟨r, hr, hrep⟩ := h.entries key hk e hlookup
      have hcheck : checkEffect svc sh key payload =
          (IdempotencyService.decide r (generateRequestHash svc.sha256 payload), sh) := by
        simp only [checkEffect, hr]
      rw [hcheck, decide_completed hrep.status (hrep.requestHash.trans hhash)]
      refine ⟨?_, cache, rfl, h⟩
      simp only [Except.map, Answer.ofCheck, hrep.responseCode, hrep.responseBody]
  | none =>
      have hafter := h.checkEffect key payload
      dsimp only
      unfold fromDbEffect
      rw [checkEffect_withCache]
      cases hout : checkEffect svc sh key payload with
      | mk out sh₁ =>
          rw [hout] at hafter
          cases out with
          | error x => exact ⟨rfl, cache, rfl, hafter⟩
          | ok result =>
              refine ⟨rfl, ?_⟩
              by_cases hd : result.decision = .replayCompleted
              · dsimp only
                rw [if_pos hd]
                refine hafter.setCompleted writer .checkOrStart hkeys hk fun hf => ?_
                -- the record of the key has answered
                cases hr : sh.db.recordByKey key with
                | none =>
                    simp only [checkEffect, hr] at hout
                    cases hout
                    cases hd
                | some r =>
                    simp only [checkEffect, hr] at hout
                    obtain ⟨hdecide, rfl⟩ := Prod.mk.inj hout
                    obtain ⟨hs, hh, hcode', hbody⟩ := decide_replayCompleted hdecide hd
                    obtain ⟨n, hn, hpos⟩ := hcode hf hanswer r hr hs hh
                    refine ⟨r, hr, hs, hh, ?_, hbody.symm⟩
                    rw [hcode', Option.mem_def.mp hn]
                    simp [codeOr, hpos]
              · dsimp only
                rw [if_neg hd]
                exact ⟨cache, rfl, hafter⟩

/-- **One `complete` of both services.** -/
theorem complete_simulates {responseCode : Nat} {responseBody payload : Option Json} (h : Faithful svc keys sh cache)
    (writer : Nat)
    (hkeys : ∀ k ∈ keys, ∀ k' ∈ keys, idempotencyCacheKey svc k = idempotencyCacheKey svc k' → k = k')
    (hk : key ∈ keys)
    (hsame : faults.set = false → ∀ r ∈ sh.db.recordByKey key, r.status = .completed →
      payload.map (generateRequestHash svc.sha256) = some r.requestHash →
      r.responseCode = some responseCode ∧ r.responseBody = responseBody) :
    (cachedCompleteEffect svc faults writer (sh.withCache cache) key responseCode responseBody payload).1 =
        (closeEffect svc sh key payload .completed (completedAs responseCode responseBody)).1 ∧
      ∃ cache', (cachedCompleteEffect svc faults writer (sh.withCache cache) key responseCode responseBody payload).2 =
          (closeEffect svc sh key payload .completed (completedAs responseCode responseBody)).2.withCache cache' ∧
        Faithful svc keys (closeEffect svc sh key payload .completed (completedAs responseCode responseBody)).2
          cache' := by
  have hafter : Faithful svc keys
      (closeEffect svc sh key payload .completed (completedAs responseCode responseBody)).2 cache :=
    h.closeEffect key payload .completed fun _ _ => ⟨rfl, rfl⟩
  unfold cachedCompleteEffect
  rw [closeEffect_withCache]
  cases hout : closeEffect svc sh key payload .completed (completedAs responseCode responseBody) with
  | mk out sh₁ =>
      rw [hout] at hafter
      cases out with
      | error x => exact ⟨rfl, cache, rfl, hafter⟩
      | ok r₁ =>
          cases payload with
          | none => exact ⟨rfl, cache, rfl, hafter⟩
          | some p =>
              refine ⟨rfl, hafter.setCompleted writer .complete hkeys hk fun hf => ?_⟩
              unfold EventConsistency.closeEffect at hout
              cases hr : sh.db.recordByKey key with
              | none =>
                  rw [hr] at hout
                  cases hout
              | some r =>
                  rw [hr] at hout
                  dsimp only at hout
                  cases hc : closing svc r (some p) .completed with
                  | error x =>
                      rw [hc] at hout
                      cases hout
                  | ok closes =>
                      rw [hc] at hout
                      obtain ⟨hs, hhash⟩ := closing_ok hc
                      cases closes with
                      | false =>
                          -- the record was COMPLETED before and is returned as it is
                          obtain ⟨_, rfl⟩ := Prod.mk.inj hout
                          obtain ⟨hcode, hbody⟩ := hsame hf r hr hs (by rw [hhash p rfl]; rfl)
                          exact ⟨r, hr, hs, hhash p rfl, hcode, hbody⟩
                      | true =>
                          obtain ⟨_, rfl⟩ := Prod.mk.inj hout
                          refine ⟨completedAs responseCode responseBody r sh.clock, ?_, rfl, hhash p rfl, rfl, rfl⟩
                          exact (recordByKey_completedAs responseCode responseBody h.ids hr).trans (if_pos rfl)

/-- **One call of both services.** -/
theorem call_simulates {column : Column} {call : IdempotencyCall} {clock : Time} {t : Twin} (h : Faithful svc keys sh cache)
    (writer : Nat)
    (hkeys : ∀ k ∈ keys, ∀ k' ∈ keys, idempotencyCacheKey svc k = idempotencyCacheKey svc k' → k = k')
    (hk : call.key ∈ keys) (ht : t.cached = sh.withCache cache) (hrestates : Restates column svc t (.turn clock faults call)) :
    (cachedEffect svc faults writer (sh.withCache cache) call).1 = (plainEffect svc sh call).1 ∧
      ∃ cache', (cachedEffect svc faults writer (sh.withCache cache) call).2 = (plainEffect svc sh call).2.withCache cache' ∧
        Faithful svc keys (plainEffect svc sh call).2 cache' := by
  cases call with
  | checkOrStart key payload =>
      simp only [Restates, ht] at hrestates
      exact check_simulates h writer hkeys hk hrestates
  | complete key responseCode responseBody payload =>
      simp only [Restates, ht] at hrestates
      have hboth := complete_simulates h writer hkeys hk fun hf r hr hs hh => (hrestates hf r hr hh).1 hs
      exact ⟨congrArg (Except.map Answer.closed) hboth.1, hboth.2⟩
  | fail key responseCode responseBody errorMessage payload =>
      have hafter : Faithful svc keys
          (closeEffect svc sh key (given payload) .failed (failedAs responseCode responseBody errorMessage)).2 cache :=
        h.closeEffect key (given payload) .failed fun _ _ => ⟨rfl, rfl⟩
      have hsame : cachedEffect svc faults writer (sh.withCache cache)
          (.fail key responseCode responseBody errorMessage payload) =
            ((plainEffect svc sh (.fail key responseCode responseBody errorMessage payload)).1,
              (plainEffect svc sh (.fail key responseCode responseBody errorMessage payload)).2.withCache cache) := by
        simp only [cachedEffect, plainEffect, closeEffect_withCache]
        rfl
      rw [hsame]
      exact ⟨rfl, cache, rfl, hafter⟩

end Simulation

/-! ## Through the column -/

/-- The column keeps the bodies of all entries under the keys. -/
def CacheKeeps (column : Column) (svc : Service) (keys : List String) (cache : List (String × CacheEntry)) : Prop :=
  ∀ key ∈ keys, ∀ e, cache.lookup (idempotencyCacheKey svc key) = some e → column.Keeps e.response.responseBody

section Columns

variable {column : Column} {svc : Service} {keys : List String} {sh : Shared} {cache : List (String × CacheEntry)}
  {faults : RedisFaults} {key : String} {r : IdempotencyRecord}

theorem Column.Keeps.reread (h : column.Keeps r.responseBody) : column.reread r = r := by
  unfold Column.reread
  cases hb : r.responseBody with
  | none => rw [Option.map_none, ← hb]
  | some b => rw [Option.map_some, (h b hb).2, ← hb]

/-- A body that is read from the column is kept from then on. -/
theorem Column.Stable.keeps (h : column.Stable) (ha : column.refuses sh = false) :
    ∀ r ∈ (column.rereadAll sh).db.records, column.Keeps r.responseBody := by
  intro r hr b hb
  obtain ⟨r₀, hr₀, rfl⟩ := List.mem_map.mp hr
  obtain ⟨b₀, hb₀, rfl⟩ := Option.map_eq_some_iff.mp hb
  have htakes : column.takes b₀ = true := by
    simp only [Column.refuses, List.any_eq_false] at ha
    simpa [hb₀] using ha r₀ hr₀
  exact h b₀ htakes

theorem recordByKey_rereadAll (column : Column) (sh : Shared) (key : String) :
    (column.rereadAll sh).db.recordByKey key = (sh.db.recordByKey key).map column.reread := by
  show (sh.db.records.map column.reread).find? _ = _
  rw [List.find?_map]
  rfl

/-- What the column keeps it also leaves faithful. -/
theorem Faithful.rereadAll (h : Faithful svc keys sh cache) (hc : CacheKeeps column svc keys cache) :
    Faithful svc keys (column.rereadAll sh) cache where
  ids := by
    have hmap : (column.rereadAll sh).db.records.map IdempotencyRecord.id = sh.db.records.map IdempotencyRecord.id :=
      List.map_map.trans rfl
    rw [hmap]
    exact h.ids
  drawn r hr := by
    obtain ⟨r₀, hr₀, rfl⟩ := List.mem_map.mp hr
    exact h.drawn r₀ hr₀
  entries key hk e he := by
    obtain ⟨r, hr, hrep⟩ := h.entries key hk e he
    have hkept : column.Keeps r.responseBody := by
      rw [hrep.responseBody]
      exact hc key hk e he
    refine ⟨r, ?_, hrep⟩
    rw [recordByKey_rereadAll, hr, Option.map_some, hkept.reread]

theorem CacheKeeps.store (h : CacheKeeps column svc keys cache) {cacheKey : String} {e : CacheEntry}
    (he : column.Keeps e.response.responseBody) :
    CacheKeeps column svc keys ((cacheKey, e) :: cache.filter fun kv => kv.1 != cacheKey) := by
  intro key hk e' he'
  by_cases heq : idempotencyCacheKey svc key = cacheKey
  · rw [heq, List.lookup_cons_self] at he'
    cases he'
    exact he
  · have hne : (idempotencyCacheKey svc key == cacheKey) = false := by simpa using heq
    rw [List.lookup_cons, hne] at he'
    exact h key hk e' ((lookup_filter_ne heq).symm.trans he')

theorem CacheKeeps.evict (h : CacheKeeps column svc keys cache) (cacheKey : String) :
    CacheKeeps column svc keys (cache.filter fun kv => kv.1 != cacheKey) := by
  intro key hk e he
  by_cases heq : idempotencyCacheKey svc key = cacheKey
  · rw [heq, lookup_filter_self] at he
    cases he
  · rw [lookup_filter_ne heq] at he
    exact h key hk e he

theorem CacheKeeps.setCompleted (h : CacheKeeps column svc keys sh.cache) (writer : Nat) (site : Site)
    {response : CachedIdempotencyResponse} (hr : faults.set = false → column.Keeps response.responseBody) :
    CacheKeeps column svc keys (setCompleted svc faults writer site key response sh).cache := by
  unfold EventConsistency.setCompleted
  cases hf : faults.set with
  | true => exact h
  | false => exact h.store (hr hf)

theorem setCompleted_db (svc : Service) (faults : RedisFaults) (writer : Nat) (site : Site) (key : String)
    (response : CachedIdempotencyResponse) (sh : Shared) :
    (setCompleted svc faults writer site key response sh).db = sh.db := by
  unfold setCompleted
  split <;> rfl

theorem checkEffect_cache (svc : Service) (sh : Shared) (key : String) (payload : Json) :
    (checkEffect svc sh key payload).2.cache = sh.cache := by
  unfold checkEffect
  cases sh.db.recordByKey key <;> rfl

theorem closeEffect_cache (svc : Service) (sh : Shared) (key : String) (payload : Option Json)
    (attempted : IdempotencyStatus) (close : IdempotencyRecord → Time → IdempotencyRecord) :
    (closeEffect svc sh key payload attempted close).2.cache = sh.cache := by
  unfold closeEffect
  cases sh.db.recordByKey key with
  | none => rfl
  | some r =>
      dsimp only
      cases closing svc r payload attempted with
      | error _ => rfl
      | ok closes => cases closes <;> rfl

/-- A check caches what it has read from a row. -/
theorem CacheKeeps.check (h : CacheKeeps column svc keys sh.cache) (writer : Nat)
    (hrows : ∀ r ∈ sh.db.records, column.Keeps r.responseBody) (key : String) (payload : Json) :
    CacheKeeps column svc keys (cachedCheckEffect svc faults writer sh key payload).2.cache := by
  unfold cachedCheckEffect
  cases cachedAnswer svc faults sh key payload with
  | some e => exact h
  | none =>
      have hsame := checkEffect_cache svc sh key payload
      dsimp only
      unfold fromDbEffect
      cases hout : EventConsistency.checkEffect svc sh key payload with
      | mk out sh₁ =>
          rw [hout] at hsame
          have h₁ : CacheKeeps column svc keys sh₁.cache := hsame ▸ h
          cases out with
          | error x => exact h₁
          | ok result =>
              dsimp only
              by_cases hd : result.decision = .replayCompleted
              · rw [if_pos hd]
                refine h₁.setCompleted writer .checkOrStart fun _ => ?_
                unfold EventConsistency.checkEffect at hout
                cases hr : sh.db.recordByKey key with
                | none =>
                    rw [hr] at hout
                    cases hout
                    cases hd
                | some r =>
                    rw [hr] at hout
                    obtain ⟨hdecide, -⟩ := Prod.mk.inj hout
                    obtain ⟨-, -, -, hbody⟩ := decide_replayCompleted hdecide hd
                    rw [hbody]
                    exact hrows r (List.mem_of_find?_eq_some hr)
              · rw [if_neg hd]
                exact h₁

/-- A `complete` caches the body of the row, or one that the row is given and gives back. -/
theorem CacheKeeps.complete {responseCode : Nat} {responseBody payload : Option Json}
    (h : CacheKeeps column svc keys sh.cache) (writer : Nat) (hids : (sh.db.records.map IdempotencyRecord.id).Nodup)
    (hrows : ∀ r ∈ sh.db.records, column.Keeps r.responseBody)
    (hsame : faults.set = false → ∀ r ∈ sh.db.recordByKey key,
      payload.map (generateRequestHash svc.sha256) = some r.requestHash →
      (r.status = .completed → r.responseCode = some responseCode ∧ r.responseBody = responseBody) ∧
      (r.status = .processing → column.Spares responseBody))
    (ha : column.refuses (cachedCompleteEffect svc faults writer sh key responseCode responseBody payload).2 = false) :
    CacheKeeps column svc keys (cachedCompleteEffect svc faults writer sh key responseCode responseBody payload).2.cache := by
  have hcache := closeEffect_cache svc sh key payload .completed (completedAs responseCode responseBody)
  unfold cachedCompleteEffect at ha ⊢
  cases hout : closeEffect svc sh key payload .completed (completedAs responseCode responseBody) with
  | mk out sh₁ =>
      rw [hout] at hcache
      rw [hout] at ha
      have h₁ : CacheKeeps column svc keys sh₁.cache := hcache ▸ h
      cases out with
      | error x => exact h₁
      | ok r₁ =>
          cases payload with
          | none => exact h₁
          | some p =>
              refine h₁.setCompleted writer .complete fun hf => ?_
              unfold closeEffect at hout
              cases hr : sh.db.recordByKey key with
              | none =>
                  rw [hr] at hout
                  cases hout
              | some r =>
                  rw [hr] at hout
                  dsimp only at hout
                  cases hc : closing svc r (some p) .completed with
                  | error x =>
                      rw [hc] at hout
                      cases hout
                  | ok closes =>
                      rw [hc] at hout
                      obtain ⟨hs, hhash⟩ := closing_ok hc
                      obtain ⟨hcompleted, hprocessing⟩ := hsame hf r hr (by rw [hhash p rfl]; rfl)
                      cases closes with
                      | false =>
                          obtain ⟨-, hbody⟩ := hcompleted hs
                          rw [← hbody]
                          exact hrows r (List.mem_of_find?_eq_some hr)
                      | true =>
                          obtain ⟨-, rfl⟩ := Prod.mk.inj hout
                          intro b hb
                          have hfound := (recordByKey_completedAs responseCode responseBody hids hr).trans (if_pos rfl)
                          have hmem := List.mem_of_find?_eq_some hfound
                          have htakes : column.takes b = true := by
                            simp only [Column.refuses, setCompleted_db, List.any_eq_false] at ha
                            have hbody : (completedAs responseCode responseBody r sh.clock).responseBody = some b := hb
                            simpa [hbody] using ha _ hmem
                          exact ⟨htakes, hprocessing hs b hb htakes⟩

/-- A call caches only bodies that the column keeps. -/
theorem CacheKeeps.call {t : Twin} {clock : Time} {call : IdempotencyCall}
    (h : CacheKeeps column svc keys t.cached.cache) (writer : Nat)
    (hids : (t.cached.db.records.map IdempotencyRecord.id).Nodup)
    (hrows : ∀ r ∈ t.cached.db.records, column.Keeps r.responseBody)
    (hrestates : Restates column svc t (.turn clock faults call))
    (ha : column.refuses (cachedEffect svc faults writer t.cached call).2 = false) :
    CacheKeeps column svc keys (cachedEffect svc faults writer t.cached call).2.cache := by
  cases call with
  | checkOrStart key payload => exact h.check writer hrows key payload
  | complete key responseCode responseBody payload => exact h.complete writer hids hrows hrestates ha
  | fail key responseCode responseBody errorMessage payload =>
      have hcache := closeEffect_cache svc t.cached key (given payload) .failed
        (failedAs responseCode responseBody errorMessage)
      exact hcache ▸ h

end Columns

/-! ## Whole sequences -/

/-- Both services before their first call. -/
def Twin.start (sh : Shared) : Twin := ⟨sh, sh, []⟩

/-- The services have the same database, in which every body has been read from the column, and have given the same
answers. -/
structure Twin.Agree (column : Column) (svc : Service) (keys : List String) (t : Twin) : Prop where
  same : t.cached = t.plain.withCache t.cached.cache
  faithful : Faithful svc keys t.plain t.cached.cache
  kept : CacheKeeps column svc keys t.cached.cache
  rows : ∀ r ∈ t.plain.db.records, column.Keeps r.responseBody
  outcomes : ∀ o ∈ t.outcomes, o.1 = o.2

section Runs

variable {column : Column} {svc : Service} {l : Session} {keys : List String} {sh : Shared} {t t' : Twin} {e : TwinEvent}

theorem Twin.Agree.step (hc : column.Stable) (h : t.Agree column svc keys)
    (hkeys : ∀ k ∈ keys, ∀ k' ∈ keys, idempotencyCacheKey svc k = idempotencyCacheKey svc k' → k = k')
    (hk : e.within keys) (hr : Restates column svc t e) (hs : t.step column svc l e = some t') :
    t'.Agree column svc keys := by
  cases e with
  | turn clock faults call =>
      cases hs
      have hfaithful : Faithful svc keys { t.plain with clock := clock } t.cached.cache :=
        ⟨h.faithful.ids, h.faithful.drawn, h.faithful.entries⟩
      have hcached : { t.cached with clock := clock } =
          Shared.withCache { t.plain with clock := clock } t.cached.cache := by
        rw [h.same]
        rfl
      have hrestates : Restates column svc { t with cached := { t.cached with clock := clock } }
          (.turn clock faults call) := by
        cases call <;> exact hr
      obtain ⟨hanswer, cache', hafter, hfaithful'⟩ := call_simulates hfaithful l.tid hkeys hk hcached hrestates
      rw [← hcached] at hanswer hafter
      have hplain : serve faults l (call.plain svc) { t.plain with clock := clock } =
          plainEffect svc { t.plain with clock := clock } call := serve_plain l _ call
      have htheirs : serve faults l (call.cached svc) { t.cached with clock := clock } =
          cachedEffect svc faults l.tid { t.cached with clock := clock } call := serve_cached l _ call
      have hrefuses : column.refuses (cachedEffect svc faults l.tid { t.cached with clock := clock } call).2 =
          column.refuses (plainEffect svc { t.plain with clock := clock } call).2 := by
        rw [hafter]
        rfl
      cases ha : column.refuses (plainEffect svc { t.plain with clock := clock } call).2 with
      | true =>
          -- the flush raises in both services, and leaves both as they were
          have hours : column.through { t.plain with clock := clock }
              (plainEffect svc { t.plain with clock := clock } call) = (.error .dataError, { t.plain with clock := clock }) :=
            if_pos ha
          have hother : column.through { t.cached with clock := clock }
              (cachedEffect svc faults l.tid { t.cached with clock := clock } call) =
                (.error .dataError, { t.cached with clock := clock }) := if_pos (hrefuses.trans ha)
          dsimp only
          rw [hplain, htheirs, hours, hother]
          refine ⟨hcached, hfaithful, h.kept, h.rows, fun o ho => ?_⟩
          rcases List.mem_append.mp ho with ho | ho
          · exact h.outcomes o ho
          · rw [List.mem_singleton.mp ho]
      | false =>
          have hours : column.through { t.plain with clock := clock }
              (plainEffect svc { t.plain with clock := clock } call) =
                ((plainEffect svc { t.plain with clock := clock } call).1,
                  column.rereadAll (plainEffect svc { t.plain with clock := clock } call).2) := by
            unfold Column.through
            rw [if_neg (by rw [ha]; decide)]
          have hother : column.through { t.cached with clock := clock }
              (cachedEffect svc faults l.tid { t.cached with clock := clock } call) =
                ((cachedEffect svc faults l.tid { t.cached with clock := clock } call).1,
                  column.rereadAll (cachedEffect svc faults l.tid { t.cached with clock := clock } call).2) := by
            unfold Column.through
            rw [if_neg (by rw [hrefuses, ha]; decide)]
          have hkept : CacheKeeps column svc keys
              (cachedEffect svc faults l.tid { t.cached with clock := clock } call).2.cache := by
            have hdb : t.cached.db = t.plain.db := by
              rw [h.same]
              rfl
            refine CacheKeeps.call (t := { t with cached := { t.cached with clock := clock } }) h.kept l.tid ?_ ?_
              hrestates (hrefuses.trans ha)
            · dsimp only
              rw [hdb]
              exact h.faithful.ids
            · dsimp only
              rw [hdb]
              exact h.rows
          rw [hafter] at hkept
          dsimp only
          rw [hplain, htheirs, hours, hother]
          refine ⟨?_, ?_, ?_, hc.keeps ha, fun o ho => ?_⟩
          · rw [hafter]
            rfl
          · rw [hafter]
            exact hfaithful'.rereadAll hkept
          · rw [hafter]
            exact hkept
          · rcases List.mem_append.mp ho with ho | ho
            · exact h.outcomes o ho
            · rw [List.mem_singleton.mp ho]
              exact hanswer.symm
  | evict cacheKey =>
      cases hs
      refine ⟨?_, h.faithful.evict cacheKey, h.kept.evict cacheKey, h.rows, h.outcomes⟩
      rw [h.same]
      rfl

/-- **The cached service refines the plain one.** From an empty cache, over any sequence of calls under keys whose Redis
keys are distinct, with entries evicted and Redis failing anywhere: as long as every `set` of the cache restates what its
record will answer, both services give the same answers call by call and leave the same database. -/
theorem cached_refines (hc : column.Stable)
    (hkeys : ∀ k ∈ keys, ∀ k' ∈ keys, idempotencyCacheKey svc k = idempotencyCacheKey svc k' → k = k')
    (h₀ : Initial sh) (hcache : sh.cache = []) (hrows : ∀ r ∈ sh.db.records, column.Keeps r.responseBody)
    (h : Runs (Twin.step column svc l) (fun t e => e.within keys ∧ Restates column svc t e) (Twin.start sh) t) :
    (∀ o ∈ t.outcomes, o.1 = o.2) ∧ t.cached.db = t.plain.db := by
  have hnone : ∀ key, ∀ e, (Twin.start sh).cached.cache.lookup (idempotencyCacheKey svc key) ≠ some e := by
    intro key e he
    have he : sh.cache.lookup (idempotencyCacheKey svc key) = some e := he
    rw [hcache] at he
    cases he
  have hstart : (Twin.start sh).Agree column svc keys :=
    ⟨rfl, ⟨h₀.valid.record_id, h₀.drawn.record, fun key _ e he => absurd he (hnone key e)⟩,
      fun key _ e he => absurd he (hnone key e), hrows, fun o ho => by cases ho⟩
  have hagree := h.invariant hstart fun t t' e hagree hok hs =>
    Twin.Agree.step (l := l) hc hagree hkeys hok.1 hok.2 hs
  refine ⟨hagree.outcomes, ?_⟩
  rw [hagree.same]
  rfl

end Runs

/-! ## A request that is completed twice -/

namespace Sample

def service : Service := ⟨settings, ⟨true, false, true⟩⟩

def session : Session := (plainCall "key-1" deposit).session 0

/-- What PostgreSQL makes of 1e+23 and of the bodies of the examples: 1e+23 is read back as an integer. -/
def jsonb : Column where
  takes _ := true
  reads b := if b = .obj [("limit", .num "1e+23")] then .obj [("limit", .int (10 ^ 23))] else b

theorem jsonb_stable : jsonb.Stable := by
  intro b _
  refine ⟨rfl, ?_⟩
  simp only [jsonb]
  split
  · decide
  · rfl

/-- A call with Redis up. -/
def turn (clock : Time) (call : IdempotencyCall) : TwinEvent := .turn clock ⟨false, false⟩ call

def check : IdempotencyCall := .checkOrStart "key-1" deposit.modelDump

def completeWith (responseCode : Nat) (status : String) : IdempotencyCall :=
  .complete "key-1" responseCode (some (.obj [("status", .str status)])) deposit.modelDump

/-- A request is started and completed, and asked for again from the cache, from the database while Redis does not
answer, and after an eviction; another request comes under another key. -/
def replays : List TwinEvent :=
  [turn 1 check, turn 2 (completeWith 200 "success"), turn 3 check, .turn 4 ⟨true, true⟩ check,
    .evict (idempotencyCacheKey service "key-1"), turn 5 check, turn 6 check, turn 7 (completeWith 200 "success"),
    turn 8 (.checkOrStart "key-2" rival.modelDump), turn 9 (.fail "key-2" (some 422) none none rival.modelDump)]

def replayed : Twin := (runAll (Twin.step jsonb service session) (Twin.start shared) replays).getD (Twin.start shared)

/-- The request is completed again, with another answer. -/
def completions : List TwinEvent :=
  [turn 1 check, turn 2 (completeWith 200 "success"), turn 3 (completeWith 201 "created"), turn 4 check]

def completed : Twin := (runAll (Twin.step jsonb service session) (Twin.start shared) completions).getD (Twin.start shared)

end Sample

/-- Nothing tells the services apart. -/
theorem cached_refines_replay :
    Sample.replayed.outcomes.length = 9 ∧ Sample.replayed.cached.cache.length = 1 ∧
      (∀ o ∈ Sample.replayed.outcomes, o.1 = o.2) ∧ Sample.replayed.cached.db = Sample.replayed.plain.db := by
  have hkeys : ∀ k ∈ ["key-1", "key-2"], ∀ k' ∈ ["key-1", "key-2"],
      idempotencyCacheKey Sample.service k = idempotencyCacheKey Sample.service k' → k = k' := by
    decide +kernel
  have hruns : Runs (Twin.step Sample.jsonb Sample.service Sample.session)
      (fun t e => decide (e.within ["key-1", "key-2"] ∧ Restates Sample.jsonb Sample.service t e) = true)
      (Twin.start Sample.shared) Sample.replayed := Runs.of_allMeet (by decide +kernel)
  have hrows : ∀ r ∈ Sample.shared.db.records, Sample.jsonb.Keeps r.responseBody := by simp [Sample.shared, Sample.db]
  have h := cached_refines Sample.jsonb_stable hkeys Sample.initial rfl hrows
    (hruns.mono fun _ _ hok => of_decide_eq_true hok)
  exact ⟨by decide +kernel, by decide +kernel, h⟩

/-- The check after the second `complete`: the record keeps the first answer, and the cache has the second. -/
theorem cached_overwrites :
    Runs (Twin.step Sample.jsonb Sample.service Sample.session) (fun _ e => e.within ["key-1"]) (Twin.start Sample.shared)
        Sample.completed ∧
      Sample.completed.outcomes.getLast? =
        some (.ok (.checked .replayCompleted (some 200) (some (.obj [("status", .str "success")]))),
          .ok (.checked .replayCompleted (some 201) (some (.obj [("status", .str "created")])))) := by
  have hruns : Runs (Twin.step Sample.jsonb Sample.service Sample.session) (fun _ e => decide (e.within ["key-1"]) = true)
      (Twin.start Sample.shared) Sample.completed := Runs.of_allMeet (by decide +kernel)
  exact ⟨hruns.mono fun _ _ hok => of_decide_eq_true hok, by decide +kernel⟩

/-- A body that the column gives back in another form: the cache has the text. -/
example :
    let body : Json := .obj [("limit", .num "1e+23")]
    let steps := [Sample.turn 1 Sample.check, Sample.turn 2 (.complete "key-1" 200 (some body) Sample.deposit.modelDump),
      Sample.turn 3 Sample.check]
    ((runAll (Twin.step Sample.jsonb Sample.service Sample.session) (Twin.start Sample.shared) steps).bind fun t =>
        t.outcomes.getLast?) =
      some (.ok (.checked .replayCompleted (some 200) (some (.obj [("limit", .int (10 ^ 23))]))),
        .ok (.checked .replayCompleted (some 200) (some body))) := by
  decide +kernel

end EventConsistency
