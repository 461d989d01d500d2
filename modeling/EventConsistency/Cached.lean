import EventConsistency.Banking
import EventConsistency.Success

/-!
# The bank behind the response cache

With the cached idempotency service, a call may find its answer in Redis and commit without a look at the record of its
key.

* `Commit.plain` : the commit with the plain service and no cache entry;
* `Committed.plain` : a commit from a cache entry that repeats the record of the key is one that has read the record;
* `Reaches.plain_chain` : the commits of a run are commits of the plain service;
* **`cached_refinement`** : any services, cached or plain, have served as the bank does, as long as no call answers from
  what `complete` has cached in a call that has not committed.
-/

namespace EventConsistency

open Lib TransactionEventService

/-- The same without the response cache. -/
def Wiring.plain (w : Wiring) : Wiring := { w with responseCache := false }

def Commit.plain (x : Commit) : Commit := { x with wiring := x.wiring.plain, cacheHit := none }

section Plain

variable {st : Settings} {opts : Opts} {w : Wiring} {hit : Option CacheEntry} {init db : Db} {key : String}
  {request : TransactionEventCreateRequest} {W : Overlay} {reply : TransactionProcessingResult}

theorem codeOr_codeOr (code : Option Nat) {default : Nat} (h : default ≠ 0) :
    codeOr (some (codeOr code default)) default = codeOr code default := by
  have hne : codeOr code default ≠ 0 := by
    unfold codeOr
    split
    · exact h
    · split <;> assumption
  exact if_neg hne

/-- What repeats a record is replayed as the record is. -/
theorem Repeats.replayed {response : CachedIdempotencyResponse} (h : Repeats db key response)
    (answered : replayResult (some response.responseCode) response.responseBody 200 = .ok reply) :
    ∃ r, db.recordByKey key = some r ∧ r.requestHash = response.requestHash ∧ Replayed r reply := by
  obtain ⟨r, found, completed, hash, body, code⟩ := h
  refine ⟨r, found, hash, ?_⟩
  unfold Replayed
  rw [completed]
  show replayResult r.responseCode r.responseBody 200 = .ok reply
  unfold replayResult at answered ⊢
  rw [← answered, body, ← code, codeOr_codeOr r.responseCode (by decide)]

theorem Located.plain {a : Account} (h : Located opts w db request a) : Located opts w.plain db request a :=
  ⟨h.found, h.clear, h.sent⟩

theorem Refusal.plain {x : Exc} (h : Refusal opts w init db request x) : Refusal opts w.plain init db request x := by
  cases h with
  | account h hs => exact .account h hs
  | quarantined ha hw hq hs => exact .quarantined ha hw hq hs
  | mismatch hl he hx hs hread => exact .mismatch hl.plain he hx hs hread
  | noLedger hl he hx hn hs hread => exact .noLedger hl.plain he hx hn hs hread
  | original hl hc hx he ho hs hs' => exact .original hl.plain hc hx he ho hs hs'

/-- A commit of the cached service is one of the plain service. -/
theorem Committed.plain (h : Committed st opts w hit init db key request W reply)
    (repeated : ∀ e, hit = some e → e.response.requestHash = requestHash st request → Repeats db key e.response) :
    Committed st opts w.plain none init db key request W reply := by
  cases h with
  | replay hr hh h => exact .replay hr hh h
  | cached hw he hh h =>
      obtain ⟨r, found, hash, replayed⟩ := (repeated _ he hh).replayed h
      exact .replay (fun _ => found) (hash.trans hh) replayed
  | refused ho h => exact .refused ho h.plain
  | duplicate ho hl he hx hr hs hread => exact .duplicate ho hl.plain he hx hr hs hread
  | failed ho hl hr hc hh hx => exact .failed ho hl.plain hr hc hh hx
  | applied ho hl hr hc hx hh hn => exact .applied ho hl.plain hr hc hx hh hn

end Plain

/-! ## Whole runs -/

section Runs

variable {st : Settings} {calls : List Call} {sh : Shared} {c : Config}

/-- No record is deleted, no quarantine changed, and no call answers from what `complete` has cached in a call that
has not committed. -/
def orderly (st : Settings) (c : Config) (label : Label) : Prop :=
  label.deletes = false ∧ label.requarantines = false ∧ outruns st c label = false

/-- **The commits of a run are commits of the plain service.** -/
theorem Reaches.plain_chain (h₀ : Initial sh) (cold : sh.cache = []) (h : Reaches (orderly st) (start st sh calls) c) :
    Chain st {} sh.db (c.shared.log.map Commit.plain) c.shared.db := by
  induction h with
  | refl =>
      rw [show (start st sh calls).shared.log = [] from h₀.log_eq]
      exact .nil
  | @step c c' label h hok hs ih =>
      have fixed : Reaches (permits {}) (start st sh calls) c := h.mono fun c _ hok => permits_fixed c ⟨hok.1, hok.2.1⟩
      have started : Reaches (permits coldStart) (start st sh calls) c :=
        h.mono fun c _ hok => permits_coldStart c hok.1
      have inv := fixed.inv rfl h₀ (Admits.any rfl rfl)
      have coherent := (started.inv rfl h₀ ⟨fun _ => cold, fun hf => absurd hf (by decide)⟩).coh
      rcases step_commit inv hs with hlog | ⟨i, l, reply, k, rfl, ht, owed, hsh⟩
      · have hdb : c'.shared.db = c.shared.db := by
          cases step_write inv (permits_fixed c ⟨hok.1, hok.2.1⟩) hs with
          | nothing hdb _ => exact hdb
          | commit _ hmore _ _ =>
              rw [hlog] at hmore
              simp at hmore
          | deleteExpired hd _ _ _ _ => cases hd
          | setQuarantines hq _ _ _ => cases hq
        rw [hlog, hdb]
        exact ih
      · have repeated : ∀ e, l.cacheHit = some e → e.response.requestHash = requestHash st l.request →
            Repeats c.shared.db l.key e.response := by
          intro e he hh
          -- the entry is backed, or the step would outrun its writer
          have hout := hok.2.2
          simp only [outruns, ht, he, hh, beq_self_eq_true, Bool.true_and] at hout
          have hl : l ∈ c.locs := by
            unfold Pool.locs
            exact List.mem_map.mpr ⟨_, List.mem_of_getElem? ht, rfl⟩
          exact coherent.repeats hl he hout
        have init_eq : c.shared.init = sh.db := h.init_eq.trans h₀.init_eq
        have plain := owed.shape.plain repeated
        rw [init_eq] at plain
        rw [hsh]
        unfold committed
        rw [List.map_append]
        exact .commit ih inv.coh.valid plain owed.covered

/-- **The service is the bank behind the cache, too.** As long as nobody deletes records or changes quarantines, and no
call answers from what `complete` has cached in a call that has not committed: what has committed can be brought into an
order in which the plain service leaves the same tables and records and gives the same answers, bodies and all, and the
bank the same receipts. -/
theorem cached_refinement (h₀ : Initial sh) (cold : sh.cache = []) (h : Reaches (orderly st) (start st sh calls) c) :
    ∃ order : List Commit, order.Perm c.shared.log ∧
      (∀ x ∈ order, calls[x.tid]? = some x.call ∧
        ∀ l reply, c.threads[x.tid]? = some ⟨l, .ret reply⟩ → x.reply = reply) ∧
      SameTables sh.db c.shared.db (serially st sh (order.map fun x => x.plain.call)).2.db ∧
      SameRecords sh.db [] c.shared.db (serially st sh (order.map fun x => x.plain.call)).2.db ∧
      List.Forall₂ (fun x r => ∃ reply, r = .ok reply ∧ SameReply sh.db.records c.shared.db.eventIds
        (serially st sh (order.map fun x => x.plain.call)).2.db.eventIds x.reply reply) order
        (serially st sh (order.map fun x => x.plain.call)).1 ∧
      (bankOf sh.db).serveAll datetimesMatch (order.map fun x => x.call.instruction st) =
        some (order.map fun x => receiptOf x.reply, bankOf c.shared.db) := by
  have fixed : Reaches (permits {}) (start st sh calls) c := h.mono fun c _ hok => permits_fixed c ⟨hok.1, hok.2.1⟩
  have coherent := (fixed.inv rfl h₀ (Admits.any rfl rfl)).coh
  have plain_log : ∀ x ∈ c.shared.log.map Commit.plain, x.wiring.responseCache = false := by
    intro x hx
    obtain ⟨y, _, rfl⟩ := List.mem_map.mp hx
    rfl
  obtain ⟨plains, among, S⟩ := (h.plain_chain h₀ cold).serialized h₀ plain_log
    (fun _ mem => absurd mem List.not_mem_nil) List.nodup_nil (fun _ mem => absurd mem List.not_mem_nil)
  -- the calls themselves in this order
  have related : List.Forall₂ (fun p x => p = x.plain) (c.shared.log.map Commit.plain) c.shared.log :=
    List.forall₂_map_left_iff.mpr (List.forall₂_same.mpr fun _ _ => rfl)
  obtain ⟨order, plains_eq, perm⟩ := List.perm_comp_forall₂ among related
  have plains_eq : plains = order.map Commit.plain :=
    List.forall₂_eq_eq_eq ▸ List.forall₂_map_right_iff.mpr plains_eq
  subst plains_eq
  have plain_order : ∀ x ∈ order.map Commit.plain, x.wiring.responseCache = false := by
    intro x hx
    obtain ⟨y, _, rfl⟩ := List.mem_map.mp hx
    rfl
  have served := serves_of_same h₀ coherent.valid plain_order S.tables S.records S.answers
  have tables := S.tables
  have records := S.records
  have answers := List.forall₂_map_left_iff.mp S.answers
  rw [List.map_map] at tables records served
  simp only [List.map_map] at answers
  rw [List.map_map] at served
  refine ⟨order, perm, fun x mem => ⟨?_, fun l reply returned => ?_⟩, tables, records, answers, served⟩
  · exact coherent.logged x (perm.mem_iff.mp mem)
  · exact fixed.logged_reply h₀ returned (perm.mem_iff.mp mem) rfl

/-- A deposit, and the same request again, which commits what it has found in the cache. -/
theorem cached_refinement_replay :
    let calls := [Sample.call "key-1" Sample.deposit, Sample.call "key-1" Sample.deposit]
    let c := Sample.run calls (List.replicate 23 (.run 0) ++ List.replicate 4 (.run 1))
    c.shared.log.map (fun x => (x.tid, x.cacheHit.isSome, x.reply.duplicated)) =
        [(0, false, false), (1, true, true)] ∧
      ∃ order : List Commit, order.Perm c.shared.log ∧
        (bankOf Sample.shared.db).serveAll datetimesMatch (order.map fun x => x.call.instruction Sample.settings) =
          some (order.map fun x => receiptOf x.reply, bankOf c.shared.db) := by
  intro calls c
  have followed : Reaches (fun c label => (!label.deletes && !label.requarantines && !outruns Sample.settings c label) =
      true) (start Sample.settings Sample.shared calls) c := Reaches.followed_of _ (by decide +kernel)
  have reached : Reaches (orderly Sample.settings) (start Sample.settings Sample.shared calls) c := by
    refine followed.mono ?_
    intro c label hok
    simp only [Bool.and_eq_true, Bool.not_eq_true'] at hok
    exact ⟨hok.1.1, hok.1.2, hok.2⟩
  obtain ⟨order, perm, _, _, _, _, served⟩ := cached_refinement Sample.initial rfl reached
  exact ⟨by decide +kernel, order, perm, served⟩

end Runs

end EventConsistency
