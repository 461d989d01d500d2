import EventConsistency.Lib.Threads
import EventConsistency.Services.TransactionEvent

/-!
# The running system

Any number of `TransactionEventService.process` calls on one PostgreSQL and one Redis. A `Label` is one step:
a call performs its next operation, or meets an outage at it, or dies; expired records are deleted; quarantine
records change; time passes; Redis drops a lock or a cache entry. `Reaches ok c₀ c` : `c` is reached from `c₀`
by steps that all meet `ok`.
-/

namespace EventConsistency

open Lib

abbrev Config := Pool Op Op.Res Exc Shared Session TransactionProcessingResult

/-- A call to be made. The key is a header value that `get_idempotency_key` lets through: 1 to 128 characters, no NUL. -/
structure Call where
  wiring : Wiring
  key : String
  request : TransactionEventCreateRequest

def Call.session (call : Call) (tid : Nat) : Session :=
  { tid := tid, wiring := call.wiring, key := call.key, request := call.request }

def Call.program (st : Settings) (call : Call) : Py TransactionProcessingResult :=
  TransactionEventService.process ⟨st, call.wiring⟩ call.key call.request

/-- The system before any of its calls has done anything. -/
def start (st : Settings) (sh : Shared) (calls : List Call) : Config where
  shared := sh
  threads := calls.mapIdx fun i call => ⟨call.session i, call.program st⟩

inductive Label where
  | run (i : Nat)
  | outage (i : Nat)
  | crash (i : Nat)
  | deleteExpired (now : Time) (ids : List Nat)
  | setQuarantines (quarantines : List QuarantineRecord)
  | tick (microseconds : Nat)
  | expireLock (key : String)
  | evict (key : String)

/-- The step deletes idempotency records. -/
def Label.deletes : Label → Bool
  | .deleteExpired .. => true
  | _ => false

/-- The step changes quarantine records. -/
def Label.requarantines : Label → Bool
  | .setQuarantines _ => true
  | _ => false

/-- A call whose process died: PostgreSQL rolls its transaction back. -/
def Session.crash (l : Session) : Session := l.discard

/-- What the environment does on its own. -/
def envStep : Label → Shared → Option Shared
  | .deleteExpired now ids, sh => some { sh with db := IdempotencyRecordRepository.deleteExpired now ids sh.db }
  | .setQuarantines quarantines, sh => some { sh with db := { sh.db with quarantines := quarantines } }
  | .tick microseconds, sh => some { sh with clock := sh.clock + microseconds }
  | .expireLock key, sh => some { sh with locks := sh.locks.filter (fun kv => kv.1 != key) }
  | .evict key, sh => some { sh with cache := sh.cache.filter (fun kv => kv.1 != key) }
  | .run _, _ | .outage _, _ | .crash _, _ => none

/-- The sessions of the other calls. -/
def others (c : Config) (i : Nat) : List Session := c.locs.eraseIdx i

def step (c : Config) : Label → Option Config
  | .run i => match c.threads[i]? with
      | some ⟨l, .op o k⟩ =>
          if blocked (others c i) o c.shared l then none
          else
            let out := exec false o c.shared l
            some ⟨out.2.1, c.threads.set i ⟨out.2.2, k out.1⟩⟩
      | _ => none
  | .outage i => match c.threads[i]? with
      | some ⟨l, .op o k⟩ =>
          let out := exec true o c.shared l
          some ⟨out.2.1, c.threads.set i ⟨out.2.2, k out.1⟩⟩
      | _ => none
  | .crash i => match c.threads[i]? with
      | some ⟨l, .op _ _⟩ => some ⟨c.shared, c.threads.set i ⟨l.crash, .raise .crashed⟩⟩
      | _ => none
  | label => (envStep label c.shared).map fun sh => ⟨sh, c.threads⟩

theorem step_run {c c' : Config} {i : Nat} (h : step c (.run i) = some c') :
    ∃ l o k, c.threads[i]? = some ⟨l, .op o k⟩ ∧ blocked (others c i) o c.shared l = false ∧
      c' = ⟨(exec false o c.shared l).2.1,
        c.threads.set i ⟨(exec false o c.shared l).2.2, k (exec false o c.shared l).1⟩⟩ := by
  unfold step at h
  dsimp only at h
  split at h
  · rename_i l o k ht
    split at h
    · cases h
    · rename_i hb
      cases h
      exact ⟨l, o, k, ht, by simpa using hb, rfl⟩
  · cases h

theorem step_outage {c c' : Config} {i : Nat} (h : step c (.outage i) = some c') :
    ∃ l o k, c.threads[i]? = some ⟨l, .op o k⟩ ∧
      c' = ⟨(exec true o c.shared l).2.1,
        c.threads.set i ⟨(exec true o c.shared l).2.2, k (exec true o c.shared l).1⟩⟩ := by
  unfold step at h
  dsimp only at h
  split at h
  · rename_i l o k ht
    cases h
    exact ⟨l, o, k, ht, rfl⟩
  · cases h

theorem step_crash {c c' : Config} {i : Nat} (h : step c (.crash i) = some c') :
    ∃ l o k, c.threads[i]? = some ⟨l, .op o k⟩ ∧ c' = ⟨c.shared, c.threads.set i ⟨l.crash, .raise .crashed⟩⟩ := by
  unfold step at h
  dsimp only at h
  split at h
  · rename_i l o k ht
    cases h
    exact ⟨l, o, k, ht, rfl⟩
  · cases h

/-- `c` is reached from `c₀` by steps that all meet `ok`. -/
inductive Reaches (ok : Config → Label → Prop) (c₀ : Config) : Config → Prop where
  | refl : Reaches ok c₀ c₀
  | step {c c' : Config} {label : Label} (h : Reaches ok c₀ c) (hok : ok c label) (hs : step c label = some c') :
      Reaches ok c₀ c'

/-- Any step. -/
def anyStep : Config → Label → Prop := fun _ _ => True

/-- The step is the commit of a call with `P`. -/
def atCommit (P : Shared → Session → Bool) (c : Config) : Label → Bool
  | .run i => match c.threads[i]? with
      | some ⟨l, .op (.commit _) _⟩ => P c.shared l
      | _ => false
  | _ => false

theorem atCommit_eq {c : Config} {i : Nat} {l : Session} {reply : TransactionProcessingResult}
    {k : Except Exc Unit → Py TransactionProcessingResult} (P : Shared → Session → Bool)
    (h : c.threads[i]? = some ⟨l, .op (.commit reply) k⟩) : atCommit P c (.run i) = P c.shared l := by
  unfold atCommit
  dsimp only
  rw [h]

/-- How a call has ended. -/
def outcome (c : Config) (i : Nat) : Option (Session × Except Exc TransactionProcessingResult) :=
  match c.threads[i]? with
  | some ⟨l, .ret reply⟩ => some (l, .ok reply)
  | some ⟨l, .raise x⟩ => some (l, .error x)
  | _ => none

theorem outcome_eq {c : Config} {i : Nat} {l : Session} {r : Except Exc TransactionProcessingResult}
    (h : outcome c i = some (l, r)) : c.threads[i]? = some ⟨l, .lift r⟩ := by
  unfold outcome at h
  split at h
  · rename_i ht; cases h; exact ht
  · rename_i ht; cases h; exact ht
  · cases h

/-- Follow a list of labels. -/
def follow (c : Config) : List Label → Option Config
  | [] => some c
  | label :: rest => match step c label with
      | none => none
      | some c' => follow c' rest

theorem Reaches.trans {ok : Config → Label → Prop} {c₀ c₁ c₂ : Config} (h : Reaches ok c₀ c₁)
    (h' : Reaches ok c₁ c₂) : Reaches ok c₀ c₂ := by
  induction h' with
  | refl => exact h
  | step _ hok hs ih => exact .step ih hok hs

/-- What is left of a configuration after a list of labels is reached by them. -/
theorem Reaches.followed {ok : Config → Label → Prop} {labels : List Label} (c : Config)
    (hok : ∀ label ∈ labels, ∀ c, ok c label) : Reaches ok c ((follow c labels).getD c) := by
  cases hf : follow c labels with
  | none => exact .refl
  | some c' =>
      induction labels generalizing c with
      | nil => cases hf; exact .refl
      | cons label rest ih =>
          simp only [List.mem_cons, forall_eq_or_imp] at hok
          unfold follow at hf
          split at hf
          · cases hf
          · rename_i c₁ hs
            exact Reaches.trans (.step .refl (hok.1 c) hs) (ih c₁ hok.2 hf)

/-- Every step of a list of labels, as far as it can be followed, meets `ok`. -/
def everyStep (ok : Config → Label → Bool) (c : Config) : List Label → Bool
  | [] => true
  | label :: rest => ok c label && match step c label with
      | none => true
      | some c' => everyStep ok c' rest

theorem Reaches.followed_of {ok : Config → Label → Bool} {labels : List Label} (c : Config)
    (hok : everyStep ok c labels = true) :
    Reaches (fun c label => ok c label = true) c ((follow c labels).getD c) := by
  cases hf : follow c labels with
  | none => exact .refl
  | some c' =>
      induction labels generalizing c with
      | nil => cases hf; exact .refl
      | cons label rest ih =>
          unfold follow at hf
          unfold everyStep at hok
          rw [Bool.and_eq_true] at hok
          split at hf
          · cases hf
          · rename_i c₁ hs
            rw [hs] at hok
            exact Reaches.trans (.step .refl hok.1 hs) (ih c₁ hok.2 hf)

/-! ## An instance

Two accounts and three requests, with the SHA-256 digests of the texts that calls with these requests hash. -/

namespace Sample

def deposit : TransactionEventCreateRequest where
  externalEventId := "evt-1"
  accountNo := "ACC-1"
  eventType := .deposit
  amount := 500
  currency := "KRW"
  occurredAt := ⟨1778576400000000, some 0⟩
  originalExternalEventId := none
  externalEventId_length := by decide
  accountNo_length := by decide
  amount_pos := by decide
  currency_length := by decide
  occurredAt_aware := rfl
  original_length := by simp
  cancel_reference := by simp

/-- The same external event on the other account. -/
def rival : TransactionEventCreateRequest :=
  { deposit with accountNo := "ACC-2", accountNo_length := by decide }

def cancel : TransactionEventCreateRequest :=
  { deposit with
    externalEventId := "evt-2"
    eventType := .cancel
    originalExternalEventId := some "evt-1"
    externalEventId_length := by decide
    original_length := fun o ho => by cases ho; decide
    cancel_reference := by simp }

def sha256 (bytes : List UInt8) : String :=
  if bytes = canonicalizePayload deposit.modelDump then
    "3805c008045ec30eba0c8bb5bed4d13131d381f18b30293abbcc6151bd87fbcd"
  else if bytes = canonicalizePayload rival.modelDump then
    "d3d9fdf7047588db61285ff30a8bb845c2bee2901f260962e4dbfa41a85bf25d"
  else if bytes = canonicalizePayload cancel.modelDump then
    "e5b0d28ff3f25cfa0abd521cf7fe182c28a9c3d4cdb8072fa32bd6eb1b3bd0bd"
  else if bytes = utf8 "key-1".toList then "be2974546978e3739e6d6da85c4be9f334ce32df2b9fd4b6ff1b55c0d57e9d44"
  else if bytes = utf8 "key-2".toList then "7c36b0a9dedde119c75165957c6c9c187e65df1ee5db87c4c58ad503ad88cbe3"
  else ""

def settings : Settings := { sha256 := sha256 }

def db : Db := { accounts := [⟨1, "ACC-1", 1000, "ACTIVE"⟩, ⟨2, "ACC-2", 0, "ACTIVE"⟩] }

def shared : Shared := { db := db, init := db, seqs := {}, clock := 1778576401000000 }

/-- A call as the API wires it. -/
def call (key : String) (request : TransactionEventCreateRequest) : Call := ⟨⟨true, true, true⟩, key, request⟩

/-- The same without the response cache. -/
def plainCall (key : String) (request : TransactionEventCreateRequest) : Call := ⟨⟨false, true, true⟩, key, request⟩

/-- A call without Redis. -/
def bareCall (key : String) (request : TransactionEventCreateRequest) : Call := ⟨⟨false, false, true⟩, key, request⟩

/-- The state after the steps `labels` of the calls. -/
def run (calls : List Call) (labels : List Label) : Config :=
  (follow (start settings shared calls) labels).getD (start settings shared calls)

theorem reaches_run (calls : List Call) (labels : List Label) :
    Reaches anyStep (start settings shared calls) (run calls labels) :=
  Reaches.followed _ fun _ _ _ => trivial

theorem reaches_run_of {ok : Label → Prop} (calls : List Call) {labels : List Label} (h : ∀ label ∈ labels, ok label) :
    Reaches (fun _ label => ok label) (start settings shared calls) (run calls labels) :=
  Reaches.followed _ fun label hl _ => h label hl

end Sample

end EventConsistency
