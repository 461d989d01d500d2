import EventConsistency.Lib.Canonical
import EventConsistency.Lib.Encoding
import EventConsistency.Lifecycle

/-!
# A request hash stands for one body

* `canonicalizePayload_eq_iff`, `generateRequestHash_eq_iff` : equal bytes and equal hashes are those of equal bodies;
* `KeyRecorded` : the record of a key has a hash; every call keeps that but a `delete_expired` of the record
  (`Change.recorded`), and so does every run of calls;
* **`request_hash_identifies`** : after a first check of a key with one body, a check with another body is a conflict
  exactly where the two are not the same.
-/

namespace EventConsistency

open Lib

/-! ## Bytes and hashes -/

theorem canonicalizePayload_eq_iff {a b : Json} (ha : a.Plain) (hb : b.Plain) :
    canonicalizePayload a = canonicalizePayload b ↔ a.Same b := by
  rw [← Json.dumps_eq_iff ha hb]
  constructor
  · exact Python.flatMap_utf8EncodeChar_inj
  · intro same
    rw [canonicalizePayload, same, canonicalizePayload]

theorem generateRequestHash_eq_iff {sha256 : List UInt8 → String} (collisionFree : Function.Injective sha256) {a b : Json}
    (ha : a.Plain) (hb : b.Plain) : generateRequestHash sha256 a = generateRequestHash sha256 b ↔ a.Same b := by
  rw [← canonicalizePayload_eq_iff ha hb]
  exact collisionFree.eq_iff

/-! ## Records -/

/-- The record of the key has this hash. -/
def KeyRecorded (key requestHash : String) (sh : Shared) : Prop :=
  ∃ r, sh.db.recordByKey key = some r ∧ r.requestHash = requestHash

/-- The call does not delete the record of the key. -/
def Retains (key : String) (sh : Shared) (label : Time × RecordCall) : Prop :=
  label.2 = .deleteExpired →
    ∀ r, sh.db.recordByKey key = some r → IdempotencyRecordRepository.expired label.1 r = false

section Runs

variable {svc : Service} {l : Session} {sh sh' : Shared} {call : RecordCall} {reply : Except Exc RecordReply}
  {key requestHash : String}

/-- Closing a record leaves every key where it is. -/
theorem find?_replace {records : List IdempotencyRecord} {r r' : IdempotencyRecord}
    (hn : (records.map IdempotencyRecord.id).Nodup) (hr : r ∈ records) (hc : Closes r r') :
    (Delta.replace r' records).find? (fun o => o.idempotencyKey == key) =
      (records.find? fun o => o.idempotencyKey == key).map fun o => if Row.rowId o = Row.rowId r' then r' else o := by
  unfold Delta.replace
  rw [List.find?_map]
  congr 1
  refine List.find?_congr fun o ho => ?_
  by_cases heq : Row.rowId o = Row.rowId r'
  · have hor : o = r := List.inj_on_of_nodup_map hn ho hr (heq.trans hc.id)
    subst hor
    simp only [Function.comp, if_pos heq, hc.key]
  · simp only [Function.comp, if_neg heq]

theorem Change.recorded (h : Change sh call reply sh') (hs : WellNumbered sh) (hrec : KeyRecorded key requestHash sh)
    (hkeep : call = .deleteExpired → ∀ r, sh.db.recordByKey key = some r →
      IdempotencyRecordRepository.expired sh.clock r = false) : KeyRecorded key requestHash sh' := by
  obtain ⟨r, found, hash⟩ := hrec
  unfold KeyRecorded Db.recordByKey at *
  cases h with
  | nothing _ hrecords _ => exact ⟨r, by rw [hrecords, found], hash⟩
  | started _ hkey _ hrecords _ => exact ⟨r, by rw [hrecords, List.find?_append, found]; rfl, hash⟩
  | @closed _ _ _ old new _ hr hc hrecords _ =>
      rw [hrecords, find?_replace hs.ids hr hc, found]
      refine ⟨_, rfl, ?_⟩
      dsimp only
      split
      · rename_i same
        have hor : r = old := List.inj_on_of_nodup_map hs.ids (List.mem_of_find?_eq_some found) hr (same.trans hc.id)
        rw [hc.hash, ← hor, hash]
      · exact hash
  | deleted hrecords _ =>
      have kept := hkeep rfl r found
      obtain ⟨hkey, before, after, hsplit, hbefore⟩ := List.find?_eq_some_iff_append.mp found
      refine ⟨r, ?_, hash⟩
      rw [hrecords, List.find?_filter, List.find?_eq_some_iff_append]
      refine ⟨by simp [kept, hkey], before, after, hsplit, fun o ho => ?_⟩
      have other := hbefore o ho
      simp only [Bool.not_eq_true'] at other
      simp [other]

theorem KeyRecorded.run (hs : WellNumbered sh) (hrec : KeyRecorded key requestHash sh)
    (h : Runs (lifecycleStep svc l) (Retains key) sh sh') : WellNumbered sh' ∧ KeyRecorded key requestHash sh' := by
  refine Runs.invariant (P := fun sh => WellNumbered sh ∧ KeyRecorded key requestHash sh) ⟨hs, hrec⟩ ?_ h
  rintro sh sh' label ⟨hs, hrec⟩ hkeep hstep
  have hs' : WellNumbered { sh with clock := label.1 } := ⟨hs.ids, hs.keys, hs.drawn⟩
  exact ⟨(lifecycleStep_change hstep).sound hs', (lifecycleStep_change hstep).recorded hs' hrec hkeep⟩

/-- A first check of a key records the hash of its body. -/
theorem recorded_checkOrStart (hkey : sh.db.recordByKey key = none) (payload : Json) :
    KeyRecorded key (generateRequestHash svc.sha256 payload)
      ((RecordCall.checkOrStart key payload).perform svc l sh).2 := by
  simp only [RecordCall.perform, perform_checkOrStart_none payload hkey]
  refine ⟨newRecord svc sh key payload, ?_, rfl⟩
  show (sh.db.records ++ [newRecord svc sh key payload]).find? (fun r => r.idempotencyKey == key) = _
  have absent : sh.db.records.find? (fun r => r.idempotencyKey == key) = none := hkey
  rw [List.find?_append, absent]
  simp [newRecord]

/-- A check of a key that has a record. -/
theorem reply_checkOrStart {r : IdempotencyRecord} (found : sh.db.recordByKey key = some r) (payload : Json) :
    ((RecordCall.checkOrStart key payload).perform svc l sh).1 =
      (IdempotencyService.decide r (generateRequestHash svc.sha256 payload)).map .checked := by
  have hread : sh.perform l (IdempotencyService.checkOrStart svc key payload) =
      (IdempotencyService.decide r (generateRequestHash svc.sha256 payload), sh) :=
    Shared.perform_read (run_checkOrStart_some (Session.idle_discard l) payload found)
  simp only [RecordCall.perform, hread, Prod.map_fst]

/-- The answer is a conflict where the hashes differ, and a result where they do not. -/
theorem decide_cases (r : IdempotencyRecord) (requestHash : String) :
    (r.requestHash ≠ requestHash ∧
      IdempotencyService.decide r requestHash = .error (.idempotencyConflict r.idempotencyKey)) ∨
      (r.requestHash = requestHash ∧ ∃ result, IdempotencyService.decide r requestHash = .ok result) := by
  unfold IdempotencyService.decide IdempotencyService.ensureSameRequestHash
  by_cases same : r.requestHash = requestHash
  · right
    refine ⟨same, ?_⟩
    simp only [same, ne_eq, not_true_eq_false, if_false]
    cases r.status <;> exact ⟨_, rfl⟩
  · left
    refine ⟨same, ?_⟩
    simp only [ne_eq, same, not_false_eq_true, if_true]
    rfl

/-- A check of a key that has a record is a conflict where the hashes differ, and only there. -/
theorem KeyRecorded.answered {same : Prop} (hrec : KeyRecorded key requestHash sh) (payload : Json)
    (hashes : requestHash = generateRequestHash svc.sha256 payload ↔ same) :
    let reply := ((RecordCall.checkOrStart key payload).perform svc l sh).1
    (reply = .error (.idempotencyConflict key) ↔ ¬same) ∧ (same → ∃ result, reply = .ok (.checked result)) := by
  intro reply
  obtain ⟨r, found, rfl⟩ := hrec
  have hkey : r.idempotencyKey = key := by simpa using List.find?_some found
  have answer : reply = (IdempotencyService.decide r (generateRequestHash svc.sha256 payload)).map .checked :=
    reply_checkOrStart found payload
  rw [answer, ← hashes]
  obtain ⟨differ, conflict⟩ | ⟨equal, result, returned⟩ := decide_cases r (generateRequestHash svc.sha256 payload)
  · rw [conflict, hkey]
    exact ⟨iff_of_true rfl differ, fun equal => absurd equal differ⟩
  · rw [returned]
    refine ⟨iff_of_false (fun h => ?_) (not_not.mpr equal), fun _ => ⟨result, rfl⟩⟩
    cases h

end Runs

/-- **A request hash stands for one body.** The canonical bytes of two plain objects are equal exactly where the objects
are the same; so are their hashes, if SHA-256 has no collisions; and once a key was checked with one of them, a check with
the other, after any calls that leave the record, is a conflict exactly where they are not the same. -/
theorem request_hash_identifies (a b : List (String × Json)) (ha : (Json.obj a).Plain) (hb : (Json.obj b).Plain) :
    (canonicalizePayload (.obj a) = canonicalizePayload (.obj b) ↔ (Json.obj a).Same (.obj b)) ∧
    ∀ (svc : Service) (l : Session), Function.Injective svc.sha256 →
      (generateRequestHash svc.sha256 (.obj a) = generateRequestHash svc.sha256 (.obj b) ↔ (Json.obj a).Same (.obj b)) ∧
      ∀ key sh₀ started sh, WellNumbered sh₀ → sh₀.db.recordByKey key = none →
        Runs (lifecycleStep svc l) (Retains key)
          ((RecordCall.checkOrStart key (.obj a)).perform svc l { sh₀ with clock := started }).2 sh →
        ∀ now, let reply := ((RecordCall.checkOrStart key (.obj b)).perform svc l { sh with clock := now }).1
          (reply = .error (.idempotencyConflict key) ↔ ¬(Json.obj a).Same (.obj b)) ∧
            ((Json.obj a).Same (.obj b) → ∃ result, reply = .ok (.checked result)) := by
  refine ⟨canonicalizePayload_eq_iff ha hb, fun svc l collisionFree => ?_⟩
  have hashes := generateRequestHash_eq_iff collisionFree ha hb
  refine ⟨hashes, fun key sh₀ started sh hs₀ fresh runs now => ?_⟩
  have hs₁ : WellNumbered { sh₀ with clock := started } := ⟨hs₀.ids, hs₀.keys, hs₀.drawn⟩
  have numbered := (perform_change svc l { sh₀ with clock := started } (.checkOrStart key (.obj a))).sound hs₁
  have recorded := @recorded_checkOrStart svc l { sh₀ with clock := started } key fresh (.obj a)
  have hrec := (KeyRecorded.run numbered recorded runs).2
  have later : KeyRecorded key (generateRequestHash svc.sha256 (.obj a)) { sh with clock := now } := hrec
  exact later.answered (.obj b) hashes

namespace Sample

/-- One body written in two orders. -/
def written : List (String × Json) := [("b", .int 1), ("a", .str "x")]

def rewritten : List (String × Json) := [("a", .str "x"), ("b", .int 1)]

/-- SHA-256 on the canonical bytes of the body, and without collisions elsewhere. -/
def collisionFree (bytes : List UInt8) : String :=
  if bytes = canonicalizePayload (.obj written) then "cdab067e9f3beb32d1252cfd63e492592fecbf591b0d08cadb24bb17f3864246"
  else String.ofList ('#' :: bytes.map fun byte => Char.ofNat byte.toNat)

theorem collisionFree_injective : Function.Injective collisionFree := by
  have bytes : ∀ x y : List UInt8, (x.map fun byte => Char.ofNat byte.toNat) = (y.map fun byte => Char.ofNat byte.toNat) →
      x = y := by
    intro x y same
    refine List.map_injective_iff.mpr ?_ same
    intro i j hij
    have chars := congrArg Char.toNat hij
    have small : ∀ k : UInt8, (Char.ofNat k.toNat).toNat = k.toNat := by
      intro k
      have low := k.toNat_lt
      exact Python.toNat_ofNat_of_isScalar (by simp [Python.isScalar]; omega)
    rw [small, small] at chars
    exact UInt8.toNat_inj.mp chars
  -- the digest does not begin with a number sign
  have apart : ∀ x : List UInt8, String.ofList ('#' :: x.map fun byte => Char.ofNat byte.toNat) ≠
      "cdab067e9f3beb32d1252cfd63e492592fecbf591b0d08cadb24bb17f3864246" := by
    intro x same
    have spelled := congrArg (fun s : String => s.toList.head?) same
    rw [String.toList_ofList, List.head?_cons] at spelled
    exact absurd spelled (by decide +kernel)
  intro x y same
  unfold collisionFree at same
  split_ifs at same with hx hy hy
  · exact hx.trans hy.symm
  · exact absurd same.symm (apart y)
  · exact absurd same (apart x)
  · exact bytes x y (List.cons.inj (String.ofList_inj.mp same)).2

theorem written_plain : (Json.obj written).Plain := by
  refine .obj _ (by decide) ?_
  simp only [written, List.forall_mem_cons, List.not_mem_nil, false_implies, implies_true, and_true]
  exact ⟨.int 1, .str "x"⟩

theorem rewritten_plain : (Json.obj rewritten).Plain := by
  refine .obj _ (by decide) ?_
  simp only [rewritten, List.forall_mem_cons, List.not_mem_nil, false_implies, implies_true, and_true]
  exact ⟨.str "x", .int 1⟩

theorem written_same : (Json.obj written).Same (.obj rewritten) := by
  refine ⟨rewritten, rfl, rfl, ⟨.int 1, by simp [rewritten], rfl⟩, ⟨.str "x", by simp [rewritten], rfl⟩, trivial⟩

def bodyService : Service := ⟨{ settings with sha256 := collisionFree }, ⟨false, false, true⟩⟩

/-- The body was checked for `key-1`, and answered. -/
def checkedOnce : Shared :=
  ((RecordCall.checkOrStart "key-1" (.obj written)).perform bodyService recordSession { shared with clock := 1 }).2

def answered : Shared :=
  ((RecordCall.complete "key-1" 200 none (some (.obj written)) none).perform bodyService recordSession
    { checkedOnce with clock := 2 }).2

end Sample

/-- It is checked again in another order. -/
theorem request_hash_identifies_rewritten :
    canonicalizePayload (.obj Sample.written) = canonicalizePayload (.obj Sample.rewritten) ∧
      ∃ result, ((RecordCall.checkOrStart "key-1" (.obj Sample.rewritten)).perform Sample.bodyService Sample.recordSession
        { Sample.answered with clock := 3 }).1 = .ok (.checked result) := by
  obtain ⟨bytes, hashes⟩ := request_hash_identifies Sample.written Sample.rewritten Sample.written_plain
    Sample.rewritten_plain
  obtain ⟨-, calls⟩ := hashes Sample.bodyService Sample.recordSession Sample.collisionFree_injective
  have h₀ : WellNumbered Sample.shared := ⟨List.nodup_nil, List.nodup_nil, by simp [Sample.shared, Sample.db]⟩
  have step : Runs (lifecycleStep Sample.bodyService Sample.recordSession) (Retains "key-1") Sample.checkedOnce
      Sample.answered := by
    have completes : lifecycleStep Sample.bodyService Sample.recordSession Sample.checkedOnce
        (2, .complete "key-1" 200 none (some (.obj Sample.written)) none) = some Sample.answered := rfl
    refine .next .refl ?_ completes
    intro deletes
    cases deletes
  exact ⟨bytes.mpr Sample.written_same, (calls "key-1" Sample.shared 1 Sample.answered h₀ rfl step 3).2 Sample.written_same⟩

end EventConsistency
