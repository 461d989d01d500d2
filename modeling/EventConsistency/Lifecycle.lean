import EventConsistency.Lib.Machine
import EventConsistency.Lib.Order
import EventConsistency.Serve
import EventConsistency.System

/-!
# The life of an idempotency record

Calls of the plain idempotency service and of `delete_expired`, one after another on one session, each at a clock value
of its own. What a call has flushed stays, whether or not the call raises.

* `RecordCall.perform` : a call; `Change` : all that one can do to the records, with **`perform_change`**;
* `WellNumbered` : ids and keys are unique, and no id is drawn twice; `Follows` : what a later state has of an earlier one;
* **`idempotency_record_lifecycle`** : over every sequence of calls.
-/

namespace EventConsistency

open Lib

namespace IdempotencyRecordRepository

/-- `list_expired`: by `expires_at`, then by `id`; a record without `expires_at` is not among them. -/
def listExpired (now : Time) (db : Db) : List IdempotencyRecord :=
  orderBy (stamp (fun r => r.expiresAt.getD now) IdempotencyRecord.id) (db.records.filter (expired now))

end IdempotencyRecordRepository

/-! ## Calls -/

/-- A call with its arguments; `complete` and `fail` take the payload, the hash, both or neither. -/
inductive RecordCall where
  | checkOrStart (key : String) (payload : Json)
  | complete (key : String) (responseCode : Nat) (responseBody payload : Option Json) (requestHash : Option String)
  | fail (key : String) (responseCode : Option Nat) (responseBody : Option Json) (errorMessage : Option String)
      (payload : Option Json) (requestHash : Option String)
  | deleteExpired
  deriving DecidableEq

inductive RecordReply where
  | checked (result : IdempotencyCheckResult)
  | closed (record : IdempotencyRecord)
  | deleted (count : Nat)

/-- A program of the service on a session that has nothing pending: what it returns or raises, and what it leaves. -/
def Shared.perform {α : Type} (sh : Shared) (l : Session) (p : Py α) : Except Exc α × Shared :=
  let (r, sh', l') := p.run alone (fun _ => ⟨false, false⟩) sh { l.discard with failed := false }
  (r, { sh' with db := l'.work.apply sh'.db })

def RecordCall.perform (svc : Service) (l : Session) (sh : Shared) : RecordCall → Except Exc RecordReply × Shared
  | checkOrStart key payload =>
      (sh.perform l (IdempotencyService.checkOrStart svc key payload)).map (Except.map .checked) id
  | complete key responseCode responseBody payload requestHash =>
      (sh.perform l (IdempotencyService.complete svc key responseCode responseBody payload requestHash)).map
        (Except.map .closed) id
  | fail key responseCode responseBody errorMessage payload requestHash =>
      (sh.perform l (IdempotencyService.fail svc key responseCode responseBody errorMessage payload requestHash)).map
        (Except.map .closed) id
  | deleteExpired =>
      let expired := IdempotencyRecordRepository.listExpired sh.clock sh.db
      (.ok (.deleted expired.length),
        { sh with db := IdempotencyRecordRepository.deleteExpired sh.clock (expired.map IdempotencyRecord.id) sh.db })

/-- The next call, at the time `label.1`. -/
def lifecycleStep (svc : Service) (l : Session) (sh : Shared) (label : Time × RecordCall) : Option Shared :=
  some (label.2.perform svc l { sh with clock := label.1 }).2

/-! ## What a call can do -/

/-- `r'` is `r` after it was closed. -/
structure Closes (r r' : IdempotencyRecord) : Prop where
  id : r'.id = r.id
  key : r'.idempotencyKey = r.idempotencyKey
  hash : r'.requestHash = r.requestHash
  opened : r.status = .processing
  status : r'.status = .completed ∨ r'.status = .failed

/-- All that a call can do to the records: nothing, which is all that one that raises does; a new record for a key that
has none; one record closed; or the expired ones deleted. -/
inductive Change (sh : Shared) : RecordCall → Except Exc RecordReply → Shared → Prop where
  | nothing {call : RecordCall} {reply : Except Exc RecordReply} {sh' : Shared} (hcall : call ≠ .deleteExpired)
      (hrecords : sh'.db.records = sh.db.records) (hseq : sh'.seqs.record = sh.seqs.record) : Change sh call reply sh'
  | started {call : RecordCall} {reply : RecordReply} {sh' : Shared} {new : IdempotencyRecord}
      (hcall : call ≠ .deleteExpired) (hkey : sh.db.recordByKey new.idempotencyKey = none)
      (hid : new.id = sh.seqs.record) (hrecords : sh'.db.records = sh.db.records ++ [new])
      (hseq : sh'.seqs.record = sh.seqs.record + 1) : Change sh call (.ok reply) sh'
  | closed {call : RecordCall} {reply : RecordReply} {sh' : Shared} {r r' : IdempotencyRecord}
      (hcall : call ≠ .deleteExpired) (hr : r ∈ sh.db.records) (hc : Closes r r')
      (hrecords : sh'.db.records = Delta.replace r' sh.db.records) (hseq : sh'.seqs.record = sh.seqs.record) :
      Change sh call (.ok reply) sh'
  | deleted {reply : RecordReply} {sh' : Shared}
      (hrecords : sh'.db.records = sh.db.records.filter
        fun r => !IdempotencyRecordRepository.expired sh.clock r)
      (hseq : sh'.seqs.record = sh.seqs.record) : Change sh .deleteExpired (.ok reply) sh'

section Calls

variable {svc : Service} {l : Session} {sh sh' : Shared} {key : String}

theorem Shared.perform_eq {α : Type} {p : Py α} {r : Except Exc α} {l' : Session}
    (h : p.run alone (fun _ => ⟨false, false⟩) sh { l.discard with failed := false } = (r, sh', l')) :
    sh.perform l p = (r, { sh' with db := l'.work.apply sh'.db }) := by
  unfold Shared.perform
  rw [h]

/-- A program that has only read leaves everything as it was. -/
theorem Shared.perform_read {α : Type} {p : Py α} {r : Except Exc α}
    (h : p.run alone (fun _ => ⟨false, false⟩) sh { l.discard with failed := false } =
      (r, sh, Session.begin { l.discard with failed := false } sh.clock)) :
    sh.perform l p = (r, sh) := by
  have hwork : (Session.begin { l.discard with failed := false } sh.clock).work = {} := rfl
  rw [Shared.perform_eq h, hwork, Overlay.apply_empty]

theorem perform_checkOrStart_none (payload : Json) (h : sh.db.recordByKey key = none) :
    sh.perform l (IdempotencyService.checkOrStart svc key payload) =
      (.ok ⟨.started, some sh.seqs.record, none, none⟩, sh.addRecord (newRecord svc sh key payload)) := by
  rw [Shared.perform_eq (run_checkOrStart_none (Session.idle_discard l) payload h)]
  simp [Overlay.apply, Shared.addRecord]

theorem closingWith_true {r : IdempotencyRecord} {payload : Option Json} {requestHash : Option String}
    {attempted : IdempotencyStatus} (h : closingWith svc r payload requestHash attempted = .ok true) :
    r.status = .processing := by
  unfold closingWith at h
  by_contra hne
  cases hm : IdempotencyService.ensureCompletionMatchesRequest svc r payload requestHash with
  | error x => simp [hm] at h
  | ok u =>
      simp only [hm, IdempotencyService.ensureCanCloseProcessing, hne, if_false] at h
      split at h <;> cases h

/-- `complete` and `fail`: nothing is written, or the record of the key is closed. -/
theorem perform_closeProcessing {site : Site} {payload : Option Json} {requestHash : Option String}
    {attempted : IdempotencyStatus} {mark : IdempotencyRecord → Time → Py IdempotencyRecord}
    {close : IdempotencyRecord → Time → IdempotencyRecord}
    (hmark : ∀ r (l : Session), l.Idle → (mark r sh.clock).run alone (fun _ => ⟨false, false⟩) sh (l.begin sh.clock) =
      (.ok (close r sh.clock), sh, { l.begin sh.clock with work := { records := ⟨[close r sh.clock], []⟩ } })) :
    let out := sh.perform l (IdempotencyService.closeProcessing svc site key payload requestHash attempted mark)
    out.2 = sh ∨ ∃ r ∈ sh.db.records, r.status = .processing ∧ out.1 = .ok (close r sh.clock) ∧
      out.2 = sh.replaceRecord (close r sh.clock) := by
  have hl := Session.idle_discard l
  cases h : sh.db.recordByKey key with
  | none =>
      rw [Shared.perform_read (run_closeProcessing_none hl h)]
      exact Or.inl rfl
  | some r =>
      cases hc : closingWith svc r payload requestHash attempted with
      | error x =>
          rw [Shared.perform_read (run_closeProcessing_error hl h hc)]
          exact Or.inl rfl
      | ok closes =>
          cases closes with
          | false =>
              rw [Shared.perform_read (run_closeProcessing_noop hl h hc)]
              exact Or.inl rfl
          | true =>
              rw [Shared.perform_eq ((run_closeProcessing_close hl h hc).trans (hmark r _ hl))]
              refine Or.inr ⟨r, List.mem_of_find?_eq_some h, closingWith_true hc, rfl, ?_⟩
              simp [Overlay.apply, Delta.apply_updated, Shared.replaceRecord]

/-- A change of one record, seen from its two outcomes. -/
theorem Change.of_close {call : RecordCall} {out : Except Exc IdempotencyRecord × Shared}
    (close : IdempotencyRecord → Time → IdempotencyRecord) (hcall : call ≠ .deleteExpired)
    (hclose : ∀ r, r.status = .processing → Closes r (close r sh.clock))
    (h : out.2 = sh ∨ ∃ r ∈ sh.db.records, r.status = .processing ∧ out.1 = .ok (close r sh.clock) ∧
      out.2 = sh.replaceRecord (close r sh.clock)) : Change sh call (out.map (Except.map .closed) id).1 out.2 := by
  rcases h with h | ⟨r, hr, hs, hok, h⟩
  · exact .nothing hcall (by rw [h]) (by rw [h])
  · have hreply : (out.map (Except.map RecordReply.closed) id).1 = .ok (.closed (close r sh.clock)) := by
      simp [Prod.map, hok, Except.map]
    rw [hreply, h]
    exact .closed hcall hr (hclose r hs) rfl rfl

/-- Deleting what `list_expired` has read is deleting what is expired. -/
theorem deleteExpired_listExpired (now : Time) (db : Db) :
    (IdempotencyRecordRepository.deleteExpired now ((IdempotencyRecordRepository.listExpired now db).map
      IdempotencyRecord.id) db).records = db.records.filter fun r => !IdempotencyRecordRepository.expired now r := by
  refine List.filter_congr fun r hr => ?_
  by_cases he : IdempotencyRecordRepository.expired now r = true
  · have hmem : r.id ∈ (IdempotencyRecordRepository.listExpired now db).map IdempotencyRecord.id :=
      List.mem_map_of_mem (mem_orderBy.mpr (List.mem_filter.mpr ⟨hr, he⟩))
    simp [he, hmem]
  · simp [he]

/-- **All that a call can do.** -/
theorem perform_change (svc : Service) (l : Session) (sh : Shared) (call : RecordCall) :
    Change sh call (call.perform svc l sh).1 (call.perform svc l sh).2 := by
  cases call with
  | checkOrStart key payload =>
      cases h : sh.db.recordByKey key with
      | none =>
          simp only [RecordCall.perform, perform_checkOrStart_none payload h]
          exact .started (by simp) h rfl rfl rfl
      | some r =>
          have hread : sh.perform l (IdempotencyService.checkOrStart svc key payload) =
              (IdempotencyService.decide r (generateRequestHash svc.sha256 payload), sh) :=
            Shared.perform_read (run_checkOrStart_some (Session.idle_discard l) payload h)
          simp only [RecordCall.perform, hread]
          exact .nothing (by simp) rfl rfl
  | complete key responseCode responseBody payload requestHash =>
      refine Change.of_close (completedAs responseCode responseBody) (by simp) ?_ ?_
      · intro r hr
        exact ⟨rfl, rfl, rfl, hr, Or.inl rfl⟩
      · exact perform_closeProcessing fun r l hl =>
          run_updateRecord hl .complete (completedAs responseCode responseBody r sh.clock)
  | fail key responseCode responseBody errorMessage payload requestHash =>
      refine Change.of_close (failedAs responseCode responseBody errorMessage) (by simp) ?_ ?_
      · intro r hr
        exact ⟨rfl, rfl, rfl, hr, Or.inr rfl⟩
      · exact perform_closeProcessing fun r l hl =>
          run_updateRecord hl .fail (failedAs responseCode responseBody errorMessage r sh.clock)
  | deleteExpired => exact .deleted (deleteExpired_listExpired sh.clock sh.db) rfl

end Calls

/-! ## Runs of calls -/

/-- No two records share an id or a key, and the sequence has passed every id. -/
structure WellNumbered (sh : Shared) : Prop where
  ids : (sh.db.records.map IdempotencyRecord.id).Nodup
  keys : (sh.db.records.map IdempotencyRecord.idempotencyKey).Nodup
  drawn : ∀ r ∈ sh.db.records, r.id < sh.seqs.record

/-- What became of a record that is still there: it is as it was, or it was PROCESSING and is closed. -/
structure Continues (r r' : IdempotencyRecord) : Prop where
  id : r'.id = r.id
  hash : r'.requestHash = r.requestHash
  same_or_closed : r' = r ∨ r.status = .processing ∧ (r'.status = .completed ∨ r'.status = .failed)

/-- Every record of a later state is one of the earlier state's, or has an id that was drawn since. -/
structure Follows (sh sh' : Shared) : Prop where
  seq : sh.seqs.record ≤ sh'.seqs.record
  origin : ∀ r' ∈ sh'.db.records, (∃ r ∈ sh.db.records, Continues r r') ∨ sh.seqs.record ≤ r'.id

section Runs

variable {svc : Service} {l : Session} {sh sh' sh'' : Shared} {call : RecordCall} {reply : Except Exc RecordReply}
  {r r' r'' : IdempotencyRecord}

theorem Continues.refl (r : IdempotencyRecord) : Continues r r := ⟨rfl, rfl, Or.inl rfl⟩

theorem Continues.frozen (h : Continues r r') (hr : r.status ≠ .processing) : r' = r :=
  h.same_or_closed.resolve_right fun hopen => hr hopen.1

theorem Continues.trans (h : Continues r r') (h' : Continues r' r'') : Continues r r'' where
  id := h'.id.trans h.id
  hash := h'.hash.trans h.hash
  same_or_closed := by
    rcases h.same_or_closed with rfl | ⟨hopen, hclosed⟩
    · exact h'.same_or_closed
    · have hr' : r'.status ≠ .processing := by
        rcases hclosed with hs | hs <;> simp [hs]
      rw [h'.frozen hr']
      exact Or.inr ⟨hopen, hclosed⟩

theorem Closes.continues (h : Closes r r') : Continues r r' := ⟨h.id, h.hash, Or.inr ⟨h.opened, h.status⟩⟩

theorem Follows.refl (sh : Shared) : Follows sh sh := ⟨Nat.le_refl _, fun r hr => Or.inl ⟨r, hr, Continues.refl r⟩⟩

theorem Follows.trans (h : Follows sh sh') (h' : Follows sh' sh'') : Follows sh sh'' where
  seq := Nat.le_trans h.seq h'.seq
  origin := by
    intro r'' hr''
    rcases h'.origin r'' hr'' with ⟨r', hr', hc'⟩ | hnew
    · rcases h.origin r' hr' with ⟨r, hr, hc⟩ | hnew
      · exact Or.inl ⟨r, hr, hc.trans hc'⟩
      · exact Or.inr (hc'.id ▸ hnew)
    · exact Or.inr (Nat.le_trans h.seq hnew)

theorem Change.seq (h : Change sh call reply sh') : sh.seqs.record ≤ sh'.seqs.record := by
  cases h with
  | nothing _ _ hseq => omega
  | started _ _ _ _ hseq => omega
  | closed _ _ _ _ hseq => omega
  | deleted _ hseq => omega

theorem Change.follows (h : Change sh call reply sh') : Follows sh sh' := by
  refine ⟨h.seq, ?_⟩
  intro r' hr'
  cases h with
  | nothing _ hrecords _ => exact Or.inl ⟨r', hrecords ▸ hr', Continues.refl r'⟩
  | started _ _ hid hrecords _ =>
      rw [hrecords, List.mem_append, List.mem_singleton] at hr'
      rcases hr' with hr' | rfl
      · exact Or.inl ⟨r', hr', Continues.refl r'⟩
      · exact Or.inr (Nat.le_of_eq hid.symm)
  | closed _ hr hc hrecords _ =>
      rw [hrecords, Delta.mem_replace] at hr'
      rcases hr' with ⟨hr', _⟩ | ⟨rfl, _⟩
      · exact Or.inl ⟨r', hr', Continues.refl r'⟩
      · exact Or.inl ⟨_, hr, hc.continues⟩
  | deleted hrecords _ =>
      rw [hrecords] at hr'
      exact Or.inl ⟨r', (List.mem_filter.mp hr').1, Continues.refl r'⟩

/-- A record closed in place keeps a column that the closing keeps. -/
theorem map_replace {β : Type} {f : IdempotencyRecord → β} {records : List IdempotencyRecord}
    (hn : (records.map IdempotencyRecord.id).Nodup) (hr : r ∈ records) (hid : r'.id = r.id) (hf : f r' = f r) :
    (Delta.replace r' records).map f = records.map f := by
  unfold Delta.replace
  rw [List.map_map]
  refine List.map_congr_left fun o ho => ?_
  by_cases heq : Row.rowId o = Row.rowId r'
  · have hor : o = r := List.inj_on_of_nodup_map hn ho hr (heq.trans hid)
    subst hor
    simp only [Function.comp, if_pos heq, hf]
  · simp only [Function.comp, if_neg heq]

theorem Change.sound (h : Change sh call reply sh') (hs : WellNumbered sh) : WellNumbered sh' := by
  cases h with
  | nothing _ hrecords hseq =>
      obtain ⟨hids, hkeys, hdrawn⟩ := hs
      constructor <;> simpa only [hrecords, hseq]
  | @started _ _ _ new _ hkey hid hrecords hseq =>
      have hfresh : ∀ r ∈ sh.db.records, r.idempotencyKey ≠ new.idempotencyKey := by
        simpa [Db.recordByKey] using hkey
      refine ⟨?_, ?_, ?_⟩
      · rw [hrecords, List.map_append, List.map_singleton, hid]
        refine List.Nodup.append hs.ids (List.nodup_singleton _) ?_
        rw [List.disjoint_singleton]
        intro hmem
        obtain ⟨r, hr, heq⟩ := List.mem_map.mp hmem
        exact absurd heq (Nat.ne_of_lt (hs.drawn r hr))
      · rw [hrecords, List.map_append, List.map_singleton]
        refine List.Nodup.append hs.keys (List.nodup_singleton _) ?_
        rw [List.disjoint_singleton]
        intro hmem
        obtain ⟨r, hr, heq⟩ := List.mem_map.mp hmem
        exact hfresh r hr heq
      · intro r hr
        rw [hrecords, List.mem_append, List.mem_singleton] at hr
        rcases hr with hr | rfl
        · have := hs.drawn r hr
          omega
        · omega
  | closed _ hr hc hrecords hseq =>
      refine ⟨?_, ?_, ?_⟩
      · rw [hrecords, map_replace hs.ids hr hc.id hc.id]
        exact hs.ids
      · rw [hrecords, map_replace hs.ids hr hc.id hc.key]
        exact hs.keys
      · intro o ho
        rw [hrecords, Delta.mem_replace] at ho
        rcases ho with ⟨ho, _⟩ | ⟨rfl, _⟩
        · rw [hseq]
          exact hs.drawn o ho
        · rw [hseq, hc.id]
          exact hs.drawn _ hr
  | deleted hrecords hseq =>
      have hsub : sh'.db.records.Sublist sh.db.records := hrecords ▸ List.filter_sublist
      refine ⟨hs.ids.sublist (hsub.map _), hs.keys.sublist (hsub.map _), ?_⟩
      intro r hr
      rw [hseq]
      exact hs.drawn r (hsub.subset hr)

/-- A record of the earlier state that is still there. -/
theorem Follows.continues (h : Follows sh sh') (hs : WellNumbered sh) (hr : r ∈ sh.db.records) (hr' : r' ∈ sh'.db.records)
    (hid : r'.id = r.id) : Continues r r' := by
  rcases h.origin r' hr' with ⟨r₀, hr₀, hc⟩ | hnew
  · have heq : r₀ = r := List.inj_on_of_nodup_map hs.ids hr₀ hr (hc.id.symm.trans hid)
    exact heq ▸ hc
  · have := hs.drawn r hr
    omega

/-- The calls of the service delete nothing. -/
theorem Change.kept (h : Change sh call reply sh') (hcall : call ≠ .deleteExpired) (hr : r ∈ sh.db.records) :
    ∃ r' ∈ sh'.db.records, r'.id = r.id := by
  cases h with
  | nothing _ hrecords _ => exact ⟨r, hrecords.symm ▸ hr, rfl⟩
  | started _ _ _ hrecords _ => exact ⟨r, by rw [hrecords]; exact List.mem_append_left _ hr, rfl⟩
  | @closed _ _ _ o o' _ _ hc hrecords _ =>
      by_cases heq : r.id = o'.id
      · exact ⟨o', by rw [hrecords]; exact Delta.mem_replace.mpr (Or.inr ⟨rfl, r, hr, heq⟩), heq.symm⟩
      · exact ⟨r, by rw [hrecords]; exact Delta.mem_replace.mpr (Or.inl ⟨hr, heq⟩), rfl⟩
  | deleted _ _ => exact absurd rfl hcall

theorem lifecycleStep_change {label : Time × RecordCall} (h : lifecycleStep svc l sh label = some sh') :
    Change { sh with clock := label.1 } label.2 (label.2.perform svc l { sh with clock := label.1 }).1 sh' := by
  cases h
  exact perform_change svc l { sh with clock := label.1 } label.2

theorem WellNumbered.run (hs : WellNumbered sh) (h : Runs (lifecycleStep svc l) (fun _ _ => True) sh sh') : WellNumbered sh' := by
  refine Runs.invariant hs (fun sh sh' label hs _ hstep => ?_) h
  exact (lifecycleStep_change hstep).sound ⟨hs.ids, hs.keys, hs.drawn⟩

theorem Follows.run (h : Runs (lifecycleStep svc l) (fun _ _ => True) sh sh') : Follows sh sh' := by
  refine Runs.invariant (Follows.refl sh) (fun sh₁ sh₂ label hf _ hstep => ?_) h
  have hlast := (lifecycleStep_change hstep).follows
  exact hf.trans ⟨hlast.seq, hlast.origin⟩

end Runs

/-- **The life of an idempotency record.** In every state that a sequence of calls reaches: keys are unique; a record that
is there later has its hash, and its status, unless it was PROCESSING and is COMPLETED or FAILED now, and one that was
closed is the same row; a call that raises changes no record; only `delete_expired` removes records, and exactly the
closed ones whose `expires_at` is not after its time. -/
theorem idempotency_record_lifecycle {svc : Service} {l : Session} {sh₀ sh : Shared} (h₀ : WellNumbered sh₀)
    (h : Runs (lifecycleStep svc l) (fun _ _ => True) sh₀ sh) :
    (sh.db.records.map IdempotencyRecord.idempotencyKey).Nodup ∧
    (∀ sh', Runs (lifecycleStep svc l) (fun _ _ => True) sh sh' →
      ∀ r ∈ sh.db.records, ∀ r' ∈ sh'.db.records, r'.id = r.id →
        r'.requestHash = r.requestHash ∧
        (r'.status = r.status ∨ r.status = .processing ∧ (r'.status = .completed ∨ r'.status = .failed)) ∧
        (r.status ≠ .processing → r' = r)) ∧
    (∀ now call, let out := RecordCall.perform svc l { sh with clock := now } call
      (∀ x, out.1 = .error x → out.2.db.records = sh.db.records) ∧
      (call ≠ .deleteExpired → ∀ r ∈ sh.db.records, ∃ r' ∈ out.2.db.records, r'.id = r.id) ∧
      (call = .deleteExpired → ∀ r, r ∈ out.2.db.records ↔ r ∈ sh.db.records ∧
        ¬(r.status ≠ .processing ∧ ∃ t, r.expiresAt = some t ∧ t ≤ now))) := by
  have hs : WellNumbered sh := h₀.run h
  refine ⟨hs.keys, ?_, ?_⟩
  · intro sh' h' r hr r' hr' hid
    have hc : Continues r r' := (Follows.run h').continues hs hr hr' hid
    refine ⟨hc.hash, ?_, hc.frozen⟩
    exact hc.same_or_closed.imp_left (congrArg IdempotencyRecord.status)
  · intro now call
    have hchange := perform_change svc l { sh with clock := now } call
    refine ⟨?_, fun hcall r hr => hchange.kept hcall hr, ?_⟩
    · intro x hx
      rw [hx] at hchange
      cases hchange with
      | nothing _ hrecords _ => exact hrecords
    · rintro rfl r
      have hrecords := deleteExpired_listExpired now sh.db
      rw [show (RecordCall.perform svc l { sh with clock := now } .deleteExpired).2.db.records =
        sh.db.records.filter fun r => !IdempotencyRecordRepository.expired now r from hrecords, List.mem_filter]
      have hexpired : IdempotencyRecordRepository.expired now r = true ↔
          r.status ≠ .processing ∧ ∃ t, r.expiresAt = some t ∧ t ≤ now := by
        unfold IdempotencyRecordRepository.expired
        cases r.expiresAt <;> cases r.status <;> simp
      rw [← hexpired]
      simp

namespace Sample

def recordService : Service := ⟨settings, ⟨false, false, true⟩⟩

def recordSession : Session := (plainCall "key-1" deposit).session 0

/-- A request is started, completed and then declared failed, the second and the last with an argument too many and too
late; another one is still open. -/
def recordCalls : List (Time × RecordCall) :=
  [(1, .checkOrStart "key-1" deposit.modelDump),
    (2, .complete "key-1" 200 none (some deposit.modelDump) (some "hash")),
    (3, .complete "key-1" 200 none (some deposit.modelDump) none),
    (4, .checkOrStart "key-2" rival.modelDump),
    (5, .fail "key-1" none none (some "too late") none none)]

def recordsKept : Shared := (runAll (lifecycleStep recordService recordSession) shared recordCalls).getD shared

end Sample

/-- After these calls one record is closed for good, and its deletion waits for its time. -/
theorem idempotency_record_lifecycle_completed :
    Sample.recordsKept.db.records.map (fun r => (r.idempotencyKey, r.status)) =
      [("key-1", .completed), ("key-2", .processing)] ∧
    (∀ sh', Runs (lifecycleStep Sample.recordService Sample.recordSession) (fun _ _ => True) Sample.recordsKept sh' →
      ∀ r ∈ Sample.recordsKept.db.records, ∀ r' ∈ sh'.db.records, r'.id = r.id → r.status = .completed → r' = r) ∧
    ∀ r, r ∈ (RecordCall.perform Sample.recordService Sample.recordSession
        { Sample.recordsKept with clock := 86400000001 } .deleteExpired).2.db.records ↔
      r ∈ Sample.recordsKept.db.records ∧ ¬(r.status ≠ .processing ∧ ∃ t, r.expiresAt = some t ∧ t ≤ 86400000001) := by
  have h₀ : WellNumbered Sample.shared := ⟨List.nodup_nil, List.nodup_nil, by simp [Sample.shared, Sample.db]⟩
  have hmeet : allMeet (lifecycleStep Sample.recordService Sample.recordSession) (fun _ _ => true) Sample.shared
      Sample.recordCalls = true := by decide +kernel
  have hrun : Runs (lifecycleStep Sample.recordService Sample.recordSession) (fun _ _ => True) Sample.shared
      Sample.recordsKept :=
    Runs.mono (fun _ _ _ => trivial) (Runs.of_allMeet hmeet)
  have hlife := idempotency_record_lifecycle h₀ hrun
  refine ⟨by decide +kernel, ?_, (hlife.2.2 86400000001 .deleteExpired).2.2 rfl⟩
  intro sh' h' r hr r' hr' hid hs
  exact (hlife.2.1 sh' h' r hr r' hr' hid).2.2 (by simp [hs])

end EventConsistency
