import Mathlib.Data.List.Induction
import EventConsistency.Lib.Renaming
import EventConsistency.Verdict

/-!
# Serializability

* `serially` : calls one after another, each of them alone;
* `SameTables`, `SameRecords`, `SameReply` : the same up to timestamps and to the ids drawn on the way;
* `verdict_same` : on such databases a request has the same verdict, `Heeds.same` : which keeps them the same;
* `Serialized.early`, `Serialized.next` : one more call at the end of a serial run;
* **`serializable`** : what calls have committed among each other, with the plain idempotency service, they commit and
  answer one after another, too: first those that missed an original, then the others as they committed.
-/

namespace EventConsistency

open Lib TransactionEventService

/-! ## Serial runs -/

/-- The state as a later call finds it: what Redis locks were left behind have expired. -/
def Shared.later (sh : Shared) : Shared := { sh.next with locks := [] }

/-- The answers so far, and one call more. -/
def serialStep (st : Settings) (out : List (Except Exc TransactionProcessingResult) × Shared) (call : Call) :
    List (Except Exc TransactionProcessingResult) × Shared :=
  let done := call.alone st (fun _ => false) out.2.later
  (out.1 ++ [done.1], done.2.1)

def serially (st : Settings) (sh : Shared) (calls : List Call) :
    List (Except Exc TransactionProcessingResult) × Shared :=
  calls.foldl (serialStep st) ([], sh)

theorem serially_append (st : Settings) (sh : Shared) (calls : List Call) (call : Call) :
    serially st sh (calls ++ [call]) = serialStep st (serially st sh calls) call := by
  unfold serially
  rw [List.foldl_append]
  rfl

def Commit.call (x : Commit) : Call := ⟨x.wiring, x.key, x.request⟩

/-! ## The same up to ids and timestamps -/

def Db.eventIds (db : Db) : List Nat := db.events.map TransactionEvent.id

/-- The same but for its id and its timestamps. -/
def SameEvent (e e' : TransactionEvent) : Prop :=
  e' = { e with id := e'.id, createdAt := e'.createdAt, updatedAt := e'.updatedAt }

/-- The entries of an event and of the one it has become. -/
structure SameLedger (ids ids' : List Nat) (r r' : LedgerEntry) : Prop where
  row : r' = { r with id := r'.id, transactionEventId := r'.transactionEventId, createdAt := r'.createdAt }
  event : Renames ids ids' r.transactionEventId r'.transactionEventId

structure SameHistory (ids ids' : List Nat) (h h' : EventStateHistory) : Prop where
  row : h' = { h with id := h'.id, transactionEventId := h'.transactionEventId, createdAt := h'.createdAt }
  event : Renames ids ids' h.transactionEventId h'.transactionEventId

/-- A body with the id of an event and the one with what the event has become. Another one is the same: it names no
event, or it was there before. -/
inductive SameBody (old : List IdempotencyRecord) (ids ids' : List Nat) :
    List (String × Json) → List (String × Json) → Prop where
  | event {i j : Nat} {rest : List (String × Json)} (h : Renames ids ids' i j) :
      SameBody old ids ids' (("event_id", .str (toString i)) :: rest) (("event_id", .str (toString j)) :: rest)
  | plain {body : List (String × Json)} (h : ∀ v, ("event_id", v) ∉ body) : SameBody old ids ids' body body
  | old {r : IdempotencyRecord} {body : List (String × Json)} (mem : r ∈ old) (h : dictOf r.responseBody = .ok body) :
      SameBody old ids ids' body body

structure SameRecord (old : List IdempotencyRecord) (ids ids' : List Nat) (r r' : IdempotencyRecord) : Prop where
  key : r'.idempotencyKey = r.idempotencyKey
  hash : r'.requestHash = r.requestHash
  status : r'.status = r.status
  code : r'.responseCode = r.responseCode
  message : r'.errorMessage = r.errorMessage
  body : ∃ b b', r.responseBody = some (.obj b) ∧ r'.responseBody = some (.obj b') ∧ SameBody old ids ids' b b'

structure SameReply (old : List IdempotencyRecord) (ids ids' : List Nat) (reply reply' : TransactionProcessingResult) :
    Prop where
  answer : reply' = { reply with body := reply'.body }
  body : SameBody old ids ids' reply.body reply'.body

/-- The tables of `db` and of `db'`, both from `init`: the same accounts, and the same rows in the same order. -/
structure SameTables (init db db' : Db) : Prop where
  accounts : db'.accounts = db.accounts
  quarantines : db'.quarantines = db.quarantines
  events : List.Forall₂ SameEvent db.events db'.events
  kept : ∀ e ∈ init.events, Renames db.eventIds db'.eventIds e.id e.id
  ledger : Extended (SameLedger db.eventIds db'.eventIds) init.ledger db.ledger db'.ledger
  histories : Extended (SameHistory db.eventIds db'.eventIds) init.histories db.histories db'.histories

/-- The records of `db` and of `db'`, both from `init`: the same in any order, but for `ahead`, which only `db'` has
so far. -/
def SameRecords (init : Db) (ahead : List IdempotencyRecord) (db db' : Db) : Prop :=
  ∃ new new' both first, db.records = init.records ++ new ∧ db'.records = init.records ++ new' ∧
    new'.Perm (both ++ first) ∧ List.Forall₂ (SameRecord init.records db.eventIds db'.eventIds) new both ∧
    List.Forall₂ (SameRecord init.records db.eventIds db'.eventIds) ahead first

section Same

variable {ids ids' more more' : List Nat} {old : List IdempotencyRecord} {init db db' db₁ db₁' : Db}
  {ahead : List IdempotencyRecord}

theorem SameLedger.append {r r' : LedgerEntry} (h : SameLedger ids ids' r r') :
    SameLedger (ids ++ more) (ids' ++ more') r r' := ⟨h.row, h.event.append⟩

theorem SameHistory.append {r r' : EventStateHistory} (h : SameHistory ids ids' r r') :
    SameHistory (ids ++ more) (ids' ++ more') r r' := ⟨h.row, h.event.append⟩

theorem SameBody.append {body body' : List (String × Json)} (h : SameBody old ids ids' body body') :
    SameBody old (ids ++ more) (ids' ++ more') body body' := by
  cases h with
  | event h => exact .event h.append
  | plain h => exact .plain h
  | old mem h => exact .old mem h

theorem SameRecord.append {r r' : IdempotencyRecord} (h : SameRecord old ids ids' r r') :
    SameRecord old (ids ++ more) (ids' ++ more') r r' := by
  obtain ⟨b, b', hb, hb', same⟩ := h.body
  exact { h with body := ⟨b, b', hb, hb', same.append⟩ }

theorem SameReply.append {reply reply' : TransactionProcessingResult} (h : SameReply old ids ids' reply reply') :
    SameReply old (ids ++ more) (ids' ++ more') reply reply' := ⟨h.answer, h.body.append⟩

theorem SameTables.length_eq (h : SameTables init db db') : db.eventIds.length = db'.eventIds.length := by
  unfold Db.eventIds
  rw [List.length_map, List.length_map]
  exact h.events.length_eq

theorem SameTables.refl (init : Db) : SameTables init init init where
  accounts := rfl
  quarantines := rfl
  events := List.forall₂_same.mpr fun _ _ => rfl
  kept _ he := Renames.self (List.mem_map_of_mem he)
  ledger := .refl _ _
  histories := .refl _ _

theorem SameRecords.refl (init : Db) : SameRecords init [] init init :=
  ⟨[], [], [], [], (List.append_nil _).symm, (List.append_nil _).symm, .nil, .nil, .nil⟩

end Same

/-! ## Lookups -/

/-- `db` and `db'`, both from `init`, are the same but for the records `ahead`. -/
structure Paired (init : Db) (ahead : List IdempotencyRecord) (db db' : Db) : Prop extends SameTables init db db' where
  records : SameRecords init ahead db db'
  start : init.Valid
  valid : db.Valid
  valid' : db'.Valid

section Lookups

variable {init db db' : Db} {ahead : List IdempotencyRecord}

theorem SameEvent.externalEventId_eq {e e' : TransactionEvent} (h : SameEvent e e') :
    e'.externalEventId = e.externalEventId := by
  rw [h]

theorem Paired.eventByExternalId (h : Paired init ahead db db') (x : String) :
    (db.eventByExternalId x = none ∧ db'.eventByExternalId x = none) ∨
      ∃ e e', db.eventByExternalId x = some e ∧ db'.eventByExternalId x = some e' ∧ SameEvent e e' ∧
        Renames db.eventIds db'.eventIds e.id e'.id := by
  have alike : ∀ e e', (e, e') ∈ db.events.zip db'.events →
      (e.externalEventId == x) = (e'.externalEventId == x) := by
    intro e e' mem
    rw [(List.forall₂_zip h.events mem).externalEventId_eq]
  obtain absent | ⟨e, e', found, found', mem, same⟩ := find?_related h.events alike
  · exact .inl absent
  · exact .inr ⟨e, e', found, found', same, mem_zip_map mem⟩

theorem Paired.ledgerByEventId (h : Paired init ahead db db') {i j : Nat}
    (hij : Renames db.eventIds db'.eventIds i j) :
    (db.ledgerByEventId i = none ∧ db'.ledgerByEventId j = none) ∨
      ∃ r r', db.ledgerByEventId i = some r ∧ db'.ledgerByEventId j = some r' ∧
        SameLedger db.eventIds db'.eventIds r r' := by
  have related : List.Forall₂ (SameLedger db.eventIds db'.eventIds) db.ledger db'.ledger := by
    refine h.ledger.related fun r hr => ⟨rfl, ?_⟩
    obtain ⟨e, he, same⟩ := h.start.ledger_fk r hr
    rw [← same]
    exact h.kept e he
  have alike : ∀ r r', (r, r') ∈ db.ledger.zip db'.ledger →
      (r.transactionEventId == i) = (r'.transactionEventId == j) := by
    intro r r' mem
    have event := (List.forall₂_zip related mem).event
    rw [Bool.eq_iff_iff, beq_iff_eq, beq_iff_eq]
    exact Renames.eq_iff h.valid.event_id h.valid'.event_id event hij
  obtain absent | ⟨r, r', found, found', -, same⟩ := find?_related related alike
  · exact .inl absent
  · exact .inr ⟨r, r', found, found', same⟩

theorem Paired.recordByKey (h : Paired init ahead db db') {key : String}
    (other : ∀ r ∈ ahead, r.idempotencyKey ≠ key) :
    (db.recordByKey key = none ∧ db'.recordByKey key = none) ∨
    (∃ r ∈ init.records, db.recordByKey key = some r ∧ db'.recordByKey key = some r) ∨
    ∃ r r', db.recordByKey key = some r ∧ db'.recordByKey key = some r' ∧
      SameRecord init.records db.eventIds db'.eventIds r r' := by
  obtain ⟨new, new', both, first, rows, rows', perm, same, same'⟩ := h.records
  unfold Db.recordByKey
  cases found : db.records.find? (fun r => r.idempotencyKey == key) with
  | none =>
      refine .inl ⟨rfl, ?_⟩
      rw [find?_eq_none_iff, List.mem_map] at found ⊢
      rintro ⟨r', mem', rfl⟩
      rw [rows', List.mem_append] at mem'
      obtain mem' | mem' := mem'
      · exact found ⟨r', rows ▸ List.mem_append_left _ mem', rfl⟩
      obtain mem' | mem' := List.mem_append.mp (perm.mem_iff.mp mem')
      · obtain ⟨r, mem, rel⟩ := exists_related (List.Forall₂.flip (R := fun r' r => SameRecord _ _ _ r r') same) mem'
        exact found ⟨r, rows ▸ List.mem_append_right _ mem, rel.key.symm⟩
      · obtain ⟨r, mem, rel⟩ := exists_related (List.Forall₂.flip (R := fun r' r => SameRecord _ _ _ r r') same') mem'
        exact other r mem rel.key.symm
  | some r =>
      right
      obtain ⟨mem, at_key⟩ := (find?_eq_some_iff h.valid.record_key).mp found
      rw [rows, List.mem_append] at mem
      obtain mem | mem := mem
      · refine .inl ⟨r, mem, rfl, ?_⟩
        rw [find?_eq_some_iff h.valid'.record_key, rows']
        exact ⟨List.mem_append_left _ mem, at_key⟩
      · obtain ⟨r', mem', rel⟩ := exists_related same mem
        refine .inr ⟨r, r', rfl, ?_, rel⟩
        rw [find?_eq_some_iff h.valid'.record_key, rows']
        exact ⟨List.mem_append_right _ (perm.mem_iff.mpr (List.mem_append_left _ mem')), rel.key.trans at_key⟩

end Lookups

/-! ## The same verdicts -/

/-- The same verdict on two databases: on rows that are the same. -/
inductive SameVerdict (init db db' : Db) : Verdict → Verdict → Prop where
  | known {r : IdempotencyRecord} (mem : r ∈ init.records) : SameVerdict init db db' (.replayed r) (.replayed r)
  | replayed {r r' : IdempotencyRecord} (h : SameRecord init.records db.eventIds db'.eventIds r r') :
      SameVerdict init db db' (.replayed r) (.replayed r')
  | refused (x : Exc) : SameVerdict init db db' (.refused x) (.refused x)
  | duplicate {e e' : TransactionEvent} {r r' : LedgerEntry} (event : SameEvent e e')
      (place : Renames db.eventIds db'.eventIds e.id e'.id) (ledger : SameLedger db.eventIds db'.eventIds r r') :
      SameVerdict init db db' (.duplicate e r) (.duplicate e' r')
  | failed (a : Account) (x : Exc) : SameVerdict init db db' (.failed a x) (.failed a x)
  | applied (a : Account) {orig orig' : Option TransactionEvent} (amount newBalance : Int)
      (h : Option.Rel (fun o o' => SameEvent o o' ∧ Renames db.eventIds db'.eventIds o.id o'.id) orig orig') :
      SameVerdict init db db' (.applied a orig amount newBalance) (.applied a orig' amount newBalance)
  | unanswered : SameVerdict init db db' .unanswered .unanswered

section Verdicts

variable {st : Settings} {w : Wiring} {init db db' : Db} {ahead : List IdempotencyRecord} {key : String}
  {request : TransactionEventCreateRequest} {a : Account}

theorem ensureDuplicateMatchesRequest_same {e e' : TransactionEvent} (h : SameEvent e e')
    (request : TransactionEventCreateRequest) (accountId : Nat) :
    ensureDuplicateMatchesRequest e' request accountId = ensureDuplicateMatchesRequest e request accountId := by
  rw [h]
  rfl

theorem ledgerAmount_same {o o' : TransactionEvent} (h : SameEvent o o') (a : Account) (ev : TransactionEvent) :
    LedgerService.ledgerAmount a ev (some o') = LedgerService.ledgerAmount a ev (some o) := by
  rw [h]
  rfl

theorem Paired.verdictOnKnown (h : Paired init ahead db db') {e e' : TransactionEvent} (same : SameEvent e e')
    (place : Renames db.eventIds db'.eventIds e.id e'.id) :
    SameVerdict init db db' (verdictOnKnown db request a e) (verdictOnKnown db' request a e') := by
  unfold EventConsistency.verdictOnKnown
  rw [ensureDuplicateMatchesRequest_same same]
  cases ensureDuplicateMatchesRequest e request a.id with
  | error x => exact .refused x
  | ok _ =>
      dsimp only
      obtain ⟨absent, absent'⟩ | ⟨r, r', found, found', ledger⟩ := h.ledgerByEventId place
      · rw [absent, absent']
        exact .refused _
      · rw [found, found']
        exact .duplicate same place ledger

theorem Paired.originalOf (h : Paired init ahead db db') (request : TransactionEventCreateRequest) :
    (∃ x, originalOf db request = .error x ∧ originalOf db' request = .error x) ∨
      ∃ orig orig', originalOf db request = .ok orig ∧ originalOf db' request = .ok orig' ∧
        Option.Rel (fun o o' => SameEvent o o' ∧ Renames db.eventIds db'.eventIds o.id o'.id) orig orig' := by
  unfold EventConsistency.originalOf
  by_cases other : request.eventType ≠ .cancel
  · rw [if_pos other, if_pos other]
    exact .inr ⟨none, none, rfl, rfl, .none⟩
  · rw [if_neg other, if_neg other]
    cases request.originalExternalEventId with
    | none => exact .inl ⟨_, rfl, rfl⟩
    | some x =>
        dsimp only
        obtain ⟨absent, absent'⟩ | ⟨o, o', found, found', same, place⟩ := h.eventByExternalId x
        · rw [absent, absent']
          exact .inl ⟨_, rfl, rfl⟩
        · rw [found, found']
          exact .inr ⟨some o, some o', rfl, rfl, .some ⟨same, place⟩⟩

theorem Paired.verdictOnNew (h : Paired init ahead db db') :
    SameVerdict init db db' (verdictOnNew db key request a) (verdictOnNew db' key request a) := by
  unfold EventConsistency.verdictOnNew
  cases originalUnsent request with
  | true => exact .unanswered
  | false =>
  obtain ⟨x, failed, failed'⟩ | ⟨orig, orig', found, found', same⟩ := h.originalOf request
  · rw [failed, failed']
    exact .refused x
  · rw [found, found']
    dsimp only
    have fit : unwritten request orig' = unwritten request orig := by
      cases same with
      | none => rfl
      | some related =>
          rw [related.1]
          rfl
    rw [fit]
    cases unwritten request orig with
    | true => exact .unanswered
    | false =>
    unfold verdictOnLedger
    have counted : LedgerService.ledgerAmount a (receivedEvent key request a 0 0) orig' =
        LedgerService.ledgerAmount a (receivedEvent key request a 0 0) orig := by
      cases same with
      | none => rfl
      | some related => exact ledgerAmount_same related.1 _ _
    rw [counted]
    cases LedgerService.ledgerAmount a (receivedEvent key request a 0 0) orig with
    | error x => exact .failed a x
    | ok amounts => exact .applied a amounts.1 amounts.2 same

theorem Paired.verdictOnEvent (h : Paired init ahead db db') :
    SameVerdict init db db' (verdictOnEvent db key request a) (verdictOnEvent db' key request a) := by
  unfold EventConsistency.verdictOnEvent
  cases hasNul request.externalEventId with
  | true => exact .unanswered
  | false =>
      obtain ⟨unseen, unseen'⟩ | ⟨e, e', seen, seen', same, place⟩ := h.eventByExternalId request.externalEventId
      · rw [unseen, unseen']
        exact h.verdictOnNew
      · rw [seen, seen']
        have read : e'.occurredAt.readable = e.occurredAt.readable := by rw [same]
        dsimp only
        rw [read]
        cases e.occurredAt.readable with
        | true => exact h.verdictOnKnown same place
        | false => exact .unanswered

theorem Paired.quarantineOf (h : Paired init ahead db db') (w : Wiring) (a : Account) :
    quarantineOf w db' a = quarantineOf w db a := by
  unfold EventConsistency.quarantineOf Db.activeQuarantine
  rw [h.quarantines]

/-- **A request has the same verdict on databases that are the same**, unless a record that only one of them has is that
of its key. -/
theorem Paired.verdict (h : Paired init ahead db db') (other : ∀ r ∈ ahead, r.idempotencyKey ≠ key) :
    SameVerdict init db db' (verdict w db key request) (verdict w db' key request) := by
  unfold EventConsistency.verdict
  obtain ⟨absent, absent'⟩ | ⟨r, mem, found, found'⟩ | ⟨r, r', found, found', same⟩ := h.recordByKey other
  · rw [absent, absent']
    dsimp only
    have account : db'.accountByNo request.accountNo = db.accountByNo request.accountNo := by
      unfold Db.accountByNo
      rw [h.accounts]
    rw [account]
    cases hasNul request.accountNo with
    | true => exact .unanswered
    | false =>
    cases db.accountByNo request.accountNo with
    | none => exact .refused _
    | some a =>
        change SameVerdict init db db' (verdictOn w db key request a) (verdictOn w db' key request a)
        unfold verdictOn
        rw [h.quarantineOf]
        cases EventConsistency.quarantineOf w db a with
        | some q => exact .refused _
        | none => exact h.verdictOnEvent
  · rw [found, found']
    exact .known mem
  · rw [found, found']
    exact .replayed same

end Verdicts

/-! ## The same changes -/

section Changes

variable {st : Settings} {init db db' : Db} {ahead : List IdempotencyRecord} {key : String}
  {request : TransactionEventCreateRequest} {old : List IdempotencyRecord} {ids ids' : List Nat}

theorem errorBody_same (x : Exc) : SameBody old ids ids' (errorBody x) (errorBody x) := by
  refine .plain fun v mem => ?_
  simp [errorBody] at mem

theorem successBody_same {e e' : TransactionEvent} {r r' : LedgerEntry} (event : SameEvent e e')
    (place : Renames ids ids' e.id e'.id) (balance : r'.balanceAfter = r.balanceAfter) (processed duplicated : Bool) :
    SameBody old ids ids' (successBody e r processed duplicated) (successBody e' r' processed duplicated) := by
  have status : e'.status = e.status := by rw [event]
  unfold successBody
  rw [event.externalEventId_eq, status, balance]
  exact .event place

theorem NewRecord.failed_same {rec rec' : IdempotencyRecord} (h : NewRecord st key request rec)
    (h' : NewRecord st key request rec') (x : Exc) (t t' : Time) :
    SameRecord old ids ids' (failedRecord rec x t) (failedRecord rec' x t') where
  key := h'.key_eq.trans h.key_eq.symm
  hash := h'.hash_eq.trans h.hash_eq.symm
  status := rfl
  code := rfl
  message := rfl
  body := ⟨_, _, rfl, rfl, errorBody_same x⟩

theorem NewRecord.completed_same {rec rec' : IdempotencyRecord} {reply reply' : TransactionProcessingResult}
    (h : NewRecord st key request rec) (h' : NewRecord st key request rec') (same : SameReply old ids ids' reply reply')
    (t t' : Time) : SameRecord old ids ids' (completedRecord rec reply t) (completedRecord rec' reply' t') where
  key := h'.key_eq.trans h.key_eq.symm
  hash := h'.hash_eq.trans h.hash_eq.symm
  status := rfl
  code := by rw [completedRecord, completedRecord, same.answer]
  message := h'.message_eq.trans h.message_eq.symm
  body := ⟨_, _, rfl, rfl, same.body⟩

theorem successResult_same {e e' : TransactionEvent} {r r' : LedgerEntry} (event : SameEvent e e')
    (place : Renames ids ids' e.id e'.id) (balance : r'.balanceAfter = r.balanceAfter) (processed duplicated : Bool) :
    SameReply old ids ids' (successResult e r processed duplicated) (successResult e' r' processed duplicated) :=
  ⟨rfl, successBody_same event place balance processed duplicated⟩

/-- The same records are replayed alike. -/
theorem SameRecord.replayed {r r' : IdempotencyRecord} {reply reply' : TransactionProcessingResult}
    (same : SameRecord old ids ids' r r') (h : Replayed r reply) (h' : Replayed r' reply') :
    SameReply old ids ids' reply reply' := by
  obtain ⟨b, b', hb, hb', body⟩ := same.body
  unfold Replayed at h h'
  rw [same.status] at h'
  cases stored : r.status with
  | processing =>
      rw [stored] at h h'
      rw [h, h']
      exact ⟨rfl, .plain (by simp [alreadyProcessingResult])⟩
  | completed =>
      rw [stored, hb] at h
      rw [stored, hb', same.code] at h'
      cases h
      cases h'
      exact ⟨rfl, body⟩
  | failed =>
      rw [stored, hb] at h
      rw [stored, hb', same.code] at h'
      cases h
      cases h'
      exact ⟨rfl, body⟩

/-- A record of the start is replayed as it is. -/
theorem Replayed.same {r : IdempotencyRecord} {reply reply' : TransactionProcessingResult} (mem : r ∈ old)
    (h : Replayed r reply) (h' : Replayed r reply') : SameReply old ids ids' reply reply' := by
  have kept : ∀ {default : Nat} {reply reply' : TransactionProcessingResult},
      replayResult r.responseCode r.responseBody default = .ok reply →
      replayResult r.responseCode r.responseBody default = .ok reply' → SameReply old ids ids' reply reply' := by
    intro default reply reply' ran ran'
    rw [ran] at ran'
    cases ran'
    unfold replayResult at ran
    cases read : dictOf r.responseBody with
    | error x =>
        rw [read] at ran
        cases ran
    | ok body =>
        rw [read] at ran
        cases ran
        exact ⟨rfl, .old mem read⟩
  unfold Replayed at h h'
  cases stored : r.status with
  | processing =>
      rw [stored] at h h'
      rw [h, h']
      exact ⟨rfl, .plain (by simp [alreadyProcessingResult])⟩
  | completed =>
      rw [stored] at h h'
      exact kept h h'
  | failed =>
      rw [stored] at h h'
      exact kept h h'

end Changes

section Steps

variable {st : Settings} {init db db' db₁ db₁' : Db} {ahead : List IdempotencyRecord} {key : String}
  {request : TransactionEventCreateRequest} {v v' : Verdict} {W W' : Overlay} {reply reply' : TransactionProcessingResult}

/-- One more event, and rows of its own or of events that were there. -/
theorem SameTables.extend {E E' : List TransactionEvent} {ev ev' : TransactionEvent} {L L' : List LedgerEntry}
    {H H' : List EventStateHistory} (h : SameTables init db db') (accounts : db₁'.accounts = db₁.accounts)
    (quarantines : db₁'.quarantines = db₁.quarantines) (events : db₁.events = E ++ [ev])
    (events' : db₁'.events = E' ++ [ev']) (ids : E.map TransactionEvent.id = db.eventIds)
    (ids' : E'.map TransactionEvent.id = db'.eventIds) (rows : List.Forall₂ SameEvent E E') (row : SameEvent ev ev')
    (ledger : db₁.ledger = db.ledger ++ L) (ledger' : db₁'.ledger = db'.ledger ++ L')
    (entries : List.Forall₂ (SameLedger (db.eventIds ++ [ev.id]) (db'.eventIds ++ [ev'.id])) L L')
    (histories : db₁.histories = db.histories ++ H) (histories' : db₁'.histories = db'.histories ++ H')
    (changes : List.Forall₂ (SameHistory (db.eventIds ++ [ev.id]) (db'.eventIds ++ [ev'.id])) H H') :
    SameTables init db₁ db₁' := by
  have after : db₁.eventIds = db.eventIds ++ [ev.id] := by
    rw [Db.eventIds, events, List.map_append, ids, List.map_singleton]
  have after' : db₁'.eventIds = db'.eventIds ++ [ev'.id] := by
    rw [Db.eventIds, events', List.map_append, ids', List.map_singleton]
  constructor
  · exact accounts
  · exact quarantines
  · rw [events, events']
    exact List.rel_append rows (.cons row .nil)
  · intro e he
    rw [after, after']
    exact (h.kept e he).append
  · rw [after, after', ledger, ledger']
    exact (h.ledger.mono fun _ _ => SameLedger.append).append entries
  · rw [after, after', histories, histories']
    exact (h.histories.mono fun _ _ => SameHistory.append).append changes

/-- A record more in both. -/
theorem SameRecords.extend {r r' : IdempotencyRecord} {more more' : List Nat} (h : SameRecords init ahead db db')
    (ids : db₁.eventIds = db.eventIds ++ more) (ids' : db₁'.eventIds = db'.eventIds ++ more')
    (records : db₁.records = db.records ++ [r]) (records' : db₁'.records = db'.records ++ [r'])
    (same : SameRecord init.records db₁.eventIds db₁'.eventIds r r') : SameRecords init ahead db₁ db₁' := by
  obtain ⟨new, new', both, first, rows, rows', perm, alike, alike'⟩ := h
  rw [ids, ids'] at same
  refine ⟨new ++ [r], new' ++ [r'], both ++ [r'], first, ?_, ?_, ?_, ?_, ?_⟩
  · rw [records, rows, List.append_assoc]
  · rw [records', rows', List.append_assoc]
  · calc
      (new' ++ [r']).Perm ((both ++ first) ++ [r']) := perm.append_right _
      _ = both ++ (first ++ [r']) := List.append_assoc ..
      List.Perm _ (both ++ ([r'] ++ first)) := List.perm_append_comm.append_left _
      _ = both ++ [r'] ++ first := (List.append_assoc ..).symm
  · rw [ids, ids']
    exact List.rel_append (alike.imp fun _ _ => SameRecord.append) (.cons same .nil)
  · rw [ids, ids']
    exact alike'.imp fun _ _ => SameRecord.append

/-- A record more in `db'`. -/
theorem SameRecords.lead {r r' : IdempotencyRecord} (h : SameRecords init ahead db db') (ids : db₁'.eventIds = db'.eventIds)
    (records' : db₁'.records = db'.records ++ [r']) (same : SameRecord init.records db.eventIds db'.eventIds r r') :
    SameRecords init (ahead ++ [r]) db db₁' := by
  obtain ⟨new, new', both, first, rows, rows', perm, alike, alike'⟩ := h
  refine ⟨new, new' ++ [r'], both, first ++ [r'], rows, ?_, ?_, ?_, ?_⟩
  · rw [records', rows', List.append_assoc]
  · rw [← List.append_assoc]
    exact perm.append_right _
  · rw [ids]
    exact alike
  · rw [ids]
    exact List.rel_append alike' (.cons same .nil)

/-- The record that `db'` was ahead with. -/
theorem SameRecords.catchUp {r : IdempotencyRecord} (h : SameRecords init (r :: ahead) db db') (ids : db₁.eventIds = db.eventIds)
    (records : db₁.records = db.records ++ [r]) : SameRecords init ahead db₁ db' := by
  obtain ⟨new, new', both, first, rows, rows', perm, alike, alike'⟩ := h
  cases alike' with
  | @cons _ r' _ rest same alike' =>
      refine ⟨new ++ [r], new', both ++ [r'], rest, ?_, rows', ?_, ?_, ?_⟩
      · rw [records, rows, List.append_assoc]
      · rw [List.append_assoc]
        exact perm
      · rw [ids]
        exact List.rel_append alike (.cons same .nil)
      · rw [ids]
        exact alike'

theorem SameTables.records_only (h : SameTables init db db') (rows rows' : List IdempotencyRecord) :
    SameTables init { db with records := rows } { db' with records := rows' } := { h with }

/-- Two new events of one request. -/
theorem receivedEvent_same {a : Account} {ev ev' : TransactionEvent} {t t' : Time}
    (row : ev = receivedEvent key request a ev.id t) (row' : ev' = receivedEvent key request a ev'.id t')
    (status : TransactionStatus) : SameEvent (withStatus ev status t) (withStatus ev' status t') := by
  generalize ev.id = i at row
  generalize ev'.id = i' at row'
  rw [row, row']
  rfl

/-- The events before the new one: the original is cancelled in both. -/
theorem Paired.cancelled (h : Paired init ahead db db') {orig orig' : Option TransactionEvent}
    (same : Option.Rel (fun o o' => SameEvent o o' ∧ Renames db.eventIds db'.eventIds o.id o'.id) orig orig')
    (ev ev' : TransactionEvent) (t t' : Time) : ∃ E E',
      appliedEvents orig t ev db.events = E ++ [ev] ∧ appliedEvents orig' t' ev' db'.events = E' ++ [ev'] ∧
      E.map TransactionEvent.id = db.eventIds ∧ E'.map TransactionEvent.id = db'.eventIds ∧
      List.Forall₂ SameEvent E E' := by
  cases same with
  | none => exact ⟨db.events, db'.events, rfl, rfl, rfl, rfl, h.events⟩
  | @some o o' related =>
      obtain ⟨same, place⟩ := related
      refine ⟨_, _, rfl, rfl, Delta.map_rowId_replace _ _, Delta.map_rowId_replace _ _, ?_⟩
      refine Delta.replace_related h.events (fun e e' mem => ?_) ?_
      · exact Renames.eq_iff h.valid.event_id h.valid'.event_id (mem_zip_map mem) place
      · rw [same]
        rfl

/-- The histories of two events of one request, and of their originals. -/
theorem appliedHistories_same {ids ids' more more' : List Nat} {ev ev' : TransactionEvent}
    {orig orig' : Option TransactionEvent} {i₁ i₂ i₃ i₄ j₁ j₂ j₃ j₄ : Nat} {t t' : Time}
    (place : Renames (ids ++ more) (ids' ++ more') ev.id ev'.id)
    (originals : Option.Rel (fun o o' => SameEvent o o' ∧ Renames ids ids' o.id o'.id) orig orig') :
    List.Forall₂ (SameHistory (ids ++ more) (ids' ++ more')) (appliedHistories ev orig i₁ i₂ i₃ i₄ t)
      (appliedHistories ev' orig' j₁ j₂ j₃ j₄ t') := by
  have first : List.Forall₂ (SameHistory (ids ++ more) (ids' ++ more')) [validatedRow i₁ ev t, processingRow i₂ ev t]
      [validatedRow j₁ ev' t', processingRow j₂ ev' t'] := .cons ⟨rfl, place⟩ (.cons ⟨rfl, place⟩ .nil)
  have last : List.Forall₂ (SameHistory (ids ++ more) (ids' ++ more')) [completedRow i₄ ev t] [completedRow j₄ ev' t'] :=
    .cons ⟨rfl, place⟩ .nil
  refine List.rel_append (List.rel_append first ?_) last
  cases originals with
  | none => exact .nil
  | some related => exact .cons ⟨rfl, related.2.append⟩ .nil

/-- **The same verdict leads to the same changes and the same answer.** -/
theorem Paired.step (h : Paired init ahead db db') (same : SameVerdict init db db' v v')
    (F : Heeds st key request v W reply) (F' : Heeds st key request v' W' reply') :
    SameTables init (W.apply db) (W'.apply db') ∧ SameRecords init ahead (W.apply db) (W'.apply db') ∧
      SameReply init.records (W.apply db).eventIds (W'.apply db').eventIds reply reply' := by
  cases same with
  | known mem =>
      cases F with
      | replayed _ replayed =>
      cases F' with
      | replayed _ replayed' =>
          rw [Overlay.apply_empty, Overlay.apply_empty]
          exact ⟨h.toSameTables, h.records, replayed.same mem replayed'⟩
  | replayed same =>
      cases F with
      | replayed _ replayed =>
      cases F' with
      | replayed _ replayed' =>
          rw [Overlay.apply_empty, Overlay.apply_empty]
          exact ⟨h.toSameTables, h.records, same.replayed replayed replayed'⟩
  | refused x =>
      cases F with
      | refused new =>
      cases F' with
      | refused new' =>
          rw [refusedWork_apply, refusedWork_apply]
          refine ⟨h.toSameTables.records_only _ _, ?_, rfl, errorBody_same x⟩
          exact h.records.extend (List.append_nil _).symm (List.append_nil _).symm rfl rfl (new.failed_same new' x _ _)
  | duplicate event place ledger =>
      cases F with
      | duplicate new =>
      cases F' with
      | duplicate new' =>
          rw [refusedWork_apply, refusedWork_apply]
          rename_i e e' r r' rec t rec' t'
          have balance : r'.balanceAfter = r.balanceAfter := by rw [ledger.row]
          have answer : SameReply init.records db.eventIds db'.eventIds (successResult e r false true)
              (successResult e' r' false true) := successResult_same event place balance false true
          refine ⟨h.toSameTables.records_only _ _, ?_, answer⟩
          exact h.records.extend (List.append_nil _).symm (List.append_nil _).symm rfl rfl
            (new.completed_same new' answer t t')
  | failed a x =>
      cases F with
      | @failed rec _ ev _ i₁ i₂ i₃ t s new row _ =>
      cases F' with
      | @failed rec' _ ev' _ j₁ j₂ j₃ t' s' new' row' _ =>
          have place : Renames (db.eventIds ++ [ev.id]) (db'.eventIds ++ [ev'.id]) ev.id ev'.id :=
            Renames.last h.length_eq
          have changes : List.Forall₂ (SameHistory (db.eventIds ++ [ev.id]) (db'.eventIds ++ [ev'.id]))
              (failedHistories ev x i₁ i₂ i₃ t) (failedHistories ev' x j₁ j₂ j₃ t') :=
            .cons ⟨rfl, place⟩ (.cons ⟨rfl, place⟩ (.cons ⟨rfl, place⟩ .nil))
          rw [eventWork_apply, eventWork_apply]
          refine ⟨?_, ?_, rfl, errorBody_same x⟩
          · exact h.extend h.accounts h.quarantines rfl rfl rfl rfl h.events (receivedEvent_same row row' .failed)
              (List.append_nil _).symm (List.append_nil _).symm .nil rfl rfl changes
          · exact h.records.extend List.map_append List.map_append rfl rfl (new.failed_same new' x s s')
  | @applied a orig orig' amount newBalance related =>
      cases F with
      | @applied rec _ _ ev _ _ i i₁ i₂ i₃ i₄ t s new row _ _ =>
      cases F' with
      | @applied rec' _ _ ev' _ _ j j₁ j₂ j₃ j₄ t' s' new' row' _ _ =>
          have place : Renames (db.eventIds ++ [ev.id]) (db'.eventIds ++ [ev'.id]) ev.id ev'.id :=
            Renames.last h.length_eq
          obtain ⟨E, E', events, events', ids, ids', rows⟩ :=
            h.cancelled related (withStatus ev .completed t) (withStatus ev' .completed t') t t'
          have event := receivedEvent_same row row' .completed
          have after : (appliedEvents orig t (withStatus ev .completed t) db.events).map TransactionEvent.id =
              db.eventIds ++ [ev.id] := by
            rw [events, List.map_append, ids]
            rfl
          have after' : (appliedEvents orig' t' (withStatus ev' .completed t') db'.events).map TransactionEvent.id =
              db'.eventIds ++ [ev'.id] := by
            rw [events', List.map_append, ids']
            rfl
          have entry : SameLedger (db.eventIds ++ [ev.id]) (db'.eventIds ++ [ev'.id])
              (ledgerRow i ev a amount newBalance t) (ledgerRow j ev' a amount newBalance t') := ⟨rfl, place⟩
          have answer : SameReply init.records (db.eventIds ++ [ev.id]) (db'.eventIds ++ [ev'.id])
              (successResult (withStatus ev .completed t) (ledgerRow i ev a amount newBalance t) true false)
              (successResult (withStatus ev' .completed t') (ledgerRow j ev' a amount newBalance t') true false) :=
            successResult_same event place rfl true false
          have changes : List.Forall₂ (SameHistory (db.eventIds ++ [ev.id]) (db'.eventIds ++ [ev'.id]))
              (appliedHistories ev orig i₁ i₂ i₃ i₄ t) (appliedHistories ev' orig' j₁ j₂ j₃ j₄ t') :=
            appliedHistories_same place related
          rw [appliedWork_apply, appliedWork_apply]
          refine ⟨?_, ?_, ?_⟩
          · refine h.extend ?_ h.quarantines events events' ids ids' rows event rfl rfl (.cons entry .nil) rfl rfl changes
            rw [h.accounts]
          · refine h.records.extend after after' rfl rfl ?_
            rw [Db.eventIds, Db.eventIds, after, after']
            exact new.completed_same new' answer s s'
          · rw [Db.eventIds, Db.eventIds, after, after']
            exact answer
  | unanswered => cases F

/-- A commit keeps the events in their order and adds its own behind them. -/
theorem Heeds.eventIds (F : Heeds st key request v W reply) (db : Db) :
    ∃ more, (W.apply db).eventIds = db.eventIds ++ more := by
  cases F with
  | replayed _ _ => exact ⟨[], by rw [Overlay.apply_empty, List.append_nil]⟩
  | refused _ => exact ⟨[], by rw [refusedWork_apply, List.append_nil]; rfl⟩
  | duplicate _ => exact ⟨[], by rw [refusedWork_apply, List.append_nil]; rfl⟩
  | failed _ _ _ => exact ⟨_, by rw [eventWork_apply]; exact List.map_append⟩
  | @applied _ _ orig ev _ _ _ _ _ _ _ t =>
      refine ⟨[ev.id], ?_⟩
      rw [appliedWork_apply]
      change (_ ++ _ : List TransactionEvent).map TransactionEvent.id = _
      rw [List.map_append]
      cases orig with
      | none => rfl
      | some o => exact congrArg (· ++ [ev.id]) (Delta.map_rowId_replace (withStatus o .cancelled t) db.events)

theorem recordByKey_append {db : Db} {r : IdempotencyRecord} (h : r.idempotencyKey = key) :
    (db.records ++ [r]).find? (fun s => s.idempotencyKey == key) ≠ none := by
  intro none
  have other := List.find?_eq_none.mp none r (List.mem_append_right _ List.mem_cons_self)
  simp [h] at other

/-- Only the record of the key is replayed. -/
theorem verdict_replayed {w : Wiring} {r : IdempotencyRecord} (h : verdict w db key request = .replayed r) :
    db.recordByKey key = some r := by
  unfold EventConsistency.verdict at h
  cases found : db.recordByKey key with
  | some r' =>
      rw [found] at h
      cases h
      rfl
  | none =>
      exfalso
      rw [found] at h
      dsimp only at h
      unfold verdictOn EventConsistency.verdictOnEvent EventConsistency.verdictOnKnown EventConsistency.verdictOnNew
        verdictOnLedger at h
      repeat' split at h
      all_goals cases h

/-- Whatever the verdict, the key has a record afterwards. -/
theorem Heeds.recorded {w : Wiring} (F : Heeds st key request (verdict w db key request) W reply) :
    (W.apply db).recordByKey key ≠ none := by
  generalize hv : EventConsistency.verdict w db key request = v at F
  cases F with
  | replayed _ _ =>
      rw [Overlay.apply_empty, verdict_replayed hv]
      exact Option.some_ne_none _
  | refused new =>
      rw [refusedWork_apply]
      exact recordByKey_append new.key_eq
  | duplicate new =>
      rw [refusedWork_apply]
      exact recordByKey_append new.key_eq
  | failed new _ _ =>
      rw [eventWork_apply]
      exact recordByKey_append new.key_eq
  | applied new _ _ _ =>
      rw [appliedWork_apply]
      exact recordByKey_append new.key_eq

theorem SameVerdict.proceeds (h : SameVerdict init db db' v v') (proceeds : Proceeds st request v) :
    Proceeds st request v' := by
  cases h with
  | known _ => exact proceeds
  | @replayed r r' same =>
      obtain ⟨hash, _, _⟩ := proceeds
      refine ⟨same.hash.trans hash, ?_⟩
      obtain ⟨_, b', _, hb', _⟩ := same.body
      unfold Replayed
      rw [hb']
      cases r'.status with
      | processing => exact ⟨_, rfl⟩
      | completed => exact ⟨_, rfl⟩
      | failed => exact ⟨_, rfl⟩
  | refused _ => exact proceeds
  | duplicate _ _ _ => exact proceeds
  | failed _ _ => exact proceeds
  | applied _ _ _ _ => exact proceeds
  | unanswered => exact proceeds

end Steps

/-! ## The serial order -/

/-- One after another from `sh`, the calls of `order` leave what `db` has, with the records `ahead` there already, and
give the answers they gave. -/
structure Serialized (st : Settings) (sh : Shared) (order : List Commit) (ahead : List IdempotencyRecord) (db : Db) :
    Prop where
  later : Initial (serially st sh (order.map Commit.call)).2.later
  tables : SameTables sh.db db (serially st sh (order.map Commit.call)).2.db
  records : SameRecords sh.db ahead db (serially st sh (order.map Commit.call)).2.db
  answers : List.Forall₂ (fun x r => ∃ reply, r = .ok reply ∧ SameReply sh.db.records db.eventIds
    (serially st sh (order.map Commit.call)).2.db.eventIds x.reply reply) order
    (serially st sh (order.map Commit.call)).1

section Order

variable {st : Settings} {sh : Shared} {order : List Commit} {ahead : List IdempotencyRecord} {db : Db} {x : Commit}

theorem Initial.later (h : Initial sh) : Initial sh.later :=
  ⟨rfl, rfl, h.valid, { h.drawn with }⟩

theorem Serialized.paired (S : Serialized st sh order ahead db) (start : sh.db.Valid) (valid : db.Valid) :
    Paired sh.db ahead db (serially st sh (order.map Commit.call)).2.db :=
  { S.tables with records := S.records, start := start, valid := valid, valid' := S.later.valid }

/-- One call more at the end of the serial run. -/
theorem Serialized.more (S : Serialized st sh order ahead db) (start : sh.db.Valid) (valid : db.Valid)
    (plain : x.wiring.responseCache = false) (other : ∀ r ∈ ahead, r.idempotencyKey ≠ x.key)
    (proceeds : Proceeds st x.request (verdict x.wiring db x.key x.request)) :
    ∃ v' W' reply' sh', SameVerdict sh.db db (serially st sh (order.map Commit.call)).2.db
        (verdict x.wiring db x.key x.request) v' ∧ Heeds st x.key x.request v' W' reply' ∧
      serially st sh ((order ++ [x]).map Commit.call) =
        ((serially st sh (order.map Commit.call)).1 ++ [.ok reply'], sh') ∧
      sh'.db = W'.apply (serially st sh (order.map Commit.call)).2.db ∧ Initial sh'.later := by
  have same : SameVerdict sh.db db _ (verdict x.wiring db x.key x.request) (verdict x.wiring _ x.key x.request) :=
    (S.paired start valid).verdict other
  obtain ⟨reply', answered⟩ := x.call.alone_answers S.later rfl plain (same.proceeds proceeds)
  obtain ⟨W', written, heeds⟩ := x.call.alone_heeds S.later rfl plain answered
  refine ⟨_, W', reply', _, same, heeds, ?_, written, (Call.alone_initial S.later _).later⟩
  rw [List.map_append, List.map_singleton, serially_append, serialStep, answered]

/-- The answers so far, when both have more events. -/
theorem Serialized.answers_append {db₁ db₁' : Db} {more more' : List Nat} (S : Serialized st sh order ahead db)
    (ids : db₁.eventIds = db.eventIds ++ more)
    (ids' : db₁'.eventIds = (serially st sh (order.map Commit.call)).2.db.eventIds ++ more') :
    List.Forall₂ (fun x r => ∃ reply, r = .ok reply ∧ SameReply sh.db.records db₁.eventIds db₁'.eventIds x.reply reply)
      order (serially st sh (order.map Commit.call)).1 := by
  rw [ids, ids']
  refine S.answers.imp ?_
  rintro y r ⟨reply, answered, same⟩
  exact ⟨reply, answered, same.append⟩

/-- A commit that heeds its verdict comes next in the serial run, too. -/
theorem Serialized.next (S : Serialized st sh order ahead db) (start : sh.db.Valid) (valid : db.Valid)
    (plain : x.wiring.responseCache = false) (other : ∀ r ∈ ahead, r.idempotencyKey ≠ x.key)
    (F : Heeds st x.key x.request (verdict x.wiring db x.key x.request) x.work x.reply) :
    Serialized st sh (order ++ [x]) ahead (x.work.apply db) := by
  obtain ⟨v', W', reply', sh', same, F', ran, written, later⟩ := S.more start valid plain other F.proceeds
  obtain ⟨tables, records, reply⟩ := (S.paired start valid).step same F F'
  obtain ⟨more, ids⟩ := F.eventIds db
  obtain ⟨more', ids'⟩ := F'.eventIds (serially st sh (order.map Commit.call)).2.db
  constructor
  · rw [ran]
    exact later
  · rw [ran, written]
    exact tables
  · rw [ran, written]
    exact records
  · rw [ran, written]
    exact List.rel_append (S.answers_append ids ids') (.cons ⟨reply', rfl, reply⟩ .nil)

/-- A call that missed its original as it was missing at the start comes before all that changed anything. -/
theorem Serialized.early (S : Serialized st sh order ahead sh.db) (start : sh.db.Valid)
    (plain : x.wiring.responseCache = false) (other : ∀ r ∈ ahead, r.idempotencyKey ≠ x.key)
    (missing : Missing st x.wiring sh.db sh.db x.key x.request x.work x.reply) :
    Serialized st sh (order ++ [x]) (ahead ++ x.work.records.inserted) sh.db := by
  obtain ⟨rec, t, new, work⟩ := missing.work
  obtain ⟨v', W', reply', sh', same, F', ran, written, later⟩ :=
    S.more start start plain other missing.heeds.proceeds
  rw [missing.verdict_eq] at same
  cases same with
  | refused =>
  cases F' with
  | @refused rec' _ t' new' =>
      rw [refusedWork_apply] at written
      constructor
      · rw [ran]
        exact later
      · rw [ran, written]
        exact S.tables.records_only sh.db.records _
      · rw [ran, written, work]
        exact S.records.lead rfl rfl (new.failed_same new' .originalTransactionNotFound t t')
      · rw [ran, written]
        refine List.rel_append (S.answers_append (List.append_nil _).symm (List.append_nil _).symm) (.cons ?_ .nil)
        rw [missing.answer]
        exact ⟨_, rfl, rfl, errorBody_same _⟩

/-- What the serial run was ahead with is committed. -/
theorem Serialized.catchUp {rec : IdempotencyRecord} (S : Serialized st sh order (rec :: ahead) db)
    (work : x.work = refusedWork rec) : Serialized st sh order ahead (x.work.apply db) := by
  rw [work, refusedWork_apply]
  constructor
  · exact S.later
  · exact S.tables.records_only _ _
  · exact S.records.catchUp rfl rfl
  · exact S.answers

/-- The records that calls will have opened. -/
def recordsOf (calls : List Commit) : List IdempotencyRecord := calls.flatMap fun x => x.work.records.inserted

/-- The calls miss their originals as these were missing at the start. -/
def AllMissing (st : Settings) (init : Db) (calls : List Commit) : Prop :=
  ∀ x ∈ calls, x.wiring.responseCache = false ∧ Missing st x.wiring init init x.key x.request x.work x.reply

theorem AllMissing.keys {init : Db} {calls : List Commit} (h : AllMissing st init calls) {r : IdempotencyRecord}
    (mem : r ∈ recordsOf calls) : ∃ x ∈ calls, r.idempotencyKey = x.key := by
  obtain ⟨x, hx, mem⟩ := List.mem_flatMap.mp mem
  obtain ⟨rec, t, new, work⟩ := (h x hx).2.work
  rw [work] at mem
  exact ⟨x, hx, List.mem_singleton.mp mem ▸ new.key_eq⟩

/-- The serial run begins with these calls. -/
theorem Serialized.first (h₀ : Initial sh) {calls : List Commit} (h : AllMissing st sh.db calls)
    (distinct : (calls.map Commit.key).Nodup) : Serialized st sh calls (recordsOf calls) sh.db := by
  induction calls using List.reverseRecOn with
  | nil => exact ⟨h₀.later, .refl _, .refl _, .nil⟩
  | append_singleton calls x ih =>
      rw [List.map_append, List.map_singleton] at distinct
      obtain ⟨distinct, -, apart⟩ := List.nodup_append.mp distinct
      have before : AllMissing st sh.db calls := fun y hy => h y (List.mem_append_left _ hy)
      obtain ⟨plain, missing⟩ := h x (List.mem_append_right _ List.mem_cons_self)
      have other : ∀ r ∈ recordsOf calls, r.idempotencyKey ≠ x.key := by
        intro r mem
        obtain ⟨y, hy, key⟩ := before.keys mem
        rw [key]
        exact apart y.key (List.mem_map_of_mem hy) x.key List.mem_cons_self
      have step := (ih before distinct).early h₀.valid plain other missing
      unfold recordsOf at step ⊢
      rw [List.flatMap_append, List.flatMap_singleton]
      exact step

theorem recordByKey_none {db db' : Db} {key : String} (since : Evolves {} db db') (h : db'.recordByKey key = none) :
    db.recordByKey key = none := by
  unfold Db.recordByKey at h ⊢
  cases found : db.records.find? (fun r => r.idempotencyKey == key) with
  | none => rfl
  | some r =>
      obtain ⟨r', _, found'⟩ := (since.records rfl).find?_some (fun a b hab => by rw [hab]) found
      rw [found'] at h
      cases h

/-- What is missing now was missing at the start. -/
theorem Missing.at_start {w : Wiring} {init db : Db} {key : String} {request : TransactionEventCreateRequest}
    {W : Overlay} {reply : TransactionProcessingResult} (h : Missing st w init db key request W reply)
    (since : Evolves {} init db) : Missing st w init init key request W reply := by
  obtain ⟨a, found, clear⟩ := h.account
  refine { h with absent := recordByKey_none since h.absent, account := ?_ }
  unfold Db.accountByNo at found ⊢
  cases found₀ : init.accounts.find? (fun a => a.accountNo == request.accountNo) with
  | none =>
      have absent := since.accounts.find?_none (fun a b hab => by rw [hab.2]) (fun _ hn => hn.elim) found₀
      rw [absent] at found
      cases found
  | some a₀ =>
      obtain ⟨b, step, found'⟩ := since.accounts.find?_some (fun a b hab => by rw [hab.2]) found₀
      rw [found] at found'
      cases found'
      refine ⟨a₀, rfl, ?_⟩
      unfold quarantineOf Db.activeQuarantine at clear ⊢
      rw [step.1, since.quarantines rfl] at clear
      exact clear

theorem Chain.since {init : Db} {log : List Commit} (h : Chain st {} init log db) : Evolves {} init db := by
  induction h with
  | nil => exact Evolves.refl _
  | commit _ hv hx hc ih => exact ih.trans (hx.effect.evolves hc hv)
  | deleteExpired _ hd _ _ _ => cases hd
  | setQuarantines _ hq _ _ => cases hq

/-- **The commits of a log can be brought into a serial order**: those that missed an original go first. -/
theorem Chain.serialized (h₀ : Initial sh) {log : List Commit} (h : Chain st {} sh.db log db)
    (plain : ∀ x ∈ log, x.wiring.responseCache = false) {calls : List Commit} (missing : AllMissing st sh.db calls)
    (distinct : (calls.map Commit.key).Nodup) (absent : ∀ x ∈ calls, db.recordByKey x.key = none) :
    ∃ order : List Commit, order.Perm (calls ++ log) ∧ Serialized st sh order (recordsOf calls) db := by
  induction h generalizing calls with
  | nil => exact ⟨calls, by rw [List.append_nil], .first h₀ missing distinct⟩
  | @commit log db x al el chain valid hx hc ih =>
      have plain_x := plain x (List.mem_append_right _ List.mem_cons_self)
      have plain_log : ∀ y ∈ log, y.wiring.responseCache = false := fun y hy => plain y (List.mem_append_left _ hy)
      have grows : Evolves {} db (x.work.apply db) := hx.effect.evolves hc valid
      have absent_before : ∀ y ∈ calls, db.recordByKey y.key = none :=
        fun y hy => recordByKey_none grows (absent y hy)
      obtain heeds | missing_x := hx.heeds rfl rfl plain_x
      · -- the call is the last of the serial run, too
        obtain ⟨order, perm, S⟩ := ih plain_log missing distinct absent_before
        have other : ∀ r ∈ recordsOf calls, r.idempotencyKey ≠ x.key := by
          intro r mem same
          obtain ⟨y, hy, key⟩ := missing.keys mem
          exact heeds.recorded (by rw [← same, key]; exact absent y hy)
        refine ⟨order ++ [x], ?_, S.next h₀.valid valid plain_x other heeds⟩
        rw [← List.append_assoc]
        exact perm.append_right _
      · -- the call comes before all that changed anything
        have early := missing_x.at_start chain.since
        obtain ⟨rec, t, new, work⟩ := missing_x.work
        have apart : ∀ y ∈ calls, x.key ≠ y.key := by
          intro y hy same
          have none := absent y hy
          rw [work, refusedWork_apply, ← same] at none
          exact recordByKey_append (r := failedRecord rec .originalTransactionNotFound t) new.key_eq none
        have missing' : AllMissing st sh.db (x :: calls) := List.forall_mem_cons.mpr ⟨⟨plain_x, early⟩, missing⟩
        have distinct' : ((x :: calls).map Commit.key).Nodup := by
          rw [List.map_cons, List.nodup_cons]
          refine ⟨fun mem => ?_, distinct⟩
          obtain ⟨y, hy, same⟩ := List.mem_map.mp mem
          exact apart y hy same.symm
        obtain ⟨order, perm, S⟩ := ih plain_log missing' distinct'
          (List.forall_mem_cons.mpr ⟨missing_x.absent, absent_before⟩)
        refine ⟨order, ?_, ?_⟩
        · calc
            order.Perm (x :: calls ++ log) := perm
            List.Perm _ (calls ++ log ++ [x]) := (List.perm_append_singleton x (calls ++ log)).symm
            _ = calls ++ (log ++ [x]) := List.append_assoc ..
        · have ahead : recordsOf (x :: calls) = failedRecord rec .originalTransactionNotFound t :: recordsOf calls := by
            unfold recordsOf
            rw [List.flatMap_cons, work]
            rfl
          rw [ahead] at S
          exact S.catchUp work
  | deleteExpired _ hd _ _ _ => cases hd
  | setQuarantines _ hq _ _ => cases hq

end Order

section Serializability

variable {st : Settings} {sh : Shared} {calls : List Call} {c : Config}

theorem permits_fixed {label : Label} (c : Config) (h : label.deletes = false ∧ label.requarantines = false) :
    permits {} c label := by
  cases label with
  | run i => exact fun h => absurd h (by decide)
  | outage i => exact fun h => absurd h (by decide)
  | deleteExpired _ _ => cases h.1
  | setQuarantines _ => cases h.2
  | crash _ => trivial
  | tick _ => trivial
  | expireLock _ => trivial
  | evict _ => trivial

/-- A call that has returned and committed has returned what the log says. -/
theorem Reaches.logged_reply (h₀ : Initial sh) (h : Reaches (permits {}) (start st sh calls) c) {i : Nat} {l : Session}
    {reply : TransactionProcessingResult} (returned : c.threads[i]? = some ⟨l, .ret reply⟩) {x : Commit}
    (mem : x ∈ c.shared.log) (own : x.tid = i) : x.reply = reply := by
  have inv := h.inv rfl h₀ (Admits.any rfl rfl)
  have ended : Ended st {} l.identity (.ok reply) c.shared l :=
    (inv.wp _ (List.mem_of_getElem? returned) _ (Rely.refl _ _)).resolve_left (by simp)
  have tid : l.tid = i := by
    refine (inv.coh.made i l ?_).1
    rw [Pool.locs, List.getElem?_map, returned]
    rfl
  generalize outcome_eq : (Except.ok reply : Except Exc TransactionProcessingResult) = r at ended
  cases ended with
  | denied _ idle => exact absurd (own.trans tid.symm) (idle.fresh x mem)
  | done _ _ done =>
      cases outcome_eq
      obtain ⟨y, hy, htid, _, _, _, _, reply_eq⟩ := done.logged
      have same : y = x := List.inj_on_of_nodup_map inv.coh.once hy mem ((htid.trans tid).trans own.symm)
      rw [← same]
      exact reply_eq
  | rejected _ _ _ => cases outcome_eq
  | faulted _ _ _ _ _ => cases outcome_eq
  | unanswered _ _ _ _ => cases outcome_eq

/-- **Serializability.** With the plain idempotency service, and as long as nobody deletes records or changes
quarantines, some order of the calls that have committed gives the same tables and the same answers when they run one
after another from the same start. -/
theorem serializable (h₀ : Initial sh) (plain : ∀ call ∈ calls, call.wiring.responseCache = false)
    (h : Reaches (fun _ label => label.deletes = false ∧ label.requarantines = false) (start st sh calls) c) :
    ∃ order : List Commit, order.Perm c.shared.log ∧
      (∀ x ∈ order, calls[x.tid]? = some x.call ∧
        ∀ l reply, c.threads[x.tid]? = some ⟨l, .ret reply⟩ → x.reply = reply) ∧
      SameTables sh.db c.shared.db (serially st sh (order.map Commit.call)).2.db ∧
      SameRecords sh.db [] c.shared.db (serially st sh (order.map Commit.call)).2.db ∧
      List.Forall₂ (fun x r => ∃ reply, r = .ok reply ∧ SameReply sh.db.records c.shared.db.eventIds
        (serially st sh (order.map Commit.call)).2.db.eventIds x.reply reply) order
        (serially st sh (order.map Commit.call)).1 := by
  have reached : Reaches (permits {}) (start st sh calls) c := h.mono fun c label ok => permits_fixed c ok
  have coherent := (reached.inv rfl h₀ (Admits.any rfl rfl)).coh
  have plain_log : ∀ x ∈ c.shared.log, x.wiring.responseCache = false := fun x mem =>
    plain _ (List.mem_of_getElem? (coherent.logged x mem))
  obtain ⟨order, perm, S⟩ := (reached.chain rfl h₀ (Admits.any rfl rfl)).serialized h₀ plain_log
    (fun _ mem => absurd mem List.not_mem_nil) List.nodup_nil (fun _ mem => absurd mem List.not_mem_nil)
  refine ⟨order, perm, fun x mem => ⟨?_, fun l reply returned => ?_⟩, S.tables, S.records, S.answers⟩
  · exact coherent.logged x (perm.mem_iff.mp mem)
  · exact reached.logged_reply h₀ returned (perm.mem_iff.mp mem) rfl

/-- A CANCEL looks for its original before the deposit of that name has committed, and commits after it. -/
def Sample.missed : Config :=
  Sample.run [Sample.plainCall "key-1" Sample.rival, Sample.plainCall "key-2" Sample.cancel]
    (List.replicate 12 (.run 1) ++ List.replicate 21 (.run 0) ++ List.replicate 4 (.run 1))

theorem Sample.missed_reached : Reaches (fun _ label => label.deletes = false ∧ label.requarantines = false)
    (start Sample.settings Sample.shared [Sample.plainCall "key-1" Sample.rival, Sample.plainCall "key-2" Sample.cancel])
    Sample.missed := by
  have labels : ∀ label ∈ (List.replicate 12 (.run 1) ++ List.replicate 21 (.run 0) ++ List.replicate 4 (.run 1) :
      List Label), label.deletes = false ∧ label.requarantines = false := by
    intro label mem
    simp only [List.mem_append, List.mem_replicate] at mem
    obtain (⟨-, rfl⟩ | ⟨-, rfl⟩) | ⟨-, rfl⟩ := mem <;> exact ⟨rfl, rfl⟩
  exact Sample.reaches_run_of _ labels

theorem serializable_overtaken :
    Sample.missed.shared.log.map (fun x => (x.tid, x.reply.statusCode)) = [(0, 200), (1, 404)] ∧
    ∃ order : List Commit, order.Perm Sample.missed.shared.log ∧
      SameTables Sample.shared.db Sample.missed.shared.db
        (serially Sample.settings Sample.shared (order.map Commit.call)).2.db := by
  obtain ⟨order, perm, _, tables, _, _⟩ := serializable Sample.initial (by simp [Sample.plainCall]) Sample.missed_reached
  exact ⟨by decide +kernel, order, perm, tables⟩

end Serializability

end EventConsistency
