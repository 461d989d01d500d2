import EventConsistency.Verify.Logic

/-!
# What each statement does

One rule for each statement of a call in an open transaction.

* `At.wp_read` : a statement that changes nothing teaches the call a fact that its locks protect;
* `QueryFailed` : a query of a text is refused, or psycopg2 does not answer it (`Unasked`, `Illegible`);
* `At.write` : a statement that inserts or updates keeps what the call knew, and its new rows are new to the
  database;
* the rules of the single statements, under the repositories' names.
-/

namespace EventConsistency

open Lib TransactionEventService

/-- A postcondition by outcome. -/
def Outcome {α : Type} (ok : α → Shared → Session → Prop) (err : Exc → Shared → Session → Prop) :
    Except Exc α → Shared → Session → Prop
  | .ok a => ok a
  | .error x => err x

/-- Two facts at once. -/
def Fact.and (P R : Fact) : Fact := fun init db => P init db ∧ R init db

theorem Guarded.and {opts : Opts} {l : Session} {P R : Fact} (hP : Guarded opts l P) (hR : Guarded opts l R) :
    Guarded opts l (P.and R) :=
  fun sh sh' hr hw h => ⟨hP sh sh' hr hw h.1, hR sh sh' hr hw h.2⟩

section Rules

variable {st : Settings} {opts : Opts} {c l : Session} {F : List (Site × Exc)} {n : Nat} {sh : Shared}
  {W : Overlay} {al el : List Nat} {act : Option TransactionEvent} {t : Time} {P : Fact} {site : Site}

/-- A call that has read a protected fact knows it. -/
theorem At.know {τ : Option Time} {R : Fact} (h : At opts c F n W al el act τ P sh l) (hR : R sh.init sh.db)
    (hg : Guarded opts l R) : At opts c F n W al el act τ R sh l :=
  { h with facts := hR, guard := hg }

theorem At.learn {τ : Option Time} {R : Fact} (h : At opts c F n W al el act τ P sh l) (hR : R sh.init sh.db)
    (hg : Guarded opts l R) : At opts c F n W al el act τ (P.and R) sh l :=
  h.know ⟨h.facts, hR⟩ (h.guard.and hg)

/-- A statement that only reads. -/
theorem At.wp_read (stmt : Stmt) (R : stmt.Res → Fact) (h : At opts c F n W al el act (some t) P sh l)
    (hs : stmt.sendable = true) (hpre : ∀ l₁ : Session, stmt.owes l₁)
    (hread : ∀ sh l, At opts c F n W al el act (some t) P sh l →
      ∃ r, runStmt stmt sh l = .ok (r, sh, l) ∧ R r sh.init sh.db ∧ Guarded opts l (R r)) :
    (logic st opts).wp (Py.sql site stmt)
      (Outcome (fun r => At opts c F n W al el act (some t) (P.and (R r))) (Broken opts c F n site)) sh l := by
  refine h.wp_sql hs (fun l₁ _ _ => hpre l₁) (fun sh₁ _ l₁ h₁ => ?_) (fun x sh' l' hb => hb)
  obtain ⟨r, hrun, hR, hg⟩ := hread sh₁ l₁ h₁
  rw [hrun]
  exact fun sh₃ hr => (h₁.learn hR hg).stable hr

/-- psycopg2 does not take the text. -/
def Unasked (text : String) : Db → Prop := fun _ => hasNul text = true

/-- psycopg2 does not take the external id, or cannot read its event. -/
def Illegible (text : String) : Db → Prop := fun db =>
  hasNul text = true ∨ ∃ e, db.eventByExternalId text = some e ∧ e.occurredAt.readable = false

/-- A query fails: it is refused, or psycopg2 does not answer it for the reason `why`, and the call is where it was, with
its row lock perhaps. -/
def QueryFailed (opts : Opts) (c : Session) (F : List (Site × Exc)) (n : Nat) (W : Overlay)
    (act : Option TransactionEvent) (τ : Option Time) (P : Fact) (site : Site) (why : Db → Prop) (x : Exc) (sh : Shared)
    (l : Session) : Prop :=
  Broken opts c F n site x sh l ∨ (∃ message, x = .valueError message) ∧
    ∃ al el P', At opts c F n W al el act τ P' sh l ∧ ∀ init db, P' init db → P init db ∧ why db

/-- A query of `text`. -/
theorem At.wp_query {τ : Option Time} {stmt : Stmt} {text : String} {Q : stmt.Res → Shared → Session → Prop}
    {why : Db → Prop} (h : At opts c F n W al el act τ P sh l) (htext : stmt.sendable = !hasNul text)
    (hq : stmt.flushes = false) (hpre : ∀ l₁ : Session, stmt.owes l₁) (hwhy : hasNul text = true → ∀ db, why db)
    (hok : hasNul text = false → ∀ sh₁ l₁, At opts c F n W al el act (some (τ.getD sh₁.clock)) P sh₁ l₁ →
      ∃ r l₂, runStmt stmt sh₁ l₁ = .ok (r, sh₁, l₂) ∧ ∀ sh₃, Rely opts l₂ sh₁ sh₃ → Q r sh₃ l₂) :
    (logic st opts).wp (Py.sql site stmt) (Outcome Q (QueryFailed opts c F n W act τ P site why)) sh l := by
  refine h.wp_stmt (fun l₁ _ _ => hpre l₁) (fun hs sh₁ _ l₁ h₁ _ => ?_) (fun x sh' l' hb _ => Or.inl hb)
    fun hs sh₁ h₁ => ?_
  · obtain ⟨r, l₂, hrun, hQ⟩ := hok (by simpa [htext] using hs) sh₁ l₁ h₁
    rw [hrun]
    exact hQ
  · rw [if_neg (by simp [hq])]
    have hnul : hasNul text = true := by simpa [htext] using hs
    exact Or.inr ⟨⟨_, rfl⟩, al, el, P, h₁, fun _ db hp => ⟨hp, hwhy hnul db⟩⟩

/-- The sequences after some rows were drawn. -/
structure Sequences.Le (s s' : Sequences) : Prop where
  event : s.event ≤ s'.event
  ledger : s.ledger ≤ s'.ledger
  history : s.history ≤ s'.history
  record : s.record ≤ s'.record

theorem WellKept.draw (h : WellKept opts sh) {seqs : Sequences} (hs : sh.seqs.Le seqs) :
    WellKept opts { sh with seqs := seqs } where
  since := h.since
  drawn :=
    { event := fun e he => Nat.lt_of_lt_of_le (h.drawn.event e he) hs.event
      ledger := fun r hr => Nat.lt_of_lt_of_le (h.drawn.ledger r hr) hs.ledger
      history := fun r hr => Nat.lt_of_lt_of_le (h.drawn.history r hr) hs.history
      record := fun r hr => Nat.lt_of_lt_of_le (h.drawn.record r hr) hs.record }
  ledger_fk := h.ledger_fk
  history_fk := h.history_fk
  bodies := h.bodies

theorem WellKept.setCache (h : WellKept opts sh) (key : String) {e : CacheEntry}
    (hb : opts.dicts = true → BodyOk e.response.responseBody) :
    WellKept opts { sh with cache := (key, e) :: sh.cache.filter (fun kv => kv.1 != key) } where
  since := h.since
  drawn := ⟨h.drawn.event, h.drawn.ledger, h.drawn.history, h.drawn.record⟩
  ledger_fk := h.ledger_fk
  history_fk := h.history_fk
  bodies hok := by
    refine ⟨(h.bodies hok).1, fun kv hmem => ?_⟩
    rcases List.mem_cons.mp hmem with rfl | hmem
    · exact hb hok
    · exact (h.bodies hok).2 kv (List.mem_filter.mp hmem).1

/-- A statement that writes: the call holds at least what it held. -/
theorem At.write {τ : Option Time} (h : At opts c F n W al el act τ P sh l) {seqs : Sequences}
    (hs : sh.seqs.Le seqs) {W' : Overlay} {al' el' : List Nat} {act' : Option TransactionEvent} {l' : Session}
    (hsame : l' = { l with
      work := l'.work, accountLocks := l'.accountLocks, eventLocks := l'.eventLocks, activeEvent := l'.activeEvent })
    (hW : l'.work = W') (hal : l'.accountLocks = al') (hel : l'.eventLocks = el') (hact : l'.activeEvent = act')
    (hf : Fresh { sh with seqs := seqs } W' al' el') (hl : l.Holds l') :
    At opts c F n W' al' el' act' τ P { sh with seqs := seqs } l' where
  tid := by rw [hsame]; exact h.tid
  wiring := by rw [hsame]; exact h.wiring
  key := by rw [hsame]; exact h.key
  request := by rw [hsame]; exact h.request
  kept := h.kept.draw hs
  fresh := by rw [hsame]; exact h.fresh
  faults := by rw [hsame]; exact h.faults
  retries := by rw [hsame]; exact h.retries
  still := h.still
  toFresh := hf
  ok := by rw [hsame]; exact h.ok
  work := hW
  accountLocks := hal
  eventLocks := hel
  active := hact
  started := by rw [hsame]; exact h.started
  wrote := by rw [hsame]; exact h.wrote
  facts := h.facts
  guard := h.guard.anti hl

/-! ## Reads -/

/-- Where `P` held, the key had no record. -/
def Vacant (key : String) (P : Fact) : Prop := ∃ init db, P init db ∧ db.recordByKey key = none

/-- The record of a key, as far as others leave it alone. -/
def RecordRead (opts : Opts) (key : String) : Option IdempotencyRecord → Fact
  | none => fun _ db => opts.quiet = true → db.recordByKey key = none
  | some r => fun _ db => r.idempotencyKey = key ∧ (opts.dicts = true → BodyOk r.responseBody) ∧
      (opts.deletes = false → db.recordByKey key = some r)

theorem RecordRead.guarded (key : String) (r : Option IdempotencyRecord) :
    Guarded opts l (RecordRead opts key r) := by
  intro sh sh' hr _ h
  cases r with
  | none => exact fun hq => by rw [hr.quiet hq]; exact h hq
  | some r =>
      obtain ⟨hk, hb, hf⟩ := h
      exact ⟨hk, hb, fun hd => hr.recordByKey_some hd (hf hd)⟩

theorem At.getByKey {τ : Option Time} (key : String) (h : At opts c F n {} al el act τ P sh l) :
    (logic st opts).wp (IdempotencyRecordRepository.getByKey site key)
      (Outcome (fun r sh l => (r = none → Vacant key P) ∧
          ∃ t, At opts c F n {} al el act (some t) (P.and (RecordRead opts key r)) sh l)
        (fun x sh l => x = .operationalError ∧ Broken opts c F n site x sh l)) sh l := by
  refine h.wp_stmt (fun _ _ _ => trivial) (fun _ sh₁ _ l₁ h₁ _ => ?_) (fun x sh' l' hb hx => ⟨?_, hb⟩)
    fun hs => by cases hs
  · rw [show runStmt (.selectRecord key) sh₁ l₁ = .ok ((l₁.work.apply sh₁.db).recordByKey key, sh₁, l₁) from rfl]
    rw [h₁.work, Overlay.apply_empty]
    refine fun sh₃ hr => ⟨fun hk => ⟨_, _, h₁.facts, hk⟩, _, (h₁.learn ?_ (RecordRead.guarded key _)).stable hr⟩
    cases hk : sh₁.db.recordByKey key with
    | none => exact fun _ => hk
    | some r =>
        refine ⟨by simpa using List.find?_some hk, fun hb => ?_, fun _ => hk⟩
        exact (h₁.kept.bodies hb).1 r (List.mem_of_find?_eq_some hk)
  · rcases hx with rfl | ⟨_, hx⟩ | ⟨_, _, hx⟩
    · rfl
    · cases hx
    · cases hx

/-- The account of a number, locked when there is one. -/
def AccountRead (no : String) (a : Option Account) : Fact := fun _ db => db.accountByNo no = a ∧ hasNul no = false

theorem AccountRead.guarded {no : String} {a : Option Account} (ha : ∀ x ∈ a, x.id ∈ l.accountLocks) :
    Guarded opts l (AccountRead no a) := by
  intro sh sh' hr _ h
  cases a with
  | none => exact h.imp_left hr.accountByNo_none
  | some a => exact h.imp_left (hr.accountByNo_some (ha a rfl))

/-- Locking more rows changes nothing else. -/
theorem At.lock {τ : Option Time} (h : At opts c F n W al el act τ P sh l) {al' el' : List Nat}
    (ha : al ⊆ al') (he : el ⊆ el') :
    At opts c F n W al' el' act τ P sh { l with accountLocks := al', eventLocks := el' } := by
  have hal : l.accountLocks ⊆ al' := by rw [h.accountLocks]; exact ha
  have hel : l.eventLocks ⊆ el' := by rw [h.eventLocks]; exact he
  have hl : l.Holds { l with accountLocks := al', eventLocks := el' } :=
    ⟨rfl, fun _ h => h, fun _ h => h, fun _ h => h, fun _ h => h, fun _ h => h, fun _ h => h, hal, hel⟩
  have hc := h.covered
  exact
    { h with
      covered :=
        { hc with
          accounts := fun a hmem => ha (hc.accounts a hmem)
          newEvents := fun e hmem => ha (hc.newEvents e hmem)
          events := fun e hmem => ⟨he (hc.events e hmem).1, ha (hc.events e hmem).2⟩
          ledger := fun r hmem => ⟨ha (hc.ledger r hmem).1, (hc.ledger r hmem).2⟩
          histories := fun r hmem => (hc.histories r hmem).imp_right fun hin => he hin }
      accountLocks := rfl
      eventLocks := rfl
      guard := h.guard.anti hl }

theorem At.getByAccountNoForUpdate (no : String) (h : At opts c F n W [] el act (some t) P sh l)
    (hW : W.accounts = {}) :
    (logic st opts).wp (AccountRepository.getByAccountNoForUpdate no)
      (Outcome (fun a => At opts c F n W (a.toList.map Account.id) el act (some t) (P.and (AccountRead no a)))
        (QueryFailed opts c F n W act (some t) P .applyStartedRequest (Unasked no))) sh l := by
  refine h.wp_query (Bool.and_true _) rfl (fun _ => trivial) (fun hs _ => hs) fun hs sh₁ l₁ h₁ => ?_
  have hview : (l₁.work.apply sh₁.db).accountByNo no = sh₁.db.accountByNo no := by
    simp [Overlay.apply, Db.accountByNo, h₁.work, hW]
  simp only [runStmt, hview]
  cases ha : sh₁.db.accountByNo no with
  | none =>
      refine ⟨none, l₁, rfl, fun sh₃ hr => ?_⟩
      exact (h₁.learn (R := AccountRead no none) ⟨ha, hs⟩ (AccountRead.guarded (by simp))).stable hr
  | some a =>
      refine ⟨some a, _, rfl, fun sh₃ hr => ?_⟩
      have h₂ : At opts c F n W [a.id] el act (some t) P sh₁ _ := h₁.lock (by simp) (fun _ h => h)
      have h₃ := h₂.learn (R := AccountRead no (some a)) ⟨ha, hs⟩ (AccountRead.guarded (by simp))
      have hl : ({ l₁ with accountLocks := l₁.accountLocks.insert a.id } : Session) =
          { l₁ with accountLocks := [a.id], eventLocks := el } := by
        simp [h₁.accountLocks, ← h₁.eventLocks]
      rw [hl] at hr ⊢
      exact h₃.stable hr

def QuarantineRead (opts : Opts) (targetType targetId : String) (q : Option QuarantineRecord) : Fact :=
  fun _ db => opts.quarantines = false → db.activeQuarantine targetType targetId = q

theorem At.getActive (targetType targetId : String) (h : At opts c F n W al el act (some t) P sh l) :
    (logic st opts).wp (QuarantineRepository.getActive targetType targetId)
      (Outcome (fun q => At opts c F n W al el act (some t) (P.and (QuarantineRead opts targetType targetId q)))
        (Broken opts c F n .applyStartedRequest)) sh l := by
  refine h.wp_read (.selectActiveQuarantine targetType targetId) (QuarantineRead opts targetType targetId) rfl
    (fun _ => trivial) fun sh l h => ⟨_, rfl, fun _ => rfl, ?_⟩
  intro sh sh' hr _ h hq
  rw [hr.activeQuarantine_eq hq]
  exact h hq

/-- The event of an external id. One that is found is found later, as it was when its account is locked; one
that is missing was missing from the start. -/
def EventRead (opts : Opts) (al : List Nat) (x : String) : Option TransactionEvent → Fact
  | none => fun init db => hasNul x = false ∧ init.eventByExternalId x = none ∧
      (opts.quiet = true → db.eventByExternalId x = none)
  | some e => fun _ db => hasNul x = false ∧
      ∃ e', EventStep e e' ∧ (e.accountId ∈ al → e' = e) ∧ db.eventByExternalId x = some e'

theorem EventRead.guarded {x : String} (e : Option TransactionEvent) (hl : l.accountLocks = al) :
    Guarded opts l (EventRead opts al x e) := by
  intro sh sh' hr _ h
  cases e with
  | none => exact ⟨h.1, by rw [hr.init]; exact h.2.1, fun hq => by rw [hr.quiet hq]; exact h.2.2 hq⟩
  | some e =>
      obtain ⟨hsent, e₁, hs, heq, hf⟩ := h
      obtain ⟨e₂, hs₂, hf₂⟩ := hr.event_found hf
      refine ⟨hsent, e₂, hs.trans hs₂, fun hin => ?_, hf₂⟩
      rw [heq hin] at hf
      have := hr.event_locked (Or.inl (hl ▸ hin)) hf
      rw [this] at hf₂
      exact (Option.some.inj hf₂).symm

/-- An event that cannot be read is never read. -/
theorem Illegible.guarded (x : String) : Guarded opts l fun _ db => Illegible x db := by
  rintro sh sh' hr _ (hs | ⟨e, he, hread⟩)
  · exact Or.inl hs
  · obtain ⟨e', hstep, he'⟩ := hr.event_found he
    exact Or.inr ⟨e', he', by rw [hstep.occurredAt_eq]; exact hread⟩

/-- The row of an answer is read into an event, or not at all. -/
theorem At.read {x : String} {row : Option TransactionEvent} {P' : Fact} (h : At opts c F n W al el act (some t) P' sh l)
    (hP : ∀ init db, P' init db → P init db)
    (hrow : ∀ e, row = some e → ∀ init db, P' init db → ∃ e', EventStep e e' ∧ db.eventByExternalId x = some e') :
    (logic st opts).wp (.lift (TransactionEventRepository.read row))
      (Outcome (fun e sh l => e = row ∧ (∀ r ∈ e, r.occurredAt.readable = true) ∧
          At opts c F n W al el act (some t) P' sh l)
        (QueryFailed opts c F n W act (some t) P .applyStartedRequest (Illegible x))) sh l := by
  refine Logic.wp_lift.mpr fun sh' hr => ?_
  have h' := h.stable hr
  cases row with
  | none => exact ⟨rfl, by simp, h'⟩
  | some e =>
      cases hread : e.occurredAt.readable with
      | true =>
          rw [TransactionEventRepository.read_readable hread]
          exact ⟨rfl, by simpa using hread, h'⟩
      | false =>
          rw [TransactionEventRepository.read_refused hread]
          obtain ⟨e', hstep, he'⟩ := hrow e rfl _ _ h'.facts
          have hwhy : Illegible x sh'.db := Or.inr ⟨e', he', by rw [hstep.occurredAt_eq]; exact hread⟩
          exact Or.inr ⟨⟨_, rfl⟩, al, el, _, h'.learn hwhy (Illegible.guarded x), fun init db hp => ⟨hP init db hp.1, hp.2⟩⟩

theorem At.getByExternalEventId (x : String) (h : At opts c F n W al el act (some t) P sh l)
    (hW : W.events = {}) :
    (logic st opts).wp (TransactionEventRepository.getByExternalEventId x)
      (Outcome (fun e sh l => (∀ r ∈ e, r.occurredAt.readable = true) ∧
          At opts c F n W al el act (some t) (P.and (EventRead opts al x e)) sh l)
        (QueryFailed opts c F n W act (some t) P .applyStartedRequest (Illegible x))) sh l := by
  have hquery : (logic st opts).wp (Py.sql .applyStartedRequest (.selectEvent x))
      (Outcome (fun e : Option TransactionEvent => At opts c F n W al el act (some t) (P.and (EventRead opts al x e)))
        (QueryFailed opts c F n W act (some t) P .applyStartedRequest (Illegible x))) sh l := by
    refine h.wp_query (Bool.and_true _) rfl (fun _ => trivial) (fun hs _ => Or.inl hs) fun hs sh₁ l₁ h₁ =>
      ⟨_, l₁, rfl, fun sh₃ hr => ?_⟩
    refine (h₁.learn ?_ (EventRead.guarded _ h₁.accountLocks)).stable hr
    have hview : (l₁.work.apply sh₁.db).eventByExternalId x = sh₁.db.eventByExternalId x := by
      simp [Overlay.apply, Db.eventByExternalId, h₁.work, hW]
    rw [hview]
    cases he : sh₁.db.eventByExternalId x with
    | none => exact ⟨hs, h₁.kept.since.event_absent he, fun _ => he⟩
    | some e => exact ⟨hs, e, EventStep.refl e, fun _ => rfl, he⟩
  refine Logic.wp_bind hquery (fun row sh l h => ?_) fun _ _ _ hb => hb
  refine Logic.wp_mono (h.read (P := P) (x := x) (fun _ _ hp => hp.1) ?_) fun r sh l hr => ?_
  · rintro e rfl init db ⟨_, _, e', hstep, _, he'⟩
    exact ⟨e', hstep, he'⟩
  · cases r with
    | ok e =>
        obtain ⟨rfl, hread⟩ := hr
        exact hread
    | error x => exact hr

/-- The ledger entry of an event of the database. -/
def LedgerRead (id : Nat) (r : Option LedgerEntry) : Fact :=
  fun _ db => (∃ e ∈ db.events, e.id = id) ∧ db.ledgerByEventId id = r

theorem LedgerRead.guarded (id : Nat) (r : Option LedgerEntry) : Guarded opts l (LedgerRead id r) := by
  rintro sh sh' hr _ ⟨⟨e, he, rfl⟩, h⟩
  obtain ⟨e', he', hs, _⟩ := hr.events.mem_left he
  exact ⟨⟨e', he', hs.id_eq⟩, by rw [hr.ledgerOf e he]; exact h⟩

theorem At.getByTransactionEventId (id : Nat) (h : At opts c F n W al el act (some t) P sh l)
    (hW : W.ledger = {}) (he : ∀ init db, P init db → ∃ e ∈ db.events, e.id = id) :
    (logic st opts).wp (LedgerEntryRepository.getByTransactionEventId id)
      (Outcome (fun r => At opts c F n W al el act (some t) (P.and (LedgerRead id r)))
        (Broken opts c F n .applyStartedRequest)) sh l := by
  refine h.wp_read (.selectLedger id) (LedgerRead id) rfl (fun _ => trivial) fun sh l h =>
    ⟨_, rfl, ⟨he _ _ h.facts, ?_⟩, LedgerRead.guarded id _⟩
  simp [Overlay.apply, Db.ledgerByEventId, h.work, hW]

/-- The original of a CANCEL, locked when there is one. -/
def OriginalRead (x : String) : Option TransactionEvent → Fact
  | none => fun init _ => hasNul x = false ∧ init.eventByExternalId x = none
  | some e => fun _ db => hasNul x = false ∧ db.eventByExternalId x = some e

theorem OriginalRead.guarded {x : String} {e : Option TransactionEvent} (he : ∀ y ∈ e, y.id ∈ l.eventLocks) :
    Guarded opts l (OriginalRead x e) := by
  intro sh sh' hr _ h
  cases e with
  | none => exact h.imp_right (congrArg (fun d => Db.eventByExternalId d x) hr.init).trans
  | some e => exact h.imp_right (hr.event_locked (Or.inr (he e rfl)))

theorem At.getOriginalForCancelForUpdate (x : String) (h : At opts c F n W al [] act (some t) P sh l)
    (hW : W.events = {}) :
    (logic st opts).wp (TransactionEventRepository.getOriginalForCancelForUpdate x)
      (Outcome (fun e sh l => (∀ r ∈ e, r.occurredAt.readable = true) ∧
          At opts c F n W al (e.toList.map TransactionEvent.id) act (some t) (P.and (OriginalRead x e)) sh l)
        (QueryFailed opts c F n W act (some t) P .applyStartedRequest (Illegible x))) sh l := by
  have hquery : (logic st opts).wp (Py.sql .applyStartedRequest (.selectEventForUpdate x))
      (Outcome (fun e : Option TransactionEvent => At opts c F n W al (e.toList.map TransactionEvent.id) act (some t)
          (P.and (OriginalRead x e)))
        (QueryFailed opts c F n W act (some t) P .applyStartedRequest (Illegible x))) sh l := by
    refine h.wp_query (Bool.and_true _) rfl (fun _ => trivial) (fun hs _ => Or.inl hs) fun hs sh₁ l₁ h₁ => ?_
    have hview : (l₁.work.apply sh₁.db).eventByExternalId x = sh₁.db.eventByExternalId x := by
      simp [Overlay.apply, Db.eventByExternalId, h₁.work, hW]
    simp only [runStmt, hview]
    cases he : sh₁.db.eventByExternalId x with
    | none =>
        have hx := h₁.kept.since.event_absent he
        refine ⟨none, l₁, rfl, fun sh₃ hr => ?_⟩
        exact (h₁.learn (R := OriginalRead x none) ⟨hs, hx⟩ (OriginalRead.guarded (by simp))).stable hr
    | some e =>
        refine ⟨some e, _, rfl, fun sh₃ hr => ?_⟩
        have h₂ : At opts c F n W al [e.id] act (some t) P sh₁ _ := h₁.lock (fun _ h => h) (by simp)
        have h₃ := h₂.learn (R := OriginalRead x (some e)) ⟨hs, he⟩ (OriginalRead.guarded (by simp))
        have hl : ({ l₁ with eventLocks := l₁.eventLocks.insert e.id } : Session) =
            { l₁ with accountLocks := al, eventLocks := [e.id] } := by
          simp [h₁.eventLocks, ← h₁.accountLocks]
        rw [hl] at hr ⊢
        exact h₃.stable hr
  refine Logic.wp_bind hquery (fun row sh l h => ?_) fun _ _ _ hb => hb
  refine Logic.wp_mono (h.read (P := P) (x := x) (fun _ _ hp => hp.1) ?_) fun r sh l hr => ?_
  · rintro e rfl init db ⟨_, _, he⟩
    exact ⟨e, EventStep.refl e, he⟩
  · cases r with
    | ok e =>
        obtain ⟨rfl, hread⟩ := hr
        exact hread
    | error x => exact hr

/-! ## Writes -/

theorem Sequences.Le.refl (s : Sequences) : s.Le s := ⟨Nat.le_refl _, Nat.le_refl _, Nat.le_refl _, Nat.le_refl _⟩

/-- The first insert of a call: its record. -/
theorem At.createProcessing {e u : Time} (h : At opts c F n {} [] [] act (some t) P sh l)
    (hk : ∀ init db, P init db → opts.quiet = true → db.recordByKey c.key = none) :
    (logic st opts).wp
      (IdempotencyRecordRepository.createProcessing .checkOrStart c.key (requestHash st c.request) e u)
      (Outcome (fun rec => At opts c F n (refusedWork rec) [] [] act (some t)
          (fun _ db => Opened st db c.key c.request rec))
        (Broken opts c F n .checkOrStart)) sh l := by
  refine h.wp_sql rfl (fun _ _ _ => trivial) (fun sh₁ _ l₁ h₁ => ?_) (fun x sh' l' hb => hb)
  simp only [runStmt, h₁.work, Overlay.apply_empty]
  cases hr : sh₁.db.recordByKey c.key with
  | some r =>
      refine FaultKind.record ?_ (fun _ => by rw [hr]; rfl)
      cases hq : opts.quiet with
      | false => rfl
      | true => rw [hk _ _ h₁.facts hq] at hr; cases hr
  | none =>
      intro sh₃ hrel
      have hle : sh₁.seqs.Le { sh₁.seqs with record := sh₁.seqs.record + 1 } :=
        ⟨Nat.le_refl _, Nat.le_refl _, Nat.le_refl _, Nat.le_succ _⟩
      refine At.stable (At.know (At.write h₁ hle rfl rfl h₁.accountLocks h₁.eventLocks h₁.active ?_ ?_) ?_ ?_) hrel
      · exact { h₁.toFresh with covered := { h₁.covered with noRecordUpdates := rfl } }
      · constructor <;> simp [Session.keys, Session.recordIds, Session.externalIds, Session.eventIds,
          Session.ledgerIds, Session.historyIds, h₁.work]
      · exact ⟨hr, fun r hmem => Nat.ne_of_lt (h₁.kept.drawn.record r hmem), rfl, rfl, rfl, rfl⟩
      · intro sh sh' hrel _ ho
        exact ho.stable hrel (by simp [Session.keys, Delta.insert]) (by simp [Session.recordIds, Delta.insert])

theorem At.createReceived {rec : IdempotencyRecord} {a : Account}
    (h : At opts c F n (refusedWork rec) al el act (some t) P sh l) (ha : a.id ∈ al)
    (hx : ∀ init db, P init db → opts.quiet = true → db.eventByExternalId c.request.externalEventId = none)
    (hext : hasNul c.request.externalEventId = false)
    (htext : hasNul c.request.currency = true → ∀ init db, P init db → opts.quiet = true → Unwritable opts c db)
    (hov : fitsEvent c.request.amount c.request.occurredAt = false → ∀ init db, P init db → opts.quiet = true → Overflow opts c db) :
    (logic st opts).wp
      (TransactionEventRepository.createReceived c.request.externalEventId c.key a.id c.request.eventType
        c.request.amount c.request.currency c.request.occurredAt)
      (Outcome (fun ev => At opts c F n (eventWork rec ev []) al el act (some t)
          (P.and fun _ db => Created db c.key c.request a ev t))
        (Broken opts c F n .applyStartedRequest)) sh l := by
  have hsendable : (Stmt.insertEvent c.request.externalEventId c.key a.id c.request.eventType c.request.amount
      c.request.currency c.request.occurredAt).sendable = !hasNul c.request.currency := by
    simp [Stmt.sendable, Stmt.texts, hext]
  refine h.wp_stmt (fun _ _ _ => trivial) (fun hs sh₁ _ l₁ h₁ hdup => ?_) (fun x sh' l' hb _ => hb)
    fun hs sh₁ h₁ => .text fun hq => htext (by simpa [hsendable] using hs) _ _ h₁.facts hq
  have hcurrency : hasNul c.request.currency = false := by simpa [hsendable] using hs
  have hview : ((refusedWork rec).apply sh₁.db).eventByExternalId c.request.externalEventId =
      sh₁.db.eventByExternalId c.request.externalEventId := by
    simp [Overlay.apply, Db.eventByExternalId, refusedWork]
  simp only [Op.meetsDuplicate, h₁.work, hview] at hdup
  simp only [runStmt, h₁.work, hview]
  cases hfit : fitsEvent c.request.amount c.request.occurredAt with
  | false => exact .data fun hq => hov hfit _ _ h₁.facts hq
  | true =>
      cases he : sh₁.db.eventByExternalId c.request.externalEventId with
      | some e =>
          refine FaultKind.event ?_ ?_
          · cases hq : opts.quiet with
            | false => rfl
            | true => rw [hx _ _ h₁.facts hq] at he; cases he
          · cases hd : opts.duplicates with
            | true => rfl
            | false => rw [he, hfit] at hdup; cases hdup hd
      | none =>
          intro sh₃ hrel
          have hle : sh₁.seqs.Le { sh₁.seqs with event := sh₁.seqs.event + 1 } :=
            ⟨Nat.le_succ _, Nat.le_refl _, Nat.le_refl _, Nat.le_refl _⟩
          refine At.stable (At.learn (At.write h₁ hle rfl rfl h₁.accountLocks h₁.eventLocks h₁.active ?_ ?_)
            ?_ ?_) hrel
          · exact { h₁.toFresh with covered := { h₁.covered with
              newEvents := by simpa [eventWork] using ha
              ledger := by simp [eventWork]
              histories := by simp [eventWork] } }
          · constructor <;> simp [Session.keys, Session.recordIds, Session.externalIds, Session.eventIds,
              Session.ledgerIds, Session.historyIds, h₁.work, refusedWork]
          · have hid : ∀ e ∈ sh₁.db.events, e.id ≠ sh₁.seqs.event := fun e hmem =>
              Nat.ne_of_lt (h₁.kept.drawn.event e hmem)
            refine ⟨?_, he, hid, fun r hmem => ?_, fun r hmem => ?_, hfit, hext, hcurrency⟩
            · simp [receivedEvent, Session.txnNow, h₁.started]
            · obtain ⟨e, hmem', heq⟩ := h₁.kept.ledger_fk r hmem
              exact heq ▸ hid e hmem'
            · obtain ⟨e, hmem', heq⟩ := h₁.kept.history_fk r hmem
              exact heq ▸ hid e hmem'
          · intro sh sh' hrel _ hc
            exact hc.stable hrel (by simp [Session.externalIds, Delta.insert])
              (by simp [Session.eventIds, Delta.insert])

/-- The next history row of a transaction is new to the database. -/
theorem At.newHistory {τ : Option Time} (h : At opts c F n W al el act τ P sh l) {row : EventStateHistory}
    (hid : row.id = sh.seqs.history) : NewHistories sh.db (W.histories.inserted ++ [row]) where
  sorted := by
    rw [List.pairwise_append]
    refine ⟨h.histories.sorted, List.pairwise_singleton _ _, fun x hx y hy => ?_⟩
    rw [List.mem_singleton.mp hy, hid]
    exact h.historySeq x hx
  fresh m hm r hr := by
    rcases List.mem_append.mp hm with hm | hm
    · exact h.histories.fresh m hm r hr
    · rw [List.mem_singleton.mp hm, hid]
      exact Nat.ne_of_lt (h.kept.drawn.history r hr)
  after m hm r hr heq := by
    rcases List.mem_append.mp hm with hm | hm
    · exact h.histories.after m hm r hr heq
    · rw [List.mem_singleton.mp hm, hid]
      exact h.kept.drawn.history r hr

/-- The changes `W` after its own new event, `ev`, has changed its status. -/
def Overlay.ownStatus (W : Overlay) (ev : TransactionEvent) (next : TransactionStatus) (reason : String)
    (i : Nat) (t : Time) : Overlay :=
  { W with
    events := ⟨W.events.updated, [withStatus ev next t]⟩
    histories := ⟨[], W.histories.inserted ++ [historyRow i ev ev.status next reason t]⟩ }

theorem At.changeOwn {ev : TransactionEvent} {next : TransactionStatus} {reason : String}
    (h : At opts c F n W al el (some ev) (some t) P sh l) (hW : W.events.inserted = [ev])
    (hv : TransactionStateMachine.validateTransition ev.status next = .ok ()) :
    (logic st opts).wp (TransactionStateService.changeStatus site ev next (some reason))
      (Outcome (fun r sh l => r = withStatus ev next t ∧ ∃ i,
          At opts c F n (W.ownStatus ev next reason i t) al el (some (withStatus ev next t)) (some t) P sh l)
        (Broken opts c F n site)) sh l := by
  unfold TransactionStateService.changeStatus
  rw [hv]
  refine h.wp_sql rfl (fun l₁ hl _ => ⟨?_, Or.inl ?_⟩) (fun sh₁ _ l₁ h₁ => ?_) (fun x sh' l' hb => hb)
  · intro e he _
    rw [hl, hW, List.mem_singleton] at he
    rw [he]
  · simp [Session.eventIds, hl, hW]
  have hup : W.events.update (withStatus ev next t) = ⟨W.events.updated, [withStatus ev next t]⟩ := by
    simp [Delta.update, hW, withStatus]
  have hnow : l₁.txnNow sh₁.clock = t := by simp [Session.txnNow, h₁.started]
  intro sh₃ hrel
  have hle : sh₁.seqs.Le { sh₁.seqs with history := sh₁.seqs.history + 1 } :=
    ⟨Nat.le_refl _, Nat.le_refl _, Nat.le_succ _, Nat.le_refl _⟩
  have hc := h₁.covered
  refine ⟨by rw [hnow]; rfl, sh₁.seqs.history, At.stable (At.write h₁ hle rfl ?_ ?_ ?_ ?_ ?_ ?_) hrel⟩
  · simp only [h₁.work, hnow, Overlay.ownStatus, ← hup, Delta.insert, hc.noHistoryUpdates]
    rfl
  · exact h₁.accountLocks
  · simp [h₁.work, hW, h₁.eventLocks]
  · simp [h₁.active, hnow, withStatus]
  · exact
      { covered :=
          { hc with
            noHistoryUpdates := rfl
            newEvents := by simpa [Overlay.ownStatus, withStatus, hW] using hc.newEvents
            ledger := by simpa [Overlay.ownStatus, withStatus, hW] using hc.ledger
            histories := fun r hmem => by
              rcases List.mem_append.mp hmem with hmem | hmem
              · simpa [Overlay.ownStatus, withStatus, hW] using hc.histories r hmem
              · simp [Overlay.ownStatus, withStatus, historyRow, List.mem_singleton.mp hmem] }
        histories := h₁.newHistory rfl
        historySeq := fun r hmem => by
          rcases List.mem_append.mp hmem with hmem | hmem
          · exact Nat.lt_succ_of_lt (h₁.historySeq r hmem)
          · rw [List.mem_singleton.mp hmem]
            exact Nat.lt_succ_self _
        ledger := h₁.ledger }
  · constructor <;> simp [Session.keys, Session.recordIds, Session.externalIds, Session.eventIds,
      Session.ledgerIds, Session.historyIds, h₁.work, hW, Delta.update, Delta.insert]

/-- The changes `W` after the committed event `o` has changed its status. -/
def Overlay.otherStatus (W : Overlay) (o : TransactionEvent) (next : TransactionStatus) (reason : String)
    (i : Nat) (t : Time) : Overlay :=
  { W with
    events := ⟨withStatus o next t :: W.events.updated, W.events.inserted⟩
    histories := ⟨[], W.histories.inserted ++ [historyRow i o o.status next reason t]⟩ }

theorem At.changeOriginal {o : TransactionEvent} {next : TransactionStatus} {reason : String}
    (h : At opts c F n W al el act (some t) P sh l) (hW : ∀ e ∈ W.events.inserted, e.id ≠ o.id)
    (hact : ∀ e ∈ act, e.id ≠ o.id) (ho : o.id ∈ el) (ha : o.accountId ∈ al)
    (hv : TransactionStateMachine.validateTransition o.status next = .ok ()) :
    (logic st opts).wp (TransactionStateService.changeStatus site o next (some reason))
      (Outcome (fun _ sh l => ∃ i, At opts c F n (W.otherStatus o next reason i t) al el act (some t) P sh l)
        (Broken opts c F n site)) sh l := by
  unfold TransactionStateService.changeStatus
  rw [hv]
  refine h.wp_sql rfl (fun l₁ hl hel => ⟨fun e he heq => absurd heq (hW e (hl ▸ he)), Or.inr (hel ▸ ho)⟩)
    (fun sh₁ _ l₁ h₁ => ?_) (fun x sh' l' hb => hb)
  have hany : W.events.inserted.any (fun u => u.id == o.id) = false := by simpa using hW
  have hup : W.events.update (withStatus o next t) =
      ⟨withStatus o next t :: W.events.updated, W.events.inserted⟩ := by
    simp only [Delta.update, rowId_event, withStatus, hany]
    rfl
  have hnow : l₁.txnNow sh₁.clock = t := by simp [Session.txnNow, h₁.started]
  intro sh₃ hrel
  have hle : sh₁.seqs.Le { sh₁.seqs with history := sh₁.seqs.history + 1 } :=
    ⟨Nat.le_refl _, Nat.le_refl _, Nat.le_succ _, Nat.le_refl _⟩
  have hc := h₁.covered
  refine ⟨sh₁.seqs.history, At.stable (At.write h₁ hle rfl ?_ ?_ ?_ ?_ ?_ ?_) hrel⟩
  · simp only [h₁.work, hnow, Overlay.otherStatus, ← hup, Delta.insert, hc.noHistoryUpdates]
    rfl
  · exact h₁.accountLocks
  · simp [h₁.work, hany, h₁.eventLocks, ho]
  · cases act with
    | none => simp [h₁.active]
    | some e => simp [h₁.active, hact e rfl]
  · exact
      { covered :=
          { hc with
            noHistoryUpdates := rfl
            events := fun e hmem => by
              rcases List.mem_cons.mp hmem with rfl | hmem
              · exact ⟨ho, ha⟩
              · exact hc.events e hmem
            histories := fun r hmem => by
              rcases List.mem_append.mp hmem with hmem | hmem
              · exact hc.histories r hmem
              · rw [List.mem_singleton.mp hmem]
                exact Or.inr ho }
        histories := h₁.newHistory rfl
        historySeq := fun r hmem => by
          rcases List.mem_append.mp hmem with hmem | hmem
          · exact Nat.lt_succ_of_lt (h₁.historySeq r hmem)
          · rw [List.mem_singleton.mp hmem]
            exact Nat.lt_succ_self _
        ledger := h₁.ledger }
  · constructor <;> simp [Session.keys, Session.recordIds, Session.externalIds, Session.eventIds,
      Session.ledgerIds, Session.historyIds, h₁.work, hany, Delta.update, Delta.insert, h₁.eventLocks, ho]

theorem At.createLedger (ev : TransactionEvent) {a : Account} {amount newBalance : Int}
    (h : At opts c F n W al el act (some t) P sh l) (hW : W.ledger = {}) (he : ev ∈ W.events.inserted)
    (ha : a.id ∈ al) (hno : ∀ init db, P init db → ∀ r ∈ db.ledger, r.transactionEventId ≠ ev.id)
    (hov : fitsBigInteger amount = false ∨ fitsBigInteger newBalance = false →
      ∀ init db, P init db → opts.quiet = true → Overflow opts c db) :
    (logic st opts).wp
      (LedgerEntryRepository.create ev.id a.id (if amount > 0 then .credit else .debit) amount newBalance)
      (Outcome (fun r sh l => ∃ i, r = ledgerRow i ev a amount newBalance t ∧
          At opts c F n { W with ledger := ⟨[], [ledgerRow i ev a amount newBalance t]⟩ } al el act (some t) P sh l)
        (Broken opts c F n .applyStartedRequest)) sh l := by
  refine h.wp_sql rfl (fun _ _ _ => trivial) (fun sh₁ _ l₁ h₁ => ?_) (fun x sh' l' hb => hb)
  have hview : (W.apply sh₁.db).ledgerByEventId ev.id = none := by
    simpa [Overlay.apply, Db.ledgerByEventId, hW] using hno _ _ h₁.facts
  have hnow : l₁.txnNow sh₁.clock = t := by simp [Session.txnNow, h₁.started]
  simp only [runStmt, h₁.work, hview, hnow]
  cases hfit : (!fitsBigInteger amount || !fitsBigInteger newBalance) with
  | true =>
      refine FaultKind.data fun hq => hov ?_ _ _ h₁.facts hq
      simpa using hfit
  | false =>
      intro sh₃ hrel
      have hle : sh₁.seqs.Le { sh₁.seqs with ledger := sh₁.seqs.ledger + 1 } :=
        ⟨Nat.le_refl _, Nat.le_succ _, Nat.le_refl _, Nat.le_refl _⟩
      have hc := h₁.covered
      refine ⟨sh₁.seqs.ledger, rfl, At.stable (At.write h₁ hle rfl ?_ h₁.accountLocks h₁.eventLocks h₁.active ?_ ?_)
        hrel⟩
      · simp only [hW]
        rfl
      · exact
          { h₁.toFresh with
            covered :=
              { hc with
                noLedgerUpdates := rfl
                ledger := fun r hmem => by
                  rw [List.mem_singleton.mp hmem]
                  exact ⟨ha, List.mem_map_of_mem he⟩ }
            ledger := fun r hmem => by
              rw [List.mem_singleton.mp hmem]
              exact ⟨fun x hx => Nat.ne_of_lt (h₁.kept.drawn.ledger x hx),
                fun x hx _ => h₁.kept.drawn.ledger x hx, by simpa [ledgerRow] using hfit⟩ }
      · constructor <;> simp [Session.keys, Session.recordIds, Session.externalIds, Session.eventIds,
          Session.ledgerIds, Session.historyIds, h₁.work, hW]

theorem At.updateBalance {a : Account} {balance : Int} (h : At opts c F n W al el act (some t) P sh l)
    (hW : W.accounts = {}) (ha : a.id ∈ al) (hfit : fitsBigInteger balance = true) :
    (logic st opts).wp (AccountRepository.updateBalance a balance)
      (Outcome (fun _ => At opts c F n { W with accounts := ⟨[{ a with balance := balance }], []⟩ } al el act
          (some t) P)
        (Broken opts c F n .applyStartedRequest)) sh l := by
  refine h.wp_sql rfl (fun _ _ _ => trivial) (fun sh₁ _ l₁ h₁ => ?_) (fun x sh' l' hb => hb)
  simp only [runStmt, h₁.work, hfit]
  intro sh₃ hrel
  have hc := h₁.covered
  refine At.stable (At.write h₁ (Sequences.Le.refl _) rfl ?_ ?_ h₁.eventLocks h₁.active ?_ ?_) hrel
  · simp only [hW]
    rfl
  · simp [h₁.accountLocks, ha]
  · exact
      { h₁.toFresh with
        covered :=
          { hc with
            noAccounts := rfl
            accounts := fun r hmem => by
              rw [List.mem_singleton.mp hmem]
              exact ha } }
  · constructor <;> simp [Session.keys, Session.recordIds, Session.externalIds, Session.eventIds,
      Session.ledgerIds, Session.historyIds, h₁.work, h₁.accountLocks, ha]

/-! ## The call's own record -/

/-- A call that has inserted the record of its key reads it back. -/
theorem At.getOwnRecord {key : String} {request : TransactionEventCreateRequest} {rec : IdempotencyRecord}
    (h : At opts c F n W al el act (some t) P sh l) (hW : W.records = ⟨[], [rec]⟩)
    (ho : ∀ init db, P init db → Opened st db key request rec) :
    (logic st opts).wp (IdempotencyService.getExistingRecord site key)
      (Outcome (fun r sh l => r = rec ∧ At opts c F n W al el act (some t) P sh l)
        (Broken opts c F n site)) sh l := by
  refine Logic.wp_bind (P := Outcome (fun r sh l => r = some rec ∧ At opts c F n W al el act (some t) P sh l)
    (Broken opts c F n site)) ?_ ?_ (fun x sh' l' hb => hb)
  · refine h.wp_sql rfl (fun _ _ _ => trivial) (fun sh₁ _ l₁ h₁ => ?_) (fun x sh' l' hb => hb)
    intro sh₃ hrel
    have hopen := ho _ _ h₁.facts
    refine ⟨?_, h₁.stable hrel⟩
    have habs : sh₁.db.records.find? (fun r => r.idempotencyKey == key) = none := hopen.absent
    simp [h₁.work, Overlay.apply, Db.recordByKey, hW, List.find?_append, habs, hopen.key_eq]
  · rintro r sh' l' ⟨rfl, h'⟩
    exact Logic.wp_pure fun sh'' hr => ⟨rfl, h'.stable hr⟩

/-- Closing the record keeps its key and id. -/
theorem At.updateRecord {rec rec' : IdempotencyRecord} (h : At opts c F n W al el act (some t) P sh l)
    (hW : W.records = ⟨[], [rec]⟩) (hid : rec'.id = rec.id) (hk : rec'.idempotencyKey = rec.idempotencyKey) :
    (logic st opts).wp (Py.sql site (.updateRecord rec'))
      (Outcome (fun r sh l => r = rec' ∧ At opts c F n { W with records := ⟨[], [rec']⟩ } al el act (some t) P sh l)
        (Broken opts c F n site)) sh l := by
  refine h.wp_sql rfl (fun l₁ hl _ => ⟨rec, by rw [hl, hW], hid, hk⟩) (fun sh₁ _ l₁ h₁ => ?_) (fun x sh' l' hb => hb)
  intro sh₃ hrel
  refine ⟨rfl, At.stable (At.write h₁ (Sequences.Le.refl _) rfl ?_ h₁.accountLocks h₁.eventLocks h₁.active ?_ ?_)
    hrel⟩
  · simp [h₁.work, hW, Delta.update, hid]
  · exact { h₁.toFresh with covered := { h₁.covered with noRecordUpdates := rfl } }
  · constructor <;> simp [Session.keys, Session.recordIds, Session.externalIds, Session.eventIds,
      Session.ledgerIds, Session.historyIds, h₁.work, hW, Delta.update, hid, hk]

/-! ## Operations that are no statements -/

theorem At.utcNow {τ : Option Time} (h : At opts c F n W al el act τ P sh l) :
    (logic st opts).wp Py.utcNow
      (Outcome (fun _ => At opts c F n W al el act τ P) (fun _ _ _ => False)) sh l := by
  refine Logic.wp_call fun sh₁ hr => ⟨trivial, ?_⟩
  rintro r sh₂ l₂ ⟨fault, _, hx⟩ sh₃ hr'
  simp only [exec, Prod.mk.injEq] at hx
  obtain ⟨rfl, rfl, rfl⟩ := hx
  exact (h.stable hr).stable hr'

theorem At.setActiveEvent {τ : Option Time} (h : At opts c F n W al el act τ P sh l)
    (e : Option TransactionEvent) :
    (logic st opts).wp (Prog.call (Op.setActiveEvent e))
      (Outcome (fun _ => At opts c F n W al el e τ P) (fun _ _ _ => False)) sh l := by
  refine Logic.wp_call fun sh₁ hr => ⟨trivial, ?_⟩
  rintro r sh₂ l₂ ⟨fault, _, hx⟩ sh₃ hr'
  simp only [exec, Prod.mk.injEq] at hx
  obtain ⟨rfl, rfl, rfl⟩ := hx
  have h₁ := h.stable hr
  refine At.stable (At.write h₁ (Sequences.Le.refl _) rfl h₁.work h₁.accountLocks h₁.eventLocks rfl h₁.toFresh ?_) hr'
  exact ⟨rfl, fun _ h => h, fun _ h => h, fun _ h => h, fun _ h => h, fun _ h => h, fun _ h => h,
    fun _ h => h, fun _ h => h⟩

theorem At.activeEvent {τ : Option Time} (h : At opts c F n W al el act τ P sh l) :
    (logic st opts).wp Py.activeEvent
      (Outcome (fun r sh l => r = act ∧ At opts c F n W al el act τ P sh l) (fun _ _ _ => False)) sh l := by
  refine Logic.wp_call fun sh₁ hr => ⟨trivial, ?_⟩
  rintro r sh₂ l₂ ⟨fault, _, hx⟩ sh₃ hr'
  simp only [exec, Prod.mk.injEq] at hx
  obtain ⟨rfl, rfl, rfl⟩ := hx
  exact ⟨h.active, (h.stable hr).stable hr'⟩

end Rules

end EventConsistency
