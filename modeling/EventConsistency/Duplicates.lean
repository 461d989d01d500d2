import EventConsistency.Lib.Rounding
import EventConsistency.Runs
import EventConsistency.Verify.Known

/-!
# Repeated external events

* `StemsFrom` : an event holds what a request asked for; `Chain.origin`, `Chain.creation` : every event stems from the
  request of the commit that created it;
* `Datetime.timestamp_inj` : near the epoch, equal timestamps are equal instants;
* `SameInstruction` : what the service compares of a repeated external event;
* **`duplicate_answers`** : a `duplicated` answer is given only to the same instruction, and a request with another one
  is declined and moves no money; **`duplicate_other_original`** : the original of a CANCEL is not compared.
-/

namespace EventConsistency

open Lib TransactionEventService

/-- The call was started under a fresh key: its transaction has inserted the record of the key. -/
def Commit.started (x : Commit) : Bool := !x.work.records.inserted.isEmpty

/-- The commit has created the event of the external id. -/
def Commit.creates (x : Commit) (externalEventId : String) : Prop :=
  ∃ e ∈ x.work.events.inserted, e.externalEventId = externalEventId

/-- The event holds what the request asked for. -/
structure StemsFrom (accounts : List Account) (request : TransactionEventCreateRequest) (e : TransactionEvent) :
    Prop where
  externalEventId : e.externalEventId = request.externalEventId
  eventType : e.eventType = request.eventType
  amount : e.amount = request.amount
  currency : e.currency = request.currency
  occurredAt : e.occurredAt = request.occurredAt
  account : ∃ a ∈ accounts, a.accountNo = request.accountNo ∧ a.id = e.accountId

namespace Datetime

/-- Within 2^33 seconds of the epoch, from the year 1697 to 2242: there the floats that `timestamp()` gives lie closer to
each other than microseconds. -/
def Near (d : Datetime) : Prop := d.instant.natAbs < 2 ^ 33 * 1000000

end Datetime

/-- The requests agree in what the service compares: account, type, amount, currency, and the instant of the event,
unless both instants are far from the epoch. -/
structure SameInstruction (request creator : TransactionEventCreateRequest) : Prop where
  accountNo : request.accountNo = creator.accountNo
  eventType : request.eventType = creator.eventType
  amount : request.amount = creator.amount
  currency : request.currency = creator.currency
  occurredAt : request.occurredAt.Near ∨ creator.occurredAt.Near →
    request.occurredAt.instant = creator.occurredAt.instant

/-- The commit has refused its request, because it does not fit or before that could be seen, and moved no money. -/
structure Declined (accounts : List Account) (x : Commit) : Prop where
  answer : x.reply.statusCode = 422 ∨
    (x.reply = failureResult .accountNotFound ∧ ∀ a ∈ accounts, a.accountNo ≠ x.request.accountNo) ∨
    (x.wiring.quarantineService = true ∧ ∃ q, x.reply = failureResult (.targetQuarantined "ACCOUNT" q))
  accounts : x.work.accounts = {}
  ledger : x.work.ledger = {}

section Origin

variable {st : Settings} {opts : Opts} {w : Wiring} {hit : Option CacheEntry} {init db db' : Db} {key : String}
  {request creator : TransactionEventCreateRequest} {W : Overlay} {reply : TransactionProcessingResult}
  {log : List Commit} {e e' : TransactionEvent}

theorem StemsFrom.mono (h : StemsFrom db.accounts request e) (he : EventStep e e')
    (ha : Grows AccountStep (fun _ => False) db.accounts db'.accounts) : StemsFrom db'.accounts request e' := by
  obtain ⟨a, hmem, hno, hid⟩ := h.account
  obtain ⟨a', hmem', hid', hno'⟩ := ha.mem_left hmem
  have haccount : ∃ a ∈ db'.accounts, a.accountNo = request.accountNo ∧ a.id = e.accountId :=
    ⟨a', hmem', hno'.trans hno, hid'.trans hid⟩
  rcases he with rfl | ⟨_, t, rfl⟩
  · exact { h with account := haccount }
  · exact { h with account := haccount }

theorem Created.stems {a : Account} {ev : TransactionEvent} {t : Time} (hc : Created db key request a ev t)
    (hl : Located opts w db request a) (s : TransactionStatus) : StemsFrom db.accounts request (withStatus ev s t) := by
  have hmem : a ∈ db.accounts := List.mem_of_find?_eq_some hl.found
  have hno : a.accountNo = request.accountNo := by simpa using List.find?_some hl.found
  rw [hc.row]
  exact ⟨rfl, rfl, rfl, rfl, rfl, a, hmem, hno, rfl⟩

/-- The event that a commit creates stems from its request. -/
theorem Committed.stems (h : Committed st opts w hit init db key request W reply) :
    ∀ e ∈ W.events.inserted, StemsFrom db.accounts request e := by
  intro e he
  cases h with
  | failed _ hl _ hc _ _ =>
      rw [List.mem_singleton.mp he]
      exact hc.stems hl .failed
  | applied _ hl _ hc _ _ _ =>
      rw [List.mem_singleton.mp he]
      exact hc.stems hl .completed
  | _ => cases he

/-- Every event stems from the request of the commit that created it. -/
theorem Chain.origin (he : init.events = []) (h : Chain st opts init log db) :
    ∀ e ∈ db.events, ∃ y ∈ log, y.creates e.externalEventId ∧ StemsFrom db.accounts y.request e := by
  induction h with
  | nil =>
      intro e hmem
      rw [he] at hmem
      cases hmem
  | @commit log db x al el _ hv hx hc ih =>
      intro e hmem
      have hevolves : Evolves opts db (x.work.apply db) := hx.effect.evolves hc hv
      have hgrow := hevolves.accounts
      have heffect := hx.effect
      rcases Delta.mem_apply.mp hmem with ⟨e₀, he₀, rfl⟩ | hnew
      · obtain ⟨y, hy, hcreates, hstems⟩ := ih e₀ he₀
        have hstep := heffect.event_version hv he₀
        refine ⟨y, List.mem_append_left _ hy, ?_, hstems.mono hstep hgrow⟩
        rw [hstep.externalEventId_eq]
        exact hcreates
      · refine ⟨x, List.mem_append_right _ (List.mem_singleton_self x), ⟨e, hnew, rfl⟩, ?_⟩
        exact (hx.stems e hnew).mono (EventStep.refl e) hgrow
  | deleteExpired _ _ _ _ ih => exact ih
  | setQuarantines _ _ _ ih => exact ih

/-- What a commit has created is still there. -/
theorem Chain.creation {y : Commit} {x : String} (h : Chain st opts init log db) (hy : y ∈ log) (hx : y.creates x) :
    ∃ e ∈ db.events, e.externalEventId = x ∧ StemsFrom db.accounts y.request e := by
  induction h with
  | nil => cases hy
  | @commit log db x' al el _ hv hcom hc ih =>
      have hevolves : Evolves opts db (x'.work.apply db) := hcom.effect.evolves hc hv
      have hgrow := hevolves.accounts
      have heffect := hcom.effect
      rcases List.mem_append.mp hy with hy | hy
      · obtain ⟨e, hmem, hext, hstems⟩ := ih hy
        have hstep := heffect.event_version hv hmem
        refine ⟨_, Delta.mem_apply.mpr (Or.inl ⟨e, hmem, rfl⟩), ?_, hstems.mono hstep hgrow⟩
        rw [hstep.externalEventId_eq]
        exact hext
      · cases List.mem_singleton.mp hy
        obtain ⟨e, hnew, hext⟩ := hx
        exact ⟨e, Delta.mem_apply.mpr (Or.inr hnew), hext, (hcom.stems e hnew).mono (EventStep.refl e) hgrow⟩
  | deleteExpired _ _ _ _ ih => exact ih hy
  | setQuarantines _ _ _ ih => exact ih hy

end Origin

/-! ## Floats of seconds -/

namespace Datetime

open Lib.Python (roundHalfEven_bounds)

/-- A number of microseconds in units of `2 ^ (-k)` seconds, rounded. -/
theorem timestamp_eq (t : Int) : ∃ k m : Nat, k = 52 - Nat.log2 (t.natAbs / 1000000) ∧
    2 * (1000000 * m) ≤ 2 * (t.natAbs * 2 ^ k) + 1000000 ∧ 2 * (t.natAbs * 2 ^ k) ≤ 2 * (1000000 * m) + 1000000 ∧
    timestamp t = (if t < 0 then -(m : Int) else m : Int) / 2 ^ k := by
  obtain ⟨above, below⟩ := roundHalfEven_bounds (by decide : 0 < 1000000)
    (t.natAbs * 2 ^ (52 - Nat.log2 (t.natAbs / 1000000)))
  refine ⟨_, _, rfl, above, below, ?_⟩
  unfold timestamp
  rw [Rat.mkRat_eq_div]
  push_cast
  rfl

/-- Near the epoch the seconds are off by less than half a microsecond. -/
theorem timestamp_near {t : Int} (h : t.natAbs < 2 ^ 33 * 1000000) :
    |timestamp t - t / 1000000| ≤ 1 / 2 ^ 21 := by
  obtain ⟨k, m, hk, above, below, hm⟩ := timestamp_eq t
  have small : t.natAbs / 1000000 < 2 ^ 33 := Nat.div_lt_of_lt_mul (by omega)
  have places : 20 ≤ k := by
    by_cases zero : t.natAbs / 1000000 = 0
    · rw [hk, zero]
      decide
    · have := (Nat.log2_lt zero).mpr small
      omega
  have scale : (2 : Rat) ^ 20 ≤ 2 ^ k := pow_le_pow_right₀ (by norm_num) places
  have above' : 2 * (1000000 * (m : Rat)) ≤ 2 * (t.natAbs * 2 ^ k) + 1000000 := by exact_mod_cast above
  have below' : 2 * ((t.natAbs : Rat) * 2 ^ k) ≤ 2 * (1000000 * m) + 1000000 := by exact_mod_cast below
  have off : |(m : Rat) / 2 ^ k - t.natAbs / 1000000| ≤ 1 / 2 ^ 21 := by
    have quotient : (m : Rat) / 2 ^ k - t.natAbs / 1000000 = (1000000 * m - t.natAbs * 2 ^ k) / (1000000 * 2 ^ k) := by
      field_simp
    rw [quotient, abs_div, abs_of_pos (by positivity : (0 : Rat) < 1000000 * 2 ^ k), div_le_iff₀ (by positivity), abs_le]
    constructor <;> linarith
  rw [hm]
  by_cases negative : t < 0
  · have sign : (t : Rat) = -(t.natAbs : Rat) := by
      have : t = -(t.natAbs : Int) := by omega
      rw [this]; push_cast; simp
    rw [if_pos negative, sign, ← abs_neg]
    convert off using 2
    push_cast
    ring
  · have sign : (t : Rat) = (t.natAbs : Rat) := by
      have : t = (t.natAbs : Int) := by omega
      rw [this]; push_cast; simp
    rw [if_neg negative, sign]
    push_cast
    exact off

/-- Far from the epoch the seconds are far from it, too. -/
theorem timestamp_far {t : Int} (h : 2 ^ 33 * 1000000 ≤ t.natAbs) : 2 ^ 33 ≤ |timestamp t| := by
  obtain ⟨k, m, hk, above, below, hm⟩ := timestamp_eq t
  have whole : 2 ^ 33 * 2 ^ k ≤ m := by
    have := Nat.mul_le_mul_right (2 ^ k) h
    nlinarith
  have size : |timestamp t| = m / 2 ^ k := by
    rw [hm, abs_div, abs_of_pos (by positivity : (0 : Rat) < 2 ^ k)]
    congr 1
    split_ifs <;> simp
  rw [size, le_div_iff₀ (by positivity)]
  exact_mod_cast whole

/-- **Equal timestamps are equal instants**, when one of them is near the epoch. -/
theorem timestamp_inj {t t' : Int} (h : t.natAbs < 2 ^ 33 * 1000000 ∨ t'.natAbs < 2 ^ 33 * 1000000) :
    timestamp t = timestamp t' ↔ t = t' := by
  refine ⟨fun same => ?_, congrArg timestamp⟩
  wlog near : t.natAbs < 2 ^ 33 * 1000000 generalizing t t'
  · exact (this h.symm same.symm (h.resolve_left near)).symm
  have within := timestamp_near near
  by_cases near' : t'.natAbs < 2 ^ 33 * 1000000
  · have within' := timestamp_near near'
    rw [← same] at within'
    have close : |((t - t' : Int) : Rat)| < 1 := by
      rw [abs_le] at within within'
      rw [abs_lt]
      push_cast
      constructor <;> linarith
    have : |t - t'| < 1 := by exact_mod_cast close
    rw [abs_lt] at this
    omega
  · have far := timestamp_far (not_lt.mp near')
    rw [← same] at far
    have small : |(t : Rat)| ≤ 2 ^ 33 * 1000000 - 1 := by
      rw [abs_le]
      constructor
      · have : -(2 ^ 33 * 1000000 - 1) ≤ t := by omega
        exact_mod_cast this
      · have : t ≤ 2 ^ 33 * 1000000 - 1 := by omega
        exact_mod_cast this
    rw [abs_le] at within small
    rcases le_abs.mp far with far | far <;> linarith

/-- Where the floats cannot tell microseconds apart, other instants match. -/
example : timestamp 253402300799999999 = timestamp 253402300799999998 := by decide +kernel

/-- Timezone-aware datetimes that match are one instant. -/
theorem instant_eq_of_match {d d' : Datetime} (hd : d.utcoffset.isSome = true) (hd' : d'.utcoffset.isSome = true)
    (h : datetimesMatch d d' = true) (near : d'.Near ∨ d.Near) : d'.instant = d.instant := by
  obtain ⟨o, ho⟩ := Option.isSome_iff_exists.mp hd
  obtain ⟨o', ho'⟩ := Option.isSome_iff_exists.mp hd'
  unfold datetimesMatch at h
  unfold Near at near
  unfold instant at near ⊢
  rw [ho, ho'] at h near
  rw [ho, ho']
  exact (timestamp_inj near).mp (beq_iff_eq.mp h).symm

end Datetime

/-! ## What is compared -/

section Compared

variable {st : Settings} {opts : Opts} {w : Wiring} {hit : Option CacheEntry} {init db : Db} {key : String}
  {request creator : TransactionEventCreateRequest} {W : Overlay} {reply : TransactionProcessingResult}
  {log : List Commit} {e : TransactionEvent}

theorem ensureDuplicate_same {accountId : Nat} (h : ensureDuplicateMatchesRequest e request accountId = .ok ()) :
    e.accountId = accountId ∧ e.eventType = request.eventType ∧ e.amount = request.amount ∧
      e.currency = request.currency ∧ datetimesMatch e.occurredAt request.occurredAt = true := by
  unfold ensureDuplicateMatchesRequest at h
  split_ifs at h
  simp_all

theorem ensureDuplicate_invalid {accountId : Nat} {x : Exc}
    (h : ensureDuplicateMatchesRequest e request accountId = .error x) : ∃ m, x = .invalidTransactionEvent m := by
  unfold ensureDuplicateMatchesRequest at h
  split_ifs at h <;> cases h <;> exact ⟨_, rfl⟩

/-- A request that passes the comparison is the instruction that the event stems from. -/
theorem StemsFrom.same {a : Account} (h : StemsFrom db.accounts creator e) (hv : db.Valid)
    (ha : db.accountByNo request.accountNo = some a) (hx : ensureDuplicateMatchesRequest e request a.id = .ok ()) :
    SameInstruction request creator := by
  obtain ⟨hacc, htype, hamount, hcur, hat⟩ := ensureDuplicate_same hx
  obtain ⟨b, hb, hno, hid⟩ := h.account
  have hab : b = a := List.inj_on_of_nodup_map hv.account_id hb (List.mem_of_find?_eq_some ha) (hid.trans hacc)
  have hano : a.accountNo = request.accountNo := by simpa using List.find?_some ha
  rw [h.occurredAt] at hat
  refine ⟨?_, htype.symm.trans h.eventType, hamount.symm.trans h.amount, hcur.symm.trans h.currency, fun near => ?_⟩
  · rw [← hano, ← hno, hab]
  · exact Datetime.instant_eq_of_match creator.occurredAt_aware request.occurredAt_aware hat near

/-- A started call that answers `duplicated` has found the event of its own instruction. -/
theorem Committed.duplicated (h : Committed st opts w hit init db key request W reply)
    (hs : W.records.inserted ≠ []) (hd : reply.duplicated = true) :
    ∃ a e, db.accountByNo request.accountNo = some a ∧ db.eventByExternalId request.externalEventId = some e ∧
      ensureDuplicateMatchesRequest e request a.id = .ok () := by
  cases h with
  | replay _ _ _ => exact absurd rfl hs
  | cached _ _ _ _ => exact absurd rfl hs
  | refused _ _ => cases hd
  | duplicate _ hl he hx _ => exact ⟨_, _, hl.found, he, hx⟩
  | failed _ _ _ _ _ _ => cases hd
  | applied _ _ _ _ _ _ _ => cases hd

/-- **A `duplicated` answer is given only to the instruction that created the event.** -/
theorem Chain.duplicated (he : init.events = []) (h : Chain st opts init log db) :
    ∀ x ∈ log, x.started = true → x.reply.duplicated = true →
      ∃ y ∈ log, y.creates x.request.externalEventId ∧ SameInstruction x.request y.request := by
  induction h with
  | nil => exact fun x hx => by cases hx
  | @commit log db z al el hchain hv hcom hc ih =>
      intro x hx hs hd
      rcases List.mem_append.mp hx with hx | hx
      · obtain ⟨y, hy, hcreates, hsame⟩ := ih x hx hs hd
        exact ⟨y, List.mem_append_left _ hy, hcreates, hsame⟩
      · have hxz : x = z := List.mem_singleton.mp hx
        subst hxz
        obtain ⟨a, e, ha, hfound, hmatch⟩ := hcom.duplicated (by simpa [Commit.started] using hs) hd
        obtain ⟨y, hy, hcreates, hstems⟩ := hchain.origin he e (List.mem_of_find?_eq_some hfound)
        have hext : e.externalEventId = x.request.externalEventId := by simpa using List.find?_some hfound
        rw [hext] at hcreates
        exact ⟨y, List.mem_append_left _ hy, hcreates, hstems.same hv ha hmatch⟩
  | deleteExpired _ _ _ _ ih => exact ih
  | setQuarantines _ _ _ ih => exact ih

/-- What a started call can commit for another instruction, once it has not missed its original. -/
theorem Committed.declined {x : Commit}
    (h : Committed st opts x.wiring x.cacheHit init db x.key x.request x.work x.reply)
    (hs : x.started = true) (hv : db.Valid) (he : e ∈ db.events) (hext : e.externalEventId = x.request.externalEventId)
    (hstems : StemsFrom db.accounts creator e) (hne : ¬ SameInstruction x.request creator)
    (horig : x.reply ≠ failureResult .originalTransactionNotFound) : Declined db.accounts x := by
  have hfound : db.eventByExternalId x.request.externalEventId = some e := by
    cases hf : db.eventByExternalId x.request.externalEventId with
    | none =>
        have := List.find?_eq_none.mp hf e he
        simp [hext] at this
    | some e' =>
        have hext' : e'.externalEventId = x.request.externalEventId := by simpa using List.find?_some hf
        rw [List.inj_on_of_nodup_map hv.event_external he (List.mem_of_find?_eq_some hf) (hext.trans hext'.symm)]
  obtain ⟨tid, wiring, key, request, cacheHit, work, reply⟩ := x
  dsimp only at h hs hext hne horig hfound ⊢
  cases h with
  | replay _ _ _ => cases hs
  | cached _ _ _ _ => cases hs
  | refused _ hrefusal =>
      refine ⟨?_, rfl, rfl⟩
      cases hrefusal with
      | account h =>
          refine Or.inr (Or.inl ⟨rfl, fun a ha hno => ?_⟩)
          have := List.find?_eq_none.mp h a ha
          simp [hno] at this
      | quarantined _ hw _ => exact Or.inr (Or.inr ⟨hw, _, rfl⟩)
      | mismatch _ _ hx =>
          obtain ⟨m, hm⟩ := ensureDuplicate_invalid hx
          rw [hm]
          exact Or.inl rfl
      | noLedger _ _ _ _ => exact Or.inl rfl
      | original _ _ _ _ _ => exact absurd rfl horig
  | duplicate _ hl he' hx _ =>
      rw [he'] at hfound
      cases hfound
      exact absurd (hstems.same hv hl.found hx) hne
  | failed _ _ _ hc _ _ => rw [hc.absent] at hfound; cases hfound
  | applied _ _ _ hc _ _ _ => rw [hc.absent] at hfound; cases hfound

end Compared

/-! ## A call that comes after the event -/

section Later

variable {st : Settings} {calls : List Call} {sh : Shared} {c c' : Config} {call : Call} {x : String}

theorem Aware.crash {l : Session} {p : Py TransactionProcessingResult} (h : Aware x ⟨l, p⟩) :
    Aware x ⟨l.crash, .raise .crashed⟩ := by
  refine ⟨?_, rfl, h.active⟩
  intro _ _
  exact nofun

theorem Aware.start (call : Call) (i : Nat) :
    Aware call.request.externalEventId ⟨call.session i, call.program st⟩ :=
  ⟨process_resolves ⟨st, call.wiring⟩ call.key call.request, rfl, rfl⟩

/-- A step, in a state that holds the event. -/
theorem Aware.step {label : Label} {i : Nat} {t : Thread Op Op.Res Exc Session TransactionProcessingResult}
    (h : ∀ t, c.threads[i]? = some t → Aware x t) (hdb : (c.shared.db.eventByExternalId x).isSome = true)
    (hs : EventConsistency.step c label = some c') (ht : c'.threads[i]? = some t) : Aware x t := by
  rcases step_thread hs ht with hold | ⟨l, o, k, hold, ⟨fault, r, sh', _, hx, hprog⟩ | rfl⟩
  · exact h t hold
  · have := (h _ hold).exec hdb hx
    rw [← hprog] at this
    exact this
  · exact (h _ hold).crash

theorem Declined.anti {accounts accounts' : List Account} {y : Commit} (h : Declined accounts' y)
    (hg : Grows AccountStep (fun _ => False) accounts accounts') : Declined accounts y := by
  refine { h with answer := h.answer.imp_right (Or.imp_left fun ⟨hr, hno⟩ => ⟨hr, fun a ha heq => ?_⟩) }
  obtain ⟨a', ha', _, hno'⟩ := hg.mem_left ha
  exact hno a' ha' (hno'.trans heq)

/-- The commits of a call that began after another instruction had created its event are declined. -/
theorem later_declined {y : Commit} {i : Nat} (h₀ : Initial sh) (h : Reaches anyStep (start st sh calls) c)
    (hy : y ∈ c.shared.log) (ht : c.threads[i]? = some ⟨call.session i, call.program st⟩)
    (hx : y.creates call.request.externalEventId) (hne : ¬ SameInstruction call.request y.request)
    (h' : Reaches anyStep c c') :
    y ∈ c'.shared.log ∧ (∀ t, c'.threads[i]? = some t → Aware call.request.externalEventId t) ∧
      ∀ z ∈ c'.shared.log, z ∉ c.shared.log → z.tid = i → z.started = true → Declined sh.db.accounts z := by
  have hcall : calls[i]? = some call := ((h.coherent_any h₀).1.made i (call.session i) (by simp [Pool.locs, ht])).2
  induction h' with
  | refl =>
      refine ⟨hy, fun t ht' => ?_, fun z hz hnew => absurd hz hnew⟩
      rw [ht] at ht'
      cases ht'
      exact Aware.start call i
  | @step c₁ c₂ label h' _ hs ih =>
      obtain ⟨hy₁, haware, hdeclined⟩ := ih
      have hreach := h.trans h'
      have hinv := (hreach.mono fun c label _ => permits_everything c label).inv rfl h₀ (Admits.any rfl rfl)
      have hchain := (hreach.coherent_any h₀).2
      obtain ⟨e, hmem, hext, hstems⟩ := hchain.creation hy₁ hx
      have hdb : (c₁.shared.db.eventByExternalId call.request.externalEventId).isSome = true :=
        List.find?_isSome.mpr ⟨e, hmem, by simp [hext]⟩
      refine ⟨?_, fun t ht' => Aware.step haware hdb hs ht', fun z hz hnew htid hstarted => ?_⟩
      · rcases step_commit hinv hs with hlog | ⟨_, _, _, _, _, _, _, hsh⟩
        · rw [hlog]
          exact hy₁
        · rw [hsh]
          exact List.mem_append_left _ hy₁
      · rcases step_commit hinv hs with hlog | ⟨j, l, reply, k, rfl, htj, howed, hsh⟩
        · rw [hlog] at hz
          exact hdeclined z hz hnew htid hstarted
        · rw [hsh] at hz
          rcases List.mem_append.mp hz with hz | hz
          · exact hdeclined z hz hnew htid hstarted
          · rw [List.mem_singleton.mp hz] at htid hstarted ⊢
            obtain ⟨hlt, hmade⟩ := hinv.coh.made j l (by simp [Pool.locs, htj])
            have hji : j = i := hlt.symm.trans htid
            subst hji
            have hrequest : l.request = call.request := by
              rw [hcall] at hmade
              exact (congrArg Call.request (Option.some.inj hmade)).symm
            refine Declined.anti ?_ (?_ : Grows AccountStep (fun _ => False) sh.db.accounts c₁.shared.db.accounts)
            · refine howed.shape.declined (x := ⟨l.tid, l.wiring, l.key, l.request, l.cacheHit, l.work, reply⟩) hstarted
                hinv.coh.valid hmem ?_ hstems ?_ (haware _ htj).commit
              · exact hext.trans (congrArg TransactionEventCreateRequest.externalEventId hrequest).symm
              · exact fun hsame => hne (hrequest ▸ hsame)
            · exact hreach.accounts_grow h₀

/-- **A duplicate answer is only given to the same instruction.** In every reachable state, a call that was started
under a fresh key and has answered `duplicated` agrees with the request that created the event; and a call that begins
after another instruction has created the event of its external id is declined and moves no money. -/
theorem duplicate_answers (h₀ : Initial sh) (he : sh.db.events = []) (h : Reaches anyStep (start st sh calls) c) :
    (∀ x ∈ c.shared.log, x.started = true → x.reply.duplicated = true →
      ∃ y ∈ c.shared.log, y.creates x.request.externalEventId ∧ SameInstruction x.request y.request) ∧
    ∀ y ∈ c.shared.log, ∀ (i : Nat) (call : Call), c.threads[i]? = some ⟨call.session i, call.program st⟩ →
      y.creates call.request.externalEventId → ¬ SameInstruction call.request y.request →
      ∀ c', Reaches anyStep c c' → ∀ x ∈ c'.shared.log, x ∉ c.shared.log → x.tid = i → x.started = true →
        Declined sh.db.accounts x := by
  refine ⟨(h.coherent_any h₀).2.duplicated he, ?_⟩
  intro y hy i call ht hx hne c' h'
  exact (later_declined h₀ h hy ht hx hne h').2.2

end Later

/-- Steps of one call leave another one where it is. -/
theorem follow_other {i j : Nat} (hne : j ≠ i) (n : Nat) (c : Config) :
    ((follow c (List.replicate n (.run i))).getD c).threads[j]? = c.threads[j]? := by
  cases hf : follow c (List.replicate n (.run i)) with
  | none => rfl
  | some c' =>
      -- induction on the number of steps; `step_run` says that a step of call i replaces entry i of the pool
      induction n generalizing c with
      | zero =>
          cases hf
          rfl
      | succ n ih =>
          rw [List.replicate_succ, follow] at hf
          split at hf
          · cases hf
          · rename_i c₁ hs
            have hrest := ih c₁ hf
            obtain ⟨l, o, k, _, _, rfl⟩ := step_run hs
            exact hrest.trans (List.getElem?_set_ne hne.symm)

/-! ## Three requests for two events -/

namespace Sample

/-- A deposit, and the same external event on the other account. -/
def rivals : List Call := [bareCall "key-1" deposit, bareCall "key-2" rival]

/-- The deposit has committed and the other call has not begun. -/
def created : Config :=
  (follow (start settings shared rivals) (List.replicate 19 (.run 0))).getD (start settings shared rivals)

/-- The other call has answered too. -/
def refused : Config := (follow created (List.replicate 13 (.run 1))).getD created

/-- The CANCEL with another original. -/
def cancelOther : TransactionEventCreateRequest :=
  { cancel with
    originalExternalEventId := some "evt-9"
    original_length := fun o ho => by cases ho; decide
    cancel_reference := by simp [cancel] }

def settingsOther : Settings where
  sha256 bytes :=
    if bytes = canonicalizePayload cancelOther.modelDump then
      "3d485dc434c5ef73b0d4b1c269dba99fc00cd44eb3679d8663a7ea4657cf0d62"
    else sha256 bytes

/-- A deposit, its CANCEL, and the external id of the CANCEL with another original, one after the other. -/
def cancels : List Call := [bareCall "key-1" deposit, bareCall "key-2" cancel, bareCall "key-3" cancelOther]

def cancelled : Config :=
  (follow (start settingsOther shared cancels)
    (List.replicate 19 (.run 0) ++ List.replicate 21 (.run 1) ++ List.replicate 13 (.run 2))).getD
    (start settingsOther shared cancels)

end Sample

/-- The external event on another account is declined. -/
theorem duplicate_answers_rival :
    Reaches anyStep (start Sample.settings Sample.shared Sample.rivals) Sample.refused ∧
      ∃ x ∈ Sample.refused.shared.log, x.tid = 1 ∧ x.reply.statusCode = 422 ∧ Declined Sample.shared.db.accounts x := by
  have hlog : Sample.created.shared.log.map (fun x => (x.tid, x.request.accountNo,
      x.work.events.inserted.map TransactionEvent.externalEventId)) = [(0, "ACC-1", ["evt-1"])] := by
    decide +kernel
  have hlog' : Sample.refused.shared.log.map (fun x => (x.tid, x.started, x.reply.statusCode)) =
      [(0, true, 200), (1, true, 422)] := by
    decide +kernel
  have hreach : Reaches anyStep (start Sample.settings Sample.shared Sample.rivals) Sample.created :=
    Reaches.followed _ fun _ _ _ => trivial
  have hreach' : Reaches anyStep Sample.created Sample.refused := Reaches.followed _ fun _ _ _ => trivial
  have ht : Sample.created.threads[1]? = some ⟨(Sample.bareCall "key-2" Sample.rival).session 1,
      (Sample.bareCall "key-2" Sample.rival).program Sample.settings⟩ := follow_other (by decide) 19 _
  obtain ⟨y, hy, hyfacts⟩ := List.mem_map.mp (hlog ▸ List.mem_singleton_self _)
  obtain ⟨x, hx, hxfacts⟩ := List.mem_map.mp (hlog' ▸ List.mem_cons_of_mem _ (List.mem_singleton_self _))
  simp only [Prod.mk.injEq] at hyfacts hxfacts
  obtain ⟨_, hyno, hyevents⟩ := hyfacts
  obtain ⟨htid, hstarted, hcode⟩ := hxfacts
  have hcreates : y.creates Sample.rival.externalEventId := by
    obtain ⟨e, he, hext⟩ := List.mem_map.mp (hyevents ▸ List.mem_singleton_self "evt-1")
    exact ⟨e, he, hext⟩
  have hother : ¬ SameInstruction Sample.rival y.request := by
    intro hsame
    have hno := hsame.accountNo
    rw [hyno] at hno
    exact absurd hno (by decide)
  have hnew : x ∉ Sample.created.shared.log := by
    intro hold
    have hmem := hlog ▸ List.mem_map_of_mem hold
    have htid' : x.tid = 0 := congrArg Prod.fst (List.mem_singleton.mp hmem)
    omega
  exact ⟨hreach.trans hreach', x, hx, htid, hcode, (duplicate_answers Sample.initial rfl hreach).2 y hy 1 _ ht hcreates
    hother _ hreach' x hx hnew htid hstarted⟩

/-- A CANCEL of evt-9 is answered as a duplicate of the CANCEL of evt-1. -/
theorem duplicate_other_original :
    Reaches anyStep (start Sample.settingsOther Sample.shared Sample.cancels) Sample.cancelled ∧
      Sample.cancelled.shared.log.map (fun x => (x.started, x.request.externalEventId, x.request.eventType,
          x.request.originalExternalEventId, x.work.events.inserted.map TransactionEvent.externalEventId)) =
        [(true, "evt-1", .deposit, none, ["evt-1"]), (true, "evt-2", .cancel, some "evt-1", ["evt-2"]),
          (true, "evt-2", .cancel, some "evt-9", [])] ∧
      Sample.cancelled.shared.log.map (fun x => (x.reply.statusCode, x.reply.duplicated)) =
        [(200, false), (200, false), (200, true)] :=
  ⟨Reaches.followed _ fun _ _ _ => trivial, by decide +kernel, by decide +kernel⟩

end EventConsistency
