import EventConsistency.Runs
import EventConsistency.Verify.Discipline

/-!
# Waiting calls

* `Tracked` : every call keeps the order of `discipline`, and its session holds what its progress says;
  `Reaches.tracked` : so it is in every reachable state;
* `waitsFor c i j` : call `i` cannot go on because of what call `j` holds; `refused_iff` : there is no other reason;
* `Op.rank` : the four kinds of waiting in the order in which every call comes to them;
* **`deadlock_free`** : no reachable state has a cycle of calls that wait for each other.
-/

namespace EventConsistency

open Lib

/-! ## The progress of every call -/

/-- The call keeps the order from the progress `g` on, and its session holds what `g` says. -/
structure TracksCall (g : Progress) (t : Thread Op Op.Res Exc Session TransactionProcessingResult) : Prop where
  tracks : Tracks g t.loc
  rest : Disciplined t.loc.wiring t.prog (fun _ _ => True) g

/-- Every call is somewhere in the order. -/
def Tracked (c : Config) : Prop :=
  ∀ (i : Nat) (t : Thread Op Op.Res Exc Session TransactionProcessingResult), c.threads[i]? = some t → ∃ g, TracksCall g t

section Tracked

variable {st : Settings} {opts : Opts} {calls : List Call} {sh : Shared} {c c' : Config} {g : Progress}

theorem runStmt_wiring {stmt : Stmt} {sh sh' : Shared} {l l' : Session} {r : stmt.Res}
    (h : runStmt stmt sh l = .ok (r, sh', l')) : l'.wiring = l.wiring := by
  cases stmt <;> simp only [runStmt] at h <;> (repeat' split at h) <;> cases h <;> rfl

/-- A call stays wired as it is. -/
theorem exec_wiring (fault : Bool) (o : Op) (sh : Shared) (l : Session) :
    (exec fault o sh l).2.2.wiring = l.wiring := by
  cases o with
  | sql site stmt =>
      obtain ⟨⟨r, sh', l'⟩, hx⟩ : ∃ out, exec fault (.sql site stmt) sh l = out := ⟨_, rfl⟩
      rw [hx]
      rcases exec_sql_cases hx with ⟨x, rfl, rfl, rfl | rfl⟩ | ⟨_, _, _, a, rfl, hrun⟩
      · rfl
      · rfl
      · exact (runStmt_wiring hrun :)
  | commit reply => simp only [exec]; split_ifs <;> rfl
  | lockAcquire key => simp only [exec]; split_ifs <;> rfl
  | lockRelease key token => simp only [exec]; split_ifs <;> rfl
  | cacheGet key => simp only [exec]; split <;> rfl
  | cacheSet site key response => simp only [exec]; split_ifs <;> rfl
  | _ => rfl

/-- One operation of a call. -/
theorem TracksCall.exec {fault : Bool} {o : Op} {k : Except Exc o.Res → Py TransactionProcessingResult} {sh sh' : Shared}
    {l l' : Session} {r : Except Exc o.Res} (h : TracksCall g ⟨l, .op o k⟩) (hpre : owes st opts o sh l)
    (hx : EventConsistency.exec fault o sh l = (r, sh', l')) : TracksCall (g.after o r) ⟨l', k r⟩ := by
  obtain ⟨hperm, hk⟩ := h.rest () trivial
  have howes : ∀ site stmt, o = .sql site stmt → l.failed = false → stmt.owes l := by
    rintro site stmt rfl hok
    exact hpre hok
  obtain ⟨hans, htr⟩ := h.tracks.exec hperm howes hx
  have hw : l'.wiring = l.wiring := by
    have := exec_wiring fault o sh l
    rw [hx] at this
    exact this
  refine ⟨htr, ?_⟩
  rw [hw]
  exact hk r () _ ⟨hans, rfl⟩

theorem TracksCall.crash (l : Session) : TracksCall { failed := l.failed } ⟨l.crash, .raise .crashed⟩ :=
  ⟨Tracks.empty rfl rfl rfl rfl, fun _ _ => trivial⟩

theorem TracksCall.start (call : Call) (i : Nat) : TracksCall {} ⟨call.session i, call.program st⟩ :=
  ⟨Tracks.empty rfl rfl rfl rfl, process_disciplined ⟨st, call.wiring⟩ call.key call.request⟩

theorem Tracked.step {Q : Except Exc TransactionProcessingResult → Shared → Session → Prop} {label : Label}
    (hinv : Inv (logic st opts) (Coherent st opts calls) Q c) (h : Tracked c) (hs : step c label = some c') :
    Tracked c' := by
  intro i t ht
  rcases step_thread hs ht with hold | ⟨l, o, k, hold, ⟨fault, r, sh', _, hx, hprog⟩ | rfl⟩
  · exact h i t hold
  · obtain ⟨g, hg⟩ := h i _ hold
    have hpre := (hinv.wp _ (List.mem_of_getElem? hold) c.shared ((logic st opts).rely_refl l c.shared)).1
    have := hg.exec hpre hx
    rw [← hprog] at this
    exact ⟨_, this⟩
  · exact ⟨_, TracksCall.crash l⟩

/-- **In every reachable state every call is somewhere in the order.** -/
theorem Reaches.tracked (h₀ : Initial sh) (h : Reaches anyStep (start st sh calls) c) : Tracked c := by
  induction h with
  | refl =>
      intro i t ht
      obtain ⟨call, _, rfl⟩ := getElem?_start ht
      exact ⟨_, TracksCall.start call i⟩
  | @step c₁ c₂ label h _ hs ih =>
      have hall : Reaches (permits everything) (EventConsistency.start st sh calls) c₁ :=
        h.mono fun c label _ => permits_everything c label
      exact ih.step (hall.inv rfl h₀ (Admits.any rfl rfl)) hs

end Tracked

/-! ## Who waits for whom -/

/-- Call `i` cannot go on because of what call `j` holds. -/
def waitsFor (c : Config) (i j : Nat) : Bool :=
  i != j && match c.threads[i]?, c.threads[j]? with
    | some ⟨l, .op o _⟩, some t => blocked [t.loc] o c.shared l
    | _, _ => false

theorem blocked_iff {ms : List Session} {o : Op} {sh : Shared} {l : Session} :
    blocked ms o sh l = true ↔ ∃ m ∈ ms, blocked [m] o sh l = true := by
  cases o with
  | sql site stmt =>
      cases hf : l.failed with
      | true => simp [blocked, hf]
      | false =>
          cases hs : stmt.sendable with
          | false => simp [blocked, hs]
          | true =>
              cases stmt <;> simp [blocked, hf, hs]
              · split <;> simp
              · split <;> simp
  | _ => simp [blocked]

section Waiting

variable {c : Config} {i j : Nat} {l : Session} {o : Op} {k : Except Exc o.Res → Py TransactionProcessingResult}

theorem waitsFor_cases (ht : c.threads[i]? = some ⟨l, .op o k⟩) (h : waitsFor c i j = true) :
    i ≠ j ∧ ∃ t, c.threads[j]? = some t ∧ blocked [t.loc] o c.shared l = true := by
  simp only [waitsFor, ht, Bool.and_eq_true, bne_iff_ne] at h
  refine ⟨h.1, ?_⟩
  cases htj : c.threads[j]? with
  | none => simp [htj] at h
  | some t => exact ⟨t, rfl, by simpa [htj] using h.2⟩

/-- A call that has something left to do can do it unless it waits for another call. -/
theorem refused_iff (ht : c.threads[i]? = some ⟨l, .op o k⟩) : step c (.run i) = none ↔ ∃ j, waitsFor c i j = true := by
  have hstep : step c (.run i) = none ↔ blocked (others c i) o c.shared l = true := by
    simp only [step, ht]
    split
    · rename_i hb
      simp [hb]
    · rename_i hb
      simp [hb]
  have hothers : ∀ m, m ∈ others c i ↔ ∃ j t, j ≠ i ∧ c.threads[j]? = some t ∧ t.loc = m := by
    intro m
    simp only [others, List.mem_eraseIdx_iff_getElem?, Pool.locs, List.getElem?_map, Option.map_eq_some_iff]
    constructor
    · rintro ⟨j, hj, t, ht, hm⟩
      exact ⟨j, t, hj, ht, hm⟩
    · rintro ⟨j, t, hj, ht, hm⟩
      exact ⟨j, hj, t, ht, hm⟩
  rw [hstep, blocked_iff]
  constructor
  · rintro ⟨m, hm, hb⟩
    obtain ⟨j, t, hj, htj, rfl⟩ := (hothers m).mp hm
    exact ⟨j, by simp [waitsFor, ht, htj, hb, hj.symm]⟩
  · rintro ⟨j, hj⟩
    obtain ⟨hne, t, htj, hb⟩ := waitsFor_cases ht hj
    exact ⟨t.loc, (hothers t.loc).mpr ⟨j, t, hne.symm, htj, rfl⟩, hb⟩

/-- What an operation can wait for is held by `m`. -/
def Op.heldBy (m : Session) : Op → Prop
  | .sql _ (.insertRecord ..) => m.keys ≠ []
  | .sql _ (.selectAccountForUpdate _) => m.accountLocks ≠ []
  | .sql _ (.selectEventForUpdate _) => m.eventLocks ≠ []
  | .sql _ (.insertEvent ..) => m.externalIds ≠ []
  | .sql _ (.updateEventStatus event ..) => event.id ∈ m.eventLocks
  | .sql _ (.insertLedger eventId ..) => ∃ r ∈ m.work.ledger.inserted, r.transactionEventId = eventId
  | .sql _ (.updateBalance account _) => account.id ∈ m.accountLocks
  | _ => False

theorem heldBy_of_blocked {m : Session} {sh : Shared} (h : blocked [m] o sh l = true) :
    l.failed = false ∧ o.heldBy m := by
  cases o with
  | sql site stmt =>
      cases hf : l.failed with
      | true => simp [blocked, hf] at h
      | false =>
          refine ⟨rfl, ?_⟩
          have hs : stmt.sendable = true := by
            simp only [blocked, Bool.and_eq_true] at h
            exact h.1.2
          simp only [blocked, hf, hs, List.any_cons, List.any_nil, Bool.or_false, Bool.not_false, Bool.true_and] at h
          cases stmt with
          | insertRecord key _ _ _ =>
              obtain ⟨r, hr, _⟩ := List.any_eq_true.mp h
              exact List.ne_nil_of_mem (List.mem_map_of_mem hr)
          | insertEvent x _ _ _ _ _ _ =>
              obtain ⟨e, he, _⟩ := List.any_eq_true.mp h
              exact List.ne_nil_of_mem (List.mem_map_of_mem he)
          | selectAccountForUpdate no =>
              dsimp only at h
              split at h
              · cases h
              · exact List.ne_nil_of_mem (List.contains_iff_mem.mp h)
          | selectEventForUpdate x =>
              dsimp only at h
              split at h
              · cases h
              · exact List.ne_nil_of_mem (List.contains_iff_mem.mp h)
          | updateEventStatus event _ _ => simpa [Op.heldBy] using h
          | insertLedger eventId _ _ _ _ => simpa [Op.heldBy] using h
          | updateBalance account _ => simpa [Op.heldBy] using h
          | _ => cases h
  | _ => simp [blocked] at h

/-! ## The four kinds of waiting -/

/-- The place of a statement that can wait in the order of the four kinds: the key of a record, an account, an
original, an external event id. -/
def Op.rank : Op → Nat
  | .sql _ (.insertRecord ..) => 0
  | .sql _ (.selectAccountForUpdate _) => 1
  | .sql _ (.selectEventForUpdate _) => 2
  | .sql _ (.insertEvent ..) => 3
  | _ => 4

/-- The session holds something of the kind. -/
def Session.holdsKind (l : Session) : Nat → Prop
  | 0 => l.keys ≠ []
  | 1 => l.accountLocks ≠ []
  | 2 => l.eventLocks ≠ []
  | 3 => l.externalIds ≠ []
  | _ => False

theorem Tracks.not_holdsKind {g : Progress} (h : Tracks g l) {n : Nat} (hr : n = 0 → g.record = false)
    (ha : n ≤ 1 → g.account = none) (ho : n ≤ 2 → g.original = false) (he : g.event = none) :
    ∀ n', n ≤ n' → ¬ l.holdsKind n' := by
  intro n' hn
  match n' with
  | 0 => simp [Session.holdsKind, Session.keys, h.record (hr (by omega))]
  | 1 => simp [Session.holdsKind, h.account, ha hn]
  | 2 => simp [Session.holdsKind, h.original (ho hn)]
  | 3 =>
      have hids := h.event
      rw [he] at hids
      simp [Session.holdsKind, Session.externalIds, List.map_eq_nil_iff.mp hids]
  | _ + 4 => exact id

/-- **A call that comes to one of the four kinds holds nothing of that kind or a later one.** -/
theorem TracksCall.not_holdsKind {g : Progress} (h : TracksCall g ⟨l, .op o k⟩) (ho : o.rank < 4) {n : Nat}
    (hn : o.rank ≤ n) : ¬ l.holdsKind n := by
  cases hf : g.failed with
  | true =>
      have hg := h.tracks.gone hf
      exact h.tracks.not_holdsKind (n := 0) (by simp [hg]) (by simp [hg]) (by simp [hg]) (by simp [hg]) n (Nat.zero_le n)
  | false =>
      obtain ⟨hperm, _⟩ := h.rest () trivial
      cases o with
      | sql site stmt =>
          have hperm := hperm hf
          cases stmt with
          | insertRecord _ _ _ _ =>
              have hg : g = {} := hperm
              exact h.tracks.not_holdsKind (by simp [hg]) (by simp [hg]) (by simp [hg]) (by simp [hg]) n hn
          | selectAccountForUpdate _ =>
              obtain ⟨ha, _, ho, he⟩ := hperm
              exact h.tracks.not_holdsKind (by simp [Op.rank]) (fun _ => ha) (fun _ => ho) he n hn
          | selectEventForUpdate _ =>
              obtain ⟨ho, he⟩ := hperm
              exact h.tracks.not_holdsKind (by simp [Op.rank]) (by simp [Op.rank]) (fun _ => ho) he n hn
          | insertEvent _ _ _ _ _ _ _ =>
              exact h.tracks.not_holdsKind (by simp [Op.rank]) (by simp [Op.rank]) (by simp [Op.rank]) hperm n hn
          | _ => simp [Op.rank] at ho
      | _ => simp [Op.rank] at ho

/-! ## No cycles -/

variable {st : Settings} {calls : List Call} {sh : Shared}

theorem getElem?_locs {t : Thread Op Op.Res Exc Session TransactionProcessingResult} (h : c.threads[i]? = some t) :
    c.locs[i]? = some t.loc := by
  simp [Pool.locs, h]

/-- **A call waits only for one of the four kinds.** The other statements touch rows that the call has inserted or
locked itself. -/
theorem waitsFor_holds {Q : Except Exc TransactionProcessingResult → Shared → Session → Prop}
    (hinv : Inv (logic st everything) (Coherent st everything calls) Q c) (htr : Tracked c)
    (ht : c.threads[i]? = some ⟨l, .op o k⟩) (h : waitsFor c i j = true) :
    ∃ t, c.threads[j]? = some t ∧ o.rank < 4 ∧ t.loc.holdsKind o.rank := by
  obtain ⟨hne, t, htj, hb⟩ := waitsFor_cases ht h
  obtain ⟨hok, hholds⟩ := heldBy_of_blocked hb
  have hapart := hinv.coh.apart i j l t.loc hne (getElem?_locs ht) (getElem?_locs htj)
  have hmem : t.loc ∈ c.locs := List.mem_of_getElem? (getElem?_locs htj)
  have howns := hinv.coh.owned l (List.mem_of_getElem? (getElem?_locs ht))
  obtain ⟨g, hg⟩ := htr i _ ht
  obtain ⟨g', hg'⟩ := htr j t htj
  have htracks : Tracks g l := hg.tracks
  have hperm : ∀ site stmt, o = .sql site stmt → g.permitsStmt l.wiring stmt := by
    rintro site stmt rfl
    exact (hg.rest () trivial).1 (hg.tracks.failed.trans hok)
  have howes : ∀ site stmt, o = .sql site stmt → stmt.owes l := by
    rintro site stmt rfl
    exact (hinv.wp _ (List.mem_of_getElem? ht) c.shared ((logic st everything).rely_refl l c.shared)).1 hok
  refine ⟨t, htj, ?_⟩
  clear ht hb hg h
  cases o with
  | sql site stmt =>
      cases stmt with
      | insertRecord _ _ _ _ => exact ⟨by simp [Op.rank], hholds⟩
      | selectAccountForUpdate _ => exact ⟨by simp [Op.rank], hholds⟩
      | selectEventForUpdate _ => exact ⟨by simp [Op.rank], hholds⟩
      | insertEvent _ _ _ _ _ _ _ => exact ⟨by simp [Op.rank], hholds⟩
      | updateEventStatus event _ _ =>
          have hin : event.id ∈ t.loc.eventLocks := hholds
          rcases (howes _ _ rfl).2 with hown | hlock
          · rcases hinv.coh.locked _ hmem _ hin with ⟨e, he, hid⟩ | hown'
            · exact absurd hid ((howns.event _ hown).2 e he)
            · exact absurd hown' (hapart.eventIds _ hown)
          · exact absurd hin (hapart.eventLocks _ hlock)
      | insertLedger eventId _ _ _ _ =>
          obtain ⟨r, hr, hid⟩ := hholds
          have hown : eventId ∈ l.eventIds := by rw [htracks.event, (hperm _ _ rfl).1]; simp
          have hown' : eventId ∈ t.loc.eventIds := by rw [hg'.tracks.event, (hg'.tracks.ledger r hr).1, hid]; simp
          exact absurd hown' (hapart.eventIds _ hown)
      | updateBalance account _ =>
          have hin : account.id ∈ t.loc.accountLocks := hholds
          have hlock : account.id ∈ l.accountLocks := by
            have hacc : g.account = some account.id := hperm _ _ rfl
            rw [htracks.account, hacc]
            simp
          exact absurd hin (hapart.accountLocks _ hlock)
      | _ => exact hholds.elim
  | _ => exact hholds.elim

/-- Where a call is in the order of the four kinds. -/
def rankAt (c : Config) (i : Nat) : Nat := match c.threads[i]? with
  | some ⟨_, .op o _⟩ => o.rank
  | _ => 4

/-- **A call waits only for calls that are further in the order.** -/
theorem waitsFor_rank {Q : Except Exc TransactionProcessingResult → Shared → Session → Prop}
    (hinv : Inv (logic st everything) (Coherent st everything calls) Q c) (htr : Tracked c)
    (h : waitsFor c i j = true) : rankAt c i < rankAt c j := by
  cases hti : c.threads[i]? with
  | none => simp [waitsFor, hti] at h
  | some ti =>
      obtain ⟨l, p⟩ := ti
      cases p with
      | ret _ => simp [waitsFor, hti] at h
      | raise _ => simp [waitsFor, hti] at h
      | op o k =>
          obtain ⟨t, htj, hlt, hholds⟩ := waitsFor_holds hinv htr hti h
          obtain ⟨g, hg⟩ := htr j t htj
          obtain ⟨m, p⟩ := t
          simp only [rankAt, hti, htj]
          cases p with
          | ret _ => exact hlt
          | raise _ => exact hlt
          | op o' k' =>
              rcases Nat.lt_or_ge o.rank o'.rank with hr | hr
              · exact hr
              · exact absurd hholds (hg.not_holdsKind (Nat.lt_of_le_of_lt hr hlt) hr)

/-- **Deadlock freedom.** In every reachable state, no call waits, directly or through others, for itself. -/
theorem deadlock_free (h₀ : Initial sh) (h : Reaches anyStep (start st sh calls) c) (i : Nat) :
    ¬ Relation.TransGen (fun i j => waitsFor c i j = true) i i := by
  have hall : Reaches (permits everything) (start st sh calls) c := h.mono fun c label _ => permits_everything c label
  have hinv := hall.inv rfl h₀ (Admits.any rfl rfl)
  have htr := h.tracked h₀
  have hrank : ∀ {j}, Relation.TransGen (fun i j => waitsFor c i j = true) i j → rankAt c i < rankAt c j := by
    intro j hj
    induction hj with
    | single h => exact waitsFor_rank hinv htr h
    | tail _ h ih => exact Nat.lt_trans ih (waitsFor_rank hinv htr h)
  exact fun hcycle => Nat.lt_irrefl _ (hrank hcycle)

end Waiting

/-- Two calls with the same key and no Redis lock: the second waits for the record of the first. -/
theorem deadlock_free_same_key :
    let calls : List Call := [⟨⟨false, false, true⟩, "key-1", Sample.deposit⟩, ⟨⟨false, false, true⟩, "key-1", Sample.deposit⟩]
    let c := Sample.run calls (List.replicate 3 (.run 0) ++ List.replicate 2 (.run 1))
    waitsFor c 1 0 = true ∧ ∀ i, ¬ Relation.TransGen (fun i j => waitsFor c i j = true) i i :=
  ⟨by decide +kernel, fun i => deadlock_free Sample.initial (Sample.reaches_run _ _) i⟩

end EventConsistency
