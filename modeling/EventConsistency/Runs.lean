import EventConsistency.Coherence

/-!
# Whole runs

* `Initial` : a state in which no call has done anything yet;
* `permits opts` : the steps that the options allow;
* **`Reaches.inv`** : in every state that calls reach from an initial one, the system is coherent and every call
  keeps its obligations up to its end, which is one of those of `Ended`;
* `step_write` : what one step writes: nothing, a commit, a deletion of records, or quarantines;
* **`Reaches.chain`** : the database of a reachable state came about by the commits of its log, each of them one of
  those of `Committed`.
-/

namespace EventConsistency

open Lib

/-- No call has done anything yet. -/
structure Initial (sh : Shared) : Prop where
  init_eq : sh.init = sh.db
  log_eq : sh.log = []
  valid : sh.db.Valid
  drawn : Drawn sh

/-- The start is as the options have it. -/
structure Admits (opts : Opts) (sh : Shared) : Prop where
  cold : opts.cold = true → sh.cache = []
  dicts : opts.dicts = true → BodiesOk sh.db ∧ CachedOk sh.cache

/-- The options ask for nothing. -/
theorem Admits.any {opts : Opts} {sh : Shared} (hc : opts.cold = false) (hd : opts.dicts = false) : Admits opts sh :=
  ⟨fun h => absurd h (by rw [hc]; decide), fun h => absurd h (by rw [hd]; decide)⟩

/-- The call that a session belongs to. -/
def Session.identity (l : Session) : Session :=
  { tid := l.tid, wiring := l.wiring, key := l.key, request := l.request }

/-- The steps that the options allow. -/
def permits (opts : Opts) (c : Config) : Label → Prop
  | .run i => opts.duplicates = false → ∀ l o k, c.threads[i]? = some ⟨l, .op o k⟩ →
      o.meetsDuplicate c.shared l = false
  | .outage i => opts.outages = false → ∀ l o k, c.threads[i]? = some ⟨l, .op o k⟩ → o.usesDatabase = false
  | label => label.within opts

/-- Nothing is excluded. -/
def everything : Opts := { deletes := true, quarantines := true }

theorem permits_everything (c : Config) (label : Label) : permits everything c label := by
  cases label with
  | run i => exact fun h => absurd h (by decide)
  | outage i => exact fun h => absurd h (by decide)
  | deleteExpired _ _ => exact rfl
  | setQuarantines _ => exact rfl
  | crash _ => trivial
  | tick _ => trivial
  | expireLock _ => trivial
  | evict _ => trivial

/-- Nothing is excluded but the deletion of records. -/
def keeping : Opts := { quarantines := true }

theorem permits_keeping {label : Label} (c : Config) (h : label.deletes = false) : permits keeping c label := by
  cases label with
  | run i => exact fun h => absurd h (by decide)
  | outage i => exact fun h => absurd h (by decide)
  | deleteExpired _ _ => cases h
  | setQuarantines _ => exact rfl
  | crash _ => trivial
  | tick _ => trivial
  | expireLock _ => trivial
  | evict _ => trivial

section Runs

variable {st : Settings} {opts : Opts} {calls : List Call} {sh : Shared} {c c' : Config}

/-- A step of the system is a step of the pool. -/
theorem step_pool {label : Label} (hok : permits opts c label) (hs : step c label = some c') :
    Step (act opts) (environment opts) Session.crash Exc.crashed c c' := by
  cases label with
  | run i =>
      obtain ⟨l, o, k, ht, hb, rfl⟩ := step_run hs
      refine Step.run ht ⟨false, ⟨fun _ _ => rfl, fun hd _ => hok hd l o k ht⟩, fun _ => ?_, rfl⟩
      simpa [others, Pool.locs] using hb
  | outage i =>
      obtain ⟨l, o, k, ht, rfl⟩ := step_outage hs
      refine Step.run ht ⟨true, ⟨fun ho hu => ?_, fun _ hf => absurd hf (by decide)⟩,
        fun hf => absurd hf (by decide), rfl⟩
      rw [hok ho l o k ht] at hu
      cases hu
  | crash i =>
      obtain ⟨l, o, k, ht, rfl⟩ := step_crash hs
      exact Step.kill ht
  | deleteExpired now ids => cases hs; exact Step.env ⟨.deleteExpired now ids, hok, rfl⟩
  | setQuarantines quarantines => cases hs; exact Step.env ⟨.setQuarantines quarantines, hok, rfl⟩
  | tick d => cases hs; exact Step.env ⟨.tick d, trivial, rfl⟩
  | expireLock key => cases hs; exact Step.env ⟨.expireLock key, trivial, rfl⟩
  | evict key => cases hs; exact Step.env ⟨.evict key, trivial, rfl⟩

theorem Initial.wellKept (h : Initial sh) (ha : Admits opts sh) : WellKept opts sh where
  since := by rw [h.init_eq]; exact Evolves.refl _
  drawn := h.drawn
  ledger_fk := h.valid.ledger_fk
  history_fk := h.valid.history_fk
  bodies := ha.dicts

theorem getElem?_start {i : Nat} {t : Thread Op Op.Res Exc Session TransactionProcessingResult}
    (h : (start st sh calls).threads[i]? = some t) :
    ∃ call, calls[i]? = some call ∧ t = ⟨call.session i, call.program st⟩ := by
  simp only [start, List.getElem?_mapIdx, Option.map_eq_some_iff] at h
  obtain ⟨call, hc, rfl⟩ := h
  exact ⟨call, hc, rfl⟩

theorem coherent_start (h : Initial sh) (ha : Admits opts sh) :
    Coherent st opts calls sh (start st sh calls).locs := by
  have hfresh : ∀ {i l}, (start st sh calls).locs[i]? = some l →
      ∃ call : Call, calls[i]? = some call ∧ l = call.session i := by
    intro i l hl
    simp only [Pool.locs, List.getElem?_map, Option.map_eq_some_iff] at hl
    obtain ⟨t, ht, rfl⟩ := hl
    obtain ⟨call, hc, rfl⟩ := getElem?_start ht
    exact ⟨call, hc, rfl⟩
  have hmem : ∀ {l}, l ∈ (start st sh calls).locs → ∃ (call : Call) (i : Nat), l = call.session i := by
    intro l hl
    obtain ⟨i, hi⟩ := List.getElem?_of_mem hl
    obtain ⟨call, _, rfl⟩ := hfresh hi
    exact ⟨call, i, rfl⟩
  exact
    { kept := h.wellKept ha
      valid := h.valid
      chain := by rw [h.log_eq, h.init_eq]; exact .nil
      made := fun i l hl => by
        obtain ⟨call, hc, rfl⟩ := hfresh hl
        exact ⟨rfl, hc⟩
      apart := fun i j l m _ hl hm => by
        obtain ⟨_, _, rfl⟩ := hfresh hl
        obtain ⟨_, _, rfl⟩ := hfresh hm
        constructor <;> simp [Call.session, Session.keys, Session.recordIds, Session.externalIds, Session.eventIds,
          Session.ledgerIds, Session.historyIds]
      owned := fun l hl => by
        obtain ⟨_, _, rfl⟩ := hmem hl
        constructor <;> simp [Call.session, Session.recordIds, Session.eventIds, Session.ledgerIds,
          Session.historyIds]
      locked := fun l hl => by
        obtain ⟨_, _, rfl⟩ := hmem hl
        simp [Call.session]
      once := by rw [h.log_eq]; exact List.nodup_nil
      logged := by rw [h.log_eq]; simp
      cached := fun hc => by rw [ha.cold hc]; simp
      hits := fun _ l hl e he => by
        obtain ⟨_, _, rfl⟩ := hmem hl
        cases he
      wrote := fun l hl e he => by
        obtain ⟨_, _, rfl⟩ := hmem hl
        cases he }

/-- The state of a call that has not begun. -/
theorem idle_start {i : Nat} (call : Call) (h : WellKept opts sh) (hlog : sh.log = [])
    (hq : opts.quiet = true → sh.db = sh.init) : Idle opts (call.session i) [] 0 sh (call.session i) where
  tid := rfl
  wiring := rfl
  key := rfl
  request := rfl
  kept := h
  fresh := by rw [hlog]; simp
  faults := rfl
  retries := rfl
  still hq' := ⟨hq hq', hlog⟩
  ok := rfl
  work := rfl
  accountLocks := rfl
  eventLocks := rfl
  started := rfl

theorem program_wp {call : Call} {i : Nat} {l : Session} (h : Idle opts (call.session i) [] 0 sh l)
    (hc : l.cacheWrote = none) :
    (logic st opts).wp (call.program st) (Ended st opts (call.session i)) sh l := by
  unfold Call.program
  exact process_wp (c := call.session i) rfl rfl h hc

/-- A call ends as itself. -/
theorem Ended.identity {c l : Session} {r : Except Exc TransactionProcessingResult} (h : Ended st opts c r sh l)
    (hc : c.identity = c) : Ended st opts l.identity r sh l := by
  have hsame : ∀ {l : Session}, l.tid = c.tid → l.wiring = c.wiring → l.key = c.key → l.request = c.request →
      l.identity = c := by
    intro l h1 h2 h3 h4
    rw [← hc, Session.identity, h1, h2, h3, h4]
    rfl
  cases h with
  | denied hw h =>
      rw [hsame h.tid h.wiring h.key h.request]
      exact .denied hw h
  | done ht hW h =>
      rw [hsame h.tid h.wiring h.key h.request]
      exact .done ht hW h
  | rejected ht hz h =>
      rw [hsame h.tid h.wiring h.key h.request]
      exact .rejected ht hz h
  | faulted ht hy hf hk h =>
      rw [hsame h.tid h.wiring h.key h.request]
      exact .faulted ht hy hf hk h
  | unanswered ht hF hz h =>
      rw [hsame h.tid h.wiring h.key h.request]
      exact .unanswered ht hF hz h

/-- A call has died or ended. -/
def Finished (st : Settings) (opts : Opts) (r : Except Exc TransactionProcessingResult) (sh : Shared) (l : Session) :
    Prop :=
  r = .error .crashed ∨ Ended st opts l.identity r sh l

/-- **In every reachable state the system is coherent, and every call keeps its obligations to its end.** -/
theorem Reaches.inv (hq : opts.quiet = false) (h₀ : Initial sh) (ha : Admits opts sh)
    (h : Reaches (permits opts) (start st sh calls) c) :
    Inv (logic st opts) (Coherent st opts calls) (Finished st opts) c := by
  induction h with
  | refl =>
      refine ⟨coherent_start h₀ ha, fun t ht => ?_⟩
      obtain ⟨i, hi⟩ := List.getElem?_of_mem ht
      obtain ⟨call, _, rfl⟩ := getElem?_start hi
      have hidle : Idle opts (call.session i) [] 0 sh (call.session i) :=
        idle_start call (h₀.wellKept ha) h₀.log_eq fun hq' => by rw [hq] at hq'; cases hq'
      exact Logic.wp_mono (program_wp hidle rfl) fun r sh l hr => Or.inr (hr.identity rfl)
  | step _ hok hs ih =>
      exact ih.step (sound st opts calls hq) (fun _ _ => Or.inl rfl) (step_pool hok hs)

/-- What holds at every operation of a call's program holds at every operation that is left of it. -/
theorem Reaches.all {P : Nat → (o : Op) → (Except Exc o.Res → Py TransactionProcessingResult) → Prop}
    (h₀ : ∀ (i : Nat) (call : Call), calls[i]? = some call → (call.program st).All (P i))
    (h : Reaches (permits opts) (start st sh calls) c) :
    ∀ (i : Nat) (t : Thread Op Op.Res Exc Session TransactionProcessingResult), c.threads[i]? = some t →
      t.prog.All (P i) := by
  induction h with
  | refl =>
      intro i t ht
      obtain ⟨call, hc, rfl⟩ := getElem?_start ht
      exact h₀ i call hc
  | step _ hok hs ih => exact (step_pool hok hs).all ih

/-! ## What one step writes -/

/-- What a step writes to the database: nothing, what a call can commit, or what the environment changes. -/
inductive Write (st : Settings) (opts : Opts) (sh sh' : Shared) : Prop where
  | nothing (hdb : sh'.db = sh.db) (hlog : sh'.log = sh.log)
  | commit {x : Commit} {al el : List Nat} (hdb : sh'.db = x.work.apply sh.db) (hlog : sh'.log = sh.log ++ [x])
      (hx : Committed st opts x.wiring x.cacheHit sh.init sh.db x.key x.request x.work x.reply)
      (hc : Covered x.work al el)
  | deleteExpired (hd : opts.deletes = true) (now : Time) (ids : List Nat)
      (hdb : sh'.db = IdempotencyRecordRepository.deleteExpired now ids sh.db) (hlog : sh'.log = sh.log)
  | setQuarantines (hq : opts.quarantines = true) (quarantines : List QuarantineRecord)
      (hdb : sh'.db = { sh.db with quarantines := quarantines }) (hlog : sh'.log = sh.log)

/-- What a step writes makes the database grow. -/
theorem Write.evolves {sh' : Shared} (h : Write st opts sh sh') (hv : sh.db.Valid) : Evolves opts sh.db sh'.db := by
  have hsame : Evolves opts sh.db sh.db := Evolves.refl _
  cases h with
  | nothing hdb _ => rw [hdb]; exact hsame
  | commit hdb _ hx hc => rw [hdb]; exact hx.effect.evolves hc hv
  | deleteExpired hd now ids hdb _ =>
      rw [hdb]
      exact { hsame with records := fun hf => by rw [hd] at hf; cases hf }
  | setQuarantines hq quarantines hdb _ =>
      rw [hdb]
      exact { hsame with quarantines := fun hf => by rw [hq] at hf; cases hf }

theorem act_write {o : Op} {l l' : Session} {others : List Session} {r : Except Exc o.Res} {sh' : Shared}
    (hpre : owes st opts o sh l) (hx : act opts o sh l others r sh' l') : Write st opts sh sh' := by
  obtain ⟨fault, _, hfree, hx⟩ := hx
  rcases exec_cases hpre hfree hx with hl | ⟨reply, _, _, howed, rfl, _⟩
  · exact .nothing hl.db hl.log
  · exact .commit rfl rfl howed.shape howed.covered

/-- What one step from a state of the invariant writes. -/
theorem step_write {Q : Except Exc TransactionProcessingResult → Shared → Session → Prop} {label : Label}
    (h : Inv (logic st opts) (Coherent st opts calls) Q c) (hok : permits opts c label)
    (hs : step c label = some c') : Write st opts c.shared c'.shared := by
  cases step_pool hok hs with
  | @run s s' ts i l l' o k r ht hx =>
      exact act_write (h.wp _ (List.mem_of_getElem? ht) s ((logic st opts).rely_refl l s)).1 hx
  | env he =>
      obtain ⟨label, hw, he⟩ := he
      cases label with
      | deleteExpired now ids => cases he; exact .deleteExpired hw now ids rfl rfl
      | setQuarantines quarantines => cases he; exact .setQuarantines hw quarantines rfl rfl
      | tick _ => cases he; exact .nothing rfl rfl
      | expireLock _ => cases he; exact .nothing rfl rfl
      | evict _ => cases he; exact .nothing rfl rfl
      | run _ => cases he
      | outage _ => cases he
      | crash _ => cases he
  | kill ht => exact .nothing rfl rfl

/-- The log changes only by the commit of a call. -/
theorem step_commit {Q : Except Exc TransactionProcessingResult → Shared → Session → Prop} {label : Label}
    (h : Inv (logic st opts) (Coherent st opts calls) Q c) (hs : step c label = some c') :
    c'.shared.log = c.shared.log ∨ ∃ i l reply k, label = .run i ∧
      c.threads[i]? = some ⟨l, .op (.commit reply) k⟩ ∧ Owed st opts reply c.shared l ∧
      c'.shared = committed c.shared l reply := by
  cases label with
  | run i =>
      obtain ⟨l, o, k, ht, hb, rfl⟩ := step_run hs
      have hpre := (h.wp _ (List.mem_of_getElem? ht) c.shared ((logic st opts).rely_refl l c.shared)).1
      rcases exec_cases hpre (fun _ => hb) rfl with hl | ⟨reply, rfl, _, howed, hsh, _⟩
      · exact Or.inl hl.log
      · exact Or.inr ⟨i, l, reply, k, rfl, ht, howed, hsh⟩
  | outage i =>
      obtain ⟨l, o, k, ht, rfl⟩ := step_outage hs
      have hpre := (h.wp _ (List.mem_of_getElem? ht) c.shared ((logic st opts).rely_refl l c.shared)).1
      have hfree : true = false → blocked [] o c.shared l = false := fun hf => by cases hf
      rcases exec_cases hpre hfree rfl with hl | ⟨_, _, hf, _⟩
      · exact Or.inl hl.log
      · cases hf
  | crash i =>
      obtain ⟨l, o, k, _, rfl⟩ := step_crash hs
      exact Or.inl rfl
  | _ => cases hs; exact Or.inl rfl

/-- What one step does to one call: nothing, its next operation, or its death. -/
theorem step_thread {label : Label} (hs : step c label = some c') {j : Nat}
    {t' : Thread Op Op.Res Exc Session TransactionProcessingResult} (ht' : c'.threads[j]? = some t') :
    c.threads[j]? = some t' ∨ ∃ l o k, c.threads[j]? = some ⟨l, .op o k⟩ ∧
      ((∃ fault r sh, c'.shared = sh ∧ exec fault o c.shared l = (r, sh, t'.loc) ∧ t'.prog = k r) ∨
        t' = ⟨l.crash, .raise .crashed⟩) := by
  cases label with
  | run i =>
      obtain ⟨l, o, k, ht, _, rfl⟩ := step_run hs
      rcases getElem?_set_cases ht' with ⟨rfl, rfl⟩ | ⟨_, ht'⟩
      · exact Or.inr ⟨l, o, k, ht, Or.inl ⟨false, _, _, rfl, rfl, rfl⟩⟩
      · exact Or.inl ht'
  | outage i =>
      obtain ⟨l, o, k, ht, rfl⟩ := step_outage hs
      rcases getElem?_set_cases ht' with ⟨rfl, rfl⟩ | ⟨_, ht'⟩
      · exact Or.inr ⟨l, o, k, ht, Or.inl ⟨true, _, _, rfl, rfl, rfl⟩⟩
      · exact Or.inl ht'
  | crash i =>
      obtain ⟨l, o, k, ht, rfl⟩ := step_crash hs
      rcases getElem?_set_cases ht' with ⟨rfl, rfl⟩ | ⟨_, ht'⟩
      · exact Or.inr ⟨l, o, k, ht, Or.inr rfl⟩
      · exact Or.inl ht'
  | _ => cases hs; exact Or.inl ht'

/-- A step that is no commit of a call leaves accounts, events, ledger and histories alone. -/
theorem step_tables {Q : Except Exc TransactionProcessingResult → Shared → Session → Prop} {label : Label}
    (h : Inv (logic st opts) (Coherent st opts calls) Q c) (hok : permits opts c label)
    (hs : step c label = some c') :
    (c'.shared.db.accounts = c.shared.db.accounts ∧ c'.shared.db.events = c.shared.db.events ∧
        c'.shared.db.ledger = c.shared.db.ledger ∧ c'.shared.db.histories = c.shared.db.histories) ∨
      ∃ i l reply k, label = .run i ∧ c.threads[i]? = some ⟨l, .op (.commit reply) k⟩ ∧
        Owed st opts reply c.shared l ∧ c'.shared = committed c.shared l reply := by
  rcases step_commit h hs with hlog | hcommit
  · left
    cases step_write h hok hs with
    | nothing hdb _ => rw [hdb]; exact ⟨rfl, rfl, rfl, rfl⟩
    | commit _ hlog' _ _ =>
        rw [hlog] at hlog'
        exact absurd hlog' (by simp)
    | deleteExpired _ now ids hdb _ => rw [hdb]; exact ⟨rfl, rfl, rfl, rfl⟩
    | setQuarantines _ quarantines hdb _ => rw [hdb]; exact ⟨rfl, rfl, rfl, rfl⟩
  · exact Or.inr hcommit

/-! ## The history of a reachable database -/

theorem Reaches.mono {ok ok' : Config → Label → Prop} {c₀ : Config} (hok : ∀ c label, ok c label → ok' c label)
    (h : Reaches ok c₀ c) : Reaches ok' c₀ c := by
  induction h with
  | refl => exact .refl
  | step _ h hs ih => exact .step ih (hok _ _ h) hs

theorem runStmt_init {stmt : Stmt} {l l' : Session} {r : stmt.Res} {sh' : Shared}
    (h : runStmt stmt sh l = .ok (r, sh', l')) : sh'.init = sh.init := by
  cases stmt <;> simp only [runStmt] at h <;> (repeat' split at h) <;> cases h <;> rfl

theorem exec_init (fault : Bool) (o : Op) (sh : Shared) (l : Session) :
    (exec fault o sh l).2.1.init = sh.init := by
  cases o with
  | sql site stmt =>
      obtain ⟨⟨r, sh', l'⟩, hx⟩ : ∃ out, exec fault (.sql site stmt) sh l = out := ⟨_, rfl⟩
      rw [hx]
      rcases exec_sql_cases hx with ⟨_, _, rfl, _⟩ | ⟨_, _, _, _, _, hrun⟩
      · rfl
      · exact runStmt_init hrun
  | commit reply => simp only [exec]; split_ifs <;> rfl
  | lockAcquire key => simp only [exec]; split_ifs <;> rfl
  | lockRelease key token => simp only [exec]; split_ifs <;> rfl
  | cacheGet key => simp only [exec]; split <;> rfl
  | cacheSet site key response => simp only [exec]; split_ifs <;> rfl
  | _ => rfl

theorem step_init {label : Label} (hs : step c label = some c') : c'.shared.init = c.shared.init := by
  cases label with
  | run i =>
      obtain ⟨l, o, k, _, _, rfl⟩ := step_run hs
      exact exec_init _ _ _ _
  | outage i =>
      obtain ⟨l, o, k, _, rfl⟩ := step_outage hs
      exact exec_init _ _ _ _
  | crash i =>
      obtain ⟨l, o, k, _, rfl⟩ := step_crash hs
      rfl
  | _ => cases hs; rfl

/-- The database at the start stays on record. -/
theorem Reaches.init_eq {ok : Config → Label → Prop} {c₀ : Config} (h : Reaches ok c₀ c) :
    c.shared.init = c₀.shared.init := by
  induction h with
  | refl => rfl
  | step _ _ hs ih => exact (step_init hs).trans ih

/-- **The database of a reachable state came about by the commits of its log.** -/
theorem Reaches.chain (hq : opts.quiet = false) (h₀ : Initial sh) (ha : Admits opts sh)
    (h : Reaches (permits opts) (start st sh calls) c) : Chain st opts sh.db c.shared.log c.shared.db := by
  have := (h.inv hq h₀ ha).coh.chain
  rw [h.init_eq] at this
  change Chain st opts sh.init _ _ at this
  rw [h₀.init_eq] at this
  exact this

/-- A finished call that returns something else than 202 has committed what it returns. -/
theorem Reaches.returned {opts : Opts} (hq : opts.quiet = false) (h₀ : Initial sh)
    (ha : Admits opts sh) (h : Reaches (permits opts) (start st sh calls) c) {i : Nat}
    {l : Session} {reply : TransactionProcessingResult} (ht : c.threads[i]? = some ⟨l, .ret reply⟩)
    (hne : reply.statusCode ≠ 202) :
    ∃ y ∈ c.shared.log, y.tid = l.tid ∧ y.wiring = l.wiring ∧ y.key = l.key ∧ y.request = l.request ∧
      y.reply = reply := by
  have hend : Ended st opts l.identity (.ok reply) c.shared l :=
    ((h.inv hq h₀ ha).wp _ (List.mem_of_getElem? ht) _ (Rely.refl _ _)).resolve_left (by simp)
  generalize hr : (Except.ok reply : Except Exc TransactionProcessingResult) = r at hend
  cases hend with
  | denied _ _ => cases hr; exact absurd rfl hne
  | done _ _ h =>
      cases hr
      obtain ⟨y, hy, htid, hw, hk, hreq, _, hrep⟩ := h.logged
      exact ⟨y, hy, htid, hw, hk, hreq, hrep⟩
  | rejected _ _ _ => cases hr
  | faulted _ _ _ _ _ => cases hr
  | unanswered _ _ _ _ => cases hr

/-- The same with nothing excluded. -/
theorem Reaches.coherent_any (h₀ : Initial sh) (h : Reaches anyStep (start st sh calls) c) :
    Coherent st everything calls c.shared c.locs ∧ Chain st everything sh.db c.shared.log c.shared.db := by
  have h' : Reaches (permits everything) (start st sh calls) c := h.mono fun c label _ => permits_everything c label
  exact ⟨(h'.inv rfl h₀ (Admits.any rfl rfl)).coh, h'.chain rfl h₀ (Admits.any rfl rfl)⟩

/-- No account is opened or closed, and none changes its number. -/
theorem Reaches.accounts_grow (h₀ : Initial sh) (h : Reaches anyStep (start st sh calls) c) :
    Grows AccountStep (fun _ => False) sh.db.accounts c.shared.db.accounts := by
  have hsince := (h.coherent_any h₀).1.kept.since.accounts
  rw [h.init_eq] at hsince
  change Grows _ _ sh.init.accounts _ at hsince
  rw [h₀.init_eq] at hsince
  exact hsince

end Runs

theorem Sample.initial : Initial Sample.shared where
  init_eq := rfl
  log_eq := rfl
  valid := by constructor <;> simp [shared, db]
  drawn := by constructor <;> simp [shared, db]

end EventConsistency
