import EventConsistency.Deadlock
import EventConsistency.Lib.Bounds

/-!
# Calls come to their ends

* `process_within` : a call performs at most `callLength` operations, its second attempt and its lock included;
* `Counted`, `Counted.follow` : so it takes part in at most that many steps of a run;
* `GivesBack`, `Reaches.settled` : a call that has ended holds nothing;
* `can_go_on` : as long as a call has not ended, one of them can go on;
* **`calls_end`** : no call takes part in more than `callLength` steps, one that cannot be continued has ended all of
  them, and all can be brought to their ends from every state, whatever outages, deaths and lost locks came before.
-/

namespace EventConsistency

open Lib TransactionEventService

/-! ## The length of a call -/

section Length

open Prog

theorem checkOrStart_within (svc : Service) (key : String) (payload : Json) :
    (svc.checkOrStart key payload).Within 5 := by
  have hplain : (IdempotencyService.checkOrStart svc key payload).Within 3 := by
    refine Within.bind (m := 1) (n := 2) (within_call _) ?_
    intro checkedAt
    refine Within.bind (m := 1) (n := 1) (within_call _) ?_
    intro record
    cases record with
    | some record => exact within_lift 1 _
    | none => exact Within.bind (m := 1) (n := 0) (within_call _) fun _ => within_ret 0 _
  have hdb : (CachedIdempotencyService.checkOrStartFromDb svc key payload).Within 4 := by
    refine Within.bind (m := 3) (n := 1) hplain ?_
    intro result
    split
    · exact Within.bind (m := 1) (n := 0) (within_call _) fun _ => within_ret 0 _
    · exact within_ret 1 _
  unfold Service.checkOrStart
  split
  · refine Within.bind (m := 1) (n := 4) (within_call _) ?_
    intro cached
    cases cached with
    | none => exact hdb
    | some cached =>
        dsimp only
        split
        · exact within_ret 4 _
        · exact hdb
  · exact hplain.mono (by omega)

theorem closeProcessing_within {svc : Service} {site : Site} {key : String} {payload : Option Json}
    {requestHash : Option String} {attempted : IdempotencyStatus}
    {mark : IdempotencyRecord → Time → Py IdempotencyRecord} (hm : ∀ r t, (mark r t).Within 1) :
    (IdempotencyService.closeProcessing svc site key payload requestHash attempted mark).Within 3 := by
  have hget : (IdempotencyService.getExistingRecord site key).Within 1 := by
    refine Within.bind (m := 1) (n := 0) (within_call _) ?_
    intro record
    cases record with
    | none => exact within_raise 0 _
    | some record => exact within_ret 0 record
  refine Within.bind (m := 1) (n := 2) hget ?_
  intro record
  refine Within.bind (m := 0) (n := 2) (within_lift 0 _) ?_
  intro _
  split
  · exact within_ret 2 record
  · refine Within.bind (m := 0) (n := 2) (within_lift 0 _) ?_
    intro _
    exact Within.bind (m := 1) (n := 1) (within_call _) fun t => hm record t

theorem complete_within (svc : Service) (key : String) (code : Nat) (body payload : Json) :
    (svc.complete key code body payload).Within 4 := by
  have hplain : ∀ h, (IdempotencyService.complete svc key code (some body) (some payload) h).Within 3 :=
    fun h => closeProcessing_within fun _ _ => within_call _
  unfold Service.complete
  split
  · refine Within.bind (m := 3) (n := 1) (hplain none) ?_
    intro record
    exact Within.bind (m := 1) (n := 0) (within_call _) fun _ => within_ret 0 record
  · exact (hplain none).mono (by omega)

theorem fail_within (svc : Service) (key : String) (code : Nat) (body : Json) (message : String) (payload : Json) :
    (svc.fail key code body message payload).Within 3 :=
  closeProcessing_within fun _ _ => within_call _

theorem changeStatus_within {site : Site} (event : TransactionEvent) (next : TransactionStatus)
    (reason : Option String) : (TransactionStateService.changeStatus site event next reason).Within 1 :=
  Within.bind (m := 0) (n := 1) (within_lift 0 _) fun _ => within_call _

theorem runEvent_within (account : Account) (event : TransactionEvent) (original : Option TransactionEvent) :
    (runEvent account event original).Within 6 := by
  have happly : ∀ event, (LedgerService.applyEvent account event original).Within 2 := by
    intro event
    refine Within.bind (m := 0) (n := 2) (within_lift 0 _) ?_
    intro amounts
    refine Within.bind (m := 1) (n := 1) (within_call _) ?_
    intro ledger
    exact Within.bind (m := 1) (n := 0) (within_call _) fun _ => within_ret 0 ledger
  have hlast : ∀ (event : TransactionEvent) (ledger : LedgerEntry), (do
      let event ← TransactionStateService.changeStatus .applyStartedRequest event .completed
        (some "ledger processing completed")
      pure (successResult event ledger true false) : Py TransactionProcessingResult).Within 1 :=
    fun event ledger => Within.bind (m := 1) (n := 0) (changeStatus_within _ _ _) fun _ => within_ret 0 _
  refine Within.bind (m := 1) (n := 5) (changeStatus_within _ _ _) ?_
  intro validated
  refine Within.bind (m := 1) (n := 4) (changeStatus_within _ _ _) ?_
  intro processing
  refine Within.bind (m := 2) (n := 2) (happly processing) ?_
  intro ledger
  split
  · exact Within.bind (m := 1) (n := 1) (changeStatus_within _ _ _) fun _ => hlast _ _
  · exact (hlast _ _).mono (by omega)

theorem applyStartedRequest_within (svc : Service) (key : String) (request : TransactionEventCreateRequest) :
    (applyStartedRequest svc key request).Within 12 := by
  have hcheck : ∀ account, (checkQuarantine svc account).Within 1 := by
    intro account
    unfold checkQuarantine
    split
    · refine Within.bind (m := 1) (n := 0) (within_call _) ?_
      intro q
      cases q with
      | none => exact within_ret 0 _
      | some q => exact within_raise 0 _
    · exact within_ret 1 _
  have hduplicate : ∀ event, (duplicateResult event).Within 1 := by
    intro event
    refine Within.bind (m := 1) (n := 0) (within_call _) ?_
    intro ledger
    cases ledger with
    | none => exact within_raise 0 _
    | some ledger => exact within_ret 0 _
  have hread : ∀ stmt : Py (Option TransactionEvent), stmt.Within 1 →
      (do let row ← stmt; .lift (TransactionEventRepository.read row) : Py (Option TransactionEvent)).Within 1 :=
    fun _ hstmt => Within.bind (m := 1) (n := 0) hstmt fun _ => within_lift 0 _
  have horiginal : (getOriginalEventForCancel request).Within 1 := by
    unfold getOriginalEventForCancel
    split
    · exact within_ret 1 _
    · split
      · exact within_raise 1 _
      · refine Within.bind (m := 1) (n := 0) (hread _ (within_call _)) ?_
        intro event
        cases event with
        | none => exact within_raise 0 _
        | some event => exact within_ret 0 _
  refine Within.bind (m := 1) (n := 11) (within_call _) ?_
  intro account
  cases account with
  | none => exact within_raise 11 _
  | some account =>
      refine Within.bind (m := 1) (n := 10) (hcheck account) ?_
      intro _
      refine Within.bind (m := 1) (n := 9) (hread _ (within_call _)) ?_
      intro existing
      cases existing with
      | some existing =>
          refine (Within.bind (m := 0) (n := 1) (within_lift 0 _) fun _ => hduplicate existing).mono ?_
          omega
      | none =>
          refine Within.bind (m := 1) (n := 8) horiginal ?_
          intro original
          refine Within.bind (m := 1) (n := 7) (within_call _) ?_
          intro event
          exact Within.bind (m := 1) (n := 6) (within_call _) fun _ => runEvent_within account event original

theorem onFailure_within (svc : Service) (key : String) (payload : Json) (exc : Exc) :
    (onFailure svc key payload exc).Within 5 := by
  have hmark : (markFailedIfDomain exc).Within 2 := by
    unfold markFailedIfDomain
    split
    · refine Within.bind (m := 1) (n := 1) (within_call _) ?_
      intro event
      cases event with
      | none => exact within_ret 1 _
      | some event =>
          dsimp only
          split
          · exact within_ret 1 _
          · exact Within.handle (m := 1) (n := 0) (changeStatus_within _ _ _) fun _ => within_ret 0 _
    · exact within_ret 2 _
  refine Within.bind (m := 2) (n := 3) hmark ?_
  intro _
  refine Within.bind (m := 3) (n := 0) (fail_within svc key _ _ _ payload) ?_
  intro _
  split
  · exact within_ret 0 _
  · exact within_raise 0 _

theorem processStarted_within (svc : Service) (key : String) (request : TransactionEventCreateRequest)
    (payload : Json) : (processStarted svc key request payload).Within 23 := by
  refine Within.andFinally (m := 22) (n := 1) ?_ (within_call _)
  refine Within.tryCatch (m := 17) (n := 5) ?_ (onFailure_within svc key payload)
  refine Within.bind (m := 1) (n := 16) (within_call _) ?_
  intro _
  refine Within.bind (m := 12) (n := 4) (applyStartedRequest_within svc key request) ?_
  intro result
  exact Within.bind (m := 4) (n := 0) (complete_within svc key _ _ payload) fun _ => within_ret 0 result

/-- An attempt with its commit or rollback. -/
theorem withBegin_within (svc : Service) (key : String) (request : TransactionEventCreateRequest) :
    (withBegin (attemptBody svc key request)).Within 30 := by
  have hbody : (attemptBody svc key request).Within 28 := by
    refine Within.bind (m := 5) (n := 23) (checkOrStart_within svc key _) ?_
    intro idem
    split
    · exact within_ret 23 _
    · exact within_lift 23 _
    · exact within_lift 23 _
    · exact processStarted_within svc key request _
  have hroll : ∀ x, (do Prog.call Op.rollback; throw x : Py Unit).Within 1 := fun x =>
    Within.bind (m := 1) (n := 0) (within_call _) fun _ => within_raise 0 x
  refine Within.handle (m := 28) (n := 2) hbody ?_
  intro r
  cases r with
  | ok reply =>
      refine Within.bind (m := 2) (n := 0) ?_ fun _ => within_ret 0 reply
      exact Within.tryCatch (m := 1) (n := 1) (within_call _) hroll
  | error x =>
      exact (Within.bind (m := 1) (n := 0) (within_call _) fun _ => within_raise 0 x).mono (by omega)

theorem attempts_within (svc : Service) (key : String) (request : TransactionEventCreateRequest) (ns : List Nat) :
    (attempts svc key request ns).Within (32 * ns.length) := by
  induction ns with
  | nil => exact within_raise _ _
  | cons n ns ih =>
      have hlen : 32 * (n :: ns).length = 30 + (2 + 32 * ns.length) := by
        rw [List.length_cons]
        omega
      rw [hlen]
      refine Within.tryCatch (withBegin_within svc key request) ?_
      intro x
      have hthrow : ∀ x, (do Prog.call Op.rollback; throw x : Py TransactionProcessingResult).Within
          (2 + 32 * ns.length) := by
        intro x
        refine (Within.bind (m := 1) (n := 0) (within_call _) fun _ => within_raise 0 x).mono ?_
        omega
      split
      · have hrest : 2 + 32 * ns.length = 1 + (1 + 32 * ns.length) := by omega
        rw [hrest]
        refine Within.bind (within_call _) ?_
        intro _
        split
        · exact within_raise _ _
        · exact Within.bind (within_call _) fun _ => ih
      · exact hthrow _

/-- The operations of a call at the most: two attempts, and the lock before and after them. -/
def callLength : Nat := 66

theorem process_within (svc : Service) (key : String) (request : TransactionEventCreateRequest) :
    (process svc key request).Within callLength := by
  have hrun : (processWithDbFallback svc key request).Within 64 := attempts_within svc key request [0, 1]
  have hrelease : ∀ lockKey lockResult, (releaseLock lockKey lockResult).Within 1 := by
    intro lockKey lockResult
    unfold releaseLock
    split
    · exact within_call _
    · exact within_ret 1 _
  unfold process
  split
  · refine Within.bind (m := 1) (n := 65) (within_call _) ?_
    intro lockResult
    split
    · exact within_ret 65 _
    · exact Within.andFinally (m := 64) (n := 1) hrun (hrelease _ lockResult)
  · exact hrun.mono (by unfold callLength; omega)

end Length

/-! ## The steps of a call -/

/-- The step is one of call `i`: its next operation, an outage at it, or its death. -/
def Label.moves (i : Nat) : Label → Bool
  | .run j | .outage j | .crash j => j == i
  | _ => false

/-- Call `i` has at most `ns[i]` operations left. -/
structure Counted (ns : List Nat) (c : Config) : Prop where
  same : ns.length = c.threads.length
  within : ∀ (i n : Nat) (t : Thread Op Op.Res Exc Session TransactionProcessingResult),
    ns[i]? = some n → c.threads[i]? = some t → t.prog.Within n

section Counted

variable {st : Settings} {calls : List Call} {sh : Shared} {c c' : Config} {ns : List Nat} {labels : List Label}

theorem Counted.start : Counted (List.replicate calls.length callLength) (start st sh calls) := by
  refine ⟨by simp [EventConsistency.start], ?_⟩
  intro i n t hn ht
  obtain ⟨call, _, rfl⟩ := getElem?_start ht
  have hmem := List.mem_of_getElem? hn
  rw [List.eq_of_mem_replicate hmem]
  exact process_within _ _ _

/-- Call `i` has gone on, so that less is left of it. -/
theorem Counted.set {i m : Nat} {t : Thread Op Op.Res Exc Session TransactionProcessingResult} (h : Counted ns c)
    (ht : t.prog.Within m) (sh : Shared) : Counted (ns.set i m) ⟨sh, c.threads.set i t⟩ := by
  refine ⟨by simp [h.same], ?_⟩
  intro j n u hn hu
  rcases getElem?_set_cases hn with ⟨rfl, rfl⟩ | ⟨hne, hn⟩
  · rcases getElem?_set_cases hu with ⟨_, rfl⟩ | ⟨hne, _⟩
    · exact ht
    · exact absurd rfl hne
  · rcases getElem?_set_cases hu with ⟨rfl, _⟩ | ⟨_, hu⟩
    · exact absurd rfl hne
    · exact h.within j n u hn hu

/-- A call that goes on has something left. -/
theorem Counted.left {i : Nat} {l : Session} {o : Op} {k : Except Exc o.Res → Py TransactionProcessingResult}
    (h : Counted ns c) (ht : c.threads[i]? = some ⟨l, .op o k⟩) :
    ∃ m, ns[i]? = some (m + 1) ∧ ∀ r, (k r).Within m := by
  have hi : i < ns.length := by
    rw [h.same]
    exact (List.getElem?_eq_some_iff.mp ht).1
  have hn : ns[i]? = some ns[i] := List.getElem?_eq_getElem hi
  have hwithin := h.within i _ _ hn ht
  generalize ns[i] = n at hn hwithin
  cases n with
  | zero => exact hwithin.elim
  | succ m => exact ⟨m, hn, hwithin⟩

/-- What is left after one step. -/
theorem Counted.step {label : Label} (h : Counted ns c) (hs : step c label = some c') :
    ∃ ns', Counted ns' c' ∧ ∀ i, ns'.getD i 0 + (if label.moves i then 1 else 0) ≤ ns.getD i 0 := by
  have hless : ∀ {j m : Nat}, ns[j]? = some (m + 1) → ∀ i,
      (ns.set j m).getD i 0 + (if j == i then 1 else 0) ≤ ns.getD i 0 := by
    intro j m hj i
    obtain ⟨hlen, hvalue⟩ := List.getElem?_eq_some_iff.mp hj
    simp only [List.getD_eq_getElem?_getD, List.getElem?_set, beq_iff_eq]
    by_cases hji : j = i
    · subst hji
      simp [hlen, hvalue]
    · simp [hji]
  cases label with
  | run j =>
      obtain ⟨l, o, k, ht, _, rfl⟩ := step_run hs
      obtain ⟨m, hm, hk⟩ := h.left ht
      exact ⟨ns.set j m, h.set (hk _) _, hless hm⟩
  | outage j =>
      obtain ⟨l, o, k, ht, rfl⟩ := step_outage hs
      obtain ⟨m, hm, hk⟩ := h.left ht
      exact ⟨ns.set j m, h.set (hk _) _, hless hm⟩
  | crash j =>
      obtain ⟨l, o, k, ht, rfl⟩ := step_crash hs
      obtain ⟨m, hm, _⟩ := h.left ht
      exact ⟨ns.set j m, h.set (Prog.within_raise m _) _, hless hm⟩
  | _ =>
      cases hs
      exact ⟨ns, ⟨h.same, h.within⟩, fun i => by simp [Label.moves]⟩

/-- **What is left after a run.** -/
theorem Counted.follow (h : Counted ns c) (hf : follow c labels = some c') :
    ∃ ns', Counted ns' c' ∧ ∀ i, ns'.getD i 0 + labels.countP (Label.moves i) ≤ ns.getD i 0 := by
  induction labels generalizing c ns with
  | nil =>
      cases hf
      exact ⟨ns, h, fun i => by simp⟩
  | cons label rest ih =>
      unfold EventConsistency.follow at hf
      split at hf
      · cases hf
      · rename_i c₁ hs
        obtain ⟨ns₁, h₁, hle₁⟩ := h.step hs
        obtain ⟨ns₂, h₂, hle₂⟩ := ih h₁ hf
        refine ⟨ns₂, h₂, ?_⟩
        intro i
        have hstep := hle₁ i
        have hrest := hle₂ i
        rw [List.countP_cons]
        omega

/-- Less is left of all calls together when one of them has gone on. -/
theorem Counted.run {i : Nat} (h : Counted ns c) (hs : EventConsistency.step c (.run i) = some c') :
    ∃ ns', Counted ns' c' ∧ ns'.sum < ns.sum := by
  obtain ⟨l, o, k, ht, _, rfl⟩ := step_run hs
  obtain ⟨m, hm, hk⟩ := h.left ht
  exact ⟨ns.set i m, h.set (hk _) _, sum_set_lt hm (Nat.lt_succ_self m)⟩

end Counted

/-! ## A call that has ended holds nothing -/

/-- The call will have given back by its end what its progress `g` says. -/
structure GivesBack (g : Progress) (t : Thread Op Op.Res Exc Session TransactionProcessingResult) : Prop where
  tracks : Tracks g t.loc
  rest : Disciplined t.loc.wiring t.prog (fun _ g => g.record = false ∧ g.Unlocked) g

section Ended

variable {st : Settings} {opts : Opts} {calls : List Call} {sh : Shared} {c c' : Config} {g : Progress}

/-- Whatever an attempt has taken, it has given back before the next one and at the end. -/
theorem attempts_settled (svc : Service) (key : String) (request : TransactionEventCreateRequest) (ns : List Nat) :
    Disciplined svc.toWiring (attempts svc key request ns) (fun _ g => g = {}) {} := by
  induction ns with
  | nil => exact Disciplined.lift (r := .error _) rfl
  | cons n ns ih =>
      refine Disciplined.handle (withBegin_disciplined (attemptBody_disciplined svc key request)) ?_
      intro r g hg
      have hroll : ∀ {g : Progress}, Disciplined svc.toWiring (Prog.call Op.rollback) (fun _ g => g = {}) g :=
        Disciplined.call trivial fun _ _ => rfl
      cases r with
      | ok reply => exact Disciplined.lift (r := .ok reply) hg
      | error x =>
          dsimp only
          split
          · refine Disciplined.bind hroll ?_ fun _ _ hg => hg
            rintro _ g rfl
            split
            · exact Disciplined.lift (r := .error _) rfl
            · have hretry : Disciplined svc.toWiring (Prog.call Op.recordRetry) (fun _ g => g = {}) {} :=
                Disciplined.call trivial fun _ _ => rfl
              refine Disciplined.bind hretry ?_ fun _ _ hg => hg
              rintro _ _ rfl
              exact ih
          · exact rollback_disciplined _

theorem process_settled (svc : Service) (key : String) (request : TransactionEventCreateRequest) :
    Disciplined svc.toWiring (process svc key request) (fun _ g => g.record = false ∧ g.Unlocked) {} := by
  have hrun := attempts_settled svc key request [0, 1]
  have hnothing : ∀ g : Progress, g = {} → g.record = false ∧ g.Unlocked := by
    rintro _ rfl
    exact ⟨rfl, Progress.unlocked_record false⟩
  have hrelease : ∀ lockKey lockResult,
      Disciplined svc.toWiring (releaseLock lockKey lockResult) (fun _ g => g = {}) {} := by
    intro lockKey lockResult
    unfold releaseLock
    split
    · exact Disciplined.call trivial fun _ _ => rfl
    · exact Disciplined.lift (r := .ok ()) rfl
  unfold process
  split
  · have hlock : Disciplined svc.toWiring (Py.lockAcquire (idempotencyLockKey svc key)) (fun _ g => g = {}) {} :=
      Disciplined.call trivial fun _ _ => rfl
    refine Disciplined.bind hlock ?_ fun _ g hg => hnothing g hg
    rintro lockResult _ rfl
    split
    · exact Disciplined.lift (r := .ok _) (hnothing _ rfl)
    · refine Disciplined.handle hrun ?_
      rintro r _ rfl
      refine Disciplined.handle (hrelease _ lockResult) ?_
      rintro u _ rfl
      cases u with
      | ok _ => exact Disciplined.lift (hnothing _ rfl)
      | error x => exact Disciplined.lift (r := .error x) (hnothing _ rfl)
  · exact Disciplined.mono hrun fun _ g hg => hnothing g hg

theorem GivesBack.exec {fault : Bool} {o : Op} {k : Except Exc o.Res → Py TransactionProcessingResult} {sh sh' : Shared}
    {l l' : Session} {r : Except Exc o.Res} (h : GivesBack g ⟨l, .op o k⟩) (hpre : owes st opts o sh l)
    (hx : EventConsistency.exec fault o sh l = (r, sh', l')) : GivesBack (g.after o r) ⟨l', k r⟩ := by
  obtain ⟨hperm, hk⟩ := h.rest () trivial
  have howes : ∀ site stmt, o = .sql site stmt → l.failed = false → stmt.owes l := by
    rintro site stmt rfl hok
    exact hpre hok
  obtain ⟨hans, htr⟩ := h.tracks.exec hperm howes hx
  have hw : l'.wiring = l.wiring := by
    have hwiring := exec_wiring fault o sh l
    rw [hx] at hwiring
    exact hwiring
  refine ⟨htr, ?_⟩
  rw [hw]
  exact hk r () _ ⟨hans, rfl⟩

theorem GivesBack.crash (l : Session) : GivesBack { failed := l.failed } ⟨l.crash, .raise .crashed⟩ :=
  ⟨Tracks.empty rfl rfl rfl rfl, fun _ _ => ⟨rfl, rfl, rfl, rfl, rfl⟩⟩

/-- **Every call will have given back what it holds by its end.** -/
theorem Reaches.settled (h₀ : Initial sh) (h : Reaches anyStep (start st sh calls) c) {i : Nat}
    {t : Thread Op Op.Res Exc Session TransactionProcessingResult} (ht : c.threads[i]? = some t) :
    ∃ g, GivesBack g t := by
  induction h generalizing i t with
  | refl =>
      obtain ⟨call, _, rfl⟩ := getElem?_start ht
      exact ⟨_, Tracks.empty rfl rfl rfl rfl, process_settled ⟨st, call.wiring⟩ call.key call.request⟩
  | @step c₁ c₂ label h _ hs ih =>
      have hall : Reaches (permits everything) (EventConsistency.start st sh calls) c₁ :=
        h.mono fun c label _ => permits_everything c label
      have hinv := hall.inv rfl h₀ (Admits.any rfl rfl)
      rcases step_thread hs ht with hold | ⟨l, o, k, hold, ⟨fault, r, sh', _, hx, hprog⟩ | rfl⟩
      · exact ih hold
      · obtain ⟨g, hg⟩ := ih hold
        have hpre := (hinv.wp _ (List.mem_of_getElem? hold) c₁.shared ((logic st everything).rely_refl l c₁.shared)).1
        have hafter := hg.exec hpre hx
        rw [← hprog] at hafter
        exact ⟨_, hafter⟩
      · exact ⟨_, GivesBack.crash l⟩

/-- What has ended holds nothing that another call could wait for. -/
theorem GivesBack.holds_nothing {t : Thread Op Op.Res Exc Session TransactionProcessingResult} (h : GivesBack g t)
    (hend : ∀ o k, t.prog ≠ .op o k) (n : Nat) : ¬ t.loc.holdsKind n := by
  obtain ⟨l, p⟩ := t
  have hg : g.record = false ∧ g.Unlocked := by
    cases p with
    | ret a => exact h.rest () trivial
    | raise x => exact h.rest () trivial
    | op o k => exact absurd rfl (hend o k)
  obtain ⟨hrecord, haccount, _, horiginal, hevent⟩ := hg
  exact h.tracks.not_holdsKind (n := 0) (fun _ => hrecord) (fun _ => haccount) (fun _ => horiginal) hevent n
    (Nat.zero_le n)

end Ended

/-! ## The ends of all calls -/

section Ends

variable {st : Settings} {calls : List Call} {sh : Shared} {c c' : Config} {labels : List Label}

theorem rankAt_le (c : Config) (i : Nat) : rankAt c i ≤ 4 := by
  unfold rankAt
  split
  · rename_i o _ _
    unfold Op.rank
    split <;> omega
  · exact Nat.le_refl 4

/-- A call that has not ended has something left to do. -/
theorem op_of_open {i : Nat} (hi : i < c.threads.length) (hopen : outcome c i = none) :
    ∃ l o k, c.threads[i]? = some ⟨l, .op o k⟩ := by
  have ht : c.threads[i]? = some c.threads[i] := List.getElem?_eq_getElem hi
  generalize c.threads[i] = t at ht
  obtain ⟨l, p⟩ := t
  cases p with
  | ret a => simp [outcome, ht] at hopen
  | raise x => simp [outcome, ht] at hopen
  | op o k => exact ⟨l, o, k, ht⟩

/-- **As long as a call has not ended, one of them can go on.** The one that it waits for has not ended either, and is
further in the order of the four kinds of waiting. -/
theorem can_go_on (h₀ : Initial sh) (h : Reaches anyStep (start st sh calls) c) {i : Nat} {l : Session} {o : Op}
    {k : Except Exc o.Res → Py TransactionProcessingResult} (ht : c.threads[i]? = some ⟨l, .op o k⟩) :
    ∃ j c', step c (.run j) = some c' := by
  have hall : Reaches (permits everything) (start st sh calls) c := h.mono fun c label _ => permits_everything c label
  have hinv := hall.inv rfl h₀ (Admits.any rfl rfl)
  have htr := h.tracked h₀
  generalize hn : 4 - rankAt c i = n
  induction n using Nat.strong_induction_on generalizing i l o k with
  | _ n ih =>
      cases hstep : step c (.run i) with
      | some c' => exact ⟨i, c', hstep⟩
      | none =>
          obtain ⟨j, hj⟩ := (refused_iff ht).mp hstep
          have hrank := waitsFor_rank hinv htr hj
          have hle := rankAt_le c j
          obtain ⟨⟨m, p⟩, htj, _, hholds⟩ := waitsFor_holds hinv htr ht hj
          obtain ⟨g, hg⟩ := h.settled h₀ htj
          cases p with
          | ret a => exact absurd hholds (hg.holds_nothing (fun o k he => by cases he) _)
          | raise x => exact absurd hholds (hg.holds_nothing (fun o k he => by cases he) _)
          | op o' k' => exact ih (4 - rankAt c j) (by omega) htj rfl

theorem ended_of_stuck (h₀ : Initial sh) (h : Reaches anyStep (start st sh calls) c)
    (hstuck : ∀ i, step c (.run i) = none) : ∀ i < c.threads.length, (outcome c i).isSome = true := by
  intro i hi
  cases hopen : outcome c i with
  | some r => rfl
  | none =>
      obtain ⟨l, o, k, ht⟩ := op_of_open hi hopen
      obtain ⟨j, c', hj⟩ := can_go_on h₀ h ht
      rw [hstuck j] at hj
      cases hj

theorem Reaches.of_follow (hf : follow c labels = some c') : Reaches anyStep c c' := by
  have h : Reaches anyStep c ((follow c labels).getD c) := Reaches.followed c fun _ _ _ => trivial
  rw [hf] at h
  exact h

/-- Let calls go on as long as one of them can. -/
theorem Counted.exhaust {ns : List Nat} (h : Counted ns c) :
    ∃ rest c', (∀ label ∈ rest, ∃ i, label = Label.run i) ∧ EventConsistency.follow c rest = some c' ∧
      ∀ i, EventConsistency.step c' (.run i) = none := by
  generalize hn : ns.sum = n
  induction n using Nat.strong_induction_on generalizing ns c with
  | _ n ih =>
      by_cases hstuck : ∀ i, EventConsistency.step c (.run i) = none
      · exact ⟨[], c, by simp, rfl, hstuck⟩
      · obtain ⟨i, hi⟩ := not_forall.mp hstuck
        obtain ⟨c₁, hs⟩ := Option.ne_none_iff_exists'.mp hi
        obtain ⟨ns₁, h₁, hlt⟩ := h.run hs
        obtain ⟨rest, c', hruns, hf, hend⟩ := ih ns₁.sum (by omega) h₁ rfl
        refine ⟨.run i :: rest, c', ?_, ?_, hend⟩
        · intro label hl
          rcases List.mem_cons.mp hl with rfl | hl
          · exact ⟨i, rfl⟩
          · exact hruns label hl
        · unfold EventConsistency.follow
          rw [hs]
          exact hf

/-- No call is added or taken away. -/
theorem length_step {label : Label} (hs : step c label = some c') : c'.threads.length = c.threads.length := by
  cases label with
  | run i =>
      obtain ⟨l, o, k, _, _, rfl⟩ := step_run hs
      simp
  | outage i =>
      obtain ⟨l, o, k, _, rfl⟩ := step_outage hs
      simp
  | crash i =>
      obtain ⟨l, o, k, _, rfl⟩ := step_crash hs
      simp
  | _ =>
      cases hs
      rfl

theorem length_follow (hf : follow c labels = some c') : c'.threads.length = c.threads.length := by
  induction labels generalizing c with
  | nil =>
      cases hf
      rfl
  | cons label rest ih =>
      unfold follow at hf
      split at hf
      · cases hf
      · rename_i c₁ hs
        exact (ih hf).trans (length_step hs)

/-- **Calls come to their ends.** In every run, whatever outages, deaths, lost locks and other changes from outside are
part of it: no call takes part in more than `callLength` steps; when none of them can go on, all have ended; and from
where the run is, the calls alone can all be brought to their ends. -/
theorem calls_end (h₀ : Initial sh) (hf : follow (start st sh calls) labels = some c) :
    (∀ i, labels.countP (Label.moves i) ≤ callLength) ∧
      ((∀ i, step c (.run i) = none) → ∀ i < calls.length, (outcome c i).isSome = true) ∧
      ∃ rest c', (∀ label ∈ rest, ∃ i, label = Label.run i) ∧ follow c rest = some c' ∧
        ∀ i < calls.length, (outcome c' i).isSome = true := by
  have hlen : c.threads.length = calls.length := (length_follow hf).trans (by simp [start])
  obtain ⟨ns, hcounted, hle⟩ := Counted.start.follow hf
  have hreach := Reaches.of_follow hf
  refine ⟨?_, ?_, ?_⟩
  · intro i
    have hstart : (List.replicate calls.length callLength).getD i 0 ≤ callLength := by
      rw [List.getD_eq_getElem?_getD, List.getElem?_replicate]
      split <;> simp
    have hcount := hle i
    omega
  · intro hstuck
    rw [← hlen]
    exact ended_of_stuck h₀ hreach hstuck
  · obtain ⟨rest, c', hruns, hrest, hstuck⟩ := hcounted.exhaust
    refine ⟨rest, c', hruns, hrest, ?_⟩
    rw [← hlen, ← length_follow hrest]
    exact ended_of_stuck h₀ (hreach.trans (Reaches.of_follow hrest)) hstuck

end Ends

/-- The first of two calls with one key dies with its record inserted while the second is about to insert one. -/
theorem calls_end_waiting :
    let calls := [Sample.plainCall "key-1" Sample.deposit, Sample.plainCall "key-1" Sample.deposit]
    let labels : List Label :=
      List.replicate 4 (.run 0) ++ [.expireLock ("lock:idempotency:" ++ Sample.sha256 (utf8 "key-1".toList))] ++
        List.replicate 3 (.run 1) ++ [.crash 0]
    ∃ c, follow (start Sample.settings Sample.shared calls) labels = some c ∧
      ∃ rest c', follow c rest = some c' ∧ (outcome c' 0).isSome = true ∧ (outcome c' 1).isSome = true := by
  intro calls labels
  have hsome : (follow (start Sample.settings Sample.shared calls) labels).isSome = true := by decide +kernel
  obtain ⟨c, hf⟩ := Option.isSome_iff_exists.mp hsome
  obtain ⟨_, _, rest, c', _, hrest, hend⟩ := calls_end Sample.initial hf
  exact ⟨c, hf, rest, c', hrest, hend 0 (by decide), hend 1 (by decide)⟩

end EventConsistency
