import EventConsistency.Cache.RedisLock
import EventConsistency.Lib.Machine
import EventConsistency.Lib.Paths
import EventConsistency.System

/-!
# Who owns a Redis lock

* `LockSystem.step_cases` : what a step does;
* `LockSystem.Inv` : a token that was granted and neither expired nor was released is the one that Redis holds;
  `inv_of_runs`;
* `LockSystem.Owned` : a release frees the lock of its own token and no other, and a key has one live token at a time;
* `exec_lockAcquire`, `exec_lockRelease` : the lock operations of `exec` run the same commands;
* `RunsLocks` : a call at a lock operation runs its command, so that the release of the token held frees the key;
* `ReleasesOwn` : `process` releases what it acquired, when everything else is done, and nothing else;
* **`redis_lock_ownership`** : every order of events keeps `Owned`, every path through `process` is `ReleasesOwn`, and
  every state of the system `RunsLocks`.
-/

namespace EventConsistency

open Lib Prog TransactionEventService Sample

namespace LockSystem

/-- The call at this place is an `acquire` to which Redis has granted the lock of the key. -/
def AcquiredBy (s : LockSystem) (key : String) (token : Nat) (i : Nat) : Prop :=
  ∃ call : LockCall, s.calls[i]? = some call ∧ call.command = .set key token ∧ call.answer = some true

/-- Redis has granted the lock of the key to the token. -/
def Granted (s : LockSystem) (key : String) (token : Nat) : Prop := ∃ i, s.AcquiredBy key token i

section Calls

variable {s s' : LockSystem} {i j : Nat} {call new : LockCall} {key : String} {token : Nat}

theorem getElem?_set_call (h : s.calls[i]? = some call) :
    (s.calls.set i new)[j]? = if i = j then some new else s.calls[j]? := by
  obtain ⟨bound, -⟩ := List.getElem?_eq_some_iff.mp h
  rw [List.getElem?_set]
  split_ifs <;> rfl

theorem granted_send {command : LockCommand} : (s.send command).Granted key token ↔ s.Granted key token := by
  unfold Granted AcquiredBy send
  constructor
  · rintro ⟨j, c, hc, same, answered⟩
    rw [List.getElem?_append] at hc
    split_ifs at hc with old
    · exact ⟨j, c, hc, same, answered⟩
    · have last := List.mem_of_getElem? hc
      rw [List.mem_singleton.mp last] at answered
      cases answered
  · rintro ⟨j, c, hc, same, answered⟩
    obtain ⟨bound, -⟩ := List.getElem?_eq_some_iff.mp hc
    exact ⟨j, c, by rwa [List.getElem?_append_left bound], same, answered⟩

/-- A call that gets its answer from Redis. -/
theorem granted_answer (h : s.calls[i]? = some call) (unanswered : call.answer = none)
    (calls : s'.calls = s.calls.set i new) : s'.Granted key token ↔
      (new.command = .set key token ∧ new.answer = some true) ∨ s.Granted key token := by
  unfold Granted AcquiredBy
  rw [calls]
  constructor
  · rintro ⟨j, c, hc, same, answered⟩
    rw [getElem?_set_call h] at hc
    split_ifs at hc with at_i
    · cases hc
      exact .inl ⟨same, answered⟩
    · exact .inr ⟨j, c, hc, same, answered⟩
  · rintro (⟨same, answered⟩ | ⟨j, c, hc, same, answered⟩)
    · exact ⟨i, new, by rw [getElem?_set_call h, if_pos rfl], same, answered⟩
    · have other : i ≠ j := by
        rintro rfl
        rw [h] at hc
        cases hc
        rw [unanswered] at answered
        cases answered
      exact ⟨j, c, by rw [getElem?_set_call h, if_neg other, hc], same, answered⟩

/-- A call whose client gets something. -/
theorem granted_outcome (h : s.calls[i]? = some call) (calls : s'.calls = s.calls.set i new)
    (command : new.command = call.command) (answer : new.answer = call.answer) : s'.Granted key token ↔
      s.Granted key token := by
  unfold Granted AcquiredBy
  rw [calls]
  constructor
  · rintro ⟨j, c, hc, same, answered⟩
    rw [getElem?_set_call h] at hc
    split_ifs at hc with at_i
    · cases hc
      exact ⟨i, call, h, command ▸ same, answer ▸ answered⟩
    · exact ⟨j, c, hc, same, answered⟩
  · rintro ⟨j, c, hc, same, answered⟩
    by_cases at_i : i = j
    · rw [← at_i, h] at hc
      cases hc
      exact ⟨i, new, by rw [getElem?_set_call h, if_pos rfl], command.trans same, answer.trans answered⟩
    · exact ⟨j, c, by rw [getElem?_set_call h, if_neg at_i, hc], same, answered⟩

end Calls

/-! ## Steps -/

/-- What a step does. -/
inductive Step (s : LockSystem) : LockEvent → LockSystem → Prop where
  | acquire (key : String) (token : Nat) (fresh : token ∉ s.tokens) :
      Step s (.acquire key token) (s.send (.set key token))
  | release (key : String) (token : Nat) : Step s (.release key (some token)) (s.send (.release key token))
  | releaseNone (key : String) : Step s (.release key none) s
  | execute (i : Nat) (call : LockCall) (place : s.calls[i]? = some call) (unanswered : call.answer = none) :
      Step s (.execute i) (s.execute i call)
  | receive (i : Nat) (call : LockCall) (place : s.calls[i]? = some call) :
      Step s (.receive i) { s with calls := s.calls.set i { call with outcome := some call.answer } }
  | fail (i : Nat) (call : LockCall) (place : s.calls[i]? = some call) :
      Step s (.fail i) { s with calls := s.calls.set i { call with outcome := some none } }
  | expire (key : String) (token : Nat) (held : s.locks key = some token) :
      Step s (.expire key) { s with locks := Function.update s.locks key none, expired := token :: s.expired }

theorem step_cases {s s' : LockSystem} {event : LockEvent} (h : s.step event = some s') : s.Step event s' := by
  cases event with
  | acquire key token =>
      unfold step at h
      dsimp only at h
      split_ifs at h with drawn
      cases h
      exact .acquire key token drawn
  | release key token =>
      cases token with
      | none =>
          cases h
          exact .releaseNone key
      | some token =>
          cases h
          exact .release key token
  | execute i =>
      unfold step at h
      dsimp only at h
      split at h
      · cases h
      · rename_i call place
        split_ifs at h with answered
        cases h
        exact .execute i call place (by simpa using answered)
  | receive i =>
      unfold step at h
      dsimp only at h
      split at h
      · cases h
      · rename_i call place
        split_ifs at h with waiting
        cases h
        exact .receive i call place
  | fail i =>
      unfold step at h
      dsimp only at h
      split at h
      · cases h
      · rename_i call place
        split_ifs at h with ended
        cases h
        exact .fail i call place
  | expire key =>
      unfold step at h
      dsimp only at h
      split at h
      · cases h
      · rename_i token held
        cases h
        exact .expire key token held

/-! ## The invariant -/

/-- What holds in every state: the lock of a key is that of the one token granted for it that is still alive. -/
structure Inv (s : LockSystem) : Prop where
  /-- No two calls generated the same token. -/
  distinct : ∀ (i j : Nat) (a b : LockCall) (token : Nat), s.calls[i]? = some a → s.calls[j]? = some b →
    a.command.drawn = some token → b.command.drawn = some token → i = j
  held : ∀ key token, s.locks key = some token → s.Granted key token
  alive : ∀ key token, s.Granted key token → token ∉ s.expired → token ∉ s.released → s.locks key = some token
  /-- What a client received is what Redis answered. -/
  received : ∀ (i : Nat) (call : LockCall) (b : Bool), s.calls[i]? = some call → call.outcome = some (some b) →
    call.answer = some b

section Inv

variable {s : LockSystem} {i : Nat} {call new : LockCall}

theorem mem_tokens {token : Nat} (h : s.calls[i]? = some call) (drawn : call.command.drawn = some token) :
    token ∈ s.tokens := List.mem_filterMap.mpr ⟨call, List.mem_of_getElem? h, drawn⟩

/-- A call of the list is an old one or the one just sent. -/
theorem getElem?_send {command : LockCommand} {j : Nat} {c : LockCall} (h : (s.send command).calls[j]? = some c) :
    s.calls[j]? = some c ∨ (j = s.calls.length ∧ c = { command := command }) := by
  unfold send at h
  rw [List.getElem?_append] at h
  split_ifs at h with old
  · exact .inl h
  · obtain ⟨bound, same⟩ := List.getElem?_eq_some_iff.mp h
    have last : j = s.calls.length := by
      rw [List.length_singleton] at bound
      omega
    subst last
    refine .inr ⟨rfl, ?_⟩
    rw [← same]
    simp

theorem Inv.sent {command : LockCommand} (h : s.Inv) (fresh : ∀ token, command.drawn = some token → token ∉ s.tokens) :
    (s.send command).Inv where
  distinct := by
    intro i j a b token ha hb da db
    obtain ha | ⟨rfl, rfl⟩ := getElem?_send ha
    · obtain hb | ⟨rfl, rfl⟩ := getElem?_send hb
      · exact h.distinct i j a b token ha hb da db
      · exact absurd (mem_tokens ha da) (fresh token db)
    · obtain hb | ⟨rfl, rfl⟩ := getElem?_send hb
      · exact absurd (mem_tokens hb db) (fresh token da)
      · rfl
  held key token locked := granted_send.mpr (h.held key token locked)
  alive key token granted := h.alive key token (granted_send.mp granted)
  received := by
    intro i c b hc got
    obtain hc | ⟨rfl, rfl⟩ := getElem?_send hc
    · exact h.received i c b hc got
    · cases got

/-- Tokens stay distinct while commands stay as they are. -/
theorem Inv.distinct_set {s' : LockSystem} (h : s.Inv) (place : s.calls[i]? = some call)
    (command : new.command = call.command) (calls : s'.calls = s.calls.set i new) :
    ∀ (j k : Nat) (a b : LockCall) (token : Nat), s'.calls[j]? = some a → s'.calls[k]? = some b →
      a.command.drawn = some token → b.command.drawn = some token → j = k := by
  have before : ∀ (j : Nat) (c : LockCall), s'.calls[j]? = some c →
      ∃ c', s.calls[j]? = some c' ∧ c.command = c'.command := by
    intro j c hc
    rw [calls, getElem?_set_call place] at hc
    split_ifs at hc with at_i
    · cases hc
      exact ⟨call, at_i ▸ place, command⟩
    · exact ⟨c, hc, rfl⟩
  intro j k a b token ha hb da db
  obtain ⟨a', ha', same⟩ := before j a ha
  obtain ⟨b', hb', same'⟩ := before k b hb
  exact h.distinct j k a' b' token ha' hb' (same ▸ da) (same' ▸ db)

theorem Inv.ended {outcome : Option Bool} (h : s.Inv) (place : s.calls[i]? = some call)
    (answered : ∀ b, outcome = some b → call.answer = some b) :
    Inv { s with calls := s.calls.set i { call with outcome := some outcome } } := by
  generalize hnew : ({ call with outcome := some outcome } : LockCall) = new
  have command : new.command = call.command := by rw [← hnew]
  have answer : new.answer = call.answer := by rw [← hnew]
  refine ⟨h.distinct_set place command rfl, fun key token locked => ?_, fun key token granted => ?_, ?_⟩
  · exact (granted_outcome place rfl command answer).mpr (h.held key token locked)
  · exact h.alive key token ((granted_outcome place rfl command answer).mp granted)
  · intro j c b hc got
    rw [getElem?_set_call place] at hc
    split_ifs at hc with at_i
    · cases hc
      rw [← hnew] at got
      exact answer.trans (answered b (Option.some_inj.mp got))
    · exact h.received j c b hc got

/-- The lock of a key goes, and its token is noted. -/
theorem Inv.removed {key : String} {token : Nat} (s' : LockSystem) (h : s.Inv) (locked : s.locks key = some token)
    (locks : s'.locks = Function.update s.locks key none)
    (granted : ∀ k t, s'.Granted k t ↔ s.Granted k t)
    (noted : ∀ t, t ∉ s'.expired → t ∉ s'.released → t ≠ token ∧ t ∉ s.expired ∧ t ∉ s.released) :
    (∀ k t, s'.locks k = some t → s'.Granted k t) ∧
      ∀ k t, s'.Granted k t → t ∉ s'.expired → t ∉ s'.released → s'.locks k = some t := by
  rw [locks]
  constructor
  · intro k t hk
    by_cases same : k = key
    · rw [same, Function.update_self] at hk
      cases hk
    · rw [Function.update_of_ne same] at hk
      exact (granted k t).mpr (h.held k t hk)
  · intro k t hg hexpired hreleased
    obtain ⟨other, hexpired, hreleased⟩ := noted t hexpired hreleased
    have still : s.locks k = some t := h.alive k t ((granted k t).mp hg) hexpired hreleased
    have different : k ≠ key := by
      rintro rfl
      rw [locked] at still
      exact other (Option.some_inj.mp still).symm
    rw [Function.update_of_ne different]
    exact still

theorem Inv.expired {key : String} {token : Nat} (h : s.Inv) (locked : s.locks key = some token) :
    Inv { s with locks := Function.update s.locks key none, expired := token :: s.expired } := by
  have removed := h.removed { s with locks := Function.update s.locks key none, expired := token :: s.expired } locked
    rfl (fun _ _ => Iff.rfl) fun t hexpired hreleased =>
      ⟨fun same => hexpired (same ▸ List.mem_cons_self), fun old => hexpired (List.mem_cons_of_mem _ old), hreleased⟩
  exact { distinct := h.distinct, held := removed.1, alive := removed.2, received := h.received }

/-- Redis ran the command and left the locks as they were. -/
theorem Inv.kept (s' : LockSystem) (h : s.Inv) (locks : s'.locks = s.locks)
    (granted : ∀ k t, s'.Granted k t ↔ s.Granted k t) (expired : s'.expired = s.expired)
    (released : s'.released = s.released) :
    (∀ k t, s'.locks k = some t → s'.Granted k t) ∧
      ∀ k t, s'.Granted k t → t ∉ s'.expired → t ∉ s'.released → s'.locks k = some t := by
  rw [locks, expired, released]
  exact ⟨fun k t hk => (granted k t).mpr (h.held k t hk), fun k t hg => h.alive k t ((granted k t).mp hg)⟩

/-- Redis granted a free lock. -/
theorem Inv.granted {key : String} {token : Nat} (s' : LockSystem) (h : s.Inv) (free : s.locks key = none)
    (locks : s'.locks = Function.update s.locks key (some token))
    (granted : ∀ k t, s'.Granted k t ↔ (k = key ∧ t = token) ∨ s.Granted k t) (expired : s'.expired = s.expired)
    (released : s'.released = s.released) :
    (∀ k t, s'.locks k = some t → s'.Granted k t) ∧
      ∀ k t, s'.Granted k t → t ∉ s'.expired → t ∉ s'.released → s'.locks k = some t := by
  rw [locks, expired, released]
  constructor
  · intro k t hk
    by_cases same : k = key
    · rw [same, Function.update_self] at hk
      exact (granted k t).mpr (.inl ⟨same, (Option.some_inj.mp hk).symm⟩)
    · rw [Function.update_of_ne same] at hk
      exact (granted k t).mpr (.inr (h.held k t hk))
  · intro k t hg hexpired hreleased
    obtain ⟨rfl, rfl⟩ | old := (granted k t).mp hg
    · exact Function.update_self ..
    · have still : s.locks k = some t := h.alive k t old hexpired hreleased
      have different : k ≠ key := by
        rintro rfl
        rw [free] at still
        cases still
      rw [Function.update_of_ne different]
      exact still

theorem execute_set (key : String) (token : Nat) (command : call.command = .set key token) :
    (s.execute i call).locks =
        (if s.locks key = none then Function.update s.locks key (some token) else s.locks) ∧
      (s.execute i call).released = s.released := by
  unfold execute
  rw [command]
  dsimp only [LockCommand.run]
  constructor
  · split_ifs <;> rfl
  · rfl

theorem execute_release (key : String) (token : Nat) (command : call.command = .release key token) :
    (s.execute i call).locks =
        (if s.locks key = some token then Function.update s.locks key none else s.locks) ∧
      (s.execute i call).released = if s.locks key = some token then token :: s.released else s.released := by
  unfold execute
  rw [command]
  dsimp only [LockCommand.run]
  by_cases own : s.locks key = some token
  · simp [own]
  · simp [own]

/-- Running a command grants nothing but the free lock that a `set` asks for. -/
theorem granted_execute (place : s.calls[i]? = some call) (unanswered : call.answer = none) (k : String) (t : Nat) :
    (s.execute i call).Granted k t ↔ (call.command = .set k t ∧ s.locks k = none) ∨ s.Granted k t := by
  have calls : (s.execute i call).calls = s.calls.set i { call with answer := some (call.command.run s.locks).1 } := rfl
  refine (granted_answer place unanswered calls).trans (or_congr_left (and_congr_right fun command => ?_))
  have command : call.command = .set k t := command
  dsimp only
  rw [command]
  unfold LockCommand.run
  dsimp only
  split_ifs with free <;> simp [free]

theorem Inv.executed (h : s.Inv) (place : s.calls[i]? = some call) (unanswered : call.answer = none) :
    (s.execute i call).Inv := by
  have granted := granted_execute place unanswered
  have locks : (∀ k t, (s.execute i call).locks k = some t → (s.execute i call).Granted k t) ∧
      ∀ k t, (s.execute i call).Granted k t → t ∉ (s.execute i call).expired → t ∉ (s.execute i call).released →
        (s.execute i call).locks k = some t := by
    cases command : call.command with
    | set key token =>
        obtain ⟨locks, released⟩ := execute_set (s := s) (i := i) key token command
        by_cases free : s.locks key = none
        · rw [if_pos free] at locks
          refine h.granted _ free locks (fun k t => (granted k t).trans (or_congr_left ?_)) rfl released
          rw [command, LockCommand.set.injEq]
          constructor
          · rintro ⟨⟨rfl, rfl⟩, -⟩
            exact ⟨rfl, rfl⟩
          · rintro ⟨rfl, rfl⟩
            exact ⟨⟨rfl, rfl⟩, free⟩
        · rw [if_neg free] at locks
          refine h.kept _ locks (fun k t => (granted k t).trans (or_iff_right ?_)) rfl released
          rintro ⟨same, taken⟩
          rw [command] at same
          cases same
          exact free taken
    | release key token =>
        obtain ⟨locks, released⟩ := execute_release (s := s) (i := i) key token command
        have same : ∀ k t, (s.execute i call).Granted k t ↔ s.Granted k t := by
          intro k t
          rw [granted, command]
          simp
        by_cases own : s.locks key = some token
        · rw [if_pos own] at locks released
          refine h.removed _ own locks same fun t hexpired hreleased => ?_
          rw [released, List.mem_cons, not_or] at hreleased
          exact ⟨hreleased.1, hexpired, hreleased.2⟩
        · rw [if_neg own] at locks released
          exact h.kept _ locks same rfl released
  refine { distinct := h.distinct_set place ?_ rfl, held := locks.1, alive := locks.2, received := ?_ }
  · rfl
  · intro j c b hc got
    change (s.calls.set i _)[j]? = some c at hc
    rw [getElem?_set_call place] at hc
    split_ifs at hc with at_i
    · cases hc
      have answered : call.answer = some b := h.received i call b place got
      rw [unanswered] at answered
      cases answered
    · exact h.received j c b hc got

theorem Inv.step {s' : LockSystem} {event : LockEvent} (h : s.Inv) (hs : s.step event = some s') : s'.Inv := by
  cases step_cases hs with
  | acquire key token fresh =>
      refine h.sent fun t drawn => ?_
      rw [← Option.some_inj.mp drawn]
      exact fresh
  | release key token => exact h.sent fun t drawn => by cases drawn
  | releaseNone key => exact h
  | execute i call place unanswered => exact h.executed place unanswered
  | receive i call place => exact h.ended place fun b hb => hb
  | fail i call place => exact h.ended place fun b hb => by cases hb
  | expire key token held => exact h.expired held

/-- Nothing has happened yet. -/
theorem Inv.start : Inv {} where
  distinct i j a b token ha := by cases ha
  held key token locked := by cases locked
  alive := by
    rintro key token ⟨i, call, place, -⟩
    cases place
  received i call b hc := by cases hc

/-- The invariant in every state that any order of events leads to. -/
theorem inv_of_runs (h : Runs step (fun _ _ => True) {} s) : s.Inv :=
  h.invariant Inv.start fun _ _ _ hi _ hs => hi.step hs

end Inv

/-! ## Ownership -/

/-- A client has acquired the token, and the lock has neither expired nor been released. -/
def Live (s : LockSystem) (key : String) (token : Nat) : Prop :=
  (∃ (i : Nat) (call : LockCall), s.calls[i]? = some call ∧ call.command = .set key token ∧
    call.result = some { acquired := true, token := some token, redisAvailable := true }) ∧
    token ∉ s.expired ∧ token ∉ s.released

/-- Who owns the locks. -/
structure Owned (s : LockSystem) : Prop where
  /-- A lock belongs to the one call of `acquire` that generated its token. -/
  owner : ∀ key token, s.locks key = some token → ∃ i, s.AcquiredBy key token i ∧
    ∀ (j : Nat) (call : LockCall), s.calls[j]? = some call → call.command.drawn = some token → j = i
  /-- A call of `release` removes no lock but the one whose token it has. -/
  release : ∀ (i : Nat) (call : LockCall) (key : String) (token : Nat) (s' : LockSystem),
    s.calls[i]? = some call → call.command = .release key token → s.step (.execute i) = some s' →
    ∀ key' token', s.locks key' = some token' → ¬(key' = key ∧ token' = token) → s'.locks key' = some token'
  /-- A call of `release` that Redis runs while its token holds the lock leaves the key free. -/
  freed : ∀ (i : Nat) (call : LockCall) (key : String) (token : Nat) (s' : LockSystem),
    s.calls[i]? = some call → call.command = .release key token → s.locks key = some token →
    s.step (.execute i) = some s' → s'.locks key = none
  /-- A key has one live token at a time, and Redis holds it. -/
  live : ∀ key token, s.Live key token → s.locks key = some token
  one : ∀ key token token', s.Live key token → s.Live key token' → token = token'

section Owned

variable {s : LockSystem}

theorem Live.locked {key : String} {token : Nat} (h : s.Live key token) (inv : s.Inv) : s.locks key = some token := by
  obtain ⟨⟨i, call, place, command, result⟩, hexpired, hreleased⟩ := h
  refine inv.alive key token ⟨i, call, place, command, ?_⟩ hexpired hreleased
  unfold LockCall.result at result
  rw [command] at result
  obtain ⟨outcome, got, acquired⟩ := Option.map_eq_some_iff.mp result
  refine inv.received i call true place (got.trans (congrArg some ?_))
  cases outcome with
  | none => cases acquired
  | some b =>
      cases b with
      | false => cases acquired
      | true => rfl

theorem Inv.owned (h : s.Inv) : s.Owned where
  owner key token locked := by
    obtain ⟨i, call, place, command, answered⟩ := h.held key token locked
    refine ⟨i, ⟨call, place, command, answered⟩, fun j other place' drawn => ?_⟩
    have own : call.command.drawn = some token := by
      rw [command]
      rfl
    exact h.distinct j i other call token place' place drawn own
  release := by
    intro i call key token s' place command hs key' token' locked other
    cases step_cases hs with
    | execute i call' place' unanswered =>
        rw [place] at place'
        cases place'
        rw [(execute_release key token command).1]
        split_ifs with own
        · have different : key' ≠ key := by
            rintro rfl
            rw [own] at locked
            exact other ⟨rfl, (Option.some_inj.mp locked).symm⟩
          rw [Function.update_of_ne different]
          exact locked
        · exact locked
  freed := by
    intro i call key token s' place command held hs
    cases step_cases hs with
    | execute i call' place' unanswered =>
        rw [place] at place'
        cases place'
        rw [(execute_release key token command).1, if_pos held]
        exact Function.update_self ..
  live key token live := live.locked h
  one key token token' live live' := Option.some_inj.mp ((live.locked h).symm.trans (live'.locked h))

end Owned

end LockSystem

/-! ## The lock operations of `process` -/

/-- The locks at their keys. -/
def Shared.heldLocks (sh : Shared) : Locks := fun key => sh.locks.lookup key

section Commands

variable (key : String) (sh : Shared) (l : Session)

/-- `acquire` on the shared state sends its command, Redis runs it at once and the answer arrives. -/
theorem exec_lockAcquire : (exec false (.lockAcquire key) sh l).1 =
      .ok (RedisLock.acquired sh.nextToken (some ((LockCommand.set key sh.nextToken).run sh.heldLocks).1)) ∧
    (exec false (.lockAcquire key) sh l).2.1.heldLocks = ((LockCommand.set key sh.nextToken).run sh.heldLocks).2 := by
  unfold exec LockCommand.run
  dsimp only [Bool.false_eq_true, if_false]
  by_cases free : sh.heldLocks key = none
  · have absent : (sh.locks.lookup key).isSome = false := by
      rw [Option.isSome_eq_false_iff, Option.isNone_iff_eq_none]
      exact free
    rw [absent, if_pos free]
    refine ⟨rfl, funext fun k => ?_⟩
    change List.lookup k ((key, sh.nextToken) :: sh.locks) = Function.update sh.heldLocks key (some sh.nextToken) k
    rw [List.lookup_cons]
    by_cases same : k = key
    · rw [same, beq_self_eq_true, Function.update_self]
    · rw [beq_eq_false_iff_ne.mpr same, Function.update_of_ne same]
      rfl
  · have present : (sh.locks.lookup key).isSome = true := Option.isSome_iff_ne_none.mpr free
    rw [present, if_neg free]
    exact ⟨rfl, rfl⟩

/-- `release` with a token does the same with the release script. -/
theorem exec_lockRelease (token : Nat) : (exec false (.lockRelease key (some token)) sh l).2.1.heldLocks =
    ((LockCommand.release key token).run sh.heldLocks).2 := by
  unfold exec LockCommand.run
  dsimp only
  by_cases own : sh.heldLocks key = some token
  · have same : (sh.locks.lookup key != some token) = false := bne_eq_false_iff_eq.mpr own
    rw [if_pos own, same]
    refine funext fun k => ?_
    change List.lookup k (sh.locks.filter fun kv => kv.1 != key) = Function.update sh.heldLocks key none k
    by_cases same : k = key
    · rw [same, lookup_filter_self, Function.update_self]
    · rw [lookup_filter_ne same, Function.update_of_ne same]
      rfl
  · have other : (sh.locks.lookup key != some token) = true := bne_iff_ne.mpr own
    rw [if_neg own, other]
    rfl

/-- A call at a lock operation of `process` runs the command on the locks that Redis holds. -/
structure RunsLocks (c : Config) : Prop where
  acquire : ∀ (i : Nat) (l : Session) (key : String) (k : Except Exc RedisLockResult → Py TransactionProcessingResult)
    (c' : Config), c.threads[i]? = some ⟨l, .op (.lockAcquire key) k⟩ → step c (.run i) = some c' →
    c'.shared.heldLocks = ((LockCommand.set key c.shared.nextToken).run c.shared.heldLocks).2 ∧
      c'.threads[i]? = some ⟨l, k (.ok (RedisLock.acquired c.shared.nextToken
        (some ((LockCommand.set key c.shared.nextToken).run c.shared.heldLocks).1)))⟩
  release : ∀ (i : Nat) (l : Session) (key : String) (token : Nat)
    (k : Except Exc Unit → Py TransactionProcessingResult) (c' : Config),
    c.threads[i]? = some ⟨l, .op (.lockRelease key (some token)) k⟩ → step c (.run i) = some c' →
    c'.shared.heldLocks = ((LockCommand.release key token).run c.shared.heldLocks).2
  /-- The token that Redis holds is given back. -/
  freed : ∀ (i : Nat) (l : Session) (key : String) (token : Nat)
    (k : Except Exc Unit → Py TransactionProcessingResult) (c' : Config),
    c.threads[i]? = some ⟨l, .op (.lockRelease key (some token)) k⟩ → c.shared.heldLocks key = some token →
    step c (.run i) = some c' → c'.shared.heldLocks key = none

/-- What the step of a call does. -/
theorem step_run_eq {l : Session} {c c' : Config} {i : Nat} {o : Op} {k : Except Exc o.Res → Py TransactionProcessingResult}
    (at_o : c.threads[i]? = some ⟨l, .op o k⟩) (hs : step c (.run i) = some c') :
    c' = ⟨(exec false o c.shared l).2.1,
      c.threads.set i ⟨(exec false o c.shared l).2.2, k (exec false o c.shared l).1⟩⟩ := by
  obtain ⟨l', o', k', at_o', -, rfl⟩ := step_run hs
  rw [at_o] at at_o'
  cases at_o'
  rfl

theorem runsLocks (c : Config) : RunsLocks c where
  acquire := by
    intro i l key k c' at_acquire hs
    obtain ⟨answer, locks⟩ := exec_lockAcquire key c.shared l
    have session : (exec false (.lockAcquire key) c.shared l).2.2 = l := by
      simp only [exec]
      split_ifs <;> rfl
    obtain ⟨bound, -⟩ := List.getElem?_eq_some_iff.mp at_acquire
    rw [step_run_eq at_acquire hs]
    refine ⟨locks, ?_⟩
    rw [List.getElem?_set_self bound, session, answer]
    rfl
  release := by
    intro i l key token k c' at_release hs
    rw [step_run_eq at_release hs]
    exact exec_lockRelease key c.shared l token
  freed := by
    intro i l key token k c' at_release held hs
    rw [step_run_eq at_release hs]
    have locks := exec_lockRelease key c.shared l token
    rw [locks]
    unfold LockCommand.run
    dsimp only
    rw [if_pos held]
    exact Function.update_self ..

end Commands

/-- The operation is one of the lock. -/
def Op.locks : Op → Bool
  | .lockAcquire _ => true
  | .lockRelease .. => true
  | _ => false

/-- The program has nothing to do with the lock. -/
abbrev LockFree {α : Type} (p : Py α) : Prop := p.Each fun o => o.locks = false

section LockFree

theorem checkOrStart_lockFree (svc : Service) (key : String) (payload : Json) :
    LockFree (svc.checkOrStart key payload) := by
  have plain : LockFree (IdempotencyService.checkOrStart svc key payload) := by
    refine Each.bind (Each.call rfl) fun checkedAt => Each.bind (Each.call rfl) fun record => ?_
    cases record with
    | none => exact Each.bind (Each.call rfl) fun _ => trivial
    | some record => exact Each.lift _
  have db : LockFree (CachedIdempotencyService.checkOrStartFromDb svc key payload) := by
    refine Each.bind plain fun result => ?_
    split
    · exact Each.bind (Each.call rfl) fun _ => trivial
    · trivial
  unfold Service.checkOrStart
  split
  · refine Each.bind (Each.call rfl) fun cached => ?_
    cases cached with
    | none => exact db
    | some cached =>
        dsimp only
        split
        · trivial
        · exact db
  · exact plain

theorem closeProcessing_lockFree {svc : Service} {site : Site} {key : String} {payload : Option Json}
    {requestHash : Option String} {attempted : IdempotencyStatus}
    {mark : IdempotencyRecord → Time → Py IdempotencyRecord} (hmark : ∀ r t, LockFree (mark r t)) :
    LockFree (IdempotencyService.closeProcessing svc site key payload requestHash attempted mark) := by
  have existing : LockFree (IdempotencyService.getExistingRecord site key) := by
    refine Each.bind (Each.call rfl) fun record => ?_
    cases record with
    | none => trivial
    | some record => trivial
  refine Each.bind existing fun record => Each.bind (Each.lift _) fun _ => ?_
  split
  · trivial
  · exact Each.bind (Each.lift _) fun _ => Each.bind (Each.call rfl) fun closedAt => hmark record closedAt

theorem complete_lockFree (svc : Service) (key : String) (code : Nat) (body payload : Json) :
    LockFree (svc.complete key code body payload) := by
  have plain : ∀ h, LockFree (IdempotencyService.complete svc key code (some body) (some payload) h) :=
    fun h => closeProcessing_lockFree fun _ _ => Each.call rfl
  unfold Service.complete
  split
  · exact Each.bind (plain none) fun _ => Each.bind (Each.call rfl) fun _ => trivial
  · exact plain none

theorem fail_lockFree (svc : Service) (key : String) (code : Nat) (body : Json) (message : String) (payload : Json) :
    LockFree (svc.fail key code body message payload) :=
  closeProcessing_lockFree fun _ _ => Each.call rfl

theorem changeStatus_lockFree {site : Site} (event : TransactionEvent) (next : TransactionStatus)
    (reason : Option String) : LockFree (TransactionStateService.changeStatus site event next reason) :=
  Each.bind (Each.lift _) fun _ => Each.call rfl

theorem onFailure_lockFree (svc : Service) (key : String) (payload : Json) (exc : Exc) :
    LockFree (onFailure svc key payload exc) := by
  have marked : LockFree (markFailedIfDomain exc) := by
    unfold markFailedIfDomain
    split
    · refine Each.bind (Each.call rfl) fun event => ?_
      cases event with
      | none => trivial
      | some event =>
          dsimp only
          split
          · trivial
          · exact Each.handle (changeStatus_lockFree _ _ _) fun _ => trivial
    · trivial
  refine Each.bind marked fun _ => Each.bind (fail_lockFree _ _ _ _ _ _) fun _ => ?_
  split
  · trivial
  · trivial

theorem runEvent_lockFree (account : Account) (event : TransactionEvent) (original : Option TransactionEvent) :
    LockFree (runEvent account event original) := by
  have applied : ∀ event, LockFree (LedgerService.applyEvent account event original) := fun event =>
    Each.bind (Each.lift _) fun _ => Each.bind (Each.call rfl) fun _ => Each.bind (Each.call rfl) fun _ => trivial
  refine Each.bind (changeStatus_lockFree _ _ _) fun event => Each.bind (changeStatus_lockFree _ _ _) fun event =>
    Each.bind (applied event) fun ledger => ?_
  split
  · exact Each.bind (changeStatus_lockFree _ _ _) fun _ => Each.bind (changeStatus_lockFree _ _ _) fun _ => trivial
  · exact Each.bind (changeStatus_lockFree _ _ _) fun _ => trivial

theorem applyStartedRequest_lockFree (svc : Service) (key : String) (request : TransactionEventCreateRequest) :
    LockFree (applyStartedRequest svc key request) := by
  have checked : ∀ account, LockFree (checkQuarantine svc account) := by
    intro account
    unfold checkQuarantine
    split
    · refine Each.bind (Each.call rfl) fun active => ?_
      cases active with
      | none => trivial
      | some q => trivial
    · trivial
  have duplicate : ∀ event, LockFree (duplicateResult event) := by
    intro event
    refine Each.bind (Each.call rfl) fun ledger => ?_
    cases ledger with
    | none => trivial
    | some ledger => trivial
  have original : LockFree (getOriginalEventForCancel request) := by
    unfold getOriginalEventForCancel
    split
    · trivial
    · split
      · trivial
      · refine Each.bind (Each.bind (Each.call rfl) fun _ => Each.lift _) fun event => ?_
        cases event with
        | none => trivial
        | some event => trivial
  refine Each.bind (Each.call rfl) fun account => ?_
  cases account with
  | none => trivial
  | some account =>
      refine Each.bind (checked account) fun _ =>
        Each.bind (Each.bind (Each.call rfl) fun _ => Each.lift _) fun existing => ?_
      cases existing with
      | some existing => exact Each.bind (Each.lift _) fun _ => duplicate existing
      | none =>
          exact Each.bind original fun original => Each.bind (Each.call rfl) fun event =>
            Each.bind (Each.call rfl) fun _ => runEvent_lockFree _ _ _

theorem processStarted_lockFree (svc : Service) (key : String) (request : TransactionEventCreateRequest)
    (payload : Json) : LockFree (processStarted svc key request payload) := by
  refine Each.andFinally (Each.tryCatch ?_ fun exc => onFailure_lockFree svc key payload exc) (Each.call rfl)
  exact Each.bind (Each.call rfl) fun _ => Each.bind (applyStartedRequest_lockFree _ _ _) fun _ =>
    Each.bind (complete_lockFree _ _ _ _ _) fun _ => trivial

theorem attempts_lockFree (svc : Service) (key : String) (request : TransactionEventCreateRequest) (ns : List Nat) :
    LockFree (attempts svc key request ns) := by
  have body : LockFree (attemptBody svc key request) := by
    refine Each.bind (checkOrStart_lockFree svc key _) fun idem => ?_
    split
    · trivial
    · exact Each.lift _
    · exact Each.lift _
    · exact processStarted_lockFree _ _ _ _
  have transaction : LockFree (withBegin (attemptBody svc key request)) := by
    refine Each.handle body fun r => ?_
    cases r with
    | ok reply =>
        exact Each.bind (Each.tryCatch (Each.call rfl) fun x => Each.bind (Each.call rfl) fun _ => trivial)
          fun _ => trivial
    | error x => exact Each.bind (Each.call rfl) fun _ => trivial
  induction ns with
  | nil => trivial
  | cons attempt rest ih =>
      refine Each.tryCatch transaction fun x => ?_
      split
      · refine Each.bind (Each.call rfl) fun _ => ?_
        split
        · trivial
        · exact Each.bind (Each.call rfl) fun _ => ih
      · exact Each.bind (Each.call rfl) fun _ => trivial

end LockFree

/-- What a path through `process` does with the lock: it releases what it acquired when everything else is done, and
nothing when it acquired nothing. -/
inductive ReleasesOwn (lockKey : String) : List (Answered Op Op.Res Exc) → Prop where
  | released (lock : RedisLockResult) (acquired : lock.acquired = true) (work : List (Answered Op Op.Res Exc))
      (lockFree : ∀ e ∈ work, e.1.locks = false) (done : Except Exc Unit) :
      ReleasesOwn lockKey (⟨.lockAcquire lockKey, .ok lock⟩ :: (work ++ [⟨.lockRelease lockKey lock.token, done⟩]))
  | notAcquired (lock : Except Exc RedisLockResult) (acquired : ∀ r, lock = .ok r → r.acquired = false)
      (work : List (Answered Op Op.Res Exc)) (lockFree : ∀ e ∈ work, e.1.locks = false) :
      ReleasesOwn lockKey (⟨.lockAcquire lockKey, lock⟩ :: work)

theorem process_releasesOwn {svc : Service} {key : String} {request : TransactionEventCreateRequest}
    {trace : List (Answered Op Op.Res Exc)} {out : Except Exc TransactionProcessingResult}
    (h : Path (process svc key request) trace out) :
    if svc.redisLock then ReleasesOwn (idempotencyLockKey svc key) trace else ∀ e ∈ trace, e.1.locks = false := by
  have work := attempts_lockFree svc key request [0, 1]
  unfold process at h
  split_ifs at h ⊢ with wired
  · obtain ⟨lock, rest, rfl, answered⟩ | ⟨x, rfl⟩ := h.bind_call
    · split_ifs at answered with busy
      · cases answered
        refine .notAcquired (.ok lock) (fun r hr => ?_) [] fun e he => by cases he
        cases hr
        simpa using (Bool.and_eq_true_iff.mp busy).2
      · obtain ⟨before, r, after, u, rfl, first, last⟩ := answered.andFinally
        unfold releaseLock at last
        split_ifs at last with acquired
        · rw [last.call]
          exact .released lock acquired before (first.each work) u
        · cases last
          rw [List.append_nil]
          refine .notAcquired (.ok lock) (fun r hr => ?_) before (first.each work)
          cases hr
          simpa using acquired
    · exact .notAcquired (.error x) (fun r hr => by cases hr) [] fun e he => by cases he
  · exact h.each work

/-- **Ownership of the Redis locks.** -/
theorem redis_lock_ownership :
    (∀ s : LockSystem, Runs LockSystem.step (fun _ _ => True) {} s → s.Owned) ∧
    (∀ (svc : Service) (key : String) (request : TransactionEventCreateRequest)
      (trace : List (Answered Op Op.Res Exc)) (out : Except Exc TransactionProcessingResult),
      Path (process svc key request) trace out →
      if svc.redisLock then ReleasesOwn (idempotencyLockKey svc key) trace else ∀ e ∈ trace, e.1.locks = false) ∧
    ∀ c : Config, RunsLocks c :=
  ⟨fun _ h => (LockSystem.inv_of_runs h).owned, fun _ _ _ _ _ h => process_releasesOwn h, runsLocks⟩

/-- A lock expires, another client takes it, and then the first one's release arrives. -/
def lateRelease : List LockEvent :=
  [.acquire "lock" 1, .execute 0, .receive 0, .expire "lock", .acquire "lock" 2, .execute 1, .receive 1,
    .release "lock" (some 1), .execute 2]

def lockingService : Service := ⟨settings, ⟨false, true, true⟩⟩

/-- The database is lost before the first statement, which `process` raises after it has released its lock. -/
def raisingPath : List (Answered Op Op.Res Exc) :=
  [⟨.lockAcquire (idempotencyLockKey lockingService "key"), .ok (RedisLock.acquired 7 (some true))⟩,
    ⟨.now, .error .operationalError⟩, ⟨.rollback, .ok ()⟩, ⟨.rollback, .ok ()⟩,
    ⟨.lockRelease (idempotencyLockKey lockingService "key") (some 7), .ok ()⟩]

theorem redis_lock_ownership_late :
    (∃ s : LockSystem, s.Owned ∧ s.locks "lock" = some 2 ∧ s.expired = [1] ∧ s.released = []) ∧
      ReleasesOwn (idempotencyLockKey lockingService "key") raisingPath := by
  constructor
  · have seen : (runAll LockSystem.step {} lateRelease).map (fun s => (s.locks "lock", s.expired, s.released)) =
        some (some 2, [1], []) := by decide
    obtain ⟨s, ran, read⟩ := Option.map_eq_some_iff.mp seen
    have steps : allMeet LockSystem.step (fun _ _ => true) {} lateRelease = true := by decide
    have reached : Runs LockSystem.step (fun _ _ => True) {} s := (Runs.of_runAll steps ran).mono fun _ _ _ => trivial
    rw [Prod.mk.injEq, Prod.mk.injEq] at read
    exact ⟨s, redis_lock_ownership.1 s reached, read⟩
  · have path : Path (process lockingService "key" deposit) raisingPath (.error .operationalError) :=
      .op (.op (.op (.op (.op (.raise _)))))
    exact redis_lock_ownership.2.1 lockingService "key" deposit raisingPath _ path

end EventConsistency
