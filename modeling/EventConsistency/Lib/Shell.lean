import Mathlib.Tactic.Common

/-!
# Shell scripts under `set -e`

* `Command E σ` : a command in a world `σ` with programs `E` outside; `run`, `assign`, `test`, `block`, `cond`, `call` and
  the like are what scripts are made of. A failure ends the script where `set -e` is in force: not in what is tested,
  nor in a function that is called there;
* `Outside` : what the programs answer, each after those that have run before it, and what they do;
* `wp` : what has to hold before a command, with its rules;
* `Change` : how far a world may change; `Keeps`, `Quiet` : commands that stay within it and run certain programs only;
* `Blind` : a command that takes no notice of how certain programs answer;
* `Preceded` : one program runs only after another one has succeeded.
-/

namespace EventConsistency.Lib.Shell

variable {E σ α : Type}

/-- How a command ends: with a status, in a `return` of the function around it, or in the end of the script. -/
inductive Ending where
  | status (code : Nat)
  | returned (code : Nat)
  | exited (code : Nat)
  deriving DecidableEq

namespace Ending

def code : Ending → Nat
  | status n | returned n | exited n => n

/-- With `set -e`, a failure ends the script. -/
def strict (b : Bool) : Ending → Ending
  | status (n + 1) => if b then exited (n + 1) else status (n + 1)
  | e => e

/-- At the end of a function. -/
def atCall : Ending → Ending
  | returned n => status n
  | e => e

theorem code_strict (b : Bool) (e : Ending) : (e.strict b).code = e.code := by
  rcases e with (_ | n) | n | n
  · rfl
  · cases b <;> rfl
  · rfl
  · rfl

end Ending

/-- The programs outside: what one answers after those that have run before it, and what it does when it answers so. -/
structure Outside (E σ : Type) where
  answer : List (E × Nat) → E → Nat
  effect : E → Nat → σ → σ

/-- The world, and the programs that have run with their answers. -/
structure State (E σ : Type) where
  world : σ
  trace : List (E × Nat)

/-- The state when the program has answered. -/
def State.after (s : State E σ) (w : Outside E σ) (e : E) (code : Nat) : State E σ :=
  ⟨w.effect e code s.world, s.trace ++ [(e, code)]⟩

/-- The flag tells whether `set -e` is in force. -/
def Command (E σ : Type) : Type := Outside E σ → Bool → State E σ → Ending × State E σ

namespace Command

/-- A program outside. -/
def run (e : E) : Command E σ := fun w _ s => (.status (w.answer s.trace e), s.after w e (w.answer s.trace e))

/-- A command of the shell that does not fail. -/
def assign (f : σ → σ) : Command E σ := fun _ _ s => (.status 0, { s with world := f s.world })

def skip : Command E σ := fun _ _ s => (.status 0, s)

/-- `[[ ... ]]`. -/
def test (p : σ → Bool) : Command E σ := fun _ _ s => (.status (if p s.world then 0 else 1), s)

def ret (code : Nat) : Command E σ := fun _ _ s => (.returned code, s)

def exit (code : Nat) : Command E σ := fun _ _ s => (.exited code, s)

/-- `x="$(...)"`, and what follows. -/
def letIn (f : σ → α) (p : α → Command E σ) : Command E σ := fun w b s => p (f s.world) w b s

/-- Commands one after another. -/
def block : List (Command E σ) → Command E σ
  | [] => skip
  | [p] => fun w b s => ((p w b s).1.strict b, (p w b s).2)
  | p :: q :: rest => fun w b s => match (p w b s).1.strict b with
      | .status _ => block (q :: rest) w b (p w b s).2
      | e => (e, (p w b s).2)

/-- `if p; then q; else r; fi`. -/
def cond (p q r : Command E σ) : Command E σ := fun w b s => match (p w false s).1 with
  | .status 0 => q w b (p w false s).2
  | .status (_ + 1) => r w b (p w false s).2
  | e => (e, (p w false s).2)

/-- `p || q`, and also `if ! p; then q; fi`. -/
def orElse (p q : Command E σ) : Command E σ := cond p skip q

/-- A function. -/
def call (p : Command E σ) : Command E σ := fun w b s => ((p w b s).1.atCall, (p w b s).2)

/-- Another script. -/
def child (p : Command E σ) : Command E σ := fun w _ s => (.status (p w true s).1.code, (p w true s).2)

/-- `x="$(p)"`: the shell takes `set -e` back for what it substitutes. -/
def capture (p : Command E σ) : Command E σ := fun w _ s => (.status (p w false s).1.code, (p w false s).2)

/-! ## Preconditions -/

/-- `Q` holds of how `p` ends and where. -/
def wp (w : Outside E σ) (b : Bool) (p : Command E σ) (Q : Ending → State E σ → Prop) (s : State E σ) : Prop :=
  Q (p w b s).1 (p w b s).2

/-- What `Q` asks for between two commands: what the next one asks for, unless the script or the function ends here. -/
def between (b : Bool) (Q : Ending → State E σ → Prop) (next : State E σ → Prop) : Ending → State E σ → Prop
  | .status 0, s => next s
  | .status (n + 1), s => if b then Q (.exited (n + 1)) s else next s
  | e, s => Q e s

section Rules

variable {w : Outside E σ} {b : Bool} {p q r : Command E σ} {rest : List (Command E σ)} {s : State E σ}
  {Q Q' : Ending → State E σ → Prop}

theorem between_zero {next : State E σ → Prop} : between b Q next (.status 0) s ↔ next s := Iff.rfl

theorem wp_mono (h : p.wp w b Q s) (hQ : ∀ e s', Q e s' → Q' e s') : p.wp w b Q' s := hQ _ _ h

theorem wp_run {e : E} :
    (run e).wp w b Q s ↔ Q (.status (w.answer s.trace e)) (s.after w e (w.answer s.trace e)) := Iff.rfl

theorem wp_assign {f : σ → σ} : (assign f).wp w b Q s ↔ Q (.status 0) { s with world := f s.world } := Iff.rfl

theorem wp_test {t : σ → Bool} : (test t).wp w b Q s ↔ Q (.status (if t s.world then 0 else 1)) s := Iff.rfl

theorem wp_letIn {f : σ → α} {k : α → Command E σ} : (letIn f k).wp w b Q s ↔ (k (f s.world)).wp w b Q s := Iff.rfl

theorem wp_call : (call p).wp w b Q s ↔ p.wp w b (fun e => Q e.atCall) s := Iff.rfl

theorem wp_child : (child p).wp w b Q s ↔ p.wp w true (fun e => Q (.status e.code)) s := Iff.rfl

theorem wp_capture : (capture p).wp w b Q s ↔ p.wp w false (fun e => Q (.status e.code)) s := Iff.rfl

theorem wp_block_last : (block [p]).wp w b Q s ↔ p.wp w b (fun e => Q (e.strict b)) s := Iff.rfl

theorem wp_block : (block (p :: q :: rest)).wp w b Q s ↔ p.wp w b (between b Q ((block (q :: rest)).wp w b Q)) s := by
  unfold wp
  rw [block]
  dsimp only
  generalize hout : p w b s = out
  obtain ⟨e, s'⟩ := out
  rcases e with (_ | n) | n | n
  · rfl
  · cases b <;> rfl
  · rfl
  · rfl

theorem wp_cond : (cond p q r).wp w b Q s ↔ p.wp w false (fun e s' => match e with
    | .status 0 => q.wp w b Q s'
    | .status (_ + 1) => r.wp w b Q s'
    | e => Q e s') s := by
  unfold wp cond
  generalize hout : p w false s = out
  obtain ⟨e, s'⟩ := out
  rcases e with (_ | n) | n | n <;> rfl

theorem wp_block_assign {f : σ → σ} : (block (assign f :: q :: rest)).wp w b Q s ↔
    (block (q :: rest)).wp w b Q { s with world := f s.world } := by
  rw [wp_block, wp_assign]
  rfl

/-- A test in a list that ends the script when it fails. -/
theorem wp_block_exit {t : σ → Bool} {code : Nat} (hfails : t s.world = false → Q (.exited code) s)
    (hnext : t s.world = true → (block (q :: rest)).wp w b Q s) :
    (block (orElse (test t) (exit code) :: q :: rest)).wp w b Q s := by
  unfold orElse
  rw [wp_block, wp_cond, wp_test]
  cases ht : t s.world with
  | true => exact hnext ht
  | false => exact hfails ht

/-- A test that is passed. -/
theorem wp_block_test {t : σ → Bool} (ht : t s.world = true) :
    (block (orElse (test t) r :: q :: rest)).wp w b Q s ↔ (block (q :: rest)).wp w b Q s := by
  unfold orElse
  rw [wp_block, wp_cond, wp_test, if_pos ht]
  rfl

/-- A program in a list. -/
theorem wp_block_run {e : E} (hfails : ∀ n, w.answer s.trace e = n + 1 → Q (.exited (n + 1)) (s.after w e (n + 1)))
    (hnext : (block (q :: rest)).wp w true Q (s.after w e 0)) : (block (run e :: q :: rest)).wp w true Q s := by
  rw [wp_block, wp_run]
  generalize hcode : w.answer s.trace e = code at hfails
  cases code with
  | zero => exact hnext
  | succ n => exact hfails n rfl

/-- A program in a list whose failure is dealt with. -/
theorem wp_block_orElse {e : E} (hfails : ∀ n, w.answer s.trace e = n + 1 →
      r.wp w b (between b Q ((block (q :: rest)).wp w b Q)) (s.after w e (n + 1)))
    (hnext : (block (q :: rest)).wp w b Q (s.after w e 0)) :
    (block (orElse (run e) r :: q :: rest)).wp w b Q s := by
  unfold orElse
  rw [wp_block, wp_cond, wp_run]
  generalize hcode : w.answer s.trace e = code at hfails
  cases code with
  | zero => exact hnext
  | succ n => exact hfails n rfl

end Rules

end Command

/-! ## Commands that change little -/

/-- How far a world may change. -/
structure Change (σ : Type) where
  rel : σ → σ → Prop
  refl : ∀ x, rel x x
  trans : ∀ {x y z}, rel x y → rel y z → rel x z

/-- It does not change. -/
def Change.none : Change σ where
  rel x y := y = x
  refl _ := rfl
  trans h h' := h'.trans h

/-- The world has changed within `C` since `s`, and only programs in `A` have run. -/
structure Since (C : Change σ) (A : E → Prop) (s s' : State E σ) : Prop where
  world : C.rel s.world s'.world
  trace : ∃ more, s'.trace = s.trace ++ more ∧ ∀ x ∈ more, A x.1

section Since

variable {C : Change σ} {A : E → Prop} {s s' s'' : State E σ}

theorem Since.refl (s : State E σ) : Since C A s s := ⟨C.refl _, [], (List.append_nil _).symm, by simp⟩

theorem Since.trans (h : Since C A s s') (h' : Since C A s' s'') : Since C A s s'' := by
  obtain ⟨more, heq, hmore⟩ := h.trace
  obtain ⟨more', heq', hmore'⟩ := h'.trace
  refine ⟨C.trans h.world h'.world, more ++ more', ?_, ?_⟩
  · rw [heq', heq, List.append_assoc]
  · intro x hx
    rcases List.mem_append.mp hx with hx | hx
    · exact hmore x hx
    · exact hmore' x hx

theorem Since.isPrefix (h : Since C A s s') : s.trace <+: s'.trace := by
  obtain ⟨more, heq, _⟩ := h.trace
  exact ⟨more, heq.symm⟩

theorem Since.all (h : Since C A s s') (hs : ∀ x ∈ s.trace, A x.1) : ∀ x ∈ s'.trace, A x.1 := by
  obtain ⟨more, heq, hmore⟩ := h.trace
  intro x hx
  rw [heq] at hx
  rcases List.mem_append.mp hx with hx | hx
  · exact hs x hx
  · exact hmore x hx

end Since

namespace Command

/-- It changes the world within `C` and runs only programs in `A`. -/
def Keeps (w : Outside E σ) (C : Change σ) (A : E → Prop) (p : Command E σ) : Prop := ∀ b s, Since C A s (p w b s).2

/-- Besides, it ends the script only where `set -e` is in force and it fails. -/
structure Quiet (w : Outside E σ) (C : Change σ) (A : E → Prop) (p : Command E σ) : Prop where
  since : Keeps w C A p
  alive : ∀ b s n, (p w b s).1 = .exited n → b = true ∧ n ≠ 0

/-- It does not leave the function around it. -/
def Stays (p : Command E σ) : Prop := ∀ w b s n, (p w b s).1 ≠ .returned n

section Keeps

variable {w : Outside E σ} {C : Change σ} {A : E → Prop} {p q r : Command E σ}

theorem Keeps.wp {b : Bool} {s : State E σ} {Q : Ending → State E σ → Prop} (hp : Keeps w C A p)
    (hQ : ∀ e s', Since C A s s' → Q e s') : p.wp w b Q s := hQ _ _ (hp b s)

theorem Keeps.run {e : E} (hA : A e) (heffect : ∀ code x, C.rel x (w.effect e code x)) : Keeps w C A (run e) := by
  intro b s
  exact ⟨heffect _ _, [(e, w.answer s.trace e)], rfl, by simpa using hA⟩

theorem Keeps.assign {f : σ → σ} (h : ∀ x, C.rel x (f x)) : Keeps w C A (assign f) := by
  intro b s
  exact ⟨h _, [], (List.append_nil _).symm, by simp⟩

theorem Keeps.skip : Keeps w C A skip := fun _ s => .refl s

theorem Keeps.test (t : σ → Bool) : Keeps w C A (test t) := fun _ s => .refl s

theorem Keeps.ret (code : Nat) : Keeps w C A (ret code) := fun _ s => .refl s

theorem Keeps.exit (code : Nat) : Keeps w C A (exit code) := fun _ s => .refl s

theorem Keeps.block {ps : List (Command E σ)} (h : ∀ p ∈ ps, Keeps w C A p) : Keeps w C A (block ps) := by
  induction ps using Command.block.induct with
  | case1 => exact .skip
  | case2 p => exact fun b s => h p List.mem_cons_self b s
  | case3 p q rest ih =>
      have hp := h p List.mem_cons_self
      have hrest := ih fun p' hp' => h p' (List.mem_cons_of_mem _ hp')
      intro b s
      rw [Command.block]
      dsimp only
      split
      · exact (hp b s).trans (hrest b _)
      · exact hp b s

theorem Keeps.cond (hp : Keeps w C A p) (hq : Keeps w C A q) (hr : Keeps w C A r) : Keeps w C A (cond p q r) := by
  intro b s
  unfold Command.cond
  split
  · exact (hp false s).trans (hq b _)
  · exact (hp false s).trans (hr b _)
  · exact hp false s

theorem Keeps.orElse (hp : Keeps w C A p) (hq : Keeps w C A q) : Keeps w C A (orElse p q) := .cond hp .skip hq

theorem Keeps.call (hp : Keeps w C A p) : Keeps w C A p.call := hp

theorem Keeps.letIn {f : σ → α} {k : α → Command E σ} (h : ∀ a, Keeps w C A (k a)) : Keeps w C A (letIn f k) :=
  fun b s => h (f s.world) b s

theorem Keeps.child (hp : Keeps w C A p) : Keeps w C A p.child := fun _ s => hp true s

theorem Keeps.capture (hp : Keeps w C A p) : Keeps w C A p.capture := fun _ s => hp false s

end Keeps

section Quiet

variable {w : Outside E σ} {C : Change σ} {A : E → Prop} {b : Bool} {p q r : Command E σ} {rest : List (Command E σ)}
  {s : State E σ} {Q : Ending → State E σ → Prop}

theorem Stays.run (e : E) : Stays (run e : Command E σ) := fun _ _ _ _ h => by cases h

theorem Stays.call (p : Command E σ) : Stays p.call := by
  intro w b s n h
  unfold Command.call Ending.atCall at h
  dsimp only at h
  split at h
  · cases h
  · rename_i hne
    exact hne n h

theorem Stays.cond (hp : Stays p) (hq : Stays q) (hr : Stays r) : Stays (Command.cond p q r) := by
  intro w b s n
  unfold Command.cond
  split
  · exact hq w b _ n
  · exact hr w b _ n
  · exact hp w false s n

theorem Quiet.run {e : E} (hA : A e) (heffect : ∀ code x, C.rel x (w.effect e code x)) : Quiet w C A (run e) :=
  ⟨.run hA heffect, fun _ _ _ h => by cases h⟩

theorem Quiet.assign {f : σ → σ} (h : ∀ x, C.rel x (f x)) : Quiet w C A (assign f) :=
  ⟨.assign h, fun _ _ _ h => by cases h⟩

theorem Quiet.skip : Quiet w C A skip := ⟨.skip, fun _ _ _ h => by cases h⟩

theorem Quiet.ret (code : Nat) : Quiet w C A (ret code) := ⟨.ret code, fun _ _ _ h => by cases h⟩

theorem strict_eq_exited {e : Ending} {n : Nat} (h : ∀ n, e = .exited n → b = true ∧ n ≠ 0)
    (hs : e.strict b = .exited n) : b = true ∧ n ≠ 0 := by
  rcases e with (_ | m) | m | m
  · cases hs
  · cases b with
    | true =>
        cases hs
        exact ⟨rfl, m.succ_ne_zero⟩
    | false => cases hs
  · cases hs
  · exact h n hs

theorem Quiet.block {ps : List (Command E σ)} (h : ∀ p ∈ ps, Quiet w C A p) : Quiet w C A (block ps) := by
  refine ⟨.block fun p hp => (h p hp).since, ?_⟩
  induction ps using Command.block.induct with
  | case1 => exact fun _ _ _ h => by cases h
  | case2 p => exact fun b s n => strict_eq_exited ((h p List.mem_cons_self).alive b s)
  | case3 p q rest ih =>
      intro b s n
      rw [Command.block]
      dsimp only
      split
      · exact ih (fun p' hp' => h p' (List.mem_cons_of_mem _ hp')) b _ n
      · exact strict_eq_exited ((h p List.mem_cons_self).alive b s)

theorem Quiet.cond (hp : Quiet w C A p) (hq : Quiet w C A q) (hr : Quiet w C A r) : Quiet w C A (cond p q r) := by
  refine ⟨.cond hp.since hq.since hr.since, ?_⟩
  intro b s n
  unfold Command.cond
  split
  · exact hq.alive b _ n
  · exact hr.alive b _ n
  · intro h
    exact absurd (hp.alive false s n h).1 (by decide)

theorem Quiet.orElse (hp : Quiet w C A p) (hq : Quiet w C A q) : Quiet w C A (orElse p q) := .cond hp .skip hq

theorem Quiet.call (hp : Quiet w C A p) : Quiet w C A p.call := by
  refine ⟨.call hp.since, ?_⟩
  intro b s n h
  unfold Command.call Ending.atCall at h
  dsimp only at h
  split at h
  · cases h
  · exact hp.alive b s n h

/-- A quiet command of a list: the script ends here, or the next command is next. -/
theorem Quiet.wp_block (hp : Quiet w C A p) (hstays : Stays p)
    (hfails : ∀ n s', Since C A s s' → (p w true s).1 ≠ .status 0 → Q (.exited (n + 1)) s')
    (hnext : ∀ s', Since C A s s' → p w true s = (.status 0, s') → (Command.block (q :: rest)).wp w true Q s') :
    (Command.block (p :: q :: rest)).wp w true Q s := by
  rw [Command.wp_block]
  unfold wp
  have hsince := hp.since true s
  have halive := hp.alive true s
  have hstay := hstays w true s
  generalize hout : p w true s = out at hsince halive hstay ⊢
  obtain ⟨e, s'⟩ := out
  rcases e with (_ | n) | n | (_ | n)
  · exact hnext s' hsince hout
  · exact hfails n s' hsince (by rw [hout]; exact nofun)
  · exact absurd rfl (hstay n)
  · exact absurd rfl (halive 0 rfl).2
  · exact hfails n s' hsince (by rw [hout]; exact nofun)

/-- Where `set -e` is not in force, the next command is next. -/
theorem Quiet.wp_block_ignored (hp : Quiet w C A p) (hstays : Stays p)
    (hnext : ∀ s', Since C A s s' → (Command.block (q :: rest)).wp w false Q s') :
    (Command.block (p :: q :: rest)).wp w false Q s := by
  rw [Command.wp_block]
  unfold wp
  have hsince := hp.since false s
  have halive := hp.alive false s
  have hstay := hstays w false s
  generalize p w false s = out at hsince halive hstay ⊢
  obtain ⟨e, s'⟩ := out
  rcases e with (_ | n) | n | n
  · exact hnext s' hsince
  · exact hnext s' hsince
  · exact absurd rfl (hstay n)
  · exact absurd (halive n rfl).1 (by decide)

/-- A quiet command in a test. -/
theorem Quiet.wp_cond (hp : Quiet w C A p) (hstays : Stays p)
    (hyes : ∀ s', Since C A s s' → p w false s = (.status 0, s') → q.wp w b Q s')
    (hno : ∀ s', Since C A s s' → r.wp w b Q s') : (Command.cond p q r).wp w b Q s := by
  rw [Command.wp_cond]
  unfold wp
  have hsince := hp.since false s
  have halive := hp.alive false s
  have hstay := hstays w false s
  generalize hout : p w false s = out at hsince halive hstay ⊢
  obtain ⟨e, s'⟩ := out
  rcases e with (_ | n) | n | n
  · exact hyes s' hsince hout
  · exact hno s' hsince
  · exact absurd rfl (hstay n)
  · exact absurd (halive n rfl).1 (by decide)

end Quiet

end Command

/-! ## Two runs -/

/-- The trace without the answers of the programs in `P`. -/
def masked (P : E → Bool) (trace : List (E × Nat)) : List (E × Nat) := trace.map fun x => if P x.1 then (x.1, 0) else x

/-- The states differ in the answers of programs in `P` only. -/
structure Alike (P : E → Bool) (s s' : State E σ) : Prop where
  world : s'.world = s.world
  trace : masked P s'.trace = masked P s.trace

/-- So do the programs outside: those in `P` may answer otherwise, and no other program takes notice. -/
structure Outside.Alike (P : E → Bool) (w w' : Outside E σ) : Prop where
  answer : ∀ t t' e, P e = false → masked P t' = masked P t → w'.answer t' e = w.answer t e
  effect : ∀ e code, P e = false → w'.effect e code = w.effect e code
  ignored : ∀ e code code', P e = true → w'.effect e code' = w.effect e code

namespace Command

/-- It does the same in both. -/
def Blind (P : E → Bool) (w w' : Outside E σ) (b : Bool) (p : Command E σ) : Prop :=
  ∀ s s', Alike P s s' → (p w' b s').1 = (p w b s).1 ∧ Alike P (p w b s).2 (p w' b s').2

/-- It ends with a status, not always the same, and else it does. -/
def BlindButStatus (P : E → Bool) (w w' : Outside E σ) (b : Bool) (p : Command E σ) : Prop :=
  ∀ s s', Alike P s s' →
    ∃ n n', (p w b s).1 = .status n ∧ (p w' b s').1 = .status n' ∧ Alike P (p w b s).2 (p w' b s').2

section Blind

variable {P : E → Bool} {w w' : Outside E σ} {b : Bool} {p q r : Command E σ} {rest : List (Command E σ)}

theorem masked_append (t : List (E × Nat)) (x : E × Nat) :
    masked P (t ++ [x]) = masked P t ++ [if P x.1 then (x.1, 0) else x] := by
  unfold masked
  rw [List.map_append, List.map_singleton]

theorem Blind.run {e : E} (hw : w.Alike P w') (he : P e = false) : Blind P w w' b (run e) := by
  intro s s' h
  have hanswer : w'.answer s'.trace e = w.answer s.trace e := hw.answer _ _ e he h.trace
  refine ⟨congrArg Ending.status hanswer, ?_, ?_⟩
  · show w'.effect e (w'.answer s'.trace e) s'.world = w.effect e (w.answer s.trace e) s.world
    rw [hanswer, hw.effect e _ he, h.world]
  · show masked P (s'.trace ++ [_]) = masked P (s.trace ++ [_])
    rw [masked_append, masked_append, h.trace, hanswer]

theorem BlindButStatus.run {e : E} (hw : w.Alike P w') : BlindButStatus P w w' b (run e) := by
  intro s s' h
  by_cases he : P e = true
  · refine ⟨_, _, rfl, rfl, ?_, ?_⟩
    · show w'.effect e (w'.answer s'.trace e) s'.world = w.effect e (w.answer s.trace e) s.world
      rw [hw.ignored e (w.answer s.trace e) _ he, h.world]
    · show masked P (s'.trace ++ [_]) = masked P (s.trace ++ [_])
      rw [masked_append, masked_append, h.trace, if_pos he, if_pos he]
  · exact ⟨_, _, rfl, rfl, (Blind.run (b := b) hw (Bool.eq_false_iff.mpr he) s s' h).2⟩

theorem Blind.assign (f : σ → σ) : Blind P w w' b (assign f) := by
  intro s s' h
  exact ⟨rfl, congrArg f h.world, h.trace⟩

theorem Blind.skip : Blind P w w' b skip := fun _ _ h => ⟨rfl, h⟩

theorem Blind.test (t : σ → Bool) : Blind P w w' b (test t) := by
  intro s s' h
  refine ⟨?_, h⟩
  show Ending.status (if t s'.world then 0 else 1) = Ending.status (if t s.world then 0 else 1)
  rw [h.world]

theorem Blind.ret (code : Nat) : Blind P w w' b (ret code) := fun _ _ h => ⟨rfl, h⟩

theorem Blind.exit (code : Nat) : Blind P w w' b (exit code) := fun _ _ h => ⟨rfl, h⟩

theorem Blind.letIn {f : σ → α} {k : α → Command E σ} (h : ∀ a, Blind P w w' b (k a)) : Blind P w w' b (letIn f k) := by
  intro s s' hs
  show (k (f s'.world) w' b s').1 = _ ∧ Alike P _ (k (f s'.world) w' b s').2
  rw [hs.world]
  exact h _ s s' hs

theorem Blind.block_cons (hp : Blind P w w' b p) (hrest : Blind P w w' b (block (q :: rest))) :
    Blind P w w' b (block (p :: q :: rest)) := by
  intro s s' hs
  obtain ⟨hend, hafter⟩ := hp s s' hs
  rw [Command.block]
  dsimp only
  rw [hend]
  split
  · exact hrest _ _ hafter
  · exact ⟨rfl, hafter⟩

theorem Blind.block {ps : List (Command E σ)} (h : ∀ p ∈ ps, Blind P w w' b p) : Blind P w w' b (block ps) := by
  induction ps using Command.block.induct with
  | case1 => exact .skip
  | case2 p =>
      intro s s' hs
      obtain ⟨hend, hafter⟩ := h p List.mem_cons_self s s' hs
      exact ⟨congrArg (Ending.strict b) hend, hafter⟩
  | case3 p q rest ih =>
      exact .block_cons (h p List.mem_cons_self) (ih fun p' hp' => h p' (List.mem_cons_of_mem _ hp'))

/-- Where `set -e` is not in force, a status is ignored. -/
theorem Blind.block_ignored (hp : BlindButStatus P w w' false p) (hrest : Blind P w w' false (Command.block (q :: rest))) :
    Blind P w w' false (Command.block (p :: q :: rest)) := by
  intro s s' hs
  obtain ⟨n, n', hend, hend', hafter⟩ := hp s s' hs
  have hstatus : ∀ m, (Ending.status m).strict false = .status m := by
    intro m
    cases m with
    | zero => rfl
    | succ m => rfl
  rw [Command.block]
  dsimp only
  rw [hend, hend', hstatus, hstatus]
  exact hrest _ _ hafter

theorem Blind.cond (hp : Blind P w w' false p) (hq : Blind P w w' b q) (hr : Blind P w w' b r) :
    Blind P w w' b (cond p q r) := by
  intro s s' hs
  obtain ⟨hend, hafter⟩ := hp s s' hs
  unfold Command.cond
  rw [hend]
  split
  · exact hq _ _ hafter
  · exact hr _ _ hafter
  · exact ⟨rfl, hafter⟩

theorem Blind.orElse (hp : Blind P w w' false p) (hq : Blind P w w' b q) : Blind P w w' b (orElse p q) :=
  .cond hp .skip hq

/-- One of two programs, after a program of which the status is the same. -/
theorem BlindButStatus.cond_run {e : E} (hw : w.Alike P w') (he : P e = false) (hq : BlindButStatus P w w' b q)
    (hr : BlindButStatus P w w' b r) : BlindButStatus P w w' b (Command.cond (Command.run e) q r) := by
  intro s s' hs
  obtain ⟨hend, hafter⟩ := Blind.run (b := false) hw he s s' hs
  unfold Command.cond
  rw [hend]
  split
  · exact hq _ _ hafter
  · exact hr _ _ hafter
  · rename_i hne hne'
    cases hcode : w.answer s.trace e with
    | zero => exact absurd (congrArg Ending.status hcode) hne
    | succ n => exact absurd (congrArg Ending.status hcode) (hne' n)

theorem Blind.call (hp : Blind P w w' b p) : Blind P w w' b p.call := by
  intro s s' hs
  obtain ⟨hend, hafter⟩ := hp s s' hs
  exact ⟨congrArg Ending.atCall hend, hafter⟩

theorem Blind.child (hp : Blind P w w' true p) : Blind P w w' b p.child := by
  intro s s' hs
  obtain ⟨hend, hafter⟩ := hp s s' hs
  exact ⟨congrArg (fun e : Ending => Ending.status e.code) hend, hafter⟩

theorem Blind.capture (hp : Blind P w w' false p) : Blind P w w' b p.capture := by
  intro s s' hs
  obtain ⟨hend, hafter⟩ := hp s s' hs
  exact ⟨congrArg (fun e : Ending => Ending.status e.code) hend, hafter⟩

end Blind

end Command

/-! ## The order of programs -/

/-- Before every program in `P`, `e` has answered 0. -/
def Preceded (P : E → Prop) (e : E) (trace : List (E × Nat)) : Prop :=
  ∀ before x after, trace = before ++ x :: after → P x.1 → (e, 0) ∈ before

section Preceded

variable {P : E → Prop} {e : E} {trace more : List (E × Nat)}

/-- A program in `P` among the new ones has all the old ones before it. -/
theorem Preceded.append (h : Preceded P e trace) (hmore : (e, 0) ∈ trace ∨ ∀ x ∈ more, ¬ P x.1) :
    Preceded P e (trace ++ more) := by
  intro before x after heq hx
  rcases List.append_eq_append_iff.mp heq with ⟨extra, hbefore, hmoreeq⟩ | ⟨extra, htrace, hafter⟩
  · rcases hmore with hmem | hnone
    · rw [hbefore]
      exact List.mem_append_left _ hmem
    · have hmem : x ∈ more := hmoreeq ▸ List.mem_append_right _ List.mem_cons_self
      exact absurd hx (hnone x hmem)
  · cases extra with
    | nil =>
        rcases hmore with hmem | hnone
        · have htrace' : trace = before := by simpa using htrace
          exact htrace' ▸ hmem
        · have hmem : x ∈ more := by
            have hafter' : x :: after = more := by simpa using hafter
            exact hafter' ▸ List.mem_cons_self
          exact absurd hx (hnone x hmem)
    | cons y extra =>
        have hxy : y = x := by
          have := List.cons_eq_cons.mp hafter
          exact this.1.symm
        rw [hxy] at htrace
        exact h before x extra htrace hx

end Preceded

end EventConsistency.Lib.Shell
