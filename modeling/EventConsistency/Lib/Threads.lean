import EventConsistency.Lib.Prog

/-!
# Thread pools

* `Pool` : a shared state and threads, each with its own state and the rest of its program;
* `Step` : one thread performs its next operation as `act` allows in the presence of the others, the environment
  changes the shared state, or a thread dies;
* `Sound` : what an instance owes: coherence of the pool is preserved, and what a thread does is within what
  every other thread relies on;
* `Inv.step` : then every step keeps the pool coherent and every thread's `wp`; `Step.all` : a step leaves less of a
  program;
* `Prog.run` : one program alone, with the environment's choices given in advance, with `Prog.run_bind_ok` and
  `Logic.wp_run`.
-/

namespace EventConsistency.Lib

variable {Op : Type} {Res : Op → Type} {X S L α β : Type}

structure Thread (Op : Type) (Res : Op → Type) (X L α : Type) where
  loc : L
  prog : Prog Op Res X α

structure Pool (Op : Type) (Res : Op → Type) (X S L α : Type) where
  shared : S
  threads : List (Thread Op Res X L α)

/-- The threads' own states. -/
def Pool.locs (p : Pool Op Res X S L α) : List L := p.threads.map Thread.loc

/-- One step of a pool. `act o s l others r s' l'` : among the others, `o` can answer `r` and leave `s'`, `l'`. -/
inductive Step (act : (o : Op) → S → L → List L → Except X (Res o) → S → L → Prop) (env : S → S → Prop)
    (kill : L → L) (dead : X) : Pool Op Res X S L α → Pool Op Res X S L α → Prop where
  | run {s s' : S} {ts : List (Thread Op Res X L α)} {i : Nat} {l l' : L} {o : Op}
      {k : Except X (Res o) → Prog Op Res X α} {r : Except X (Res o)}
      (ht : ts[i]? = some ⟨l, .op o k⟩) (hx : act o s l ((ts.map Thread.loc).eraseIdx i) r s' l') :
      Step act env kill dead ⟨s, ts⟩ ⟨s', ts.set i ⟨l', k r⟩⟩
  | env {s s' : S} {ts : List (Thread Op Res X L α)} (h : env s s') : Step act env kill dead ⟨s, ts⟩ ⟨s', ts⟩
  | kill {s : S} {ts : List (Thread Op Res X L α)} {i : Nat} {t : Thread Op Res X L α} (ht : ts[i]? = some t) :
      Step act env kill dead ⟨s, ts⟩ ⟨s, ts.set i ⟨kill t.loc, .raise dead⟩⟩

/-- The obligations of an instance. -/
structure Sound (M : Logic Op Res X S L) (act : (o : Op) → S → L → List L → Except X (Res o) → S → L → Prop)
    (env : S → S → Prop) (kill : L → L) (coh : S → List L → Prop) : Prop where
  run : ∀ {s s' ls i l l' o r}, coh s ls → ls[i]? = some l → M.pre o s l → act o s l (ls.eraseIdx i) r s' l' →
    M.exec o s l r s' l' ∧ coh s' (ls.set i l') ∧ ∀ j m, j ≠ i → ls[j]? = some m → M.rely m s s'
  env : ∀ {s s' ls}, coh s ls → env s s' → coh s' ls ∧ ∀ m ∈ ls, M.rely m s s'
  kill : ∀ {s ls i l}, coh s ls → ls[i]? = some l → coh s (ls.set i (kill l))

/-- A coherent pool whose threads all meet their obligations and end in `Q`. -/
structure Inv (M : Logic Op Res X S L) (coh : S → List L → Prop) (Q : Except X α → S → L → Prop)
    (p : Pool Op Res X S L α) : Prop where
  coh : coh p.shared p.locs
  wp : ∀ t ∈ p.threads, M.wp t.prog Q p.shared t.loc

theorem Inv.step {M : Logic Op Res X S L} {act : (o : Op) → S → L → List L → Except X (Res o) → S → L → Prop}
    {env : S → S → Prop} {kill : L → L} {dead : X} {coh : S → List L → Prop} {Q : Except X α → S → L → Prop}
    (hS : Sound M act env kill coh) (hdead : ∀ s l, Q (.error dead) s (kill l))
    {p p' : Pool Op Res X S L α} (h : Inv M coh Q p) (hs : Step act env kill dead p p') : Inv M coh Q p' := by
  obtain ⟨hcoh, hwp⟩ := h
  cases hs with
  | @run s s' ts i l l' o k r ht hx =>
      have hl : (ts.map Thread.loc)[i]? = some l := by simp [ht]
      obtain ⟨hpre, hk⟩ := hwp _ (List.mem_of_getElem? ht) s (M.rely_refl l s)
      obtain ⟨hexec, hcoh', hrely⟩ := hS.run hcoh hl hpre hx
      refine ⟨by simpa [Pool.locs, List.map_set] using hcoh', ?_⟩
      intro t hmem
      obtain ⟨j, hj⟩ := List.getElem?_of_mem hmem
      by_cases hji : i = j
      · subst hji
        rw [List.getElem?_set_self (List.getElem?_eq_some_iff.mp ht).1] at hj
        cases hj
        exact hk r s' l' hexec
      · rw [List.getElem?_set_ne hji] at hj
        exact Logic.wp_stable (hwp t (List.mem_of_getElem? hj))
          (hrely j t.loc (fun e => hji e.symm) (by simp [Pool.locs, hj]))
  | @env s s' ts he =>
      obtain ⟨hcoh', hrely⟩ := hS.env hcoh he
      exact ⟨hcoh', fun t ht => Logic.wp_stable (hwp t ht) (hrely t.loc (List.mem_map_of_mem ht))⟩
  | @kill s ts i t ht =>
      refine ⟨?_, ?_⟩
      · simpa [Pool.locs, List.map_set] using hS.kill (i := i) (l := t.loc) hcoh (by simp [Pool.locs, ht])
      · intro u hmem
        rcases List.mem_or_eq_of_mem_set hmem with hu | rfl
        · exact hwp u hu
        · exact fun s' _ => hdead s' _

/-- A place of a list after one place was set. -/
theorem getElem?_set_cases {xs : List β} {i j : Nat} {x y : β} (h : (xs.set i x)[j]? = some y) :
    (j = i ∧ y = x) ∨ (j ≠ i ∧ xs[j]? = some y) := by
  rw [List.getElem?_set] at h
  split at h
  · rename_i hij
    split at h
    · cases h; exact Or.inl ⟨hij.symm, rfl⟩
    · cases h
  · rename_i hij
    exact Or.inr ⟨fun e => hij e.symm, h⟩

/-- What holds at every operation of a thread's program holds at every operation that is left of it. -/
theorem Step.all {act : (o : Op) → S → L → List L → Except X (Res o) → S → L → Prop} {env : S → S → Prop}
    {kill : L → L} {dead : X} {P : Nat → (o : Op) → (Except X (Res o) → Prog Op Res X α) → Prop}
    {p p' : Pool Op Res X S L α} (h : ∀ (i : Nat) (t : Thread Op Res X L α), p.threads[i]? = some t → t.prog.All (P i))
    (hs : Step act env kill dead p p') :
    ∀ (i : Nat) (t : Thread Op Res X L α), p'.threads[i]? = some t → t.prog.All (P i) := by
  have hset : ∀ {ts : List (Thread Op Res X L α)} {j : Nat} {u : Thread Op Res X L α},
      (∀ (i : Nat) (t : Thread Op Res X L α), ts[i]? = some t → t.prog.All (P i)) → u.prog.All (P j) →
      ∀ (i : Nat) (t : Thread Op Res X L α), (ts.set j u)[i]? = some t → t.prog.All (P i) := by
    intro ts j u hts hu i t ht
    rcases getElem?_set_cases ht with ⟨rfl, rfl⟩ | ⟨_, ht⟩
    · exact hu
    · exact hts i t ht
  cases hs with
  | run ht _ => exact hset h ((h _ _ ht).2 _)
  | env _ => exact h
  | kill _ => exact hset h trivial

/-! ## One program alone -/

/-- Run a program to its end; `choices n` is the environment's choice at its `n`-th operation. -/
def Prog.run {C : Type} (exec : C → (o : Op) → S → L → Except X (Res o) × S × L) :
    Prog Op Res X α → (Nat → C) → S → L → Except X α × S × L
  | .ret a, _, s, l => (.ok a, s, l)
  | .raise x, _, s, l => (.error x, s, l)
  | .op o k, choices, s, l =>
      (k (exec (choices 0) o s l).1).run exec (fun n => choices (n + 1)) (exec (choices 0) o s l).2.1
        (exec (choices 0) o s l).2.2

/-! The same choice at every operation. -/

section Steady

variable {C : Type} {exec : C → (o : Op) → S → L → Except X (Res o) × S × L} {c : C} {s s' : S} {l l' : L}
  {β : Type} {p : Prog Op Res X α}

theorem Prog.run_lift (r : Except X α) : (Prog.lift r : Prog Op Res X α).run exec (fun _ => c) s l = (r, s, l) := by
  cases r <;> rfl

theorem Prog.run_call (o : Op) :
    (Prog.call o : Prog Op Res X (Res o)).run exec (fun _ => c) s l = exec c o s l := by
  show (Prog.lift (exec c o s l).1 : Prog Op Res X (Res o)).run exec (fun _ => c) _ _ = _
  rw [Prog.run_lift]

theorem Prog.run_handle {f : Except X α → Prog Op Res X β} (s : S) (l : L) :
    (p.handle f).run exec (fun _ => c) s l =
      (f (p.run exec (fun _ => c) s l).1).run exec (fun _ => c) (p.run exec (fun _ => c) s l).2.1
        (p.run exec (fun _ => c) s l).2.2 := by
  induction p generalizing s l with
  | ret _ => rfl
  | raise _ => rfl
  | op o k ih => exact ih (exec c o s l).1 (exec c o s l).2.1 (exec c o s l).2.2

theorem Prog.run_bind_ok {f : α → Prog Op Res X β} {a : α} (h : p.run exec (fun _ => c) s l = (.ok a, s', l')) :
    (p >>= f).run exec (fun _ => c) s l = (f a).run exec (fun _ => c) s' l' := by
  refine (Prog.run_handle s l).trans ?_
  rw [h]

theorem Prog.run_bind_error {f : α → Prog Op Res X β} {x : X} (h : p.run exec (fun _ => c) s l = (.error x, s', l')) :
    (p >>= f).run exec (fun _ => c) s l = (.error x, s', l') := by
  refine (Prog.run_handle s l).trans ?_
  rw [h]
  rfl

end Steady

theorem Logic.wp_run {C : Type} {M : Logic Op Res X S L}
    {exec : C → (o : Op) → S → L → Except X (Res o) × S × L} {ok : C → Prop}
    (hexec : ∀ c o s l, ok c → M.exec o s l (exec c o s l).1 (exec c o s l).2.1 (exec c o s l).2.2)
    {Q : Except X α → S → L → Prop} {p : Prog Op Res X α} {choices : Nat → C} {s : S} {l : L}
    (hc : ∀ n, ok (choices n)) (h : M.wp p Q s l) :
    Q (p.run exec choices s l).1 (p.run exec choices s l).2.1 (p.run exec choices s l).2.2 := by
  induction p generalizing choices s l with
  | ret a => exact h s (M.rely_refl l s)
  | raise x => exact h s (M.rely_refl l s)
  | op o k ih =>
      obtain ⟨_, hk⟩ := h s (M.rely_refl l s)
      exact ih _ (fun n => hc (n + 1)) (hk _ _ _ (hexec (choices 0) o s l (hc 0)))

end EventConsistency.Lib
