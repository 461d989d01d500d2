import Mathlib.Tactic.Common

/-!
# Programs with exceptions and their rely-guarantee rules

* `Prog Op Res X α` : a program that performs operations `o : Op`, is answered in `Res o` or by an
  exception of `X`, and returns an `α` or raises; `handle` is the one combinator from which `bind`,
  `tryCatch` and `andFinally` are made; `Prog.All` speaks of all its operations and what follows them,
  `Prog.Each` of the operations alone;
* `Logic` : how operations execute on a shared state and the program's own state, what must hold before
  one (`pre`), and what the surroundings may do to the shared state between two of them (`rely`);
* `Logic.wp p Q s l` : every execution of `p` from `s`, `l`, with the surroundings acting anywhere, meets
  `pre` at every operation and ends in `Q`;
* `wp_stable`, `wp_handle`, `wp_bind`, `wp_call` : the rules.
-/

namespace EventConsistency.Lib

/-- Programs over operations `Op` answered in `Res`, with exceptions `X`. -/
inductive Prog (Op : Type) (Res : Op → Type) (X α : Type) : Type where
  | ret (a : α)
  | raise (x : X)
  | op (o : Op) (k : Except X (Res o) → Prog Op Res X α)

namespace Prog

variable {Op : Type} {Res : Op → Type} {X α β : Type}

/-- Go on from the outcome of `p`, whether it returned or raised. -/
def handle : Prog Op Res X α → (Except X α → Prog Op Res X β) → Prog Op Res X β
  | ret a, f => f (.ok a)
  | raise x, f => f (.error x)
  | op o k, f => op o (fun r => (k r).handle f)

/-- An outcome as a program. -/
def lift : Except X α → Prog Op Res X α
  | .ok a => ret a
  | .error x => raise x

instance : Monad (Prog Op Res X) where
  pure := ret
  bind p f := p.handle fun
    | .ok a => f a
    | .error x => raise x

instance : MonadExceptOf X (Prog Op Res X) where
  throw := raise
  tryCatch p h := p.handle fun
    | .ok a => ret a
    | .error x => h x

/-- Run `q` after `p`, however `p` ends, and end as `p` did. -/
def andFinally (p : Prog Op Res X α) (q : Prog Op Res X Unit) : Prog Op Res X α :=
  p.handle fun r => q.handle fun
    | .ok _ => lift r
    | .error x => raise x

/-- One operation. -/
def call (o : Op) : Prog Op Res X (Res o) := op o lift

/-- `P` holds at every operation of the program, with what follows it. -/
def All (P : (o : Op) → (Except X (Res o) → Prog Op Res X α) → Prop) : Prog Op Res X α → Prop
  | ret _ | raise _ => True
  | op o k => P o k ∧ ∀ r, (k r).All P

theorem All.mono {P Q : (o : Op) → (Except X (Res o) → Prog Op Res X α) → Prop} {p : Prog Op Res X α} (h : p.All P)
    (hPQ : ∀ o k, P o k → Q o k) : p.All Q := by
  induction p with
  | ret _ => trivial
  | raise _ => trivial
  | op o k ih => exact ⟨hPQ o k h.1, fun r => ih r (h.2 r)⟩

/-- `P` holds of every operation of the program. -/
abbrev Each (P : Op → Prop) (p : Prog Op Res X α) : Prop := p.All fun o _ => P o

section Each

variable {P : Op → Prop} {p : Prog Op Res X α}

theorem Each.handle {f : Except X α → Prog Op Res X β} (hp : p.Each P) (hf : ∀ r, (f r).Each P) :
    (p.handle f).Each P := by
  induction p with
  | ret _ => exact hf _
  | raise _ => exact hf _
  | op o k ih => exact ⟨hp.1, fun r => ih r (hp.2 r)⟩

theorem Each.lift (r : Except X α) : (lift r : Prog Op Res X α).Each P := by
  cases r <;> trivial

theorem Each.call {o : Op} (h : P o) : (call o : Prog Op Res X (Res o)).Each P :=
  ⟨h, fun r => Each.lift r⟩

theorem Each.bind {g : α → Prog Op Res X β} (hp : p.Each P) (hg : ∀ a, (g a).Each P) : (p >>= g).Each P := by
  refine Each.handle hp fun r => ?_
  cases r with
  | ok a => exact hg a
  | error x => trivial

theorem Each.tryCatch {g : X → Prog Op Res X α} (hp : p.Each P) (hg : ∀ x, (g x).Each P) :
    (MonadExcept.tryCatch p g).Each P := by
  refine Each.handle hp fun r => ?_
  cases r with
  | ok a => trivial
  | error x => exact hg x

theorem Each.andFinally {q : Prog Op Res X Unit} (hp : p.Each P) (hq : q.Each P) : (p.andFinally q).Each P := by
  refine Each.handle hp fun r => Each.handle hq fun u => ?_
  cases u with
  | ok _ => exact Each.lift r
  | error _ => trivial

end Each

end Prog

/-- How operations act, and what the surroundings may do between them. -/
structure Logic (Op : Type) (Res : Op → Type) (X S L : Type) where
  /-- `exec o s l r s' l'` : in shared state `s` and own state `l`, `o` can answer `r` and leave `s'`, `l'`. -/
  exec : (o : Op) → S → L → Except X (Res o) → S → L → Prop
  /-- What a program owes before it performs an operation. -/
  pre : Op → S → L → Prop
  /-- What the surroundings may do to the shared state while the program's own state is `l`. -/
  rely : L → S → S → Prop
  rely_refl : ∀ l s, rely l s s
  rely_trans : ∀ {l s s' s''}, rely l s s' → rely l s' s'' → rely l s s''

namespace Logic

variable {Op : Type} {Res : Op → Type} {X S L α β : Type} (M : Logic Op Res X S L)

/-- Every execution of the program, under any interference, meets `pre` and ends in `Q`. -/
def wp : Prog Op Res X α → (Except X α → S → L → Prop) → S → L → Prop
  | .ret a, Q, s, l => ∀ s', M.rely l s s' → Q (.ok a) s' l
  | .raise x, Q, s, l => ∀ s', M.rely l s s' → Q (.error x) s' l
  | .op o k, Q, s, l => ∀ s', M.rely l s s' →
      M.pre o s' l ∧ ∀ r s'' l', M.exec o s' l r s'' l' → wp (k r) Q s'' l'

variable {M}

theorem wp_stable {p : Prog Op Res X α} {Q : Except X α → S → L → Prop} {s s' : S} {l : L}
    (h : M.wp p Q s l) (hr : M.rely l s s') : M.wp p Q s' l := by
  cases p with
  | ret a => exact fun t ht => h t (M.rely_trans hr ht)
  | raise x => exact fun t ht => h t (M.rely_trans hr ht)
  | op o k => exact fun t ht => h t (M.rely_trans hr ht)

theorem wp_lift {r : Except X α} {Q : Except X α → S → L → Prop} {s : S} {l : L} :
    M.wp (.lift r) Q s l ↔ ∀ s', M.rely l s s' → Q r s' l := by
  cases r <;> rfl

/-- The outcome of `p`, at whatever shared state it is met, must lead to `Q` through `f`. -/
theorem wp_handle {p : Prog Op Res X α} {f : Except X α → Prog Op Res X β}
    {P : Except X α → S → L → Prop} {Q : Except X β → S → L → Prop} {s : S} {l : L}
    (hp : M.wp p P s l) (hf : ∀ r s l, P r s l → M.wp (f r) Q s l) : M.wp (p.handle f) Q s l := by
  induction p generalizing s l with
  | ret a => exact hf _ _ _ (hp s (M.rely_refl l s))
  | raise x => exact hf _ _ _ (hp s (M.rely_refl l s))
  | op o k ih =>
      intro s' hs'
      obtain ⟨hpre, hk⟩ := hp s' hs'
      exact ⟨hpre, fun r s'' l' hx => ih r (hk r s'' l' hx)⟩

theorem wp_mono {p : Prog Op Res X α} {P Q : Except X α → S → L → Prop} {s : S} {l : L}
    (hp : M.wp p P s l) (h : ∀ r s l, P r s l → Q r s l) : M.wp p Q s l := by
  induction p generalizing s l with
  | ret a => exact fun s' hs' => h _ _ _ (hp s' hs')
  | raise x => exact fun s' hs' => h _ _ _ (hp s' hs')
  | op o k ih =>
      intro s' hs'
      obtain ⟨hpre, hk⟩ := hp s' hs'
      exact ⟨hpre, fun r s'' l' hx => ih r (hk r s'' l' hx)⟩

/-- Sequencing: a returned value goes on to `f`, an exception ends the whole. -/
theorem wp_bind {p : Prog Op Res X α} {f : α → Prog Op Res X β}
    {P : Except X α → S → L → Prop} {Q : Except X β → S → L → Prop} {s : S} {l : L}
    (hp : M.wp p P s l) (hok : ∀ a s l, P (.ok a) s l → M.wp (f a) Q s l)
    (herr : ∀ x s l, P (.error x) s l → Q (.error x) s l) : M.wp (p >>= f) Q s l := by
  induction p generalizing s l with
  | ret a => exact hok _ _ _ (hp s (M.rely_refl l s))
  | raise x => exact fun s' hs' => herr _ _ _ (hp s' hs')
  | op o k ih =>
      intro s' hs'
      obtain ⟨hpre, hk⟩ := hp s' hs'
      exact ⟨hpre, fun r s'' l' hx => ih r (hk r s'' l' hx)⟩

/-- Handling: an exception goes on to `h`, a returned value ends the whole. -/
theorem wp_tryCatch {p : Prog Op Res X α} {h : X → Prog Op Res X α}
    {P Q : Except X α → S → L → Prop} {s : S} {l : L}
    (hp : M.wp p P s l) (hok : ∀ a s l, P (.ok a) s l → Q (.ok a) s l)
    (herr : ∀ x s l, P (.error x) s l → M.wp (h x) Q s l) : M.wp (tryCatch p h) Q s l := by
  induction p generalizing s l with
  | ret a => exact fun s' hs' => hok _ _ _ (hp s' hs')
  | raise x => exact herr _ _ _ (hp s (M.rely_refl l s))
  | op o k ih =>
      intro s' hs'
      obtain ⟨hpre, hk⟩ := hp s' hs'
      exact ⟨hpre, fun r s'' l' hx => ih r (hk r s'' l' hx)⟩

theorem wp_andFinally {p : Prog Op Res X α} {q : Prog Op Res X Unit}
    {P Q : Except X α → S → L → Prop} {s : S} {l : L} (hp : M.wp p P s l)
    (hq : ∀ r s l, P r s l → M.wp q (fun u s l => match u with
      | .ok _ => ∀ s', M.rely l s s' → Q r s' l
      | .error x => ∀ s', M.rely l s s' → Q (.error x) s' l) s l) :
    M.wp (p.andFinally q) Q s l := by
  refine wp_handle hp fun r s l hr => wp_handle (hq r s l hr) fun u s l hu => ?_
  cases u with
  | ok _ => exact wp_lift.mpr hu
  | error x => exact hu

/-- One operation: owe its `pre` and go through its answers. -/
theorem wp_call {o : Op} {Q : Except X (Res o) → S → L → Prop} {s : S} {l : L}
    (h : ∀ s', M.rely l s s' → M.pre o s' l ∧
      ∀ r s'' l', M.exec o s' l r s'' l' → ∀ t, M.rely l' s'' t → Q r t l') :
    M.wp (.call o) Q s l := by
  intro s' hs'
  obtain ⟨hpre, hk⟩ := h s' hs'
  exact ⟨hpre, fun r s'' l' hx => wp_lift.mpr (hk r s'' l' hx)⟩

theorem wp_pure {a : α} {Q : Except X α → S → L → Prop} {s : S} {l : L}
    (h : ∀ s', M.rely l s s' → Q (.ok a) s' l) : M.wp (pure a) Q s l := h

theorem wp_throw {x : X} {Q : Except X α → S → L → Prop} {s : S} {l : L}
    (h : ∀ s', M.rely l s s' → Q (.error x) s' l) : M.wp (throw x) Q s l := h

end Logic

end EventConsistency.Lib
