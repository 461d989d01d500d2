import EventConsistency.Lib.Prog

/-!
# Programs that go the same way

* `Agree R r r'` : two outcomes: the same exception, or results related by `R`;
* `Alike rel R p p'` : two programs that do related operations one by one as long as the answers are related, and end in
  agreement; `rel o o' A` says that `o` and `o'` are related and that `A` relates their answers;
* `Alike.handle`, `Alike.bind`, `Alike.tryCatch`, `Alike.andFinally` : the rules; `Alike.refl` : a program whose
  operations are all related to themselves, with the same answers.
-/

namespace EventConsistency.Lib

variable {Op : Type} {Res : Op → Type} {X α β γ δ : Type}

/-- The same exception, or results related by `R`. -/
inductive Agree (R : α → β → Prop) : Except X α → Except X β → Prop where
  | ok {a : α} {b : β} (h : R a b) : Agree R (.ok a) (.ok b)
  | error (x : X) : Agree R (.error x) (.error x)

theorem Agree.eq {r r' : Except X α} (h : Agree Eq r r') : r' = r := by
  cases h with
  | ok h => rw [h]
  | error x => rfl

theorem Agree.mono {R S : α → β → Prop} {r : Except X α} {r' : Except X β} (h : Agree R r r')
    (hRS : ∀ a b, R a b → S a b) : Agree S r r' := by
  cases h with
  | ok h => exact .ok (hRS _ _ h)
  | error x => exact .error x

/-- The programs do related operations as long as the answers are related, and end in agreement. -/
inductive Alike (rel : (o o' : Op) → (Res o → Res o' → Prop) → Prop) (R : α → β → Prop) :
    Prog Op Res X α → Prog Op Res X β → Prop where
  | ret {a : α} {b : β} (h : R a b) : Alike rel R (.ret a) (.ret b)
  | raise (x : X) : Alike rel R (.raise x) (.raise x)
  | op {o o' : Op} {A : Res o → Res o' → Prop} {k : Except X (Res o) → Prog Op Res X α}
      {k' : Except X (Res o') → Prog Op Res X β} (h : rel o o' A)
      (hk : ∀ r r', Agree A r r' → Alike rel R (k r) (k' r')) : Alike rel R (.op o k) (.op o' k')

namespace Alike

variable {rel : (o o' : Op) → (Res o → Res o' → Prop) → Prop} {R : α → β → Prop} {S : γ → δ → Prop}
  {p : Prog Op Res X α} {p' : Prog Op Res X β}

theorem lift {r : Except X α} {r' : Except X β} (h : Agree R r r') :
    Alike rel R (Prog.lift r : Prog Op Res X α) (Prog.lift r') := by
  cases h with
  | ok h => exact .ret h
  | error x => exact .raise x

theorem call {o o' : Op} {A : Res o → Res o' → Prop} (h : rel o o' A) :
    Alike rel A (Prog.call o : Prog Op Res X (Res o)) (Prog.call o') :=
  .op h fun _ _ hr => lift hr

/-- Two programs and what follows them. -/
theorem handle {f : Except X α → Prog Op Res X γ} {f' : Except X β → Prog Op Res X δ} (h : Alike rel R p p')
    (hf : ∀ r r', Agree R r r' → Alike rel S (f r) (f' r')) : Alike rel S (p.handle f) (p'.handle f') := by
  induction h with
  | ret h => exact hf _ _ (.ok h)
  | raise x => exact hf _ _ (.error x)
  | op h _ ih => exact .op h fun r r' hr => ih r r' hr

theorem bind {f : α → Prog Op Res X γ} {f' : β → Prog Op Res X δ} (h : Alike rel R p p')
    (hf : ∀ a b, R a b → Alike rel S (f a) (f' b)) : Alike rel S (p >>= f) (p' >>= f') := by
  refine h.handle fun r r' hr => ?_
  cases hr with
  | ok hab => exact hf _ _ hab
  | error x => exact .raise x

theorem tryCatch {g : X → Prog Op Res X α} {g' : X → Prog Op Res X β} (h : Alike rel R p p')
    (hg : ∀ x, Alike rel R (g x) (g' x)) : Alike rel R (MonadExcept.tryCatch p g) (MonadExcept.tryCatch p' g') := by
  refine h.handle fun r r' hr => ?_
  cases hr with
  | ok hab => exact .ret hab
  | error x => exact hg x

theorem andFinally {q q' : Prog Op Res X Unit} (h : Alike rel R p p') (hq : Alike rel Eq q q') :
    Alike rel R (p.andFinally q) (p'.andFinally q') := by
  refine h.handle fun r r' hr => hq.handle fun u u' hu => ?_
  cases hu with
  | ok _ => exact lift hr
  | error x => exact .raise x

/-- A program whose operations have the same answers on both sides. -/
theorem refl {p : Prog Op Res X α} (h : p.Each fun o => rel o o Eq) : Alike rel Eq p p := by
  induction p with
  | ret a => exact .ret rfl
  | raise x => exact .raise x
  | op o k ih =>
      refine .op h.1 fun r r' hr => ?_
      rw [hr.eq]
      exact ih r (h.2 r)

end Alike

end EventConsistency.Lib
