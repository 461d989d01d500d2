import EventConsistency.Lib.Prog
import Mathlib.Algebra.GroupWithZero.Nat

/-!
# Programs of bounded length

* `Prog.Within n p` : `p` performs at most `n` operations, whatever they are answered;
* `Within.handle`, `Within.bind`, `Within.tryCatch`, `Within.andFinally` : the lengths of two programs add up;
* `sum_set_lt` : a list of lengths of which one has become less.
-/

namespace EventConsistency.Lib

namespace Prog

variable {Op : Type} {Res : Op → Type} {X α β : Type}

/-- At most `n` operations, whatever they are answered. -/
def Within : Nat → Prog Op Res X α → Prop
  | _, ret _ | _, raise _ => True
  | 0, op _ _ => False
  | n + 1, op _ k => ∀ r, (k r).Within n

section Within

variable {p : Prog Op Res X α} {m n : Nat}

theorem within_ret (n : Nat) (a : α) : (ret a : Prog Op Res X α).Within n := by
  cases n <;> trivial

theorem within_raise (n : Nat) (x : X) : (raise x : Prog Op Res X α).Within n := by
  cases n <;> trivial

theorem within_lift (n : Nat) (r : Except X α) : (lift r : Prog Op Res X α).Within n := by
  cases r with
  | ok a => exact within_ret n a
  | error x => exact within_raise n x

theorem within_call (o : Op) : (call o : Prog Op Res X (Res o)).Within 1 := fun r => within_lift 0 r

theorem Within.mono (h : p.Within m) (hmn : m ≤ n) : p.Within n := by
  induction p generalizing m n with
  | ret a => exact within_ret n a
  | raise x => exact within_raise n x
  | op o k ih =>
      obtain _ | m := m
      · exact h.elim
      · obtain _ | n := n
        · omega
        · intro r
          exact ih r (h r) (by omega)

/-- What comes after the outcome of `p` starts when `p` has used up its operations at the latest. -/
theorem Within.handle {f : Except X α → Prog Op Res X β} (hp : p.Within m) (hf : ∀ r, (f r).Within n) :
    (p.handle f).Within (m + n) := by
  induction p generalizing m with
  | ret a => exact (hf _).mono (by omega)
  | raise x => exact (hf _).mono (by omega)
  | op o k ih =>
      obtain _ | m := m
      · exact hp.elim
      · have hlen : m + 1 + n = m + n + 1 := by omega
        rw [hlen]
        intro r
        exact ih r (hp r)

theorem Within.bind {g : α → Prog Op Res X β} (hp : p.Within m) (hg : ∀ a, (g a).Within n) :
    (p >>= g).Within (m + n) := by
  refine Within.handle hp ?_
  intro r
  cases r with
  | ok a => exact hg a
  | error x => exact within_raise n x

theorem Within.tryCatch {g : X → Prog Op Res X α} (hp : p.Within m) (hg : ∀ x, (g x).Within n) :
    (MonadExcept.tryCatch p g).Within (m + n) := by
  refine Within.handle hp ?_
  intro r
  cases r with
  | ok a => exact within_ret n a
  | error x => exact hg x

theorem Within.andFinally {q : Prog Op Res X Unit} (hp : p.Within m) (hq : q.Within n) :
    (p.andFinally q).Within (m + n) := by
  refine Within.handle hp ?_
  intro r
  refine Within.handle (n := 0) hq ?_
  intro u
  cases u with
  | ok _ => exact within_lift 0 r
  | error x => exact within_raise 0 x

end Within

end Prog

/-- A list of lengths of which one has become less. -/
theorem sum_set_lt {ns : List Nat} {i m n : Nat} (h : ns[i]? = some n) (hmn : m < n) : (ns.set i m).sum < ns.sum := by
  induction ns generalizing i with
  | nil => cases h
  | cons k ns ih =>
      cases i with
      | zero =>
          have hk : k = n := Option.some.inj h
          simp only [List.set_cons_zero, List.sum_cons]
          omega
      | succ i =>
          have hrest := ih (i := i) h
          simp only [List.set_cons_succ, List.sum_cons]
          omega

end EventConsistency.Lib
