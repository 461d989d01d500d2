import EventConsistency.Lib.Prog

/-!
# Paths through a program

A path is what a program does from its start to its end, with an answer to every operation that the program does not
choose: `Path p trace out`.

* `Path.handle` : a path through `p.handle f` is one through `p` and one through `f`;
* `Path.andFinally`, `Path.call`, `Path.bind_call` : the same for the combinators;
* `Path.each` : what holds of each operation of a program holds along its paths.
-/

namespace EventConsistency.Lib.Prog

variable {Op : Type} {Res : Op → Type} {X α β : Type}

/-- An operation, with the answer it got. -/
abbrev Answered (Op : Type) (Res : Op → Type) (X : Type) : Type := (o : Op) × Except X (Res o)

/-- The program can perform the operations of `trace`, with these answers, and end in `out`. -/
inductive Path : Prog Op Res X α → List (Answered Op Res X) → Except X α → Prop where
  | ret (a : α) : Path (.ret a) [] (.ok a)
  | raise (x : X) : Path (.raise x) [] (.error x)
  | op {o : Op} {k : Except X (Res o) → Prog Op Res X α} {r : Except X (Res o)} {trace : List (Answered Op Res X)}
      {out : Except X α} (h : Path (k r) trace out) : Path (.op o k) (⟨o, r⟩ :: trace) out

namespace Path

variable {p : Prog Op Res X α} {trace : List (Answered Op Res X)} {out : Except X α}

/-- What holds of each operation of the program holds along the path. -/
theorem each {P : Op → Prop} (hp : p.Each P) (h : Path p trace out) : ∀ e ∈ trace, P e.1 := by
  induction h with
  | ret a => simp
  | raise x => simp
  | op _ ih =>
      rw [List.forall_mem_cons]
      exact ⟨hp.1, ih (hp.2 _)⟩

theorem lift {r : Except X α} (h : Path (.lift r : Prog Op Res X α) trace out) : trace = [] ∧ out = r := by
  cases r with
  | ok a =>
      cases h
      exact ⟨rfl, rfl⟩
  | error x =>
      cases h
      exact ⟨rfl, rfl⟩

theorem call {o : Op} {out : Except X (Res o)} (h : Path (.call o : Prog Op Res X (Res o)) trace out) :
    trace = [⟨o, out⟩] := by
  cases h with
  | op h =>
      obtain ⟨rfl, rfl⟩ := lift h
      rfl

theorem handle {f : Except X α → Prog Op Res X β} {out : Except X β} (h : Path (p.handle f) trace out) :
    ∃ before r after, trace = before ++ after ∧ Path p before r ∧ Path (f r) after out := by
  induction p generalizing trace with
  | ret a => exact ⟨[], .ok a, trace, rfl, .ret a, h⟩
  | raise x => exact ⟨[], .error x, trace, rfl, .raise x, h⟩
  | op o k ih =>
      cases h with
      | op h =>
          obtain ⟨before, r, after, rfl, first, last⟩ := ih _ h
          exact ⟨_, r, after, rfl, .op first, last⟩

/-- The last part runs however the first one ended. -/
theorem andFinally {q : Prog Op Res X Unit} (h : Path (p.andFinally q) trace out) :
    ∃ before r after u, trace = before ++ after ∧ Path p before r ∧ Path q after u := by
  obtain ⟨before, r, after, rfl, first, last⟩ := handle h
  obtain ⟨middle, u, rest, rfl, released, ended⟩ := handle last
  have nothing : rest = [] := by
    cases u with
    | ok _ => exact (lift ended).1
    | error x =>
        cases ended
        rfl
  rw [nothing, List.append_nil]
  exact ⟨before, r, middle, u, rfl, first, released⟩

/-- After a call the program goes on with its answer, or ends with its exception. -/
theorem bind_call {o : Op} {f : Res o → Prog Op Res X β} {out : Except X β}
    (h : Path ((Prog.call o : Prog Op Res X (Res o)) >>= f) trace out) :
    (∃ a rest, trace = ⟨o, .ok a⟩ :: rest ∧ Path (f a) rest out) ∨ ∃ x, trace = [⟨o, .error x⟩] := by
  obtain ⟨before, r, after, rfl, first, last⟩ := handle h
  rw [call first]
  cases r with
  | ok a => exact .inl ⟨a, after, rfl, last⟩
  | error x =>
      cases last
      exact .inr ⟨x, rfl⟩

end Path

end EventConsistency.Lib.Prog
