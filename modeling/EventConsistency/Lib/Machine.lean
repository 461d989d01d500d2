import Mathlib.Tactic.Common

/-!
# Step functions and their runs

For a partial step function `step : σ → ℓ → Option σ`:

* `Runs step ok s₀ s` : `s` is reached from `s₀` by steps that all meet `ok`, with the rule `Runs.invariant`;
* `runAll` : the state after a list of labels; `Runs.of_runAll` : it is reached when every step of the list meets `ok`.
-/

namespace EventConsistency.Lib

variable {σ ℓ : Type} {step : σ → ℓ → Option σ} {ok : σ → ℓ → Prop} {s₀ s s' : σ}

/-- `s` is reached from `s₀` by steps that all meet `ok`. -/
inductive Runs (step : σ → ℓ → Option σ) (ok : σ → ℓ → Prop) (s₀ : σ) : σ → Prop where
  | refl : Runs step ok s₀ s₀
  | next {s s' : σ} {label : ℓ} (h : Runs step ok s₀ s) (hok : ok s label) (hs : step s label = some s') :
      Runs step ok s₀ s'

/-- What holds at the start and is kept by every step holds in every state reached. -/
theorem Runs.invariant {P : σ → Prop} (h₀ : P s₀) (hstep : ∀ s s' label, P s → ok s label → step s label = some s' → P s')
    (h : Runs step ok s₀ s) : P s := by
  induction h with
  | refl => exact h₀
  | next _ hok hs ih => exact hstep _ _ _ ih hok hs

theorem Runs.trans {s₁ : σ} (h : Runs step ok s₀ s₁) (h' : Runs step ok s₁ s) : Runs step ok s₀ s := by
  induction h' with
  | refl => exact h
  | next _ hok hs ih => exact .next ih hok hs

theorem Runs.mono {ok' : σ → ℓ → Prop} (hok : ∀ s label, ok s label → ok' s label) (h : Runs step ok s₀ s) :
    Runs step ok' s₀ s := by
  induction h with
  | refl => exact .refl
  | next _ h hs ih => exact .next ih (hok _ _ h) hs

/-- The state after the labels. -/
def runAll (step : σ → ℓ → Option σ) (s : σ) : List ℓ → Option σ
  | [] => some s
  | label :: rest => (step s label).bind fun s' => runAll step s' rest

/-- Every step of the list meets `ok`. -/
def allMeet (step : σ → ℓ → Option σ) (ok : σ → ℓ → Bool) (s : σ) : List ℓ → Bool
  | [] => true
  | label :: rest => ok s label && (step s label).all fun s' => allMeet step ok s' rest

theorem Runs.of_runAll {ok : σ → ℓ → Bool} {labels : List ℓ} (hok : allMeet step ok s₀ labels = true)
    (h : runAll step s₀ labels = some s) : Runs step (fun s label => ok s label = true) s₀ s := by
  induction labels generalizing s₀ with
  | nil =>
      cases h
      exact .refl
  | cons label rest ih =>
      obtain ⟨s₁, hs, h⟩ := Option.bind_eq_some_iff.mp h
      have hboth : ok s₀ label = true ∧ allMeet step ok s₁ rest = true := by simpa [allMeet, hs] using hok
      exact Runs.trans (.next .refl hboth.1 hs) (ih hboth.2 h)

/-- The state after the labels, or the start where they cannot all be followed. -/
theorem Runs.of_allMeet {ok : σ → ℓ → Bool} {labels : List ℓ} (hok : allMeet step ok s₀ labels = true) :
    Runs step (fun s label => ok s label = true) s₀ ((runAll step s₀ labels).getD s₀) := by
  cases h : runAll step s₀ labels with
  | none => exact .refl
  | some s => exact Runs.of_runAll hok h

end EventConsistency.Lib
