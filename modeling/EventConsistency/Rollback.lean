import EventConsistency.Lib.Machine

/-!
# Blue and Green traffic and its rollback

`set_active_upstream` and `current_active_color` of `scripts/deployment-lib.sh` and the switch of `scripts/rollback.sh`.
Three things say where the traffic goes: the color file, the upstream file and the configuration that Nginx has loaded.

* `Stage` : the command that a run of `set_active_upstream` comes to next, with its local variables;
* `Deployment.step` : a run begins, executes its next command, or is killed before it;
* `Deployment.rollback` : the switch of `rollback.sh` with Nginx commands that succeed;
* `Deployment.recorded` : no run is killed while it has put Green in place and the color file still says Blue;
* **`rollback_reaches_blue`** : then the rollback always reaches Blue; **`rollback_misses_green`** : a kill that it does
  not notice.
-/

namespace EventConsistency

open Lib

inductive Color where
  | blue
  | green
  deriving DecidableEq, Repr

/-- The next command of a run to `target`. `previous` is its `previous_color` and `backup` the content of its backup
file; `reloaded` tells the two branches that restore the old upstream apart. -/
inductive Stage where
  | readColor (target : Color)
  | makeBackup (target previous : Color)
  | makeCandidate (target previous : Color)
  | copyUpstream (target previous : Color)
  | copyTemplate (target previous backup : Color)
  | testBefore (target previous backup : Color)
  | install (target previous backup : Color)
  | testAfter (target previous backup : Color)
  | reload (target previous backup : Color)
  | restore (target previous backup : Color) (reloaded : Bool)
  | recordPrevious (previous : Color) (reloaded : Bool)
  | testRestored (reloaded : Bool)
  | reloadRestored
  | recordTarget (target previous : Color)
  | removeBackup
  deriving DecidableEq, Repr

/-- The run has put Green in place and the color file still says Blue. -/
def Stage.unrecorded : Stage → Bool
  | .testAfter .green .blue _ | .reload .green .blue _ | .restore .green .blue _ _ | .recordTarget .green .blue => true
  | _ => false

/-- `colorFile` may not be there; a file of either template is told by its color. -/
structure Deployment where
  colorFile : Option Color
  upstreamFile : Color
  loaded : Color
  script : Option Stage := none
  deriving DecidableEq, Repr

inductive DeploymentLabel where
  | begin (target : Color)
  /-- The next command; `ok` is how `nginx -t` or the reload ends, when the command is one. -/
  | command (ok : Bool)
  | kill
  deriving DecidableEq, Repr

namespace Deployment

/-- `current_active_color`: without a color file, the upstream file is searched for `api-green`. -/
def currentActiveColor (d : Deployment) : Color := d.colorFile.getD d.upstreamFile

/-- The deployment with the run at its next command, or at its end. -/
def goto (d : Deployment) (stage : Option Stage) : Deployment := { d with script := stage }

/-- One command. A test or reload that fails in the open ends the run, because of `set -e`. -/
def command (d : Deployment) (ok : Bool) : Stage → Deployment
  | .readColor target => d.goto (some (.makeBackup target d.currentActiveColor))
  | .makeBackup target previous => d.goto (some (.makeCandidate target previous))
  | .makeCandidate target previous => d.goto (some (.copyUpstream target previous))
  | .copyUpstream target previous => d.goto (some (.copyTemplate target previous d.upstreamFile))
  | .copyTemplate target previous backup => d.goto (some (.testBefore target previous backup))
  | .testBefore target previous backup => d.goto (if ok then some (.install target previous backup) else none)
  | .install target previous backup =>
      { d with upstreamFile := target, script := some (.testAfter target previous backup) }
  | .testAfter target previous backup =>
      d.goto (some (if ok then .reload target previous backup else .restore target previous backup false))
  | .reload target previous backup =>
      if ok then { d with loaded := d.upstreamFile, script := some (.recordTarget target previous) }
      else d.goto (some (.restore target previous backup true))
  | .restore _ previous backup reloaded =>
      { d with upstreamFile := backup, script := some (.recordPrevious previous reloaded) }
  | .recordPrevious previous reloaded =>
      { d with colorFile := some previous, script := some (.testRestored reloaded) }
  | .testRestored reloaded => d.goto (if reloaded && ok then some .reloadRestored else none)
  | .reloadRestored => { d with loaded := if ok then d.upstreamFile else d.loaded, script := none }
  | .recordTarget target _ => { d with colorFile := some target, script := some .removeBackup }
  | .removeBackup => d.goto none

def step (d : Deployment) : DeploymentLabel → Option Deployment
  | .begin target => if d.script.isNone then some (d.goto (some (.readColor target))) else none
  | .command ok => d.script.map (d.command ok)
  | .kill => if d.script.isSome then some (d.goto none) else none

/-- A whole run of `set_active_upstream` in which every Nginx command succeeds. -/
def setActiveUpstream (d : Deployment) (target : Color) : Deployment :=
  (runAll step d (.begin target :: List.replicate 11 (.command true))).getD d

/-- The switch of `rollback.sh`. -/
def rollback (d : Deployment) : Deployment :=
  if d.currentActiveColor = .blue then d else d.setActiveUpstream .blue

/-- All three say `color`, and nothing is running. -/
def agreeing (color : Color) : Deployment := ⟨some color, color, color, none⟩

/-- The run is not killed in that window. -/
def recorded (d : Deployment) : DeploymentLabel → Bool
  | .kill => !d.script.any Stage.unrecorded
  | _ => true

/-! ## The invariant -/

/-- A color file that says Blue is right. -/
def Tells (c : Color) (d : Deployment) : Prop := c = .blue → d.upstreamFile = .blue ∧ d.loaded = .blue

/-- What holds before each command, when the color file says `c`. -/
def StageOk (c : Color) (d : Deployment) : Stage → Prop
  | .readColor _ => Tells c d
  | .makeBackup _ previous | .makeCandidate _ previous | .copyUpstream _ previous => previous = c ∧ Tells c d
  | .copyTemplate _ previous backup | .testBefore _ previous backup | .install _ previous backup =>
      previous = c ∧ backup = d.upstreamFile ∧ Tells c d
  | .testAfter target previous backup | .reload target previous backup | .restore target previous backup _ =>
      previous = c ∧ d.upstreamFile = target ∧ (c = .blue → backup = .blue ∧ d.loaded = .blue)
  | .recordPrevious previous _ => previous = c ∧ Tells c d
  | .recordTarget target previous => previous = c ∧ d.upstreamFile = target ∧ d.loaded = target
  | .testRestored _ | .reloadRestored | .removeBackup => Tells c d

/-- The color file is there, and what a run that is under way has to leave is as its next command expects it. -/
def Ok (d : Deployment) : Prop :=
  ∃ c, d.colorFile = some c ∧ d.script.elim (Tells c d) (StageOk c d)

section Invariant

variable {d d' : Deployment} {c : Color} {stage : Stage} {label : DeploymentLabel} {ok : Bool}

theorem ok_agreeing (color : Color) : Ok (agreeing color) := ⟨color, rfl, fun h => ⟨h, h⟩⟩

/-- A command leads to what the next one expects. -/
theorem Ok.command (hc : d.colorFile = some c) (h : StageOk c d stage) (ok : Bool) : Ok (d.command ok stage) := by
  cases stage with
  | readColor target =>
      have hcurrent : d.currentActiveColor = c := by simp [currentActiveColor, hc]
      exact ⟨c, hc, hcurrent, h⟩
  | makeBackup target previous => exact ⟨c, hc, h⟩
  | makeCandidate target previous => exact ⟨c, hc, h⟩
  | copyUpstream target previous => exact ⟨c, hc, h.1, rfl, h.2⟩
  | copyTemplate target previous backup => exact ⟨c, hc, h⟩
  | testBefore target previous backup =>
      cases ok with
      | true => exact ⟨c, hc, h⟩
      | false => exact ⟨c, hc, h.2.2⟩
  | install target previous backup =>
      obtain ⟨hprevious, hbackup, htells⟩ := h
      refine ⟨c, hc, hprevious, rfl, ?_⟩
      intro hblue
      exact ⟨hbackup.trans (htells hblue).1, (htells hblue).2⟩
  | testAfter target previous backup => cases ok <;> exact ⟨c, hc, h⟩
  | reload target previous backup =>
      cases ok with
      | true => exact ⟨c, hc, h.1, h.2.1, h.2.1⟩
      | false => exact ⟨c, hc, h⟩
  | restore target previous backup reloaded => exact ⟨c, hc, h.1, h.2.2⟩
  | recordPrevious previous reloaded =>
      obtain ⟨rfl, htells⟩ := h
      exact ⟨previous, rfl, htells⟩
  | testRestored reloaded =>
      refine ⟨c, hc, ?_⟩
      simp only [Deployment.command, goto]
      split <;> exact h
  | reloadRestored =>
      refine ⟨c, hc, ?_⟩
      intro hblue
      cases ok with
      | true => exact ⟨(h hblue).1, (h hblue).1⟩
      | false => exact h hblue
  | recordTarget target previous =>
      obtain ⟨_, hupstream, hloaded⟩ := h
      exact ⟨target, rfl, fun hblue => ⟨hupstream.trans hblue, hloaded.trans hblue⟩⟩
  | removeBackup => exact ⟨c, hc, h⟩

/-- Outside the window, a run can be left where it is. -/
theorem StageOk.tells (h : StageOk c d stage) (hstage : stage.unrecorded = false) : Tells c d := by
  cases stage with
  | readColor target => exact h
  | makeBackup target previous => exact h.2
  | makeCandidate target previous => exact h.2
  | copyUpstream target previous => exact h.2
  | copyTemplate target previous backup => exact h.2.2
  | testBefore target previous backup => exact h.2.2
  | install target previous backup => exact h.2.2
  | testAfter target previous backup =>
      obtain ⟨rfl, hupstream, hloaded⟩ := h
      rintro rfl
      cases target <;> simp_all [Stage.unrecorded]
  | reload target previous backup =>
      obtain ⟨rfl, hupstream, hloaded⟩ := h
      rintro rfl
      cases target <;> simp_all [Stage.unrecorded]
  | restore target previous backup reloaded =>
      obtain ⟨rfl, hupstream, hloaded⟩ := h
      rintro rfl
      cases target <;> simp_all [Stage.unrecorded]
  | recordPrevious previous reloaded => exact h.2
  | testRestored reloaded => exact h
  | reloadRestored => exact h
  | recordTarget target previous =>
      obtain ⟨rfl, hupstream, hloaded⟩ := h
      rintro rfl
      cases target <;> simp_all [Stage.unrecorded]
  | removeBackup => exact h

theorem Ok.step (h : Ok d) (hok : d.recorded label = true) (hs : d.step label = some d') : Ok d' := by
  obtain ⟨c, hc, hscript⟩ := h
  cases label with
  | begin target =>
      simp only [Deployment.step] at hs
      split at hs
      · rename_i hnone
        cases hs
        rw [Option.isNone_iff_eq_none.mp hnone] at hscript
        exact ⟨c, hc, hscript⟩
      · cases hs
  | command ok =>
      obtain ⟨stage, hstage, rfl⟩ := Option.map_eq_some_iff.mp hs
      rw [hstage] at hscript
      exact Ok.command hc hscript ok
  | kill =>
      simp only [Deployment.step] at hs
      split at hs
      · rename_i hsome
        cases hs
        obtain ⟨stage, hstage⟩ := Option.isSome_iff_exists.mp hsome
        rw [hstage] at hscript
        have hunrecorded : stage.unrecorded = false := by simpa [recorded, hstage] using hok
        exact ⟨c, hc, StageOk.tells hscript hunrecorded⟩
      · cases hs

/-- A whole run to Blue. -/
theorem setActiveUpstream_blue (hidle : d.script = none) :
    (d.setActiveUpstream .blue).upstreamFile = .blue ∧ (d.setActiveUpstream .blue).loaded = .blue := by
  obtain ⟨colorFile, upstreamFile, loaded, script⟩ := d
  cases hidle
  exact ⟨rfl, rfl⟩

end Invariant

end Deployment

/-- **Rollback reaches Blue** after any runs, with Nginx commands that fail and kills at any command, as long as no run
is killed while it has put Green in place and the color file still says Blue. -/
theorem rollback_reaches_blue (color : Color) {d : Deployment}
    (h : Runs Deployment.step (fun d label => d.recorded label = true) (Deployment.agreeing color) d)
    (hidle : d.script = none) : d.rollback.upstreamFile = .blue ∧ d.rollback.loaded = .blue := by
  have hok : d.Ok := Runs.invariant (Deployment.ok_agreeing color) (fun _ _ _ hok hrec hs => hok.step hrec hs) h
  obtain ⟨c, hc, htells⟩ := hok
  rw [hidle] at htells
  unfold Deployment.rollback
  split
  · rename_i hblue
    have hcblue : c = .blue := by simpa [Deployment.currentActiveColor, hc] using hblue
    exact htells hcblue
  · exact Deployment.setActiveUpstream_blue hidle

/-- A kill in the window is always missed: the rollback then leaves the Green upstream in place. -/
theorem rollback_after_unrecorded (color : Color) {d d' : Deployment}
    (h : Runs Deployment.step (fun d label => d.recorded label = true) (Deployment.agreeing color) d)
    (hwindow : d.recorded .kill = false) (hkill : d.step .kill = some d') : d'.rollback.upstreamFile = .green := by
  have hok : d.Ok := Runs.invariant (Deployment.ok_agreeing color) (fun _ _ _ hok hrec hs => hok.step hrec hs) h
  obtain ⟨c, hc, hscript⟩ := hok
  cases hstage : d.script with
  | none => simp [Deployment.recorded, hstage] at hwindow
  | some stage =>
      rw [hstage] at hscript
      have hunrecorded : stage.unrecorded = true := by simpa [Deployment.recorded, hstage] using hwindow
      have hwhere : c = .blue ∧ d.upstreamFile = .green := by
        cases stage <;> simp_all [Stage.unrecorded, Deployment.StageOk] <;> grind
      have hd' : d' = d.goto none := by simpa [Deployment.step, hstage, eq_comm] using hkill
      subst hd'
      simp [Deployment.rollback, Deployment.currentActiveColor, Deployment.goto, hc, hwhere]

namespace Sample

/-- A switch to Green that is killed after the reload, before it writes the color file. -/
def killedSwitch : List DeploymentLabel := .begin .green :: List.replicate 9 (.command true) ++ [.kill]

def killed : Deployment := (runAll Deployment.step (Deployment.agreeing .blue) killedSwitch).getD (Deployment.agreeing .blue)

/-- The same with a kill before the new upstream is in place, a switch that fails its reload, and one that succeeds and is
killed at the end. -/
def switches : List DeploymentLabel :=
  .begin .green :: List.replicate 6 (DeploymentLabel.command true) ++ [DeploymentLabel.kill, .begin .green]
    ++ List.replicate 8 (DeploymentLabel.command true)
    ++ [DeploymentLabel.command false, .command true, .command true, .command true, .command false, .begin .green]
    ++ List.replicate 10 (DeploymentLabel.command true) ++ [DeploymentLabel.kill]

def switched : Deployment := (runAll Deployment.step (Deployment.agreeing .blue) switches).getD (Deployment.agreeing .blue)

end Sample

theorem rollback_reaches_blue_switched :
    Sample.switched = ⟨some .green, .green, .green, none⟩ ∧ Sample.switched.rollback.upstreamFile = .blue ∧
      Sample.switched.rollback.loaded = .blue :=
  ⟨by decide, rollback_reaches_blue .blue (Runs.of_allMeet (by decide)) (by decide)⟩

/-- **A rollback that does nothing**: Nginx has loaded Green, the color file says Blue. -/
theorem rollback_misses_green :
    Runs Deployment.step (fun _ _ => True) (Deployment.agreeing .blue) Sample.killed ∧ Sample.killed.script = none ∧
      Sample.killed.rollback.upstreamFile = .green ∧ Sample.killed.rollback.loaded = .green := by
  have hmeet : allMeet Deployment.step (fun _ _ => true) (Deployment.agreeing .blue) Sample.killedSwitch = true := by decide
  exact ⟨Runs.mono (fun _ _ _ => trivial) (Runs.of_allMeet hmeet), by decide⟩

end EventConsistency
