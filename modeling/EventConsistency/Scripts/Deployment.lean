import EventConsistency.Lib.Shell
import EventConsistency.Rollback

/-!
# The deployment scripts

`deploy-blue-green.sh`, `rollback.sh`, `rollback_to_blue.sh`, `switch_traffic.sh` and `check_active_upstream.sh` of
`scripts/` with the functions of `deployment-lib.sh`, as commands of a shell under `set -e`.

* `Traffic` : the color file, the upstream file and what Nginx has loaded;
* `Program` : whatever else the scripts start, and how it ends is up to it; `effect` : only a reload changes anything;
* `setActiveUpstream`, `switchToGreen`, `rollback` : the functions and scripts;
* `Invocation` : a script with its arguments; `ScriptRun.step` : one script after another.
-/

namespace EventConsistency

open Lib.Shell Lib.Shell.Command

/-- What `set_active_upstream` leaves and finds. The files are those of `ACTIVE_COLOR_FILE` and `ACTIVE_UPSTREAM_FILE`,
the same for all scripts. -/
structure Traffic where
  colorFile : Option Color
  upstreamFile : Color
  loaded : Color
  deriving DecidableEq, Repr

namespace Traffic

/-- `current_active_color`. -/
def currentActiveColor (t : Traffic) : Color := t.colorFile.getD t.upstreamFile

/-- All three say `color`; the color file may not be there yet. -/
structure Agrees (t : Traffic) (color : Color) : Prop where
  upstreamFile : t.upstreamFile = color
  loaded : t.loaded = color
  currentActiveColor : t.currentActiveColor = color

/-- The traffic, with no run under way. -/
def deployment (t : Traffic) : Deployment := ⟨t.colorFile, t.upstreamFile, t.loaded, none⟩

end Traffic

namespace DeploymentScripts

/-- The variables of `deployment-lib.sh`. -/
structure Options where
  blueService : String := "api-blue"
  greenService : String := "api-green"
  nginxService : String := "nginx"
  baseUrl : String := "http://localhost:8080"
  internalBaseUrl : String := "http://localhost:8081"
  blueUrl : String := "http://localhost:8000"
  greenUrl : String := "http://localhost:8001"
  greenUpstreamUrl : String := "http://api-green:8000"
  verifyTimeoutSeconds : Nat := 60
  autoRollback : Bool := true
  runSecurityLogCheck : Bool := true
  runMigrationSmoke : Bool := true
  runDeployVerify : Bool := false
  activeUpstreamFile : String := "infra/nginx/conf.d/upstream-active.conf"
  blueUpstreamTemplate : String := "infra/nginx/conf.d/upstream-active.conf.blue"
  greenUpstreamTemplate : String := "infra/nginx/conf.d/upstream-active.conf.green"

/-- What the scripts start. -/
inductive Program where
  /-- `command -v`. -/
  | tool (name : String)
  /-- `[[ -f file ]]`. -/
  | isFile (file : String)
  | mktemp (template : String)
  | cp (source : String)
  | mv (target : String)
  | composeUp (services : List String)
  | composePs (services : List String)
  | composeStop (service : String)
  /-- `compose ps --status running`, searched for the service. -/
  | running (service : String)
  | wget (url : String)
  | curl (url : String)
  /-- `(( SECONDS < deadline ))`. -/
  | beforeDeadline
  /-- The Python program of `verify_ready_body`. -/
  | readyBody (url : String)
  /-- `deployment-smoke.sh`. -/
  | smoke (url readyUrl : String)
  | make (target : String)
  | nginxTest
  | nginxReload
  /-- `nginx -T`, which prints the files. -/
  | nginxDump
  /-- The Python program of `check_active_upstream.sh`, up to the answer. -/
  | healthBody (url : String)
  deriving DecidableEq, Repr

/-- A reload that succeeds loads the upstream file. -/
def effect : Program → Nat → Traffic → Traffic
  | .nginxReload, 0, t => { t with loaded := t.upstreamFile }
  | _, _, t => t

/-- The programs, answering as they like. -/
def outside (answer : List (Program × Nat) → Program → Nat) : Outside Program Traffic := ⟨answer, effect⟩

abbrev Script : Type := Command Program Traffic

/-! ## `deployment-lib.sh` -/

def requireCommand (name : String) : Script := call (orElse (run (.tool name)) (ret 1))

def requireDeployTools (o : Options) : Script := call (block [
  requireCommand "curl",
  requireCommand "python3",
  if o.runSecurityLogCheck then requireCommand "rg" else skip])

def nginxTest : Script := call (run .nginxTest)

def nginxReload : Script := call (run .nginxReload)

/-- The loop of `wait_for_endpoint`; with a `sleep 2` in each round the deadline is past after that many of them. -/
def waitLoop (url : String) : Nat → Script
  | 0 => ret 1
  | rounds + 1 => cond (run .beforeDeadline)
      (block [
        cond (run (.curl url)) (ret 0) skip,
        waitLoop url rounds])
      (ret 1)

def waitForEndpoint (o : Options) (url : String) : Script := call (waitLoop url o.verifyTimeoutSeconds)

def verifyReadyBody (url : String) : Script := call (run (.readyBody url))

def Options.template (o : Options) : Color → String
  | .blue => o.blueUpstreamTemplate
  | .green => o.greenUpstreamTemplate

/-- The template of a color is of that color. Once the new file is in place, the backup is moved back and the color is
written without fail. -/
def setActiveUpstream (o : Options) (targetColor : Color) : Script := call (
  letIn Traffic.currentActiveColor fun previousColor =>
  letIn Traffic.upstreamFile fun backup => block [
    orElse (run (.isFile (o.template targetColor))) (ret 1),
    run (.mktemp "upstream-active.conf.backup.XXXXXX"),
    run (.mktemp "upstream-active.conf.tmp.XXXXXX"),
    run (.cp o.activeUpstreamFile),
    run (.cp (o.template targetColor)),
    nginxTest,
    run (.mv o.activeUpstreamFile),
    assign fun t => { t with upstreamFile := targetColor },
    orElse nginxTest (block [
      assign fun t => { t with upstreamFile := backup },
      assign fun t => { t with colorFile := some previousColor },
      orElse nginxTest skip,
      ret 1]),
    orElse nginxReload (block [
      assign fun t => { t with upstreamFile := backup },
      assign fun t => { t with colorFile := some previousColor },
      cond nginxTest (orElse nginxReload skip) skip,
      ret 1]),
    assign fun t => { t with colorFile := some targetColor }])

def runSecurityLogCheck (o : Options) : Script :=
  call (if o.runSecurityLogCheck then run (.make "security-log-check") else skip)

def runMigrationSmoke (o : Options) : Script :=
  call (if o.runMigrationSmoke then run (.make "migration-smoke") else skip)

def runDeploymentSmoke (url readyUrl : String) : Script := call (run (.smoke url readyUrl))

def verifyNginxCanReachGreen (o : Options) : Script := call (run (.wget (o.greenUpstreamUrl ++ "/health")))

def runDeployVerifyIfEnabled (o : Options) : Script :=
  call (if o.runDeployVerify then run (.make "deploy-verify") else skip)

/-! ## The scripts -/

/-- `rollback.sh`. -/
def rollback (o : Options) : Script := block [
  requireDeployTools o,
  letIn Traffic.currentActiveColor fun activeColor =>
    if activeColor = .blue then skip else setActiveUpstream o .blue,
  waitForEndpoint o (o.baseUrl ++ "/health"),
  verifyReadyBody (o.internalBaseUrl ++ "/ready"),
  runDeploymentSmoke o.baseUrl o.internalBaseUrl,
  runDeployVerifyIfEnabled o,
  skip]

def handlePostSwitchFailure (o : Options) : Script := call (if o.autoRollback then child (rollback o) else skip)

/-- The part of `switch_to_green` behind the switch. -/
def verifyRouted (o : Options) : List Script := [
  orElse (waitForEndpoint o (o.baseUrl ++ "/health")) (block [handlePostSwitchFailure o, ret 1]),
  orElse (verifyReadyBody (o.internalBaseUrl ++ "/ready")) (block [handlePostSwitchFailure o, ret 1]),
  orElse (runDeploymentSmoke o.baseUrl o.internalBaseUrl) (block [handlePostSwitchFailure o, ret 1]),
  runDeployVerifyIfEnabled o,
  skip]

def switchToGreen (o : Options) : Script := call (block [
  requireDeployTools o,
  letIn Traffic.currentActiveColor fun activeColor =>
    if activeColor = .green then block [
      orElse (run (.composePs [o.nginxService, o.blueService, o.greenService])) skip,
      ret 0]
    else block ([
      waitForEndpoint o (o.greenUrl ++ "/health"),
      verifyReadyBody (o.greenUrl ++ "/ready"),
      setActiveUpstream o .green] ++ verifyRouted o)])

def ensureBaseStack (o : Options) : Script := call (block [
  run (.composeUp ["postgres", "redis", o.blueService, o.nginxService]),
  waitForEndpoint o (o.blueUrl ++ "/health"),
  waitForEndpoint o (o.baseUrl ++ "/health"),
  verifyReadyBody (o.blueUrl ++ "/ready")])

def startGreen (o : Options) : Script := call (block [
  requireDeployTools o,
  run (.composeUp [o.greenService]),
  run (.composePs [o.greenService]),
  waitForEndpoint o (o.greenUrl ++ "/health"),
  verifyReadyBody (o.greenUrl ++ "/ready"),
  verifyNginxCanReachGreen o])

def verifyGreenBeforeSwitch (o : Options) : Script := call (block [
  runSecurityLogCheck o,
  runMigrationSmoke o,
  runDeploymentSmoke o.greenUrl o.greenUrl,
  nginxTest])

def deploy (o : Options) : Script := call (block [
  ensureBaseStack o,
  startGreen o,
  verifyGreenBeforeSwitch o,
  switchToGreen o])

/-- `rollback_to_blue.sh`. -/
def rollbackToBlue (o : Options) (stopGreen : Bool) : Script := block [
  requireCommand "curl",
  requireCommand "python3",
  letIn Traffic.currentActiveColor fun activeColor =>
    if activeColor = .blue then nginxTest else setActiveUpstream o .blue,
  waitForEndpoint o (o.baseUrl ++ "/health"),
  verifyReadyBody (o.internalBaseUrl ++ "/ready"),
  if stopGreen then orElse (run (.composeStop o.greenService)) skip else skip,
  skip]

/-- `switch_traffic.sh`. -/
def switchTraffic (o : Options) (targetColor : Color) : Script := block [nginxTest, setActiveUpstream o targetColor, skip]

/-- `check_active_upstream.sh`. The answer of `/health` names the color that Nginx routes to. -/
def checkActiveUpstream (o : Options) (expectedColor : Color) : Script := block [
  orElse (test fun t => t.currentActiveColor == expectedColor) (exit 1),
  orElse (test fun t => t.upstreamFile == expectedColor) (exit 1),
  nginxTest,
  orElse (cond (run .nginxDump) (test fun t => t.upstreamFile == expectedColor) (test fun _ => false)) (exit 1),
  if expectedColor = .green then block [
      run (.composePs [o.greenService]),
      orElse (run (.running o.greenService)) (exit 1)]
    else skip,
  run (.healthBody (o.baseUrl ++ "/health")),
  test fun t => t.loaded == expectedColor,
  skip]

/-- A script with its arguments. -/
inductive Invocation where
  | deploy
  | startGreen
  | verifyGreen
  | switchGreen
  | rollback
  | rollbackToBlue (stopGreen : Bool)
  | switchTraffic (targetColor : Color)
  | checkActiveUpstream (expectedColor : Color)
  deriving DecidableEq, Repr

namespace Invocation

def script (o : Options) : Invocation → Script
  | deploy => DeploymentScripts.deploy o
  | startGreen => DeploymentScripts.startGreen o
  | verifyGreen => verifyGreenBeforeSwitch o
  | switchGreen => switchToGreen o
  | rollback => DeploymentScripts.rollback o
  | rollbackToBlue stopGreen => DeploymentScripts.rollbackToBlue o stopGreen
  | switchTraffic targetColor => DeploymentScripts.switchTraffic o targetColor
  | checkActiveUpstream expectedColor => DeploymentScripts.checkActiveUpstream o expectedColor

/-- The color of an invocation that succeeds. -/
def goal : Invocation → Option Color
  | deploy | switchGreen => some .green
  | startGreen | verifyGreen => none
  | rollback | rollbackToBlue _ => some .blue
  | switchTraffic color | checkActiveUpstream color => some color

/-- The script from its start: its exit status, the traffic behind it and the programs that it has run. -/
def perform (o : Options) (answer : List (Program × Nat) → Program → Nat) (i : Invocation) (t : Traffic) :
    Nat × Traffic × List (Program × Nat) :=
  let out := i.script o (outside answer) true ⟨t, []⟩
  (out.1.code, out.2.world, out.2.trace)

end Invocation

/-- A script with its arguments, its variables and the answers of its programs. -/
structure ScriptRun where
  options : Options
  invocation : Invocation
  answer : List (Program × Nat) → Program → Nat

namespace ScriptRun

def perform (r : ScriptRun) (t : Traffic) : Nat × Traffic × List (Program × Nat) :=
  r.invocation.perform r.options r.answer t

def step (t : Traffic) (r : ScriptRun) : Option Traffic := some (r.perform t).2.1

end ScriptRun

end DeploymentScripts

end EventConsistency
