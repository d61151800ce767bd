import MudTestbed.Scenario.Basic
import MudTestbed.Provision.Session
import MudTestbed.Controller.Client
import MudTestbed.Controller.Scripted
import MudTestbed.Report.Basic

/-!
# Running a scenario

`Scenario.run` runs a scenario on a `Testbed`: the in-memory backend, a controller of any
`ControllerBehavior` (the scripted controller, or one out of reach), and a clock in
milliseconds. The run

1. provisions the network; when that fails, the run is aborted in its first state and
   ends torn down;
2. enters `provisioned`, clears the controller's rules, stores each policy document in
   order, waits for the policy to settle and enters `configured`;
3. runs each group: when it has transitions it enters `state_transition`, quarantines or
   releases each target device and waits to settle; when it awaits a MUD report it polls
   for one until the report timeout; then it enters `probing` and runs the group's probes;
4. on any error of steps 2 and 3 records an abort in the state reached; probes that fail
   do not abort;
5. always tears the network down, and enters `torn_down` last.

The connect wait, the report deadline and the limit of each probe are sums on the clock,
which stop the program past their range. The testbed keeps the first such panic
(`Testbed.halted`) while the run goes on as on a clock of unbounded range.

A transition targets its device by MAC address, or else by host, whose planned MAC address
is taken. The backend's answers see the controller's quarantine as it stands when the run
starts and when each group's probes start.
-/

namespace MudTestbed

/-- How a controller answers a request, how long the answer takes, and whom it quarantines. -/
structure ControllerBehavior (σ : Type) where
  answer : σ → Request → Reply × σ
  delay : σ → Request → Nat
  quarantined : σ → List String

def ScriptedController.behavior : ControllerBehavior ScriptedController :=
  ⟨ScriptedController.handle, fun _ _ => 0, ScriptedController.quarantinedTexts⟩

def ScriptedController.unreachable : ControllerBehavior ScriptedController :=
  ⟨fun c _ => (.unanswered, c), fun _ _ => 0, ScriptedController.quarantinedTexts⟩

/-- The world a scenario runs in, see the module comment. -/
structure Testbed (σ : Type) where
  backend : MemoryBackend := {}
  controller : σ
  clock : Nat := 0
  halted : Option Panic := none

abbrev TestbedStep (σ : Type) := StateM (Testbed σ)

namespace Testbed

variable {σ : Type} (ctl : ControllerBehavior σ)

/-- The wire to the testbed's controller, on the testbed's clock. -/
def wire : Wire (TestbedStep σ) where
  exchange r := modifyGet fun tb =>
    let (reply, c) := ctl.answer tb.controller r
    (reply, { tb with controller := c, clock := tb.clock + ctl.delay tb.controller r })
  exchangeUntil limit r := modifyGet fun tb =>
    let (reply, c) := ctl.answer tb.controller r
    let arrival := tb.clock + ctl.delay tb.controller r
    if arrival ≤ limit then (some reply, { tb with controller := c, clock := arrival })
    else (none, { tb with controller := c, clock := max tb.clock limit })
  now := do return (← get).clock
  sleepUntil t := modify fun tb => { tb with clock := max tb.clock t }

def halt (p : Option Panic) (tb : Testbed σ) : Testbed σ := { tb with halted := tb.halted <|> p }

def syncQuarantine (tb : Testbed σ) : Testbed σ :=
  { tb with backend := { tb.backend with quarantined := ctl.quarantined tb.controller } }

end Testbed

/-- The device a transition targets: its MAC address, else its host's planned one. -/
def Transition.target (t : Transition) (plan : ResolvedPlan) : Except Error MacAddr :=
  match t.mac, t.host with
  | some mac, _ => .ok mac
  | none, some host =>
    match plan.host? host with
    | some h => .ok h.mac
    | none => .error (.unknownEndpoint host)
  | none, none => .error (.invalidConfig "transition needs a mac or a host")

abbrev Drive (σ : Type) := ExceptT Error (StateT ScenarioReport (TestbedStep σ))

namespace Drive

variable {σ : Type}

def onTestbed {α : Type} (x : TestbedStep σ α) : Drive σ α := ExceptT.lift (StateT.lift x)

def call {α : Type} (x : ExceptT Error (TestbedStep σ) α) : Drive σ α := ExceptT.mk (StateT.lift x.run)

def enter (s : ScenarioState) : Drive σ Unit := modifyThe ScenarioReport (·.enter s)

def settle (secs : Nat) : Drive σ Unit :=
  if secs = 0 then pure ()
  else onTestbed (modify fun tb => { tb with clock := tb.clock + secs * 1000 })

/-- Runs probes on the network, the backend seeing the controller's quarantine. -/
def probe (ctl : ControllerBehavior σ) (sc : Scenario) (live : LiveNetwork)
    (specs : List ProbeSpec) : Drive σ (List ProbeResult) :=
  onTestbed (modifyGet fun tb =>
    let tb := tb.syncQuarantine ctl
    let s := Session.mk live tb.backend sc.tools
    let (results, s') := s.runSequence specs
    (results, { tb with backend := s'.backend }.halt (s.sequencePanic specs)))

/-- Quarantines or releases the device of a transition. -/
def transition (client : ControllerClient (TestbedStep σ)) (live : LiveNetwork)
    (t : Transition) : Drive σ Unit := do
  let mac ← ExceptT.mk (pure (t.target live.plan))
  match t.action with
  | .quarantine => call (client.quarantine mac)
  | .unquarantine => call (client.unquarantine mac)

def runTransitions (client : ControllerClient (TestbedStep σ)) (sc : Scenario)
    (live : LiveNetwork) (g : ProbeGroup) : Drive σ Unit := do
  enter .stateTransition
  g.transitions.forM (transition client live)
  settle sc.timing.transitionSettleSecs

/-- Polls for a MUD report until the report timeout. -/
def awaitReport (ctl : ControllerBehavior σ) (client : ControllerClient (TestbedStep σ))
    (sc : Scenario) : Drive σ Unit := do
  let now ← onTestbed (Testbed.wire ctl).now
  let deadline ← onTestbed (Instant.after (fun p => modify (Testbed.halt (some p))) now
    (sc.timing.reportTimeoutSecs * 1000))
  let _ ← call (client.pollReport [] sc.timing.pollIntervalMs deadline)

def runProbes (ctl : ControllerBehavior σ) (sc : Scenario) (live : LiveNetwork)
    (g : ProbeGroup) : Drive σ Unit := do
  enter .probing
  let results ← probe ctl sc live g.probes
  modifyThe ScenarioReport fun r => { r with groups := r.groups ++ [⟨g.name, results⟩] }

def group (ctl : ControllerBehavior σ) (client : ControllerClient (TestbedStep σ))
    (sc : Scenario) (live : LiveNetwork) (g : ProbeGroup) : Drive σ Unit :=
  (if g.transitions.isEmpty then pure () else runTransitions client sc live g) >>= fun _ =>
  (if g.awaitMudReport then awaitReport ctl client sc else pure ()) >>= fun _ =>
  runProbes ctl sc live g

/-- Configures the controller and runs every group, see the module comment. -/
def scenario (ctl : ControllerBehavior σ) (client : ControllerClient (TestbedStep σ))
    (sc : Scenario) (live : LiveNetwork) : Drive σ Unit := do
  call client.clearRules
  sc.documents.forM fun doc => call (client.upload doc.resource doc.body)
  settle sc.timing.settleSecs
  enter .configured
  sc.groups.forM (group ctl client sc live)

end Drive

def Scenario.provisionOn (sc : Scenario) (b : MemoryBackend) : Provisioned :=
  provision { connectTimeoutSecs := sc.timing.connectTimeoutSecs } sc.topology sc.plan b

/-- Runs a scenario against a controller, see the module comment. -/
def Scenario.run {σ : Type} (ctl : ControllerBehavior σ) (config : ControllerConfig)
    (sc : Scenario) : TestbedStep σ ScenarioReport := do
  let report : ScenarioReport := { scenario := sc.name }
  modify (Testbed.syncQuarantine ctl)
  let tb ← get
  let p := sc.provisionOn tb.backend
  set ({ tb with backend := p.backend, clock := tb.clock + p.elapsedMs }.halt p.halted)
  match p.network with
  | .error e => pure ((report.abort e.message).enter .tornDown)
  | .ok live =>
    let client : ControllerClient (TestbedStep σ) := ⟨Testbed.wire ctl, config⟩
    let (result, report) ← (Drive.scenario ctl client sc live).run.run (report.enter .provisioned)
    let report := match result with
      | .ok () => report
      | .error e => report.abort e.message
    let t := Teardowns.alone MemoryBackend.release live (← get).backend
    modify fun tb => { tb with backend := t.backend }
    pure ({ report with teardownErrors := t.errors }.enter .tornDown)

end MudTestbed
