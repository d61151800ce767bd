import MudTestbed.Backend.Memory
import MudTestbed.Plan.Commands
import MudTestbed.Clock

/-!
# Provisioning a network

`provision` realizes a topology and an address plan on the in-memory backend, on a virtual
clock counted in milliseconds. After resolving the plan it

1. creates the hosts, then the switches, in topology order;
2. creates each host's links to switches (hosts in order, each host's links in link
   order), then the links between switches in link order;
3. starts every switch with the controller endpoints of the plan;
4. waits, switch by switch, for the control connection, asking every poll interval; a
   switch that never connects fails the run when the connect timeout has passed on the
   clock;
5. configures the hosts; a required command that fails stops the run;
6. starts the services, host by host.

Hosts are configured together. Without a command delay every command finishes at once,
so the hosts run one after another. With a delay of `d` seconds they advance in lockstep:
in each round every host that still has commands runs its next one, in host order, and
the round takes `d` seconds; a failure ends the round where it happens.

A backend error of steps 1 to 3 and 6 is reported as a provisioning failure naming the
step; a provisioning failure or an unreachable controller passes as it is. Whatever the
run created is released on failure, in reverse order of creation (`Resources.release`).

The wait's deadline and each next poll are instants, which stop the program past the
clock's range. The run keeps the first such panic (`Provisioned.halted`) and goes on as on
a clock of unbounded range, so that its other fields say what that clock would give.
-/

namespace MudTestbed

/-- What a run created on the backend, each kind in creation order. -/
structure Resources where
  hosts : List String := []
  switches : List String := []
  startedSwitches : List String := []
  links : List Link := []
  services : List String := []
  deriving DecidableEq, Repr

namespace Resources

/-- Releases everything, each kind newest first; it never fails in memory. -/
def release (r : Resources) (b : MemoryBackend) : MemoryBackend :=
  let b := r.services.reverse.foldl MemoryBackend.stopService b
  let b := r.startedSwitches.reverse.foldl MemoryBackend.stopSwitch b
  let b := r.links.reverse.foldl MemoryBackend.destroyLink b
  let b := r.switches.reverse.foldl MemoryBackend.destroySwitch b
  r.hosts.reverse.foldl MemoryBackend.destroyHost b

end Resources

def Topology.linkOrder (t : Topology) : List Link :=
  t.hosts.flatMap (fun h =>
      (t.attachedSwitches h.name).filterMap fun a => t.links[a.linkIndex]?) ++
    t.links.filter fun l => l.a.kind == .switch && l.b.kind == .switch

/-- Timing of the wait for switches to connect. -/
structure ProvisionSettings where
  connectTimeoutSecs : Nat := 30
  connectPollMs : Nat := 500
  deriving DecidableEq, Repr

/-- The backend, what the run created, the clock in milliseconds, and the panic if any. -/
structure Bench where
  backend : MemoryBackend
  resources : Resources := {}
  clock : Nat := 0
  halted : Option Panic := none
  deriving DecidableEq, Repr

abbrev BenchStep := ExceptT Error (StateM Bench)

def secondsText (n : Nat) : String := if n = 0 then "0ns" else s!"{n}s"

/-- What the wait for a switch works with: its answer, a clock, and the program's stop. -/
structure SwitchWatch (m : Type → Type) where
  connected : String → m (Except Error Bool)
  now : m Nat
  sleepUntil : Nat → m Unit
  halt : Panic → m Unit

namespace SwitchWatch

variable {m : Type → Type} [Monad m] (w : SwitchWatch m)

/-- Asks whether the switch is connected until it is or the deadline comes; fuel bounds it. -/
def poll (name : String) (pollMs deadline : Nat) (failure : Error) : Nat → ExceptT Error m Unit
  | 0 => throw failure
  | fuel + 1 => do
    if ← ExceptT.mk (w.connected name) then return
    let now ← w.now
    if now ≥ deadline then throw failure
    let next ← (Instant.after w.halt now pollMs : m Nat)
    w.sleepUntil (min deadline next)
    poll name pollMs deadline failure fuel

/-- Waits `timeoutSecs` seconds for the switch to connect, asking every `pollMs` ms. -/
def waitConnected (name : String) (timeoutSecs pollMs : Nat) : ExceptT Error m Unit := do
  let start ← w.now
  let deadline ← (Instant.after w.halt start (timeoutSecs * 1000) : m Nat)
  w.poll name pollMs deadline
    (.controllerUnreachable s!"switch {name} did not connect within {secondsText timeoutSecs}")
    (timeoutSecs * 1000 + 1)

end SwitchWatch

/-- A switch answering by a schedule, on its own clock, with the times it was asked. -/
structure SwitchSchedule where
  answers : Nat → Except Error Bool
  clock : Nat := 0
  asked : List Nat := []
  halted : Option Panic := none

/-- Watching a scheduled switch: sleeps move its clock, and a panic is kept. -/
def SwitchSchedule.watch : SwitchWatch (StateM SwitchSchedule) where
  connected _ := modifyGet fun s =>
    (s.answers s.asked.length, { s with asked := s.asked ++ [s.clock] })
  now := do return (← get).clock
  sleepUntil t := modify fun s => { s with clock := max s.clock t }
  halt p := modify fun s => { s with halted := s.halted <|> some p }

def Error.during (context : String) : Error → Error
  | .provision d => .provision d
  | .controllerUnreachable d => .controllerUnreachable d
  | e => .provision s!"{context}: {e.message}"

def ResolvedPlan.endpoints (plan : ResolvedPlan) (switch : String) : List ControllerEndpoint :=
  (lookupSorted switch plan.switches).getD []

def Error.commandFailed (host : String) (argv : List String) (o : CommandOutput) : Error :=
  let joined := " ".intercalate argv
  .provision s!"`{joined}` on {host} failed: {Text.trim o.combined}"

namespace Bench

def apply (context : String) (f : MemoryBackend → Except Error MemoryBackend) : BenchStep Unit := do
  let s ← get
  match f s.backend with
  | .ok b => set { s with backend := b }
  | .error e => throw (e.during context)

def note (f : Resources → Resources) : BenchStep Unit :=
  modify fun s => { s with resources := f s.resources }

def createLink (l : Link) : BenchStep Unit := do
  apply s!"linking {l.a.node} and {l.b.node}" (·.createLink l)
  note fun r => { r with links := r.links ++ [l] }

/-- Waits for a switch's control connection on the bench clock. -/
def awaitSwitch (settings : ProvisionSettings) (name : String) : BenchStep Unit := do
  let s ← get
  let waited := (SwitchSchedule.watch.waitConnected name settings.connectTimeoutSecs
    (max settings.connectPollMs 1)).run.run
    { answers := fun _ => .ok (s.backend.switchConnected name), clock := s.clock,
      halted := s.halted }
  set { s with clock := waited.2.clock, halted := waited.2.halted }
  match waited.1 with
  | .ok () => pure ()
  | .error e => throw e

/-- Runs one configuration command in a host; a failed required command stops the run. -/
def runCommand (host : String) (cmd : HostCommand) : BenchStep Unit := do
  let s ← get
  match s.backend.exec host cmd.argv with
  | .error e => throw (e.during s!"configuring {host}")
  | .ok (o, b) =>
    set { s with backend := b }
    if o.success || cmd.bestEffort then pure ()
    else throw (Error.commandFailed host cmd.argv o)

/-- One round of lockstep configuration; gives what is left of each host's commands. -/
def configureRound : List (String × List HostCommand) → BenchStep (List (String × List HostCommand))
  | [] => pure []
  | (h, []) :: rest => do
    let rest ← configureRound rest
    pure ((h, []) :: rest)
  | (h, c :: cs) :: rest => do
    runCommand h c
    let rest ← configureRound rest
    pure ((h, cs) :: rest)

/-- Runs lockstep rounds of `delayMs` each until no host has commands left. -/
def configureLockstep (delayMs : Nat) : Nat → List (String × List HostCommand) → BenchStep Unit
  | 0, _ => pure ()
  | fuel + 1, lanes =>
    if lanes.all (·.2.isEmpty) then pure ()
    else do
      modify fun s => { s with clock := s.clock + delayMs }
      let lanes ← configureRound lanes
      configureLockstep delayMs fuel lanes

/-- Configures every host, see the module comment. -/
def configureHosts (hosts : List HostConfig) : BenchStep Unit := do
  let lanes := hosts.map fun h => (h.name, hostCommands h)
  match (← get).backend.execDelay with
  | some (d + 1) =>
    configureLockstep ((d + 1) * 1000) ((lanes.map (·.2.length)).foldr (· + ·) 0) lanes
  | _ => lanes.forM fun (h, cmds) => cmds.forM (runCommand h)

/-- Starts the services of every host, in host order. -/
def startServices (hosts : List HostConfig) : BenchStep Unit :=
  hosts.forM fun h => h.services.forM fun svc => do
    let s ← get
    match s.backend.spawn h.name svc.command with
    | .error e => throw (e.during s!"starting service {svc.name} on {h.name}")
    | .ok (id, b) =>
      set { s with backend := b }
      note fun r => { r with services := r.services ++ [id] }

def createHosts (hosts : List Host) : BenchStep Unit :=
  hosts.forM fun h => do
    apply s!"creating host {h.name}" (·.createHost h.name)
    note fun r => { r with hosts := r.hosts ++ [h.name] }

def createSwitches (switches : List Switch) : BenchStep Unit :=
  switches.forM fun sw => do
    apply s!"creating switch {sw.name}" (·.createSwitch sw.name sw.dpid)
    note fun r => { r with switches := r.switches ++ [sw.name] }

def startSwitches (plan : ResolvedPlan) (switches : List Switch) : BenchStep Unit :=
  switches.forM fun sw => do
    apply s!"starting switch {sw.name}" (·.startSwitch sw.name (plan.endpoints sw.name))
    note fun r => { r with startedSwitches := r.startedSwitches ++ [sw.name] }

/-- Builds the network of a topology and its resolved plan, see the module comment. -/
def build (settings : ProvisionSettings) (t : Topology) (plan : ResolvedPlan) : BenchStep Unit := do
  createHosts t.hosts
  createSwitches t.switches
  t.linkOrder.forM createLink
  startSwitches plan t.switches
  t.switches.forM fun sw => awaitSwitch settings sw.name
  configureHosts plan.hosts
  startServices plan.hosts

end Bench

/-- A provisioned network: its topology, resolved plan and what was created for it. -/
structure LiveNetwork where
  topology : Topology
  plan : ResolvedPlan
  resources : Resources := {}
  tornDown : Bool := false
  deriving DecidableEq, Repr

namespace LiveNetwork

def teardown (live : LiveNetwork) (b : MemoryBackend) : LiveNetwork × MemoryBackend :=
  ({ live with resources := {}, tornDown := true }, live.resources.release b)

end LiveNetwork

/-- The end of a provisioning run: the network, the backend, the time taken, any panic. -/
structure Provisioned where
  network : Except Error LiveNetwork
  backend : MemoryBackend
  elapsedMs : Nat
  halted : Option Panic

/-- Provisions a topology with an address plan, see the module comment. -/
def provision (settings : ProvisionSettings) (t : Topology) (plan : AddressPlan)
    (b : MemoryBackend) : Provisioned :=
  match plan.resolve t with
  | .error e => ⟨.error e, b, 0, none⟩
  | .ok resolved =>
    let (r, s) := (Bench.build settings t resolved).run ⟨b, {}, 0, none⟩
    match r with
    | .ok () => ⟨.ok ⟨t, resolved, s.resources, false⟩, s.backend, s.clock, s.halted⟩
    | .error e => ⟨.error e, s.resources.release s.backend, s.clock, s.halted⟩

theorem provision_resolve_error (settings : ProvisionSettings) (t : Topology)
    (plan : AddressPlan) (b : MemoryBackend) (e : Error) (h : plan.resolve t = .error e) :
    provision settings t plan b = ⟨.error e, b, 0, none⟩ := by
  simp [provision, h]

end MudTestbed
