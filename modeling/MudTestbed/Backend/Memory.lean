import MudTestbed.Topology.Graph
import MudTestbed.Address.Endpoint
import MudTestbed.Probe.Output
import MudTestbed.Plan.Basic

/-!
# An in-memory network backend

`MemoryBackend` keeps the hosts, switches, links, controller bindings and services that a
real backend would create, with the same rules: creating something twice fails, removing
something is idempotent. Commands run in a host are recorded and answered by scripted
`ExecRule`s; faults can be injected (hosts that cannot be created, switches that never
connect, commands that fail). A rule may also depend on whether a device is in the
controller's quarantine, as the backend last heard of it (`quarantined`, compared without
regard to letter case).

Hosts and switches are kept in name order, services in the order of their ids
(`<host>-<n>`, `n` counting every service ever started, compared as text). A link is
known by its two interface names, the lesser first.
-/

namespace MudTestbed

/-- A scripted answer to commands: it applies when every filter it has matches. -/
structure ExecRule where
  /-- The host the command runs in. -/
  host : Option String := none
  /-- The first word of the command. -/
  program : Option String := none
  /-- Text that the command, words joined by blanks, contains. -/
  contains : Option String := none
  /-- A device that must be in quarantine. -/
  whenQuarantined : Option String := none
  /-- A device that must not be in quarantine. -/
  unlessQuarantined : Option String := none
  output : CommandOutput := CommandOutput.ok ""
  deriving DecidableEq, Repr

def quarantineHolds (quarantined : List String) (mac : String) : Bool :=
  quarantined.any (Text.lower · == Text.lower mac)

/-- Whether a rule applies to a command run in a host while those devices are quarantined. -/
def ExecRule.applies (r : ExecRule) (quarantined : List String) (host : String)
    (argv : List String) : Bool :=
  r.host.all (· == host) && r.program.all (fun p => argv.head? == some p) &&
    r.contains.all (Text.contains (" ".intercalate argv)) &&
    r.whenQuarantined.all (quarantineHolds quarantined) &&
    r.unlessQuarantined.all (fun mac => !quarantineHolds quarantined mac)

/-- The state of the in-memory backend, see the module comment. -/
structure MemoryBackend where
  hosts : List String := []
  switches : List (String × Option Dpid) := []
  links : List (String × String) := []
  controllers : List (String × List ControllerEndpoint) := []
  /-- Running services by id: the host and the command. -/
  services : List (String × String × List String) := []
  /-- Every command run, with its host, oldest first. -/
  commands : List (String × List String) := []
  nextService : Nat := 0
  failingHosts : List String := []
  disconnected : List String := []
  failingCommands : List String := []
  rules : List ExecRule := []
  /-- Seconds every command waits before it runs. -/
  execDelay : Option Nat := none
  /-- The devices in the controller's quarantine. -/
  quarantined : List String := []
  deriving DecidableEq, Repr

def insertName (n : String) : List String → List String
  | [] => [n]
  | m :: rest => if n = m then m :: rest else if n < m then n :: m :: rest else m :: insertName n rest

def eraseKey {α : Type} (k : String) (m : List (String × α)) : List (String × α) :=
  m.filter (·.1 != k)

def Link.key (l : Link) : String × String :=
  if l.a.interface ≤ l.b.interface then (l.a.interface, l.b.interface)
  else (l.b.interface, l.a.interface)

namespace MemoryBackend

def hasNode (b : MemoryBackend) (n : String) : Bool :=
  b.hosts.contains n || b.switches.any (·.1 == n)

def createHost (b : MemoryBackend) (name : String) : Except Error MemoryBackend :=
  if b.failingHosts.contains name then throw (.backend s!"cannot create host {name}")
  else if b.hosts.contains name then throw (.duplicateNode name)
  else pure { b with hosts := insertName name b.hosts }

def createSwitch (b : MemoryBackend) (name : String) (dpid : Option Dpid) :
    Except Error MemoryBackend :=
  if b.switches.any (·.1 == name) then throw (.duplicateNode name)
  else pure { b with switches := insertSorted name dpid b.switches }

def createLink (b : MemoryBackend) (l : Link) : Except Error MemoryBackend :=
  if !b.hasNode l.a.node then throw (.unknownEndpoint l.a.node)
  else if !b.hasNode l.b.node then throw (.unknownEndpoint l.b.node)
  else if b.links.contains l.key then throw (.duplicateLink l.a.node l.b.node)
  else pure { b with links := b.links ++ [l.key] }

def startSwitch (b : MemoryBackend) (name : String) (eps : List ControllerEndpoint) :
    Except Error MemoryBackend :=
  if b.switches.any (·.1 == name) then pure { b with controllers := insertSorted name eps b.controllers }
  else throw (.unknownEndpoint name)

def switchConnected (b : MemoryBackend) (name : String) : Bool :=
  b.controllers.any (·.1 == name) && !b.disconnected.contains name

def stopSwitch (b : MemoryBackend) (name : String) : MemoryBackend :=
  { b with controllers := eraseKey name b.controllers }

def respond (b : MemoryBackend) (host : String) (argv : List String) : CommandOutput :=
  match b.rules.find? (·.applies b.quarantined host argv) with
  | some r => r.output
  | none => CommandOutput.ok ""

def answer (b : MemoryBackend) (host : String) (argv : List String) : CommandOutput :=
  if b.failingCommands.any (Text.contains (" ".intercalate argv)) then
    CommandOutput.failed 1 "injected failure"
  else b.respond host argv

def exec (b : MemoryBackend) (host : String) (argv : List String) :
    Except Error (CommandOutput × MemoryBackend) :=
  if !b.hosts.contains host then throw (.backend s!"no such host: {host}")
  else pure (b.answer host argv, { b with commands := b.commands ++ [(host, argv)] })

/-- Starts a service in a host, giving its id. -/
def spawn (b : MemoryBackend) (host : String) (argv : List String) :
    Except Error (String × MemoryBackend) :=
  if !b.hosts.contains host then throw (.backend s!"no such host: {host}")
  else
    let n := b.nextService + 1
    let id := s!"{host}-{n}"
    pure (id, { b with nextService := n, services := insertSorted id (host, argv) b.services })

def stopService (b : MemoryBackend) (id : String) : MemoryBackend :=
  { b with services := eraseKey id b.services }

def destroyLink (b : MemoryBackend) (l : Link) : MemoryBackend :=
  { b with links := b.links.filter (· != l.key) }

def destroySwitch (b : MemoryBackend) (name : String) : MemoryBackend :=
  { b with switches := eraseKey name b.switches, controllers := eraseKey name b.controllers }

def destroyHost (b : MemoryBackend) (name : String) : MemoryBackend :=
  { b with hosts := b.hosts.filter (· != name) }

def isEmpty (b : MemoryBackend) : Bool :=
  b.hosts.isEmpty && b.switches.isEmpty && b.links.isEmpty && b.controllers.isEmpty &&
    b.services.isEmpty

def commandsFor (b : MemoryBackend) (host : String) : List (List String) :=
  b.commands.filterMap fun (h, argv) => if h = host then some argv else none

theorem exec_records (b b' : MemoryBackend) (host : String) (argv : List String)
    (o : CommandOutput) (h : b.exec host argv = .ok (o, b')) :
    b'.commands = b.commands ++ [(host, argv)] := by
  unfold exec at h
  split at h
  · cases h
  · simp only [pure, Except.pure, Except.ok.injEq, Prod.mk.injEq] at h
    rw [← h.2]

end MemoryBackend

end MudTestbed
