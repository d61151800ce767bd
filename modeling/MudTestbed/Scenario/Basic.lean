import MudTestbed.Scenario.File
import MudTestbed.Scenario.Files
import MudTestbed.Json.Read

/-!
# Scenarios

A `Scenario` is a scenario file made ready to run: its topology built, its address plan
assembled, and its policy documents read. `ScenarioFile.build` does this in the file's
order: hosts, then switches, then links, then each switch's controller bindings, then the
controllers' endpoints, then the documents (each read, parsed as JSON, and given its
resource: an explicit resource wins over a kind). Each step's error stops the build.

`Scenario.defaultControllerHost` gives every bound controller without endpoints the
OpenFlow port of a host; `Scenario.validate` checks that the plan resolves and that the
groups only name hosts of the topology.
-/

namespace MudTestbed

/-- A policy document and where it goes on the controller. -/
structure ConfigDocument where
  resource : String
  body : Json

/-- A scenario ready to run. -/
structure Scenario where
  name : String
  topology : Topology
  plan : AddressPlan
  documents : List ConfigDocument
  groups : List ProbeGroup
  timing : ScenarioTiming
  tools : ToolConfig

namespace DocumentEntry

def resourceName (d : DocumentEntry) : Except Error String :=
  match d.resource, d.kind with
  | some r, _ => .ok r
  | none, some k => .ok k.resource
  | none, none => .error (.invalidConfig s!"document {d.path} needs a kind or a resource")

/-- Reads a document below a base directory with `read`. -/
def load {m : Type → Type} [Monad m] (read : String → m (Except String String)) (base : String)
    (d : DocumentEntry) : ExceptT Error m ConfigDocument := do
  let path := joinPath base d.path
  let text ← ExceptT.mk ((fun r => r.mapError fun e => Error.invalidConfig s!"{path}: {e}") <$> read path)
  let body ← liftExcept ((Json.parse text).mapError fun e => Error.invalidConfig s!"{path}: {e.message}")
  pure ⟨← liftExcept d.resourceName, body⟩

end DocumentEntry

namespace ScenarioFile

/-- The topology and address plan of the file, see the module comment. -/
def assemble (f : ScenarioFile) : Except Error (Topology × AddressPlan) := do
  let mut t : Topology := {}
  let mut plan : AddressPlan := {}
  for h in f.hosts do
    t ← t.addHost h.name
    plan := plan.withHost h.name h.plan
  for s in f.switches do
    t ← t.addSwitch s.name s.dpid
  for (a, b) in f.links do
    t := (← t.link a b).2
  for s in f.switches do
    for c in s.controllers do
      t ← t.bindController s.name c
  for c in f.controllers do
    plan := { plan with controllers := insertSorted c.name c.endpoints plan.controllers }
  pure (t, plan)

def build {m : Type → Type} [Monad m] (read : String → m (Except String String))
    (f : ScenarioFile) (base : String) : ExceptT Error m Scenario := do
  let (t, plan) ← liftExcept f.assemble
  let documents ← f.documents.mapM (DocumentEntry.load read base)
  pure ⟨f.name, t, plan, documents, f.groups, f.timing, f.tools⟩

def buildFrom (f : ScenarioFile) (store : FileStore) (base : String) : Except Error Scenario :=
  (f.build (m := Id) (fun p => pure (store.read p)) base).run

end ScenarioFile

namespace Scenario

/-- Gives every bound controller without endpoints the endpoint `host:6653`. -/
def defaultControllerHost (s : Scenario) (host : IpAddr) : Scenario :=
  let plan := s.topology.controllerNames.foldl (fun (p : AddressPlan) name =>
    match lookupSorted name p.controllers with
    | some (_ :: _) => p
    | _ => { p with controllers := insertSorted name [ControllerEndpoint.ofIp host] p.controllers })
    s.plan
  { s with plan }

/-- Checks that the plan resolves and that probes and transitions name known hosts. -/
def validate (s : Scenario) : Except Error Unit := do
  let _ ← s.plan.resolve s.topology
  for g in s.groups do
    for p in g.probes do
      if (s.topology.host? p.source).isNone then
        throw (.invalidConfig s!"group '{g.name}': probe source '{p.source}' is not a host")
    for tr in g.transitions do
      if let some h := tr.host then
        if (s.topology.host? h).isNone then
          throw (.invalidConfig s!"group '{g.name}': transition host '{h}' is not a host")
      if tr.host.isNone && tr.mac.isNone then
        throw (.invalidConfig s!"group '{g.name}': transition needs a mac or a host")

end Scenario

end MudTestbed
