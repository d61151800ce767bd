import MudTestbed.Plan.Document
import MudTestbed.Probe.Document
import MudTestbed.Controller.Config

/-!
# Scenario files

A scenario file describes a test run: the hosts (each with its address plan), the switches
(with optional datapath ids and their controllers), the links, the controllers' endpoints,
the policy documents to upload, and groups of probes, each group maybe preceded by
quarantine transitions. It also tunes the run's timing and the probe clients.

Every record refuses unknown members except a host entry, whose members beside `name` are
its plan's, read as a flattened record: members that are no plan member are ignored, and
an error in the plan points at the host entry as a whole.
-/

namespace MudTestbed

/-- How long a run waits at each stage. -/
structure ScenarioTiming where
  settleSecs : Nat := 10
  transitionSettleSecs : Nat := 10
  connectTimeoutSecs : Nat := 30
  pollIntervalMs : Nat := 1000
  reportTimeoutSecs : Nat := 120
  deriving DecidableEq, Repr

/-- Whether a transition quarantines a device or releases it. -/
inductive TransitionAction where
  | quarantine
  | unquarantine
  deriving DecidableEq, Repr

def TransitionAction.name : TransitionAction → String
  | .quarantine => "quarantine"
  | .unquarantine => "unquarantine"

/-- A change of a device's quarantine state, naming the device by MAC or by host. -/
structure Transition where
  action : TransitionAction
  mac : Option MacAddr
  host : Option String
  deriving DecidableEq, Repr

/-- Probes run together after some transitions. -/
structure ProbeGroup where
  name : String
  transitions : List Transition
  awaitMudReport : Bool
  probes : List ProbeSpec
  deriving DecidableEq, Repr

/-- A host of the file and its plan. -/
structure HostEntry where
  name : String
  plan : HostPlan
  deriving DecidableEq, Repr

/-- A switch of the file. -/
structure SwitchEntry where
  name : String
  dpid : Option Dpid
  controllers : List String
  deriving DecidableEq, Repr

/-- A controller of the file and its endpoints, if given. -/
structure ControllerEntry where
  name : String
  endpoints : List ControllerEndpoint
  deriving DecidableEq, Repr

/-- A policy document to upload: its file, and its resource given directly or by kind. -/
structure DocumentEntry where
  kind : Option DocumentKind
  resource : Option String
  path : String
  deriving DecidableEq, Repr

/-- A scenario file as written. -/
structure ScenarioFile where
  name : String
  description : Option String
  links : List (String × String)
  timing : ScenarioTiming
  tools : ToolConfig
  hosts : List HostEntry
  switches : List SwitchEntry
  controllers : List ControllerEntry
  documents : List DocumentEntry
  groups : List ProbeGroup
  deriving DecidableEq, Repr

/-- Reads a record: its members, refused when unknown, then its values. -/
def Decode.record {α : Type} (what : String) (fields : List (String × Decode.Check))
    (build : Place → List (String × Json) → Except DecodeError α) : Decoder α :=
  fun place j => Decode.within place do
    let ms ← Decode.members place what j
    Decode.visit place fields true ms
    build place ms

namespace ScenarioTiming

/-- Reads timings; each member optional. -/
def decode : Decoder ScenarioTiming :=
  let u64 := Decode.unsigned 64 "u64"
  let names := ["settle_secs", "transition_settle_secs", "connect_timeout_secs",
    "poll_interval_ms", "report_timeout_secs"]
  Decode.record "struct ScenarioTiming" (names.map fun n => (n, Decode.check u64)) fun place ms => do
    let d : ScenarioTiming := {}
    pure ⟨← Decode.optional place ms "settle_secs" u64 d.settleSecs,
      ← Decode.optional place ms "transition_settle_secs" u64 d.transitionSettleSecs,
      ← Decode.optional place ms "connect_timeout_secs" u64 d.connectTimeoutSecs,
      ← Decode.optional place ms "poll_interval_ms" u64 d.pollIntervalMs,
      ← Decode.optional place ms "report_timeout_secs" u64 d.reportTimeoutSecs⟩

end ScenarioTiming

def TransitionAction.decode : Decoder TransitionAction := fun place j => do
  let name ← Decode.unitVariant ["quarantine", "unquarantine"] place j
  pure (if name == "quarantine" then .quarantine else .unquarantine)

/-- Reads a transition. -/
def Transition.decode : Decoder Transition :=
  let mac := Decode.option MacAddr.decode
  let host := Decode.option Decode.string
  Decode.record "struct Transition" [("action", Decode.check TransitionAction.decode),
      ("mac", Decode.check mac), ("host", Decode.check host)] fun place ms => do
    pure ⟨← Decode.required place ms "action" TransitionAction.decode,
      ← Decode.optional place ms "mac" mac none, ← Decode.optional place ms "host" host none⟩

/-- Reads a probe group. -/
def ProbeGroup.decode : Decoder ProbeGroup :=
  let transitions := Decode.items Transition.decode
  let probes := Decode.items ProbeSpec.decode
  Decode.record "struct ProbeGroup" [("name", Decode.check Decode.string),
      ("transitions", Decode.check transitions), ("await_mud_report", Decode.check Decode.bool),
      ("probes", Decode.check probes)] fun place ms => do
    pure ⟨← Decode.required place ms "name" Decode.string,
      ← Decode.optional place ms "transitions" transitions [],
      ← Decode.optional place ms "await_mud_report" Decode.bool false,
      ← Decode.required place ms "probes" probes⟩

/-- Reads a host entry: `name`, and the plan's members flattened beside it. -/
def HostEntry.decode : Decoder HostEntry := fun place j => Decode.within place do
  let ms ← Decode.members place "struct HostEntry" j
  let own := ms.filter fun (k, _) => k == "name"
  let rest := ms.filter fun (k, _) => k != "name"
  Decode.visit place [("name", Decode.check Decode.string)] false own
  let name ← Decode.required place own "name" Decode.string
  let known := rest.filter fun (k, _) => HostPlan.fields.any (·.1 == k)
  let plan ← HostPlan.decodeMembers place.buffered false known
  pure ⟨name, plan⟩

/-- Reads a switch entry. -/
def SwitchEntry.decode : Decoder SwitchEntry :=
  let dpid := Decode.option Dpid.decode
  let names := Decode.items Decode.string
  Decode.record "struct SwitchEntry" [("name", Decode.check Decode.string),
      ("dpid", Decode.check dpid), ("controllers", Decode.check names)] fun place ms => do
    pure ⟨← Decode.required place ms "name" Decode.string,
      ← Decode.optional place ms "dpid" dpid none,
      ← Decode.optional place ms "controllers" names []⟩

/-- Reads a controller entry. -/
def ControllerEntry.decode : Decoder ControllerEntry :=
  let endpoints := Decode.items ControllerEndpoint.decode
  Decode.record "struct ControllerEntry" [("name", Decode.check Decode.string),
      ("endpoints", Decode.check endpoints)] fun place ms => do
    pure ⟨← Decode.required place ms "name" Decode.string,
      ← Decode.optional place ms "endpoints" endpoints []⟩

def Decode.path : Decoder String := fun place j => Decode.within place <|
  match j with
  | .string s => .ok s
  | j => Decode.fail (Decode.invalidType place j "path string")

/-- Reads a document entry. -/
def DocumentEntry.decode : Decoder DocumentEntry :=
  let kind := Decode.option DocumentKind.decode
  let resource := Decode.option Decode.string
  Decode.record "struct DocumentEntry" [("kind", Decode.check kind),
      ("resource", Decode.check resource), ("path", Decode.check Decode.path)] fun place ms => do
    pure ⟨← Decode.optional place ms "kind" kind none,
      ← Decode.optional place ms "resource" resource none,
      ← Decode.required place ms "path" Decode.path⟩

/-- Reads a link: an array whose first two items are the node names. -/
def Decode.link : Decoder (String × String) := fun place j => Decode.within place <|
  let expected := "an array of length 2"
  match j with
  | .array xs => do
    let some a := xs[0]? | Decode.fail s!"invalid length 0, expected {expected}"
    let a ← Decode.string (Decode.child place (.index 0)) a
    let some b := xs[1]? | Decode.fail s!"invalid length 1, expected {expected}"
    let b ← Decode.string (Decode.child place (.index 1)) b
    pure (a, b)
  | j => Decode.fail (Decode.invalidType place j expected)

namespace ScenarioFile

def fieldNames : List String :=
  ["name", "description", "links", "timing", "tools", "hosts", "switches", "controllers",
    "documents", "groups"]

/-- Reads a scenario file. -/
def decode : Decoder ScenarioFile :=
  let description := Decode.option Decode.string
  let links := Decode.items Decode.link
  let hosts := Decode.items HostEntry.decode
  let switches := Decode.items SwitchEntry.decode
  let controllers := Decode.items ControllerEntry.decode
  let documents := Decode.items DocumentEntry.decode
  let groups := Decode.items ProbeGroup.decode
  Decode.record "struct ScenarioFile" [("name", Decode.check Decode.string),
      ("description", Decode.check description), ("links", Decode.check links),
      ("timing", Decode.check ScenarioTiming.decode), ("tools", Decode.check ToolConfig.decode),
      ("hosts", Decode.check hosts), ("switches", Decode.check switches),
      ("controllers", Decode.check controllers), ("documents", Decode.check documents),
      ("groups", Decode.check groups)] fun place ms => do
    pure ⟨← Decode.required place ms "name" Decode.string,
      ← Decode.optional place ms "description" description none,
      ← Decode.optional place ms "links" links [],
      ← Decode.optional place ms "timing" ScenarioTiming.decode {},
      ← Decode.optional place ms "tools" ToolConfig.decode {},
      ← Decode.optional place ms "hosts" hosts [],
      ← Decode.optional place ms "switches" switches [],
      ← Decode.optional place ms "controllers" controllers [],
      ← Decode.optional place ms "documents" documents [],
      ← Decode.optional place ms "groups" groups []⟩

end ScenarioFile

end MudTestbed
