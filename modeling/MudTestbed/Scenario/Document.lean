import MudTestbed.Scenario.Basic
import MudTestbed.Topology.Document

/-!
# Scenarios as documents

The document forms of a scenario's parts: its address plan as given (before resolution),
its groups with their transitions and probes, and its timing.
-/

namespace MudTestbed

def RouterPlan.toJson (r : RouterPlan) : Json :=
  Json.obj [("local_subnet", .string r.localSubnet.toText), ("wan_interface", .string r.wanInterface),
    ("routes", .array (r.routes.map StaticRoute.toJson))]

/-- A host plan as a document. -/
def HostPlan.toJson (h : HostPlan) : Json :=
  Json.obj [("mac", Json.ofOption (fun m => .string m.toText) h.mac),
    ("addresses", .array (h.addresses.map fun a => Json.obj
      [("interface", Json.ofOption .string a.interface), ("cidr", .string a.cidr.toText)])),
    ("default_route", Json.ofOption (fun a => .string a.toText) h.defaultRoute),
    ("route_interface", Json.ofOption .string h.routeInterface),
    ("router", Json.ofOption RouterPlan.toJson h.router),
    ("services", .array (h.services.map ServiceSpec.toJson))]

def AddressPlan.toJson (p : AddressPlan) : Json :=
  Json.obj [("hosts", Json.obj (p.hosts.map fun (n, h) => (n, h.toJson))),
    ("controllers", Json.obj (p.controllers.map fun (n, eps) =>
      (n, Json.ofStrings (eps.map ControllerEndpoint.toText))))]

def Transition.toJson (t : Transition) : Json :=
  Json.obj [("action", .string t.action.name), ("mac", Json.ofOption (fun m => .string m.toText) t.mac),
    ("host", Json.ofOption .string t.host)]

def ProbeGroup.toJson (g : ProbeGroup) : Json :=
  Json.obj [("name", .string g.name), ("await_mud_report", .bool g.awaitMudReport),
    ("transitions", .array (g.transitions.map Transition.toJson)),
    ("probes", .array (g.probes.map ProbeSpec.toJson))]

/-- Timings as a document. -/
def ScenarioTiming.toJson (t : ScenarioTiming) : Json :=
  Json.obj [("settle_secs", Json.ofNat t.settleSecs),
    ("transition_settle_secs", Json.ofNat t.transitionSettleSecs),
    ("connect_timeout_secs", Json.ofNat t.connectTimeoutSecs),
    ("poll_interval_ms", Json.ofNat t.pollIntervalMs),
    ("report_timeout_secs", Json.ofNat t.reportTimeoutSecs)]

def ConfigDocument.toJson (d : ConfigDocument) : Json :=
  Json.obj [("resource", .string d.resource), ("body", d.body)]

end MudTestbed
