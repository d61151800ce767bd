import MudTestbed.Provision.Session
import MudTestbed.Json.Value

/-!
# The in-memory backend as a document

The state of the backend is written with its hosts, its switches with their datapath ids,
the number of links, the controller targets of each started switch, the running services
as host and command, the commands run in each host (words joined by blanks) and whether
nothing is left alive.
-/

namespace MudTestbed

def CommandOutput.toJson (o : CommandOutput) : Json :=
  Json.obj [("status", Json.ofOption (fun n => Json.ofInt n) o.status),
    ("stdout", .string o.stdout), ("stderr", .string o.stderr)]

/-- The state of the backend, with the command record of each of the given hosts. -/
def MemoryBackend.toJson (b : MemoryBackend) (hosts : List String) : Json :=
  Json.obj [("hosts", Json.ofStrings b.hosts),
    ("switches", .array (b.switches.map fun (n, d) =>
      Json.obj [("name", .string n), ("dpid", Json.ofOption (fun d => .string d.toText) d)])),
    ("link_count", Json.ofNat b.links.length),
    ("controllers", Json.obj (b.controllers.map fun (n, eps) =>
      (n, Json.ofStrings (eps.map ControllerEndpoint.ovsTarget)))),
    ("services", .array (b.services.map fun (_, h, argv) => .array [.string h, Json.ofStrings argv])),
    ("commands", Json.obj (hosts.map fun h =>
      (h, Json.ofStrings ((b.commandsFor h).map (" ".intercalate ·))))),
    ("empty", .bool b.isEmpty)]

def teardownJson (s : Session) : Json :=
  let errors := s.teardownErrors
  Json.obj [("clean", .bool errors.isEmpty), ("errors", Json.ofStrings errors),
    ("torn_down", .bool s.teardown.network.tornDown)]

end MudTestbed
