import MudTestbed.Topology.Graph
import MudTestbed.Json.Value

/-!
# Topologies as documents

The document forms of the topology's parts, as a snapshot of the graph: nodes with their
interfaces, links with both ends, and the controllers in binding order. A switch without a
pinned datapath id and a host without interfaces show `null` there.
-/

namespace MudTestbed

def LinkEnd.toJson (e : LinkEnd) : Json :=
  Json.obj [("node", .string e.node), ("kind", .string e.kind.name),
    ("interface", .string e.interface)]

def Link.toJson (l : Link) : Json := Json.obj [("a", l.a.toJson), ("b", l.b.toJson)]

def Host.interfacesJson (h : Host) : Json :=
  Json.obj [("interfaces", Json.ofStrings h.interfaces),
    ("gateway_interface", Json.ofOption .string h.gatewayInterface)]

def Host.toJson (h : Host) : Json :=
  Json.obj [("name", .string h.name), ("interfaces", Json.ofStrings h.interfaces),
    ("gateway_interface", Json.ofOption .string h.gatewayInterface)]

def Switch.detailJson (s : Switch) : Json :=
  Json.obj [("dpid", Json.ofOption (fun d => .string d.toText) s.dpid),
    ("controllers", Json.ofStrings s.controllers), ("ports", Json.ofStrings s.ports)]

def Switch.toJson (s : Switch) : Json :=
  Json.obj [("name", .string s.name), ("dpid", Json.ofOption (fun d => .string d.toText) s.dpid),
    ("controllers", Json.ofStrings s.controllers), ("ports", Json.ofStrings s.ports)]

def Attachment.toJson (a : Attachment) : Json :=
  Json.obj [("switch", .string a.switch), ("host_interface", .string a.hostInterface),
    ("switch_port", .string a.switchPort), ("link_index", Json.ofNat a.linkIndex)]

def Topology.toJson (t : Topology) : Json :=
  Json.obj [("hosts", .array (t.hosts.map Host.toJson)),
    ("switches", .array (t.switches.map Switch.toJson)),
    ("links", .array (t.links.map Link.toJson)),
    ("controller_names", Json.ofStrings t.controllerNames)]

end MudTestbed
