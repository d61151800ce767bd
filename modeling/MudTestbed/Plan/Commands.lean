import MudTestbed.Plan.Basic

/-!
# Host configuration commands

`hostCommands` turns a host's configuration into the commands that apply it inside the host:

* per interface: with a MAC, take the link down and set the address; flush its addresses,
  add each planned one, and bring the link up;
* for a router: enable forwarding, flush the `filter`, `nat` and `mangle` tables, delete
  user chains, masquerade the local subnet out of the WAN interface, and replace each
  static route;
* with a default route: delete the old one (allowed to fail) and add the new one.

Only deleting the old default route may fail without failing the configuration.
-/

namespace MudTestbed

/-- A command run inside a host; a best-effort command may fail harmlessly. -/
structure HostCommand where
  argv : List String
  bestEffort : Bool := false
  deriving DecidableEq, Repr

namespace HostCommand

def required (argv : List String) : HostCommand := ⟨argv, false⟩

/-- The commands that configure one interface. -/
def forInterface (i : InterfaceConfig) : List HostCommand :=
  let n := i.name
  (match i.mac with
    | some m => [required ["ip", "link", "set", "dev", n, "down"],
        required ["ip", "link", "set", "dev", n, "address", m.toText]]
    | none => []) ++
  [required ["ip", "addr", "flush", "dev", n]] ++
  i.addresses.map (fun c => required ["ip", "addr", "add", c.toText, "dev", n]) ++
  [required ["ip", "link", "set", "dev", n, "up"]]

/-- The commands that make a host a router. -/
def forRouter (r : RouterConfig) : List HostCommand :=
  [required ["sysctl", "-w", "net.ipv4.ip_forward=1"]] ++
  (["filter", "nat", "mangle"].map fun table => required ["iptables", "-t", table, "-F"]) ++
  [required ["iptables", "-X"],
    required ["iptables", "-t", "nat", "-A", "POSTROUTING", "-o", r.wanInterface, "-s",
      r.localSubnet.toText, "-j", "MASQUERADE"]] ++
  r.routes.map fun route =>
    required (["ip", "route", "replace", route.destination.toText] ++
      (match route.via with
        | some v => ["via", v.toText]
        | none => []) ++ ["dev", route.interface])

def forDefaultRoute (d : DefaultRoute) : List HostCommand :=
  [⟨["ip", "route", "del", "default"], true⟩,
    required ["ip", "route", "add", "default", "via", d.via.toText, "dev", d.interface]]

end HostCommand

def hostCommands (h : HostConfig) : List HostCommand :=
  h.interfaces.flatMap HostCommand.forInterface ++
  (h.router.map HostCommand.forRouter).getD [] ++
  (h.defaultRoute.map HostCommand.forDefaultRoute).getD []

end MudTestbed
