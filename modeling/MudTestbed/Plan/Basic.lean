import MudTestbed.Topology.Graph
import MudTestbed.Address.Mac
import MudTestbed.Address.Cidr
import MudTestbed.Address.Endpoint

/-!
# Address plans

An `AddressPlan` says, per host, what differs from the defaults (its MAC, addresses, default
route, routing duties and services) and, per controller name, the endpoints a bound switch
connects to. `AddressPlan.resolve` combines it with a topology into a `ResolvedPlan`: the
full configuration of every host and the endpoint list of every switch.

Resolution, in order:

1. the topology must be valid;
2. every planned host must be a host of the topology, checked in name order;
3. hosts in topology order, host `i` counting from 0: its gateway interface is its first;
   the MAC is the planned one or `MacAddr.sequential i`, set on the gateway interface only;
   without planned addresses the gateway gets `10.0.0.0 + (i + 1)` with prefix 8; a planned
   address goes on its named interface (a name without `-` is qualified as `<host>-<name>`)
   or the gateway; the default route leaves by the qualified route interface or the
   gateway; a host needs a default route or routing duties; a router's WAN interface and
   route interfaces are qualified and must exist, and its local subnet is cut to its
   network. After each host, a MAC already given to an earlier host is refused;
4. switches in topology order: each bound controller, in binding order, must have
   endpoints; the lists are concatenated.
-/

namespace MudTestbed

/-- An address of a host, on a named interface or on its gateway interface. -/
structure InterfaceAddress where
  interface : Option String
  cidr : Ipv4Cidr
  deriving DecidableEq, Repr

/-- A static route of a router host. -/
structure StaticRoute where
  destination : Ipv4Cidr
  interface : String
  via : Option Ipv4Addr
  deriving DecidableEq, Repr

/-- A host's routing duties: forwarding and masquerading, and its static routes. -/
structure RouterPlan where
  localSubnet : Ipv4Cidr
  wanInterface : String
  routes : List StaticRoute
  deriving DecidableEq, Repr

/-- A long-running program a host starts once configured. -/
structure ServiceSpec where
  name : String
  command : List String
  deriving DecidableEq, Repr

/-- What a plan says about one host; everything is optional. -/
structure HostPlan where
  mac : Option MacAddr := none
  addresses : List InterfaceAddress := []
  defaultRoute : Option Ipv4Addr := none
  routeInterface : Option String := none
  router : Option RouterPlan := none
  services : List ServiceSpec := []
  deriving DecidableEq, Repr

def lookupSorted {α : Type} (k : String) (m : List (String × α)) : Option α := m.lookup k

/-- Inserts into an association list kept in key order, replacing an equal key. -/
def insertSorted {α : Type} (k : String) (v : α) : List (String × α) → List (String × α)
  | [] => [(k, v)]
  | (k', v') :: rest =>
    if k = k' then (k, v) :: rest
    else if k < k' then (k, v) :: (k', v') :: rest
    else (k', v') :: insertSorted k v rest

/-- Host plans by host name and controller endpoints by controller name, in name order. -/
structure AddressPlan where
  hosts : List (String × HostPlan) := []
  controllers : List (String × List ControllerEndpoint) := []
  deriving DecidableEq, Repr

/-- The configuration of one interface. -/
structure InterfaceConfig where
  name : String
  mac : Option MacAddr
  addresses : List Ipv4Cidr
  deriving DecidableEq, Repr

/-- A default route. -/
structure DefaultRoute where
  via : Ipv4Addr
  interface : String
  deriving DecidableEq, Repr

/-- Routing duties with every interface qualified and the subnet cut to its network. -/
structure RouterConfig where
  localSubnet : Ipv4Cidr
  wanInterface : String
  routes : List StaticRoute
  deriving DecidableEq, Repr

/-- The full configuration of a host. -/
structure HostConfig where
  name : String
  mac : MacAddr
  interfaces : List InterfaceConfig
  defaultRoute : Option DefaultRoute
  router : Option RouterConfig
  services : List ServiceSpec
  deriving DecidableEq, Repr

def HostConfig.primaryAddress (h : HostConfig) : Option Ipv4Addr :=
  ((h.interfaces.flatMap (·.addresses)).head?).map (·.addr)

/-- Every host's configuration in topology order, and each switch's endpoints by name. -/
structure ResolvedPlan where
  hosts : List HostConfig
  switches : List (String × List ControllerEndpoint)
  deriving DecidableEq, Repr

def ResolvedPlan.host? (r : ResolvedPlan) (name : String) : Option HostConfig :=
  r.hosts.find? (·.name == name)

namespace AddressPlan

def withHost (p : AddressPlan) (name : String) (h : HostPlan) : AddressPlan :=
  { p with hosts := insertSorted name h p.hosts }

def withEndpoint (p : AddressPlan) (name : String) (e : ControllerEndpoint) : AddressPlan :=
  let eps := (lookupSorted name p.controllers).getD []
  { p with controllers := insertSorted name (eps ++ [e]) p.controllers }

def qualify (host iface : String) : String :=
  if iface.toList.contains '-' then iface else s!"{host}-{iface}"

def unknownInterface (host iface : String) : Error :=
  .invalidConfig s!"host '{host}' has no interface '{iface}'"

def sequentialAddress (index : Nat) : Except Error Ipv4Cidr :=
  if index + 1 < 0x1000000 then
    Ipv4Cidr.new ⟨UInt32.ofNat (10 * 0x1000000 + index + 1)⟩ 8
  else .error (.invalidConfig "too many hosts for 10.0.0.0/8")

def addAddress (ifaces : List InterfaceConfig) (name : String) (c : Ipv4Cidr) :
    Option (List InterfaceConfig) :=
  if ifaces.any (·.name == name) then
    some (ifaces.map fun i => if i.name == name then { i with addresses := i.addresses ++ [c] } else i)
  else none

def requireInterface (host : Host) (iface : String) : Except Error Unit :=
  if host.interfaces.contains iface then .ok () else .error (unknownInterface host.name iface)

/-- The configuration of host `index`, see the module comment. -/
def resolveHost (index : Nat) (host : Host) (plan : HostPlan) : Except Error HostConfig := do
  let some gateway := host.gatewayInterface
    | throw (.invalidConfig s!"host '{host.name}' has no interfaces")
  let mac := plan.mac.getD (MacAddr.sequential index)
  let mut ifaces : List InterfaceConfig := host.interfaces.map fun n =>
    ⟨n, if n == gateway then some mac else none, []⟩
  if plan.addresses.isEmpty then
    let c ← sequentialAddress index
    ifaces := match ifaces with
      | i :: rest => { i with addresses := i.addresses ++ [c] } :: rest
      | [] => []
  for a in plan.addresses do
    let name := match a.interface with
      | some n => qualify host.name n
      | none => gateway
    match addAddress ifaces name a.cidr with
    | some next => ifaces := next
    | none => throw (unknownInterface host.name name)
  let defaultRoute ← match plan.defaultRoute with
    | some via => do
      let iface := match plan.routeInterface with
        | some n => qualify host.name n
        | none => gateway
      requireInterface host iface
      pure (some ⟨via, iface⟩)
    | none =>
      if plan.router.isNone then throw (.invalidConfig s!"host '{host.name}' needs a default route")
      else pure none
  let router ← match plan.router with
    | some r => do
      let wan := qualify host.name r.wanInterface
      requireInterface host wan
      let routes ← r.routes.mapM fun route => do
        let iface := qualify host.name route.interface
        requireInterface host iface
        pure { route with interface := iface }
      pure (some ⟨r.localSubnet.network, wan, routes⟩)
    | none => pure none
  pure ⟨host.name, mac, ifaces, defaultRoute, router, plan.services⟩

/-- The endpoints of a switch's controllers in binding order, each needing at least one. -/
def switchEndpoints (p : AddressPlan) (s : Switch) : Except Error (List ControllerEndpoint) :=
  s.controllers.foldlM (fun acc c =>
    match lookupSorted c p.controllers with
    | some (e :: es) => .ok (acc ++ e :: es)
    | _ => .error (.invalidConfig s!"controller '{c}' bound to switch '{s.name}' has no endpoint"))
    []

/-- Resolves the hosts from `index` on, refusing a MAC given to an earlier host. -/
def resolveHosts (p : AddressPlan) : Nat → List MacAddr → List Host → Except Error (List HostConfig)
  | _, _, [] => .ok []
  | index, seen, h :: rest => do
    let config ← resolveHost index h ((lookupSorted h.name p.hosts).getD {})
    if seen.contains config.mac then throw (.duplicateMac config.mac.toText)
    let others ← resolveHosts p (index + 1) (config.mac :: seen) rest
    pure (config :: others)

/-- Resolves the plan against a topology, see the module comment. -/
def resolve (p : AddressPlan) (t : Topology) : Except Error ResolvedPlan := do
  t.validate
  for (name, _) in p.hosts do
    if (t.host? name).isNone then throw (.unknownEndpoint name)
  let hosts ← resolveHosts p 0 [] t.hosts
  let switches ← t.switches.foldlM (fun acc s => do
    let eps ← p.switchEndpoints s
    pure (insertSorted s.name eps acc)) []
  pure ⟨hosts, switches⟩

end AddressPlan

end MudTestbed
