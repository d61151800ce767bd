import MudTestbed.Plan.Commands
import MudTestbed.Json.Decode

/-!
# Address plans as documents

Reading an address plan and its parts, and writing resolved configurations.

* An address is either a CIDR text, put on the gateway interface, or a record with an
  optional `interface` and a `cidr` (an array of those two also reads as that record). A
  text that is no CIDR reports the CIDR error; any other shape that fails reports that no
  form matched.
* A host plan's members are all optional and unknown ones are refused; so are those of a
  router plan, a static route and a service, whose required members must be present.
* A plan has optional `hosts` and `controllers` maps; other members are ignored.

IPv4 addresses are texts in dotted quad form; a text that is not fails with
`invalid IPv4 address syntax`.
-/

namespace MudTestbed

/-- Reads an IPv4 address. -/
def Ipv4Addr.decode : Decoder Ipv4Addr := fun place j => Decode.within place <|
  match j with
  | .string s => match Ipv4Addr.parse? s with
    | some a => .ok a
    | none => Decode.fail "invalid IPv4 address syntax"
  | j => Decode.fail (Decode.invalidType place j "IPv4 address")

namespace InterfaceAddress

def mismatch : String := "data did not match any variant of untagged enum AddressRepr"

/-- Reads the record form of an address. -/
def decodeRecord : Decoder InterfaceAddress := fun place j => Decode.within place <|
  let iface := Decode.option Decode.string
  match j with
  | .object ms => do
    Decode.visit place [("interface", Decode.check iface), ("cidr", Decode.check Ipv4Cidr.decode)]
      false ms
    pure ⟨← Decode.optional place ms "interface" iface none,
      ← Decode.required place ms "cidr" Ipv4Cidr.decode⟩
  | .array [i, c] => do
    pure ⟨← iface (Decode.child place (.index 0)) i, ← Ipv4Cidr.decode (Decode.child place (.index 1)) c⟩
  | _ => Decode.fail mismatch

/-- Reads an address, see the module comment. -/
def decode : Decoder InterfaceAddress := fun place j => Decode.within place <|
  match j with
  | .string s => match Ipv4Cidr.parse s with
    | .ok c => .ok ⟨none, c⟩
    | .error e => Decode.fail e.message
  | j => match decodeRecord place j with
    | .ok a => .ok a
    | .error _ => Decode.fail mismatch

end InterfaceAddress

/-- Reads a static route. -/
def StaticRoute.decode : Decoder StaticRoute := fun place j => Decode.within place do
  let ms ← Decode.members place "struct StaticRoute" j
  let via := Decode.option Ipv4Addr.decode
  Decode.visit place [("destination", Decode.check Ipv4Cidr.decode),
    ("interface", Decode.check Decode.string), ("via", Decode.check via)] true ms
  pure ⟨← Decode.required place ms "destination" Ipv4Cidr.decode,
    ← Decode.required place ms "interface" Decode.string,
    ← Decode.optional place ms "via" via none⟩

/-- Reads routing duties. -/
def RouterPlan.decode : Decoder RouterPlan := fun place j => Decode.within place do
  let ms ← Decode.members place "struct RouterPlan" j
  let routes := Decode.items StaticRoute.decode
  Decode.visit place [("local_subnet", Decode.check Ipv4Cidr.decode),
    ("wan_interface", Decode.check Decode.string), ("routes", Decode.check routes)] true ms
  pure ⟨← Decode.required place ms "local_subnet" Ipv4Cidr.decode,
    ← Decode.required place ms "wan_interface" Decode.string,
    ← Decode.optional place ms "routes" routes []⟩

def ServiceSpec.decode : Decoder ServiceSpec := fun place j => Decode.within place do
  let ms ← Decode.members place "struct ServiceSpec" j
  let argv := Decode.items Decode.string
  Decode.visit place [("name", Decode.check Decode.string), ("command", Decode.check argv)] true ms
  pure ⟨← Decode.required place ms "name" Decode.string, ← Decode.required place ms "command" argv⟩

namespace HostPlan

/-- The members of a host plan, in declaration order. -/
def fields : List (String × Decode.Check) :=
  [("mac", Decode.check (Decode.option MacAddr.decode)),
    ("addresses", Decode.check (Decode.items InterfaceAddress.decode)),
    ("default_route", Decode.check (Decode.option Ipv4Addr.decode)),
    ("route_interface", Decode.check (Decode.option Decode.string)),
    ("router", Decode.check (Decode.option RouterPlan.decode)),
    ("services", Decode.check (Decode.items ServiceSpec.decode))]

/-- Reads a host plan from members; with `deny`, an unknown member is refused. -/
def decodeMembers (place : Place) (deny : Bool) (ms : List (String × Json)) :
    Except DecodeError HostPlan := Decode.within place do
  Decode.visit place fields deny ms
  pure ⟨← Decode.optional place ms "mac" (Decode.option MacAddr.decode) none,
    ← Decode.optional place ms "addresses" (Decode.items InterfaceAddress.decode) [],
    ← Decode.optional place ms "default_route" (Decode.option Ipv4Addr.decode) none,
    ← Decode.optional place ms "route_interface" (Decode.option Decode.string) none,
    ← Decode.optional place ms "router" (Decode.option RouterPlan.decode) none,
    ← Decode.optional place ms "services" (Decode.items ServiceSpec.decode) []⟩

def decode : Decoder HostPlan := fun place j => Decode.within place do
  decodeMembers place true (← Decode.members place "struct HostPlan" j)

end HostPlan

/-- Reads an address plan. -/
def AddressPlan.decode : Decoder AddressPlan := fun place j => Decode.within place do
  let ms ← Decode.members place "struct AddressPlan" j
  let hosts := Decode.map HostPlan.decode
  let controllers := Decode.map (Decode.items ControllerEndpoint.decode)
  Decode.visit place [("hosts", Decode.check hosts), ("controllers", Decode.check controllers)]
    false ms
  let hs ← Decode.optional place ms "hosts" hosts []
  let cs ← Decode.optional place ms "controllers" controllers []
  pure ⟨hs.foldl (fun acc (k, v) => insertSorted k v acc) [],
    cs.foldl (fun acc (k, v) => insertSorted k v acc) []⟩

def StaticRoute.toJson (r : StaticRoute) : Json :=
  Json.obj [("destination", .string r.destination.toText), ("interface", .string r.interface),
    ("via", Json.ofOption (fun v => .string v.toText) r.via)]

def ServiceSpec.toJson (s : ServiceSpec) : Json :=
  Json.obj [("name", .string s.name), ("command", Json.ofStrings s.command)]

def HostCommand.toJson (c : HostCommand) : Json :=
  Json.obj [("argv", Json.ofStrings c.argv), ("best_effort", .bool c.bestEffort)]

def InterfaceConfig.toJson (i : InterfaceConfig) : Json :=
  Json.obj [("name", .string i.name), ("mac", Json.ofOption (fun m => .string m.toText) i.mac),
    ("addresses", Json.ofStrings (i.addresses.map Ipv4Cidr.toText))]

/-- A host configuration as a document, with its primary address and its commands. -/
def HostConfig.toJson (h : HostConfig) : Json :=
  Json.obj [("name", .string h.name), ("mac", .string h.mac.toText),
    ("interfaces", .array (h.interfaces.map InterfaceConfig.toJson)),
    ("default_route", Json.ofOption (fun (d : DefaultRoute) => Json.obj
      [("via", .string d.via.toText), ("interface", .string d.interface)]) h.defaultRoute),
    ("router", Json.ofOption (fun (r : RouterConfig) => Json.obj
      [("local_subnet", .string r.localSubnet.toText), ("wan_interface", .string r.wanInterface),
        ("routes", .array (r.routes.map StaticRoute.toJson))]) h.router),
    ("services", .array (h.services.map ServiceSpec.toJson)),
    ("primary_address", Json.ofOption (fun a => .string a.toText) h.primaryAddress),
    ("commands", .array ((hostCommands h).map HostCommand.toJson))]

def ResolvedPlan.toJson (r : ResolvedPlan) : Json :=
  Json.obj [("hosts", .array (r.hosts.map HostConfig.toJson)),
    ("switches", Json.obj (r.switches.map fun (s, eps) =>
      (s, Json.ofStrings (eps.map ControllerEndpoint.toText))))]

end MudTestbed
