import MudTestbed.Error
import MudTestbed.Address.Dpid

/-!
# The emulated network's topology

A `Topology` is the hosts, the switches and the links between them, each list in the order
things were added. Node names are unique across hosts and switches.

Linking two nodes gives each a new interface, named after the node: a host's interfaces
count from `eth0`, a switch's ports from `eth1`, both in link order. A link joins two
distinct known nodes, at least one a switch, and no two links join the same pair in either
order.

Each operation changes the topology in place (`TopologyStep`): it makes its checks, in the
order their errors are listed in its comment, and only then changes anything, so a failed
operation leaves the topology as it was. `Topology.change` runs one on a topology.
-/

namespace MudTestbed

/-- Whether a node is a host or a switch. -/
inductive NodeKind where
  | host
  | switch
  deriving DecidableEq, Repr

def NodeKind.name : NodeKind → String
  | .host => "host"
  | .switch => "switch"

/-- An emulated end host and its interfaces, in link order. -/
structure Host where
  name : String
  interfaces : List String := []
  deriving DecidableEq, Repr

def Host.gatewayInterface (h : Host) : Option String := h.interfaces.head?

/-- An emulated switch: its pinned datapath id if any, its controllers and its ports. -/
structure Switch where
  name : String
  dpid : Option Dpid := none
  controllers : List String := []
  ports : List String := []
  deriving DecidableEq, Repr

/-- One end of a link. -/
structure LinkEnd where
  node : String
  kind : NodeKind
  interface : String
  deriving DecidableEq, Repr

/-- A link between two nodes. -/
structure Link where
  a : LinkEnd
  b : LinkEnd
  deriving DecidableEq, Repr

namespace Link

def joins (l : Link) (x y : String) : Bool :=
  (l.a.node == x && l.b.node == y) || (l.a.node == y && l.b.node == x)

def endFor (l : Link) (node : String) : Option LinkEnd :=
  if l.a.node == node then some l.a else if l.b.node == node then some l.b else none

def peerOf (l : Link) (node : String) : Option LinkEnd :=
  if l.a.node == node then some l.b else if l.b.node == node then some l.a else none

end Link

def interfaceName (node : String) (i : Nat) : String := s!"{node}-eth{i}"

def Host.addEnd (h : Host) (e : LinkEnd) : Host :=
  if e.kind == .host && h.name == e.node then
    { h with interfaces := h.interfaces ++ [e.interface] }
  else h

def Switch.addEnd (s : Switch) (e : LinkEnd) : Switch :=
  if e.kind == .switch && s.name == e.node then { s with ports := s.ports ++ [e.interface] } else s

/-- How a host reaches a switch: the link, its index, and the interfaces at both ends. -/
structure Attachment where
  linkIndex : Nat
  switch : String
  hostInterface : String
  switchPort : String
  deriving DecidableEq, Repr

/-- Hosts, switches and links, each in the order they were added. -/
structure Topology where
  hosts : List Host := []
  switches : List Switch := []
  links : List Link := []
  deriving DecidableEq, Repr

namespace Topology

def kindOf (t : Topology) (name : String) : Option NodeKind :=
  if t.hosts.any (·.name == name) then some .host
  else if t.switches.any (·.name == name) then some .switch
  else none

def host? (t : Topology) (name : String) : Option Host := t.hosts.find? (·.name == name)

def switch? (t : Topology) (name : String) : Option Switch := t.switches.find? (·.name == name)

def nextInterface (t : Topology) (node : String) : NodeKind → Option String
  | .host => (t.host? node).map fun h => interfaceName node h.interfaces.length
  | .switch => (t.switch? node).map fun s => interfaceName node (s.ports.length + 1)

def addEnd (t : Topology) (e : LinkEnd) : Topology :=
  { t with hosts := t.hosts.map (·.addEnd e), switches := t.switches.map (·.addEnd e) }

def withHost (t : Topology) (name : String) : Topology := { t with hosts := t.hosts ++ [{ name }] }

def withSwitch (t : Topology) (name : String) (dpid : Option Dpid) : Topology :=
  { t with switches := t.switches ++ [{ name, dpid }] }

def withBinding (t : Topology) (switch controller : String) : Topology :=
  { t with switches := t.switches.map fun s =>
    if s.name == switch && !s.controllers.contains controller then
      { s with controllers := s.controllers ++ [controller] }
    else s }

def withLink (t : Topology) (l : Link) : Topology := { t with links := t.links ++ [l] }

def checkNewName (t : Topology) (name : String) : Except Error Unit :=
  if name.isEmpty then .error (.invalidConfig "node name cannot be empty")
  else if (t.kindOf name).isSome then .error (.duplicateNode name)
  else .ok ()

def checkDpid (t : Topology) : Option Dpid → Except Error Unit
  | some d =>
    if t.switches.any (·.dpid == some d) then .error (.duplicateDatapathId d.toText) else .ok ()
  | none => .ok ()

def checkSwitch (t : Topology) (name : String) : Except Error Unit :=
  if t.switches.any (·.name == name) then .ok () else .error (.unknownEndpoint name)

/-- The kinds of two nodes that may be linked, or why they may not. -/
def checkLink (t : Topology) (a b : String) : Except Error (NodeKind × NodeKind) :=
  match t.kindOf a, t.kindOf b with
  | none, _ => .error (.unknownEndpoint a)
  | some _, none => .error (.unknownEndpoint b)
  | some kindA, some kindB =>
    if a = b then .error (.invalidLink s!"'{a}' cannot link to itself")
    else if kindA = .host ∧ kindB = .host then
      .error (.invalidLink s!"'{a}' and '{b}' are both hosts; hosts attach to switches")
    else if t.links.any (·.joins a b) then .error (.duplicateLink a b)
    else .ok (kindA, kindB)

end Topology

abbrev TopologyStep (α : Type) := ExceptT Error (StateM Topology) α

namespace Topology

def addHostIn (name : String) : TopologyStep Unit := do
  let t ← get
  ExceptT.mk (pure (t.checkNewName name))
  set (t.withHost name)

def addSwitchIn (name : String) (dpid : Option Dpid) : TopologyStep Unit := do
  let t ← get
  ExceptT.mk (pure (t.checkNewName name))
  ExceptT.mk (pure (t.checkDpid dpid))
  set (t.withSwitch name dpid)

def bindControllerIn (switch controller : String) : TopologyStep Unit := do
  let t ← get
  ExceptT.mk (pure (t.checkSwitch switch))
  set (t.withBinding switch controller)

/-- Gives a node of a kind its next interface and returns the new link end. -/
def allocateIn (node : String) (kind : NodeKind) : TopologyStep LinkEnd := do
  let t ← get
  match t.nextInterface node kind with
  | none => throw (.unknownEndpoint node)
  | some iface =>
    let e : LinkEnd := ⟨node, kind, iface⟩
    set (t.addEnd e)
    pure e

/-- Links two nodes: the checks of `checkLink`, then an interface for each end, `a`'s first. -/
def linkIn (a b : String) : TopologyStep Link := do
  let t ← get
  let (kindA, kindB) ← ExceptT.mk (pure (t.checkLink a b))
  let endA ← allocateIn a kindA
  let endB ← allocateIn b kindB
  let l : Link := ⟨endA, endB⟩
  modify (·.withLink l)
  pure l

def change {α : Type} (t : Topology) (x : TopologyStep α) : Except Error (α × Topology) :=
  match x.run.run t with
  | (.ok a, t') => .ok (a, t')
  | (.error e, _) => .error e

def addHost (t : Topology) (name : String) : Except Error Topology :=
  Except.map Prod.snd (t.change (addHostIn name))

def addSwitch (t : Topology) (name : String) (dpid : Option Dpid) : Except Error Topology :=
  Except.map Prod.snd (t.change (addSwitchIn name dpid))

def bindController (t : Topology) (switch controller : String) : Except Error Topology :=
  Except.map Prod.snd (t.change (bindControllerIn switch controller))

def link (t : Topology) (a b : String) : Except Error (Link × Topology) :=
  t.change (linkIn a b)

/-- The switches a host is linked to, one per link with a host end there, in link order. -/
def attachedSwitches (t : Topology) (host : String) : List Attachment :=
  t.links.zipIdx.filterMap fun (l, i) => do
    let mine ← l.endFor host
    if mine.kind != .host then none
    let peer ← l.peerOf host
    pure ⟨i, peer.node, mine.interface, peer.interface⟩

def addDistinct (names : List String) (n : String) : List String :=
  if names.contains n then names else names ++ [n]

def controllerNames (t : Topology) : List String :=
  t.switches.foldl (fun acc s => s.controllers.foldl addDistinct acc) []

def validate (t : Topology) : Except Error Unit := do
  if let some s := t.switches.find? (·.controllers.isEmpty) then
    throw (.invalidConfig s!"switch '{s.name}' has no controller binding")
  if let some h := t.hosts.find? (·.interfaces.isEmpty) then
    throw (.invalidConfig s!"host '{h.name}' is not linked to any switch")

end Topology

end MudTestbed
