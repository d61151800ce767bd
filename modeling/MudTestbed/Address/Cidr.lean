import MudTestbed.Error
import MudTestbed.Json.Decode
import MudTestbed.Net.Ipv4
import MudTestbed.Text.Split

/-!
# IPv4 addresses with a prefix length

An `Ipv4Cidr` is an IPv4 address and a prefix length of at most 32, written `a.b.c.d/p`.
The prefix selects the top `p` bits: `maskBits` has exactly those set, `network` clears the
others, and `contains ip` compares the selected bits of `ip` and of the address (a prefix of
`0` contains every address).

Reading cuts the text at its first `/`: the left part is a strict dotted quad, the right an
unsigned byte (`+` and leading zeros allowed), and then the prefix must be at most 32.
Any failure is `invalid IPv4 CIDR '<text>'`.
-/

namespace MudTestbed

/-- An IPv4 address with its prefix length. -/
structure Ipv4Cidr where
  addr : Ipv4Addr
  prefixLen : Nat
  prefixLen_le : prefixLen ≤ 32
  deriving DecidableEq, Repr

namespace Ipv4Cidr

def new (addr : Ipv4Addr) (p : Nat) : Except Error Ipv4Cidr :=
  if h : p ≤ 32 then .ok ⟨addr, p, h⟩
  else .error (.invalidConfig s!"prefix length {p} is out of range")

def maskBits (c : Ipv4Cidr) : UInt32 :=
  if c.prefixLen = 0 then 0 else (0xFFFFFFFF : UInt32) <<< (32 - c.prefixLen).toUInt32

def netmask (c : Ipv4Cidr) : Ipv4Addr := ⟨c.maskBits⟩

def network (c : Ipv4Cidr) : Ipv4Cidr := ⟨⟨c.addr.bits &&& c.maskBits⟩, c.prefixLen, c.prefixLen_le⟩

def contains (c : Ipv4Cidr) (ip : Ipv4Addr) : Bool :=
  (ip.bits &&& c.maskBits) == (c.addr.bits &&& c.maskBits)

def toText (c : Ipv4Cidr) : String := c.addr.toText ++ "/" ++ toString c.prefixLen

def invalid (s : String) : Error := .invalidConfig s!"invalid IPv4 CIDR '{s}'"

/-- Reads `a.b.c.d/p`, see the module comment. -/
def parse (s : String) : Except Error Ipv4Cidr :=
  match Text.splitOnce '/' s with
  | none => .error (invalid s)
  | some (a, p) =>
    match Ipv4Addr.parse? a, Text.parseNat? 10 255 p with
    | some addr, some n =>
      match new addr n with
      | .ok c => .ok c
      | .error _ => .error (invalid s)
    | _, _ => .error (invalid s)

example : ((parse "192.168.1.129/25").map fun c => c.network.toText) = .ok "192.168.1.128/25" := by
  cbv

def decode : Decoder Ipv4Cidr := Decode.parsed parse Error.message

end Ipv4Cidr

end MudTestbed
