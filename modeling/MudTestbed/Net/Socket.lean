import MudTestbed.Net.Ipv6

/-!
# IP and socket addresses

An `IpAddr` is an IPv4 or an IPv6 address; reading tries the dotted quad first and the
whole text must be used. A `SocketAddr` adds a port, and an IPv6 socket address also a
scope (zone) number, `0` meaning none.

Socket address text: `a.b.c.d:port`, or `[v6]:port`, or `[v6%scope]:port`. The port and
scope are decimal, leading zeros allowed, at most `65535` and `2 ^ 32 - 1`. A socket address
is written in the same forms, the scope only when it is not `0`.
-/

namespace MudTestbed

/-- An IPv4 or IPv6 address. -/
inductive IpAddr where
  | v4 (a : Ipv4Addr)
  | v6 (a : Ipv6Addr)
  deriving DecidableEq, Repr

namespace IpAddr

/-- Reads a whole text as an IP address: a dotted quad at the front, else IPv6. -/
def parse? (s : String) : Option IpAddr :=
  let cs := s.toList
  match Ipv4Addr.readPrefix cs with
  | some (a, rest) => if rest.isEmpty then some (.v4 a) else none
  | none =>
    match Ipv6Addr.readPrefix cs with
    | some (a, []) => some (.v6 a)
    | _ => none

def toText : IpAddr → String
  | .v4 a => a.toText
  | .v6 a => a.toText

end IpAddr

/-- An IP address with a port; an IPv6 one also carries a scope number. -/
inductive SocketAddr where
  | v4 (ip : Ipv4Addr) (port : Nat)
  | v6 (ip : Ipv6Addr) (port : Nat) (scope : Nat)
  deriving DecidableEq, Repr

namespace SocketAddr

def readPort (cs : List Char) : Option (Nat × List Char) := do
  let cs ← Net.expectChar ':' cs
  Net.readNumber 10 none true 65535 cs

def readScope (cs : List Char) : Nat × List Char :=
  match Net.expectChar '%' cs |>.bind (Net.readNumber 10 none true 4294967295) with
  | some r => r
  | none => (0, cs)

def readV4 (cs : List Char) : Option (SocketAddr × List Char) := do
  let (ip, cs) ← Ipv4Addr.readPrefix cs
  let (port, cs) ← readPort cs
  pure (.v4 ip port, cs)

/-- Reads `[v6]:port` or `[v6%scope]:port` at the front. -/
def readV6 (cs : List Char) : Option (SocketAddr × List Char) := do
  let cs ← Net.expectChar '[' cs
  let (ip, cs) ← Ipv6Addr.readPrefix cs
  let (scope, cs) := readScope cs
  let cs ← Net.expectChar ']' cs
  let (port, cs) ← readPort cs
  pure (.v6 ip port scope, cs)

/-- Reads a whole text as a socket address. -/
def parse? (s : String) : Option SocketAddr :=
  let cs := s.toList
  match readV4 cs with
  | some (a, rest) => if rest.isEmpty then some a else none
  | none =>
    match readV6 cs with
    | some (a, []) => some a
    | _ => none

def ip : SocketAddr → IpAddr
  | .v4 a _ => .v4 a
  | .v6 a _ _ => .v6 a

def port : SocketAddr → Nat
  | .v4 _ p => p
  | .v6 _ p _ => p

def ofIp (ip : IpAddr) (port : Nat) : SocketAddr :=
  match ip with
  | .v4 a => .v4 a port
  | .v6 a => .v6 a port 0

def toText : SocketAddr → String
  | .v4 a p => a.toText ++ ":" ++ toString p
  | .v6 a p s =>
    "[" ++ a.toText ++ (if s = 0 then "" else "%" ++ toString s) ++ "]:" ++ toString p

example : (parse? "[fe80::1%2]:80").map toText = some "[fe80::1%2]:80" := by decide

example : parse? "1.2.3.4:65536" = none := by decide

end SocketAddr

end MudTestbed
