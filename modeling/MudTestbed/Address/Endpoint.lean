import MudTestbed.Error
import MudTestbed.Json.Decode
import MudTestbed.Net.Socket
import MudTestbed.Text.Split

/-!
# Controller endpoints

A `ControllerEndpoint` is the socket address a switch's OpenFlow channel connects to. Its
text is the socket address text; the target handed to the switch is `tcp:` before it.

Reading removes one leading `tcp:`, then takes a socket address, or else a bare IP address
with the OpenFlow port 6653. A failure is `invalid controller endpoint '<text>'`, with the
text after the removed `tcp:`.
-/

namespace MudTestbed

/-- Where a switch's OpenFlow control channel connects. -/
structure ControllerEndpoint where
  addr : SocketAddr
  deriving DecidableEq, Repr

namespace ControllerEndpoint

def defaultPort : Nat := 6653

def toText (e : ControllerEndpoint) : String := e.addr.toText

def ovsTarget (e : ControllerEndpoint) : String := "tcp:" ++ e.toText

def ofIp (ip : IpAddr) : ControllerEndpoint := ⟨SocketAddr.ofIp ip defaultPort⟩

/-- Reads an endpoint, see the module comment. -/
def parse (s : String) : Except Error ControllerEndpoint :=
  let s := (Text.stripPrefix "tcp:" s).getD s
  match SocketAddr.parse? s with
  | some a => .ok ⟨a⟩
  | none =>
    match IpAddr.parse? s with
    | some ip => .ok (ofIp ip)
    | none => .error (.invalidConfig s!"invalid controller endpoint '{s}'")

def decode : Decoder ControllerEndpoint := Decode.parsed parse Error.message

end ControllerEndpoint

end MudTestbed
