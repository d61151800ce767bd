import MudTestbed.Probe.Spec

/-!
# Probe client command lines

Each protocol has a client program, given as an argument vector prefix in a `ToolConfig`
(so a client can be run through an interpreter or a wrapper). `ToolConfig.commandFor`
appends the protocol's arguments:

* http: `<url> --no-cache --no-dns-cache --timeout T --tries max(tries,1) -O /dev/null`
* tcp: `-H <target> -P <port>`
* udp: `--port P --host T --client --quiet --count <count>`, the count as given
* icmp: `-c max(count,1) -w max(T,1) -q <target>`

where `T` is the probe's timeout in seconds.
-/

namespace MudTestbed

/-- The client program of each protocol, as an argument vector prefix. -/
structure ToolConfig where
  wget : List String := ["wget"]
  ping : List String := ["ping"]
  tcpClient : List String := ["tcp-client"]
  udpClient : List String := ["udpping"]
  deriving DecidableEq, Repr

namespace ToolConfig

def fieldNames : List String := ["wget", "ping", "tcp_client", "udp_client"]

/-- The argument vector that runs a probe, see the module comment. -/
def commandFor (tools : ToolConfig) (spec : ProbeSpec) : List String :=
  let t := spec.timeoutSecs
  match spec.kind with
  | .http url tries =>
    tools.wget ++ [url, "--no-cache", "--no-dns-cache", "--timeout", toString t, "--tries",
      toString (max tries 1), "-O", "/dev/null"]
  | .tcp target port => tools.tcpClient ++ ["-H", target, "-P", toString port]
  | .udp target port count =>
    tools.udpClient ++ ["--port", toString port, "--host", target, "--client", "--quiet",
      "--count", toString count]
  | .icmp target count =>
    tools.ping ++ ["-c", toString (max count 1), "-w", toString (max t 1), "-q", target]

theorem commandFor_prefix (tools : ToolConfig) (spec : ProbeSpec) :
    ∃ client rest, tools.commandFor spec = client ++ rest ∧
      client ∈ [tools.wget, tools.tcpClient, tools.udpClient, tools.ping] := by
  unfold commandFor
  split <;> exact ⟨_, _, rfl, by simp⟩

end ToolConfig

end MudTestbed
