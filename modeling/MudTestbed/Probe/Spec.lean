import MudTestbed.Binary64.Basic

/-!
# Probes and what they are expected to observe

A `ProbeSpec` is one reachability check run from a source host: the protocol and its
parameters (`ProbeKind`), a timeout in seconds, and an `Expectation`.

A probe client's run is classified into a `ProbeOutcome`: a status, and for counting
protocols a metric. `Expectation.accepts` is the verdict: `success` wants a completed
exchange, `failure` a timeout or a network error, and `range` wants a metric inside the
inclusive bounds whatever the status; a missing bound is no bound, and a NaN metric or a
missing metric never matches.
-/

namespace MudTestbed

/-- The protocol of a probe and its parameters. -/
inductive ProbeKind where
  /-- Fetch a URL, trying up to `tries` times. -/
  | http (url : String) (tries : Nat)
  /-- Open a TCP connection and exchange a greeting. -/
  | tcp (target : String) (port : Nat)
  /-- UDP echo round trips; the metric is the number of replies. -/
  | udp (target : String) (port : Nat) (count : Nat)
  /-- ICMP echo; the metric is the packet loss percentage. -/
  | icmp (target : String) (count : Nat)
  deriving DecidableEq, Repr

namespace ProbeKind

def protocol : ProbeKind → String
  | http .. => "http"
  | tcp .. => "tcp"
  | udp .. => "udp"
  | icmp .. => "icmp"

def toText : ProbeKind → String
  | http url _ => url
  | tcp t p => s!"tcp://{t}:{p}"
  | udp t p _ => s!"udp://{t}:{p}"
  | icmp t _ => s!"icmp://{t}"

end ProbeKind

/-- How a probe exchange ended. -/
inductive ProbeStatus where
  /-- The exchange finished successfully. -/
  | completed
  | timedOut
  /-- The client ran and reported a network error such as a refused connection. -/
  | error
  deriving DecidableEq, Repr

def ProbeStatus.name : ProbeStatus → String
  | .completed => "completed"
  | .timedOut => "timed_out"
  | .error => "error"

/-- A classified probe run. -/
structure ProbeOutcome where
  status : ProbeStatus
  metric : Option Binary64 := none
  deriving DecidableEq, Repr

/-- What a probe is expected to observe. -/
inductive Expectation where
  | success
  | failure
  /-- The metric must lie within the inclusive bounds. -/
  | range (min max : Option Binary64)
  deriving DecidableEq, Repr

namespace Expectation

/-- Whether an outcome is what was expected, see the module comment. -/
def accepts : Expectation → ProbeOutcome → Bool
  | success, o => o.status == .completed
  | failure, o => o.status == .timedOut || o.status == .error
  | range lo hi, o =>
    match o.metric with
    | some m => (lo.all fun l => l.le m) && (hi.all fun h => m.le h)
    | none => false

end Expectation

/-- A reachability check run from a source host. -/
structure ProbeSpec where
  source : String
  kind : ProbeKind
  timeoutSecs : Nat
  expect : Expectation
  deriving DecidableEq, Repr

namespace ProbeSpec

def defaultTimeoutSecs : Nat := 20

def toText (p : ProbeSpec) : String := s!"{p.source} -> {p.kind.toText}"

def withTimeout (p : ProbeSpec) (secs : Nat) : ProbeSpec := { p with timeoutSecs := max secs 1 }

end ProbeSpec

end MudTestbed
