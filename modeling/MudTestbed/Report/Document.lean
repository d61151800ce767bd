import MudTestbed.Report.Basic
import MudTestbed.Probe.Document

/-!
# Reports as documents

A result is written with its spec's display text, the observation (tagged by `kind`), the
output and the verdict; a report adds its counts, the verdict of each group, the last
state, the abort and the text summary.
-/

namespace MudTestbed

def Observation.toJson : Observation → Json
  | .observed o => Json.obj [("kind", .string "observed"), ("outcome", o.toJson)]
  | .setupFailed r => Json.obj [("kind", .string "setup_failed"), ("reason", .string r)]
  | .cancelled => Json.obj [("kind", .string "cancelled")]

def ProbeResult.toJson (x : ProbeResult) : Json :=
  Json.obj [("spec", .string x.spec.toText), ("output", .string x.output),
    ("observation", x.observation.toJson), ("passed", .bool x.passed),
    ("cancelled", .bool x.isCancelled)]

def Abort.toJson (a : Abort) : Json :=
  Json.obj [("state", .string a.state.name), ("error", .string a.error)]

/-- A report with its counts, verdicts and text summary. -/
def ScenarioReport.toJson (r : ScenarioReport) : Json :=
  Json.obj [("text", .string r.render), ("passed", .bool r.passed),
    ("failed_probes", Json.ofNat r.failedProbes), ("cancelled_probes", Json.ofNat r.cancelledProbes),
    ("groups_passed", .array (r.groups.map fun g => .bool g.passed)),
    ("state", .string r.state.name), ("states", .array (r.states.map fun s => .string s.name)),
    ("results", .array (r.results.map ProbeResult.toJson)),
    ("aborted", Json.ofOption Abort.toJson r.aborted),
    ("teardown_errors", Json.ofStrings r.teardownErrors)]

end MudTestbed
