import MudTestbed.Probe.Spec
import MudTestbed.Binary64.Format
import MudTestbed.Text.Blank

/-!
# Scenario reports

A scenario run passes through states (`ScenarioState`) and collects, group by group, one
`ProbeResult` per probe. A result of an observed run passes when its expectation accepts
the outcome; a probe that could not be started or that was cut off by teardown never
passes. The `ScenarioReport` adds the states visited, an optional abort with the state it
happened in, and the errors of teardown.

`ScenarioReport.passed` holds when nothing aborted and every probe passed;
`failedProbes` counts results that did not pass and were not cancelled.

`ScenarioReport.render` is the summary for a terminal: a header line, a block per group
with one line per result (the output of a failed result follows, line by line), the abort
and the teardown errors, and a last line with the verdict and the counts.
-/

namespace MudTestbed

/-- The states of a scenario run, in the order a successful run visits them. -/
inductive ScenarioState where
  | init
  | provisioned
  | configured
  | probing
  | stateTransition
  | tornDown
  deriving DecidableEq, Repr, Inhabited

namespace ScenarioState

def all : List ScenarioState := [init, provisioned, configured, probing, stateTransition, tornDown]

/-- The name of a state in documents. -/
def name : ScenarioState → String
  | init => "init"
  | provisioned => "provisioned"
  | configured => "configured"
  | probing => "probing"
  | stateTransition => "state_transition"
  | tornDown => "torn_down"

/-- The name of a state in the text summary. -/
def title : ScenarioState → String
  | init => "Init"
  | provisioned => "Provisioned"
  | configured => "Configured"
  | probing => "Probing"
  | stateTransition => "StateTransition"
  | tornDown => "TornDown"

def ofName? (s : String) : Option ScenarioState := all.find? (·.name == s)

theorem ofName?_name (s : ScenarioState) : ofName? s.name = some s := by
  cases s <;> rfl

end ScenarioState

/-- What came of running one probe. -/
inductive Observation where
  /-- The probe ran and its output was classified. -/
  | observed (outcome : ProbeOutcome)
  /-- The probe could not be started on its source host. -/
  | setupFailed (reason : String)
  /-- The network was torn down before the probe finished. -/
  | cancelled
  deriving DecidableEq, Repr

namespace Observation

/-- The description of an observation in the text summary. -/
def describe : Observation → String
  | observed o =>
    let status := match o.status with
      | .completed => "completed"
      | .timedOut => "timed out"
      | .error => "error"
    match o.metric with
    | some m => s!"{status}, metric {m.toPlainString}"
    | none => status
  | setupFailed r => s!"setup failed: {r}"
  | cancelled => "cancelled"

end Observation

/-- One probe's result: its spec, the client's output, the observation and the verdict. -/
structure ProbeResult where
  spec : ProbeSpec
  output : String
  observation : Observation
  passed : Bool
  deriving DecidableEq, Repr

namespace ProbeResult

def observed (spec : ProbeSpec) (output : String) (o : ProbeOutcome) : ProbeResult :=
  ⟨spec, output, .observed o, spec.expect.accepts o⟩

def setupFailed (spec : ProbeSpec) (reason : String) : ProbeResult :=
  ⟨spec, "", .setupFailed reason, false⟩

def cancelled (spec : ProbeSpec) : ProbeResult := ⟨spec, "", .cancelled, false⟩

def isCancelled (r : ProbeResult) : Bool := r.observation == .cancelled

def verdict (r : ProbeResult) : String :=
  if r.isCancelled then "CANCELLED" else if r.passed then "PASS" else "FAIL"

theorem setupFailed_passed (spec : ProbeSpec) (reason : String) :
    (setupFailed spec reason).passed = false := rfl

end ProbeResult

namespace Expectation

/-- The expectation as the text summary shows it, bounds in debug notation. -/
def title : Expectation → String
  | success => "Success"
  | failure => "Failure"
  | range lo hi =>
    let bound (b : Option Binary64) : String := match b with
      | some x => s!"Some({x.toDebugString})"
      | none => "None"
    s!"Range \x7b min: {bound lo}, max: {bound hi} \x7d"

end Expectation

/-- The results of one group of probes. -/
structure GroupReport where
  name : String
  results : List ProbeResult
  deriving DecidableEq, Repr

def GroupReport.passed (g : GroupReport) : Bool := g.results.all (·.passed)

/-- A fatal error that stopped the scenario, with the last state reached before it. -/
structure Abort where
  state : ScenarioState
  error : String
  deriving DecidableEq, Repr

/-- Everything a scenario run reports. -/
structure ScenarioReport where
  scenario : String
  states : List ScenarioState := [.init]
  groups : List GroupReport := []
  aborted : Option Abort := none
  teardownErrors : List String := []
  deriving DecidableEq, Repr

namespace ScenarioReport

def state (r : ScenarioReport) : ScenarioState := r.states.getLastD .init

def enter (r : ScenarioReport) (s : ScenarioState) : ScenarioReport :=
  { r with states := r.states ++ [s] }

def abort (r : ScenarioReport) (error : String) : ScenarioReport :=
  { r with aborted := some ⟨r.state, error⟩ }

@[simp] theorem enter_states (r : ScenarioReport) (s : ScenarioState) :
    (r.enter s).states = r.states ++ [s] := rfl

@[simp] theorem enter_groups (r : ScenarioReport) (s : ScenarioState) :
    (r.enter s).groups = r.groups := rfl

@[simp] theorem enter_aborted (r : ScenarioReport) (s : ScenarioState) :
    (r.enter s).aborted = r.aborted := rfl

@[simp] theorem abort_states (r : ScenarioReport) (error : String) :
    (r.abort error).states = r.states := rfl

@[simp] theorem abort_groups (r : ScenarioReport) (error : String) :
    (r.abort error).groups = r.groups := rfl

@[simp] theorem abort_aborted (r : ScenarioReport) (error : String) :
    (r.abort error).aborted = some ⟨r.state, error⟩ := rfl

theorem state_eq_getLast? (r : ScenarioReport) (h : r.states ≠ []) :
    some r.state = r.states.getLast? := by
  rw [state, List.getLastD_eq_getLast?, List.getLast?_eq_some_getLast h, Option.getD_some]

def results (r : ScenarioReport) : List ProbeResult := r.groups.flatMap (·.results)

def passed (r : ScenarioReport) : Bool := r.aborted.isNone && r.results.all (·.passed)

def failedProbes (r : ScenarioReport) : Nat :=
  (r.results.filter fun x => !x.passed && !x.isCancelled).length

def cancelledProbes (r : ScenarioReport) : Nat := (r.results.filter (·.isCancelled)).length

/-- The summary lines of one result: the verdict line, then the output of a failure. -/
def resultLines (x : ProbeResult) : List String :=
  let verdict := x.verdict
  let padded := verdict ++ String.ofList (List.replicate (9 - verdict.length) ' ')
  let head := s!"  {padded} {x.spec.toText} (expected {x.spec.expect.title}, observed {x.observation.describe})"
  let output := Text.trim x.output
  if !x.passed && !output.isEmpty then
    head :: (Text.lines output).map fun line => s!"            | {line}"
  else [head]

def groupLines (g : GroupReport) : List String :=
  "" :: s!"[{g.name}]" :: g.results.flatMap resultLines

/-- The text summary, see the module comment. -/
def render (r : ScenarioReport) : String :=
  let abortLines := match r.aborted with
    | some a => ["", s!"ABORTED in {a.state.title}: {a.error}"]
    | none => []
  let verdict := if r.passed then "PASSED" else "FAILED"
  let passedCount := (r.results.filter (·.passed)).length
  let tail := match r.cancelledProbes with
    | 0 => ""
    | n => s!" ({n} cancelled)"
  let body := s!"scenario: {r.scenario}" :: r.groups.flatMap groupLines ++ abortLines ++
    r.teardownErrors.map fun e => s!"teardown: {e}"
  String.join (body.map (· ++ "\n")) ++
    s!"\n{verdict}: {passedCount} of {r.results.length} probes passed{tail}\n"

theorem passed_of_aborted (r : ScenarioReport) (a : Abort) (h : r.aborted = some a) :
    r.passed = false := by
  simp [passed, h]

end ScenarioReport

end MudTestbed
