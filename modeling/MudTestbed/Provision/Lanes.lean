import MudTestbed.Provision.Session

/-!
# Probe lanes

A sequence of probes runs as lanes, one per source host, in the order of the host names: a
lane runs its host's probes one after another in declared order, and the lanes run
concurrently. Each lane keeps its results with the indices of their probes; once every lane
has ended, each result is put in the slot of its index and the filled slots are read in
order.

Lanes meet only in the session: running a probe is one step on it, as the backend takes a
command and records it in one step. `runLanes` interleaves the lanes by a schedule of lane
numbers: each number lets that lane run its next probe (a number that names no lane, or a lane
that has ended, lets nothing happen), and once the schedule is spent the lanes left run to
their ends, the first lane first, as the join waits for every lane.
-/

namespace MudTestbed

namespace Session

def laneSources (specs : List ProbeSpec) : List String :=
  specs.foldl (fun sources spec => insertName spec.source sources) []

def lanes (specs : List ProbeSpec) : List (List (ProbeSpec × Nat)) :=
  (laneSources specs).map fun source => specs.zipIdx.filter (·.1.source == source)

/-- A lane part-way: the probes still to run and its results so far, with indices. -/
structure Lane where
  pending : List (ProbeSpec × Nat)
  results : List (Nat × ProbeResult) := []

/-- The lanes of a sequence part-way, and the session they run on. -/
structure LaneRun where
  session : Session
  lanes : List Lane

namespace LaneRun

/-- Lane `j` runs its next probe, if it has one. -/
def step (st : LaneRun) (j : Nat) : LaneRun :=
  match st.lanes[j]? with
  | some ⟨(spec, i) :: rest, results⟩ =>
    let (r, s) := st.session.runProbe spec
    ⟨s, st.lanes.set j ⟨rest, results ++ [(i, r)]⟩⟩
  | _ => st

def steps (st : LaneRun) : List Nat → LaneRun
  | [] => st
  | j :: rest => (st.step j).steps rest

def toEnd (st : LaneRun) : List Nat :=
  (List.range st.lanes.length).flatMap fun j =>
    List.replicate ((st.lanes[j]?.map (·.pending.length)).getD 0) j

end LaneRun

def gather (n : Nat) (results : List (Nat × ProbeResult)) : List ProbeResult :=
  (results.foldl (fun slots ir => slots.set ir.1 (some ir.2)) (List.replicate n none)).filterMap id

def runLanes (s : Session) (specs : List ProbeSpec) (schedule : List Nat) :
    List ProbeResult × Session :=
  let st := (LaneRun.mk s ((lanes specs).map fun lane => ⟨lane, []⟩)).steps schedule
  let st := st.steps st.toEnd
  (gather specs.length (st.lanes.flatMap (·.results)), st.session)

end Session

end MudTestbed
