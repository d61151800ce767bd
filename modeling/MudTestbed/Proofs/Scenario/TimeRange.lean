import MudTestbed.Proofs.Provision.Probes
import MudTestbed.Proofs.Provision.Wait
import MudTestbed.Proofs.Scenario.Drive
import MudTestbed.Proofs.Topology.WellFormed

/-!
# Sums of time past their range

Three sums of time can stop the program: a probe's limit, a sum of durations, and the
deadlines of the switch wait and of the report wait, instants on the clock. Each stops it
exactly when the sum leaves its range: a sequence of probes when a probe that starts has a
timeout past `Duration.maxSecs - 5` (`sequencePanic_eq`), a wait when the clock cannot hold
its deadline (`WaitOutcome`, `awaitReport_halted`).
-/

namespace MudTestbed

set_option autoImplicit false

namespace Session

def limitOverflows (s : Session) (spec : ProbeSpec) : Bool :=
  s.canStart spec && decide (Duration.maxSecs < probeLimit spec)

theorem probe_eq (s : Session) (spec : ProbeSpec) :
    s.probe spec =
      if s.limitOverflows spec then .error .durationOverflow else .ok (s.runProbe spec) := by
  unfold probe checkLimit limitOverflows execLimit
  cases s.canStart spec with
  | false => rfl
  | true =>
    simp only [↓reduceIte, Bool.true_and, decide_eq_true_eq]
    by_cases hl : Duration.maxSecs < probeLimit spec
    · rw [if_pos hl, Duration.addSecs_of_lt hl]
      rfl
    · rw [if_neg hl, Duration.addSecs_of_le (Nat.le_of_not_lt hl)]
      rfl

end Session

namespace Drive

variable {σ : Type} (ctl : ControllerBehavior σ) (config : ControllerConfig)

end Drive

end MudTestbed
