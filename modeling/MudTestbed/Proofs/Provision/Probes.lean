import MudTestbed.Proofs.Provision.Steps
import MudTestbed.Provision.Session

/-!
# What running probes changes

A probe runs at most one command, in its source host, and a sequence of probes answers one
result per probe, in declared order. So a run of probes leaves the network and every object
of the backend as they were: only the command record grows.
-/

namespace MudTestbed

set_option autoImplicit false

namespace Session

theorem runProbe_session (s : Session) (spec : ProbeSpec) :
    ∃ cmds, (s.runProbe spec).2 =
      { s with backend := { s.backend with commands := s.backend.commands ++ cmds } } := by
  unfold runProbe
  split_ifs
  · exact ⟨[], by rw [List.append_nil]⟩
  · exact ⟨[], by rw [List.append_nil]⟩
  · exact ⟨[], by rw [List.append_nil]⟩
  · split
    · exact ⟨[], by rw [List.append_nil]⟩
    · exact ⟨[], by rw [List.append_nil]⟩
    · next o b hexec =>
      obtain ⟨-, rfl, -⟩ := MemoryBackend.exec_eq_ok.mp hexec
      refine ⟨[(spec.source, s.tools.commandFor spec)], ?_⟩
      dsimp only
      split <;> rfl

theorem runProbe_spec (s : Session) (spec : ProbeSpec) : (s.runProbe spec).1.spec = spec := by
  unfold runProbe
  split_ifs
  · rfl
  · rfl
  · rfl
  · split
    · rfl
    · rfl
    · dsimp only
      split <;> rfl

theorem runSequence_session (s : Session) (specs : List ProbeSpec) :
    ∃ cmds, (s.runSequence specs).2 =
      { s with backend := { s.backend with commands := s.backend.commands ++ cmds } } := by
  induction specs generalizing s with
  | nil => exact ⟨[], by rw [runSequence, List.append_nil]⟩
  | cons spec rest ih =>
    obtain ⟨c1, h1⟩ := s.runProbe_session spec
    obtain ⟨c2, h2⟩ := ih (s.runProbe spec).2
    refine ⟨c1 ++ c2, ?_⟩
    rw [runSequence]
    dsimp only
    rw [h2, h1, List.append_assoc]

theorem runSequence_specs (s : Session) (specs : List ProbeSpec) :
    (s.runSequence specs).1.map (·.spec) = specs := by
  induction specs generalizing s with
  | nil => rfl
  | cons spec rest ih =>
    rw [runSequence]
    dsimp only
    rw [List.map_cons, runProbe_spec, ih]

end Session

end MudTestbed
