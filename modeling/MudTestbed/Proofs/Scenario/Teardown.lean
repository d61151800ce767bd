import MudTestbed.Proofs.Provision.Probes
import MudTestbed.Proofs.Provision.Release
import MudTestbed.Proofs.Scenario.Drive

/-!
# Nothing outlives a scenario run

Provisioning records every object as soon as it exists, and a failed provisioning run
releases what it recorded (`provision_covers`, `provision_error_isEmpty`). After that, a run
touches the backend only to run probes, which add to the command record and nothing else,
and to tell it the controller's quarantine. So what was recorded still covers the backend
when the run ends, however it ends, and the teardown that always follows leaves it empty.
-/

namespace MudTestbed

set_option autoImplicit false

namespace Testbed

variable {σ : Type} (ctl : ControllerBehavior σ)

theorem wire_keeps_backend (Q : MemoryBackend → Prop) :
    (wire ctl).Keeps (fun tb => Q tb.backend) :=
  wire_keeps_frame ctl fun b _ => Q b

theorem after_keeps_backend (Q : MemoryBackend → Prop) (t d : Nat) :
    Preserves (fun tb : Testbed σ => Q tb.backend)
      (Instant.after (fun p => modify (Testbed.halt (some p))) t d) := fun tb h => by
  rw [after_run]
  exact h

theorem syncQuarantine_covers {r : Resources} {tb : Testbed σ} (h : r.Covers tb.backend) :
    r.Covers (tb.syncQuarantine ctl).backend :=
  h.of_objects rfl rfl rfl rfl rfl

end Testbed

namespace Drive

variable {σ : Type} (ctl : ControllerBehavior σ) (r : Resources)

theorem probe_keeps_covers (sc : Scenario) (live : LiveNetwork) (specs : List ProbeSpec) :
    Keeps (fun tb => r.Covers tb.backend) (probe ctl sc live specs) := by
  refine Keeps.of_onTestbed (Preserves.of_modifyGet fun tb h => ?_)
  obtain ⟨cmds, hs⟩ :=
    Session.runSequence_session ⟨live, (tb.syncQuarantine ctl).backend, sc.tools⟩ specs
  dsimp only
  rw [hs]
  exact (Testbed.syncQuarantine_covers ctl h).of_objects rfl rfl rfl rfl rfl

variable (client : ControllerClient (TestbedStep σ))
  (hw : client.wire.Keeps fun tb => r.Covers tb.backend)
include hw

theorem transition_keeps_covers (live : LiveNetwork) (t : Transition) :
    Keeps (fun tb => r.Covers tb.backend) (transition client live t) := by
  unfold transition
  refine Keeps.bind (Keeps.of_mk_pure _) fun mac => ?_
  split
  · exact Keeps.of_call (client.quarantine_preserves hw mac)
  · exact Keeps.of_call (client.unquarantine_preserves hw mac)

theorem runTransitions_keeps_covers (sc : Scenario) (live : LiveNetwork) (g : ProbeGroup) :
    Keeps (fun tb => r.Covers tb.backend) (runTransitions client sc live g) :=
  Keeps.bind (Keeps.of_enter _) fun _ =>
    Keeps.bind (Keeps.forM fun t _ => transition_keeps_covers r client hw live t) fun _ =>
      Keeps.of_settle _ fun _ h => h

theorem awaitReport_keeps_covers (sc : Scenario) :
    Keeps (fun tb => r.Covers tb.backend) (awaitReport ctl client sc) :=
  Keeps.bind (Keeps.of_onTestbed (Testbed.wire_keeps_backend ctl (r.Covers ·)).now) fun now =>
    Keeps.bind (Keeps.of_onTestbed (Testbed.after_keeps_backend (r.Covers ·) now _)) fun _ =>
      Keeps.bind (Keeps.of_call (client.pollReport_preserves hw _ _ _)) fun _ => Keeps.of_pure _

theorem group_keeps_covers (sc : Scenario) (live : LiveNetwork) (g : ProbeGroup) :
    Keeps (fun tb => r.Covers tb.backend) (group ctl client sc live g) := by
  unfold group
  refine Keeps.bind ?_ fun _ => Keeps.bind ?_ fun _ => ?_
  · split
    · exact Keeps.of_pure _
    · exact runTransitions_keeps_covers r client hw sc live g
  · split
    · exact awaitReport_keeps_covers ctl r client hw sc
    · exact Keeps.of_pure _
  · exact Keeps.bind (Keeps.of_enter _) fun _ =>
      Keeps.bind (probe_keeps_covers ctl r sc live g.probes) fun _ => Keeps.of_modifyReport _

theorem scenario_keeps_covers (sc : Scenario) (live : LiveNetwork) :
    Keeps (fun tb => r.Covers tb.backend) (scenario ctl client sc live) := by
  unfold scenario
  refine Keeps.bind (Keeps.of_call (client.clearRules_preserves hw)) fun _ => ?_
  refine Keeps.bind
    (Keeps.forM fun doc _ => Keeps.of_call (client.upload_preserves hw doc.resource doc.body))
    fun _ => ?_
  refine Keeps.bind (Keeps.of_settle _ fun _ h => h) fun _ => ?_
  exact Keeps.bind (Keeps.of_enter _) fun _ =>
    Keeps.forM fun g _ => group_keeps_covers ctl r client hw sc live g

end Drive

namespace Scenario

variable {σ : Type} (ctl : ControllerBehavior σ) (config : ControllerConfig) (sc : Scenario)
  (tb : Testbed σ)

theorem run_cleans_up (hb : tb.backend.isEmpty = true) :
    ((sc.run ctl config).run tb).2.backend.isEmpty = true ∧
      ((sc.run ctl config).run tb).1.teardownErrors = [] := by
  have hb' : (tb.syncQuarantine ctl).backend.isEmpty = true := hb
  cases hnet : (sc.provisionOn (tb.syncQuarantine ctl).backend).network with
  | error e =>
    rw [run_of_provision_error ctl config sc tb hnet]
    exact ⟨provision_error_isEmpty hb' hnet, rfl⟩
  | ok live =>
    rw [run_of_provision_ok ctl config sc tb hnet]
    dsimp only
    rw [Teardowns.alone_memory]
    refine ⟨Resources.release_isEmpty (Drive.scenario_keeps_covers ctl live.resources
      ⟨Testbed.wire ctl, config⟩ (Testbed.wire_keeps_backend ctl (live.resources.Covers ·))
      sc live _ _ ?_), rfl⟩
    exact provision_covers hb' hnet

end Scenario

/-- No object outlives any exit path of a run or of provisioning. -/
theorem backend_empty_on_every_exit (b : MemoryBackend) (hb : b.isEmpty = true) :
    (∀ {σ : Type} (ctl : ControllerBehavior σ) (config : ControllerConfig) (sc : Scenario)
        (c : σ) (clock : Nat),
      let result := (sc.run ctl config).run { backend := b, controller := c, clock := clock }
      result.2.backend.isEmpty = true ∧ result.1.teardownErrors = []) ∧
    ∀ (settings : ProvisionSettings) (t : Topology) (plan : AddressPlan),
      match (provision settings t plan b).network with
      | .error _ => (provision settings t plan b).backend.isEmpty = true
      | .ok live => (live.teardown (provision settings t plan b).backend).2.isEmpty = true := by
  refine ⟨fun ctl config sc c clock => Scenario.run_cleans_up ctl config sc _ hb,
    fun settings t plan => ?_⟩
  cases hnet : (provision settings t plan b).network with
  | error e => exact provision_error_isEmpty hb hnet
  | ok live => exact Resources.release_isEmpty (provision_covers hb hnet)

/-- Nothing outlives a run on a backend that refuses a host, a switch and pings. -/
theorem faulty_backend_left_empty :
    let b : MemoryBackend :=
      { failingHosts := ["h1"], disconnected := ["s1"], failingCommands := ["ping"] }
    b.isEmpty = true ∧
      (∀ {σ : Type} (ctl : ControllerBehavior σ) (config : ControllerConfig) (sc : Scenario)
          (c : σ) (clock : Nat),
        let result := (sc.run ctl config).run { backend := b, controller := c, clock := clock }
        result.2.backend.isEmpty = true ∧ result.1.teardownErrors = []) ∧
      ∀ (settings : ProvisionSettings) (t : Topology) (plan : AddressPlan),
        match (provision settings t plan b).network with
        | .error _ => (provision settings t plan b).backend.isEmpty = true
        | .ok live => (live.teardown (provision settings t plan b).backend).2.isEmpty = true := by
  intro b
  have hb : b.isEmpty = true := by decide
  exact ⟨hb, backend_empty_on_every_exit b hb⟩

end MudTestbed
