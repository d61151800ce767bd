import MudTestbed.Proofs.Controller.Frame
import MudTestbed.Scenario.Run

/-!
# Evaluating a scenario run

After provisioning, a run is a `Drive`: a step on the testbed that may fail and that adds
to the report. The `DriveRun` lemmas evaluate such a step one part at a time, `bind_eq`
being the only one that looks at a result.

Two properties of a step are closed under the combinators the run is written with:
`Drive.Keeps P` (the step keeps `P` of the testbed, from any report and however it ends)
and `Drive.Quiet` (the step leaves the report as it found it, also when it fails). Controller
calls, waits and probes are quiet; only entering a state and adding a group's report are not.

The last lemmas evaluate `Scenario.run` in its two cases: provisioning fails, or it gives a
network, which is driven and then torn down.
-/

namespace MudTestbed

set_option autoImplicit false

namespace Testbed

variable {σ : Type}

@[simp] theorem halt_none (tb : Testbed σ) : tb.halt none = tb := by
  cases tb with
  | mk backend controller clock halted => cases halted <;> rfl

theorem after_run (t d : Nat) (tb : Testbed σ) :
    (Instant.after (fun p => modify (halt (some p))) t d : TestbedStep σ Nat).run tb =
      (t + d, tb.halt (Instant.overflowAt (t + d))) := by
  cases h : Instant.fits (t + d)
  · rw [Instant.after_of_not_fits _ h, Instant.overflowAt_of_not_fits h]
    rfl
  · rw [Instant.after_of_fits _ h, Instant.overflowAt_of_fits h, halt_none]
    rfl

theorem wire_keeps_frame (ctl : ControllerBehavior σ) (Q : MemoryBackend → Option Panic → Prop) :
    (wire ctl).Keeps (fun tb => Q tb.backend tb.halted) where
  exchange _ := Preserves.of_modifyGet fun _ h => h
  exchangeUntil _ _ := Preserves.of_modifyGet fun _ h => by
    dsimp only
    split <;> exact h
  now := Preserves.bind Preserves.of_get fun _ => Preserves.of_pure _
  sleepUntil _ := Preserves.of_modify fun _ h => h

end Testbed

namespace DriveRun

variable {σ α β : Type}

theorem bind_eq (x : Drive σ α) (f : α → Drive σ β) (R : ScenarioReport) (tb : Testbed σ) :
    ((x >>= f).run.run R).run tb = match (x.run.run R).run tb with
      | ((.ok a, R'), tb') => ((f a).run.run R').run tb'
      | ((.error e, R'), tb') => ((.error e, R'), tb') := by
  simp only [ExceptT.run_bind, StateT.run_bind]
  rcases (x.run.run R).run tb with ⟨⟨_ | _, _⟩, _⟩ <;> rfl

theorem pure_eq (a : α) (R : ScenarioReport) (tb : Testbed σ) :
    ((pure a : Drive σ α).run.run R).run tb = ((.ok a, R), tb) := rfl

theorem mk_pure_eq (r : Except Error α) (R : ScenarioReport) (tb : Testbed σ) :
    ((ExceptT.mk (pure r) : Drive σ α).run.run R).run tb = ((r, R), tb) := rfl

theorem enter_eq (s : ScenarioState) (R : ScenarioReport) (tb : Testbed σ) :
    ((Drive.enter s : Drive σ Unit).run.run R).run tb = ((.ok (), R.enter s), tb) := rfl

theorem modifyReport_eq (f : ScenarioReport → ScenarioReport) (R : ScenarioReport)
    (tb : Testbed σ) :
    ((modifyThe ScenarioReport f : Drive σ Unit).run.run R).run tb = ((.ok (), f R), tb) := rfl

end DriveRun

namespace Drive

variable {σ α β : Type}

def Keeps (P : Testbed σ → Prop) (x : Drive σ α) : Prop :=
  ∀ R, Preserves P (x.run.run R)

def Quiet (x : Drive σ α) : Prop :=
  ∀ R tb, ((x.run.run R).run tb).1.2 = R

namespace Keeps

variable {P : Testbed σ → Prop}

theorem of_pure (a : α) : Keeps P (pure a : Drive σ α) := fun _ _ h => h

theorem of_mk_pure (r : Except Error α) : Keeps P (ExceptT.mk (pure r) : Drive σ α) :=
  fun _ _ h => h

theorem of_onTestbed {x : TestbedStep σ α} (hx : Preserves P x) : Keeps P (onTestbed x) :=
  fun _ tb h => hx tb h

theorem of_call {x : ExceptT Error (TestbedStep σ) α} (hx : Preserves P x.run) :
    Keeps P (call x) :=
  fun _ tb h => hx tb h

theorem of_enter (s : ScenarioState) : Keeps P (enter s : Drive σ Unit) := fun _ _ h => h

theorem of_modifyReport (f : ScenarioReport → ScenarioReport) :
    Keeps P (modifyThe ScenarioReport f : Drive σ Unit) := fun _ _ h => h

theorem of_settle (secs : Nat)
    (h : ∀ tb : Testbed σ, P tb → P { tb with clock := tb.clock + secs * 1000 }) :
    Keeps P (settle secs : Drive σ Unit) := by
  unfold settle
  split
  · exact of_pure _
  · exact of_onTestbed (Preserves.of_modify h)

theorem bind {x : Drive σ α} {f : α → Drive σ β} (hx : Keeps P x) (hf : ∀ a, Keeps P (f a)) :
    Keeps P (x >>= f) := by
  intro R tb htb
  have hmid := hx R tb htb
  show P (((x >>= f).run.run R).run tb).2
  rw [DriveRun.bind_eq]
  rcases hres : (x.run.run R).run tb with ⟨⟨_ | a, R'⟩, tb'⟩
  · rw [hres] at hmid
    exact hmid
  · rw [hres] at hmid
    exact hf a R' tb' hmid

theorem forM {xs : List α} {f : α → Drive σ PUnit} (h : ∀ a ∈ xs, Keeps P (f a)) :
    Keeps P (xs.forM f) := by
  induction xs with
  | nil => exact of_pure _
  | cons a as ih =>
    show Keeps P (f a >>= fun _ => as.forM f)
    exact bind (h a List.mem_cons_self) fun _ => ih fun b hb => h b (List.mem_cons_of_mem a hb)

end Keeps

namespace Quiet

theorem of_pure (a : α) : Quiet (pure a : Drive σ α) := fun _ _ => rfl

theorem of_mk_pure (r : Except Error α) : Quiet (ExceptT.mk (pure r) : Drive σ α) :=
  fun _ _ => rfl

theorem of_onTestbed (x : TestbedStep σ α) : Quiet (onTestbed x) := fun _ _ => rfl

theorem of_call (x : ExceptT Error (TestbedStep σ) α) : Quiet (call x) := fun _ _ => rfl

theorem of_settle (secs : Nat) : Quiet (settle secs : Drive σ Unit) := by
  unfold settle
  split
  · exact of_pure _
  · exact of_onTestbed _

theorem bind {x : Drive σ α} {f : α → Drive σ β} (hx : Quiet x) (hf : ∀ a, Quiet (f a)) :
    Quiet (x >>= f) := by
  intro R tb
  have hmid := hx R tb
  rw [DriveRun.bind_eq]
  rcases hres : (x.run.run R).run tb with ⟨⟨_ | a, R'⟩, tb'⟩
  · rw [hres] at hmid
    exact hmid
  · rw [hres] at hmid
    dsimp only at hmid ⊢
    rw [hf a R' tb', hmid]

theorem forM {xs : List α} {f : α → Drive σ PUnit} (h : ∀ a ∈ xs, Quiet (f a)) :
    Quiet (xs.forM f) := by
  induction xs with
  | nil => exact of_pure _
  | cons a as ih =>
    show Quiet (f a >>= fun _ => as.forM f)
    exact bind (h a List.mem_cons_self) fun _ => ih fun b hb => h b (List.mem_cons_of_mem a hb)

theorem bind_eq {x : Drive σ α} (hx : Quiet x) (f : α → Drive σ β) (R : ScenarioReport)
    (tb : Testbed σ) :
    ((x >>= f).run.run R).run tb = match (x.run.run R).run tb with
      | ((.ok a, _), tb') => ((f a).run.run R).run tb'
      | ((.error e, _), tb') => ((.error e, R), tb') := by
  have hR := hx R tb
  rw [DriveRun.bind_eq]
  rcases hres : (x.run.run R).run tb with ⟨⟨_ | a, R'⟩, tb'⟩ <;>
    · rw [hres] at hR
      dsimp only at hR
      rw [hR]

end Quiet

end Drive

namespace Scenario

variable {σ : Type} (ctl : ControllerBehavior σ) (config : ControllerConfig) (sc : Scenario)
  (tb : Testbed σ)

theorem run_of_provision_error {e : Error}
    (h : (sc.provisionOn (tb.syncQuarantine ctl).backend).network = .error e) :
    (sc.run ctl config).run tb =
      ((({ scenario := sc.name } : ScenarioReport).abort e.message).enter .tornDown,
        Testbed.halt (sc.provisionOn (tb.syncQuarantine ctl).backend).halted
          { tb.syncQuarantine ctl with
            backend := (sc.provisionOn (tb.syncQuarantine ctl).backend).backend,
            clock := (tb.syncQuarantine ctl).clock +
              (sc.provisionOn (tb.syncQuarantine ctl).backend).elapsedMs }) := by
  simp only [Scenario.run, StateT.run_bind, StateT.run_modify, StateT.run_get, StateT.run_set,
    pure_bind, h]
  rfl

theorem run_of_provision_ok {live : LiveNetwork}
    (h : (sc.provisionOn (tb.syncQuarantine ctl).backend).network = .ok live) :
    (sc.run ctl config).run tb =
      let tb' : Testbed σ := Testbed.halt (sc.provisionOn (tb.syncQuarantine ctl).backend).halted
        { tb.syncQuarantine ctl with
          backend := (sc.provisionOn (tb.syncQuarantine ctl).backend).backend,
          clock := (tb.syncQuarantine ctl).clock +
            (sc.provisionOn (tb.syncQuarantine ctl).backend).elapsedMs }
      let driven := ((Drive.scenario ctl ⟨Testbed.wire ctl, config⟩ sc live).run.run
        (({ scenario := sc.name } : ScenarioReport).enter .provisioned)).run tb'
      let report := match driven.1.1 with
        | .ok () => driven.1.2
        | .error e => driven.1.2.abort e.message
      let t := Teardowns.alone MemoryBackend.release live driven.2.backend
      ({ report with teardownErrors := t.errors }.enter .tornDown,
        { driven.2 with backend := t.backend }) := by
  simp only [Scenario.run, StateT.run_bind, StateT.run_modify, StateT.run_get, StateT.run_set,
    pure_bind, h]
  rfl

end Scenario

end MudTestbed
