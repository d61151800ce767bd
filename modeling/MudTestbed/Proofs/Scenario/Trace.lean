import Mathlib.Data.List.Forall2
import MudTestbed.Proofs.Provision.Probes
import MudTestbed.Proofs.Scenario.Drive

/-!
# The states a scenario run records

A run records a state only when it enters it, adds a group's report only right after that
group's probes, and fails only in a controller call or in finding a transition's device. So
however far a run gets, its report holds a prefix of the states the scenario plans
(`Scenario.plannedTrace`), and one report for each group whose probes ran, describing that
group; a run that was not aborted went all the way.

`Drive.Plans x W gs` says this of one part of a run: it enters a prefix of `W`, all of it
when it succeeds and less when it fails, and reports on the first groups of `gs`, one for
each `probing` it entered. It holds of each part, a failing step before any state is
entered included, and composes along `bind`, so it holds of the whole drive.
-/

namespace MudTestbed

set_option autoImplicit false

namespace ProbeGroup

def trace (g : ProbeGroup) : List ScenarioState :=
  (if g.transitions.isEmpty then [] else [.stateTransition]) ++ [.probing]

theorem count_probing_trace (g : ProbeGroup) : g.trace.count .probing = 1 := by
  unfold trace
  split <;> rfl

end ProbeGroup

def Scenario.plannedTrace (sc : Scenario) : List ScenarioState :=
  .configured :: sc.groups.flatMap ProbeGroup.trace

def GroupReport.Describes (gr : GroupReport) (g : ProbeGroup) : Prop :=
  gr.name = g.name ∧ gr.results.map (·.spec) = g.probes

namespace Drive

def Reached {α : Type} (W w : List ScenarioState) : Except Error α → Prop
  | .ok _ => w = W
  | .error _ => w <+: W ∧ w ≠ W

namespace Reached

variable {α : Type} {W w : List ScenarioState} {r : Except Error α}

theorem append_left (V : List ScenarioState) (h : Reached W w r) : Reached (V ++ W) (V ++ w) r := by
  cases r with
  | ok a => exact congrArg (V ++ ·) h
  | error e =>
    obtain ⟨hpre, hne⟩ := h
    exact ⟨(List.prefix_append_right_inj V).mpr hpre, fun heq => hne (List.append_cancel_left heq)⟩

theorem append_right_of_error {e : Error} (W' : List ScenarioState)
    (h : Reached W w (.error e : Except Error α)) :
    Reached (W ++ W') w (.error e : Except Error α) := by
  obtain ⟨hpre, hne⟩ := h
  refine ⟨hpre.trans (List.prefix_append W W'), fun heq => hne ?_⟩
  have hlong : W.length ≤ w.length := by
    rw [heq, List.length_append]
    exact Nat.le_add_right _ _
  exact hpre.eq_of_length_le hlong

end Reached

variable {σ α β : Type}

def Follows (W : List ScenarioState) (gs : List ProbeGroup) (R : ScenarioReport)
    (res : Except Error α × ScenarioReport) : Prop :=
  ∃ w reps, res.2 = { R with states := R.states ++ w, groups := R.groups ++ reps } ∧
    reps.length = w.count .probing ∧
    List.Forall₂ GroupReport.Describes reps (gs.take reps.length) ∧ Reached W w res.1

def Plans (x : Drive σ α) (W : List ScenarioState) (gs : List ProbeGroup) : Prop :=
  ∀ R tb, Follows W gs R ((x.run.run R).run tb).1

namespace Plans

variable {W W₁ W₂ : List ScenarioState} {gs gs₁ gs₂ : List ProbeGroup}

theorem of_pure (a : α) : Plans (pure a : Drive σ α) [] [] := by
  intro R tb
  refine ⟨[], [], ?_, rfl, .nil, rfl⟩
  rw [DriveRun.pure_eq, List.append_nil, List.append_nil]

theorem quiet_bind {x : Drive σ α} {f : α → Drive σ β} (hx : Quiet x) (hW : W ≠ [])
    (hf : ∀ a, Plans (f a) W gs) : Plans (x >>= f) W gs := by
  intro R tb
  rw [Quiet.bind_eq hx]
  rcases (x.run.run R).run tb with ⟨⟨e | a, _⟩, tb'⟩
  · refine ⟨[], [], ?_, rfl, .nil, List.nil_prefix, hW.symm⟩
    rw [List.append_nil, List.append_nil]
  · exact hf a R tb'

theorem enter_bind {s : ScenarioState} {f : Unit → Drive σ β} (hs : s ≠ .probing)
    (hf : Plans (f ()) W gs) : Plans (enter s >>= f) (s :: W) gs := by
  intro R tb
  rw [DriveRun.bind_eq, DriveRun.enter_eq]
  obtain ⟨w, reps, hR, hlen, hrel, hend⟩ := hf (R.enter s) tb
  refine ⟨s :: w, reps, ?_, ?_, hrel, hend.append_left [s]⟩
  · rw [hR]
    simp only [ScenarioReport.enter, List.append_assoc, List.cons_append, List.nil_append]
  · rw [List.count_cons_of_ne hs, hlen]

theorem bind {x : Drive σ α} {f : α → Drive σ β} (hx : Plans x W₁ gs₁)
    (hcount : W₁.count .probing = gs₁.length) (hf : ∀ a, Plans (f a) W₂ gs₂) :
    Plans (x >>= f) (W₁ ++ W₂) (gs₁ ++ gs₂) := by
  intro R tb
  obtain ⟨w₁, reps₁, hR₁, hlen₁, hrel₁, hend₁⟩ := hx R tb
  rw [DriveRun.bind_eq]
  rcases hres : (x.run.run R).run tb with ⟨⟨e | a, R₁⟩, tb₁⟩ <;> rw [hres] at hR₁ hend₁ <;>
    dsimp only at hR₁ hend₁
  · have hle : reps₁.length ≤ gs₁.length := by
      rw [hlen₁, ← hcount]
      exact hend₁.1.count_le _
    refine ⟨w₁, reps₁, hR₁, hlen₁, ?_, hend₁.append_right_of_error W₂⟩
    rw [List.take_append_of_le_length hle]
    exact hrel₁
  · obtain ⟨w₂, reps₂, hR₂, hlen₂, hrel₂, hend₂⟩ := hf a R₁ tb₁
    have hall : reps₁.length = gs₁.length := by rw [hlen₁, show w₁ = W₁ from hend₁, hcount]
    refine ⟨w₁ ++ w₂, reps₁ ++ reps₂, ?_, ?_, ?_, ?_⟩
    · rw [hR₂, hR₁]
      simp only [List.append_assoc]
    · rw [List.count_append, List.length_append, hlen₁, hlen₂]
    · rw [List.length_append, hall, List.take_length_add_append]
      rw [hall, List.take_length] at hrel₁
      exact List.rel_append hrel₁ hrel₂
    · rw [show w₁ = W₁ from hend₁]
      exact hend₂.append_left W₁

theorem forM {gs : List ProbeGroup} {f : ProbeGroup → Drive σ PUnit}
    {T : ProbeGroup → List ScenarioState} (hT : ∀ g, (T g).count .probing = 1)
    (hf : ∀ g ∈ gs, Plans (f g) (T g) [g]) : Plans (gs.forM f) (gs.flatMap T) gs := by
  induction gs with
  | nil => exact of_pure _
  | cons g gs ih =>
    rw [List.flatMap_cons]
    show Plans (f g >>= fun _ => gs.forM f) (T g ++ gs.flatMap T) ([g] ++ gs)
    exact bind (hf g List.mem_cons_self) (hT g)
      fun _ => ih fun g' hg' => hf g' (List.mem_cons_of_mem g hg')

end Plans

/-! ## The parts of a run -/

variable (ctl : ControllerBehavior σ) (client : ControllerClient (TestbedStep σ))
  (sc : Scenario) (live : LiveNetwork)

theorem transition_quiet (t : Transition) : Quiet (transition client live t) := by
  unfold transition
  refine Quiet.bind (Quiet.of_mk_pure _) fun _ => ?_
  split <;> exact Quiet.of_call _

theorem awaitReport_quiet : Quiet (awaitReport ctl client sc) :=
  Quiet.bind (Quiet.of_onTestbed _) fun _ => Quiet.bind (Quiet.of_onTestbed _) fun _ =>
    Quiet.bind (Quiet.of_call _) fun _ => Quiet.of_pure _

theorem probe_eq (specs : List ProbeSpec) (R : ScenarioReport) (tb : Testbed σ) :
    ∃ results tb', ((probe ctl sc live specs).run.run R).run tb = ((.ok results, R), tb') ∧
      results.map (·.spec) = specs :=
  ⟨_, _, rfl, Session.runSequence_specs _ _⟩

theorem runProbes_plans (g : ProbeGroup) : Plans (runProbes ctl sc live g) [.probing] [g] := by
  intro R tb
  unfold runProbes
  rw [DriveRun.bind_eq, DriveRun.enter_eq]
  obtain ⟨results, tb', hprobe, hspecs⟩ := probe_eq ctl sc live g.probes (R.enter .probing) tb
  dsimp only
  rw [DriveRun.bind_eq, hprobe]
  dsimp only
  rw [DriveRun.modifyReport_eq]
  exact ⟨[.probing], [⟨g.name, results⟩], rfl, rfl, .cons ⟨rfl, hspecs⟩ .nil, rfl⟩

theorem runTransitions_bind {f : Unit → Drive σ β} {W : List ScenarioState}
    {gs : List ProbeGroup} (g : ProbeGroup) (hW : W ≠ []) (hf : ∀ u, Plans (f u) W gs) :
    Plans (runTransitions client sc live g >>= f) (.stateTransition :: W) gs := by
  unfold runTransitions
  rw [bind_assoc]
  refine Plans.enter_bind (by decide) ?_
  rw [bind_assoc]
  refine Plans.quiet_bind (Quiet.forM fun t _ => transition_quiet client live t) hW fun _ => ?_
  exact Plans.quiet_bind (Quiet.of_settle _) hW hf

theorem group_plans (g : ProbeGroup) : Plans (group ctl client sc live g) g.trace [g] := by
  have hrest : Plans ((if g.awaitMudReport then awaitReport ctl client sc else pure ()) >>=
      fun _ => runProbes ctl sc live g) [.probing] [g] := by
    refine Plans.quiet_bind ?_ (List.cons_ne_nil _ _) fun _ => runProbes_plans ctl sc live g
    split
    · exact awaitReport_quiet ctl client sc
    · exact Quiet.of_pure _
  unfold group ProbeGroup.trace
  split
  · exact Plans.quiet_bind (Quiet.of_pure _) (List.cons_ne_nil _ _) fun _ => hrest
  · exact runTransitions_bind client sc live g (List.cons_ne_nil _ _) fun _ => hrest

theorem scenario_plans : Plans (scenario ctl client sc live) sc.plannedTrace sc.groups := by
  unfold scenario Scenario.plannedTrace
  have hW : ScenarioState.configured :: sc.groups.flatMap ProbeGroup.trace ≠ [] :=
    List.cons_ne_nil _ _
  refine Plans.quiet_bind (Quiet.of_call _) hW fun _ => ?_
  refine Plans.quiet_bind (Quiet.forM fun _ _ => Quiet.of_call _) hW fun _ => ?_
  refine Plans.quiet_bind (Quiet.of_settle _) hW fun _ => ?_
  exact Plans.enter_bind (by decide)
    (Plans.forM ProbeGroup.count_probing_trace fun g _ => group_plans ctl client sc live g)

end Drive

namespace Scenario

variable {σ : Type} (ctl : ControllerBehavior σ) (config : ControllerConfig) (sc : Scenario)
  (tb : Testbed σ)

theorem run_report_of_provision_ok {live : LiveNetwork}
    (h : (sc.provisionOn (tb.syncQuarantine ctl).backend).network = .ok live) :
    ∃ (r : Except Error Unit) (R : ScenarioReport) (errors : List String),
      Drive.Follows sc.plannedTrace sc.groups
        (({ scenario := sc.name } : ScenarioReport).enter .provisioned) (r, R) ∧
      ((sc.run ctl config).run tb).1 =
        { (match r with
            | .ok () => R
            | .error e => R.abort e.message) with teardownErrors := errors }.enter .tornDown := by
  rw [run_of_provision_ok ctl config sc tb h]
  exact ⟨_, _, _, Drive.scenario_plans ctl ⟨Testbed.wire ctl, config⟩ sc live _ _, rfl⟩

/-- The states a run records follow the scenario's state machine. -/
theorem run_records_planned_states :
    (let report := ((sc.run ctl config).run tb).1;
      (∃ e, (sc.provisionOn (tb.syncQuarantine ctl).backend).network = .error e ∧
          report.states = [.init, .tornDown] ∧ report.aborted.map (·.state) = some .init) ∨
        ((∃ live, (sc.provisionOn (tb.syncQuarantine ctl).backend).network = .ok live) ∧
          ∃ w, w <+: sc.plannedTrace ∧
            report.states = [.init, .provisioned] ++ w ++ [.tornDown] ∧
            (report.aborted = none ↔ w = sc.plannedTrace) ∧
            (∀ a, report.aborted = some a → some a.state = report.states.dropLast.getLast?) ∧
            report.groups.length = w.count .probing ∧
            List.Forall₂ GroupReport.Describes report.groups
              (sc.groups.take (w.count .probing)))) := by
  intro report
  cases hnet : (sc.provisionOn (tb.syncQuarantine ctl).backend).network with
  | error e =>
    have hrep : report = _ := congrArg Prod.fst (run_of_provision_error ctl config sc tb hnet)
    refine Or.inl ⟨e, rfl, ?_⟩
    rw [hrep]
    exact ⟨rfl, rfl⟩
  | ok live =>
    refine Or.inr ⟨⟨live, rfl⟩, ?_⟩
    obtain ⟨r, R, errors, ⟨w, reps, hR, hlen, hrel, hend⟩, hrep⟩ :=
      run_report_of_provision_ok ctl config sc tb hnet
    dsimp only at hR hend
    subst hR
    have hrep' : report = _ := hrep
    rw [hrep']
    cases r with
    | ok u =>
      have hw : w = sc.plannedTrace := hend
      refine ⟨w, hw ▸ List.prefix_refl _, ?_, ?_, ?_, ?_, ?_⟩
      · simp
      · simp [hw]
      · simp
      · simpa using hlen
      · simpa [hlen] using hrel
    | error e =>
      obtain ⟨hpre, hne⟩ := hend
      refine ⟨w, hpre, ?_, ?_, ?_, ?_, ?_⟩
      · simp
      · simp [hne]
      · rintro a ha
        simp only [ScenarioReport.enter_aborted, ScenarioReport.abort_aborted,
          Option.some.injEq] at ha
        subst ha
        simp only [ScenarioReport.enter_states, ScenarioReport.abort_states, List.dropLast_concat]
        exact ScenarioReport.state_eq_getLast? _ (by simp)
      · simpa using hlen
      · simpa [hlen] using hrel

end Scenario

end MudTestbed
