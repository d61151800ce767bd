import MudTestbed.Proofs.Probe.Verdict
import MudTestbed.Proofs.Provision.Outcome
import MudTestbed.Proofs.Scenario.Trace

/-!
# What validation guarantees a run

`Scenario.validate` resolves the address plan and checks that every probe source and every
host a transition names is a host of the topology, and that every transition names a host
or a MAC address. A run resolves the same plan against the same topology, so after
validation:

* provisioning gets past resolution: it fails, if at all, while building the network, and a
  network it gives carries the resolved plan;
* every transition finds its device, and one that names a host and no MAC address targets
  the address configuring that host sets on its gateway interface: the planned one, or the
  sequential one of the host's index (`ResolvedPlan.GatewayMac`);
* no probe of the run is refused for an unknown source host.

The last point is a property of the results a run adds to its report, carried along the
run like `Drive.Quiet` (`Drive.ResultsSatisfy`).
-/

namespace MudTestbed

set_option autoImplicit false

/-! ### Reading the checks of `validate` -/

theorem forIn_except_ok {ε α : Type} {l : List α} {f : α → PUnit → Except ε (ForInStep PUnit)}
    (hf : ∀ a r, f a PUnit.unit = .ok r → r = .yield PUnit.unit)
    (h : forIn l PUnit.unit f = .ok PUnit.unit) :
    ∀ a ∈ l, f a PUnit.unit = .ok (.yield PUnit.unit) := by
  induction l with
  | nil => intro a ha; cases ha
  | cons x xs ih =>
    rw [List.forIn_cons] at h
    cases hx : f x PUnit.unit with
    | error e => rw [hx] at h; cases h
    | ok r =>
      obtain rfl := hf x r hx
      rw [hx] at h
      intro a ha
      rcases List.mem_cons.mp ha with rfl | ha
      · exact hx
      · exact ih h a ha

namespace Scenario

theorem validate_checks {s : Scenario} (h : s.validate = .ok ()) :
    (∃ R, s.plan.resolve s.topology = .ok R) ∧
    ∀ g ∈ s.groups, (∀ p ∈ g.probes, (s.topology.host? p.source).isSome) ∧
      ∀ tr ∈ g.transitions, (tr.host.isSome ∨ tr.mac.isSome) ∧
        ∀ name, tr.host = some name → (s.topology.host? name).isSome := by
  unfold Scenario.validate at h
  simp only [bind, Except.bind, throw, throwThe, MonadExceptOf.throw, pure, Except.pure] at h
  split at h
  · cases h
  rename_i R hR
  refine ⟨⟨R, hR⟩, ?_⟩
  split at h
  · cases h
  rename_i hgroups
  refine fun g hg => ?_
  have hgok := forIn_except_ok (fun g r hr => ?_) hgroups g hg
  · split at hgok
    · cases hgok
    rename_i hprobes
    split at hgok
    · cases hgok
    rename_i htrans
    constructor
    · intro p hp
      have hpok := forIn_except_ok (fun p r hr => ?_) hprobes p hp
      · split at hpok
        · cases hpok
        · rename_i hnone
          simpa [Option.isSome_iff_ne_none] using hnone
      · split at hr
        · cases hr
        · cases hr
          rfl
    · intro tr htr
      have htok := forIn_except_ok (fun tr r hr => ?_) htrans tr htr
      · split at htok
        · rename_i name hhost
          split at htok
          · cases htok
          rename_i hnone
          refine ⟨Or.inl (by rw [hhost]; rfl), fun name' hname' => ?_⟩
          rw [hhost, Option.some.injEq] at hname'
          subst hname'
          simpa [Option.isSome_iff_ne_none] using hnone
        · rename_i hnot
          split at htok
          · cases htok
          rename_i hboth
          refine ⟨?_, fun name hname => absurd hname (hnot name)⟩
          cases hh : tr.host with
          | some _ => exact Or.inl rfl
          | none =>
            cases hm : tr.mac with
            | some _ => exact Or.inr rfl
            | none => rw [hh, hm] at hboth; exact absurd rfl hboth
      · repeat' split at hr
        all_goals (cases hr <;> rfl)
  · repeat' split at hr
    all_goals (cases hr <;> rfl)

end Scenario

/-! ### The MAC address of a resolved host -/

def InterfaceConfig.tag (i : InterfaceConfig) : String × Option MacAddr := (i.name, i.mac)

namespace AddressPlan

theorem addAddress_tags {ifs next : List InterfaceConfig} {name : String} {c : Ipv4Cidr}
    (h : addAddress ifs name c = some next) :
    next.map InterfaceConfig.tag = ifs.map InterfaceConfig.tag := by
  unfold addAddress at h
  split at h
  · cases h
    rw [List.map_map]
    refine List.map_congr_left fun x _ => ?_
    simp only [Function.comp, InterfaceConfig.tag]
    split <;> rfl
  · cases h

theorem forIn_tags {α ε : Type} {l : List α}
    {f : α → List InterfaceConfig → Except ε (ForInStep (List InterfaceConfig))}
    {start v : List InterfaceConfig} (h : forIn l start f = .ok v)
    (hf : ∀ a s r, f a s = .ok r → r.value.map InterfaceConfig.tag = s.map InterfaceConfig.tag) :
    v.map InterfaceConfig.tag = start.map InterfaceConfig.tag := by
  induction l generalizing start with
  | nil => cases h; rfl
  | cons a as ih =>
    rw [List.forIn_cons] at h
    cases hr : f a start with
    | error e => rw [hr] at h; cases h
    | ok r =>
      rw [hr] at h
      have hstep := hf a start r hr
      cases r with
      | done s => cases h; exact hstep
      | yield s => exact (ih h).trans hstep

theorem resolveHost_gateway {i : Nat} {host : Host} {plan : HostPlan} {c : HostConfig}
    (h : resolveHost i host plan = .ok c) :
    ∃ gw, host.gatewayInterface = some gw ∧ c.mac = plan.mac.getD (MacAddr.sequential i) ∧
      c.interfaces.map InterfaceConfig.tag =
        host.interfaces.map fun n => (n, if n == gw then some c.mac else none) := by
  unfold resolveHost at h
  simp only [bind, Except.bind, pure, Except.pure, throw, throwThe, MonadExceptOf.throw] at h
  split at h
  case h_2 => cases h
  rename_i gw hgw
  refine ⟨gw, hgw, ?_⟩
  split at h
  · split at h
    · cases h
    split at h
    · cases h
    rename_i ifs hfor
    have htags := forIn_tags hfor fun _ _ _ hr => by
      split at hr
      · cases hr
        exact addAddress_tags ‹_›
      · cases hr
    obtain ⟨hifs, hmac⟩ : c.interfaces = ifs ∧ c.mac = plan.mac.getD (MacAddr.sequential i) := by
      repeat' split at h
      all_goals (cases h <;> exact ⟨rfl, rfl⟩)
    refine ⟨hmac, ?_⟩
    rw [hifs, htags, hmac]
    cases host.interfaces <;> simp [InterfaceConfig.tag]
  · split at h
    · cases h
    rename_i ifs hfor
    have htags := forIn_tags hfor fun _ _ _ hr => by
      split at hr
      · cases hr
        exact addAddress_tags ‹_›
      · cases hr
    obtain ⟨hifs, hmac⟩ : c.interfaces = ifs ∧ c.mac = plan.mac.getD (MacAddr.sequential i) := by
      repeat' split at h
      all_goals (cases h <;> exact ⟨rfl, rfl⟩)
    refine ⟨hmac, ?_⟩
    rw [hifs, htags, hmac, List.map_map]
    rfl

theorem resolveHosts_find (p : AddressPlan) {hs : List Host} :
    ∀ {i : Nat} {seen : List MacAddr} {cs : List HostConfig}, p.resolveHosts i seen hs = .ok cs →
      ∀ {name : String} {c : HostConfig}, cs.find? (·.name == name) = some c →
        ∃ k host, hs.findIdx? (·.name == name) = some k ∧ hs[k]? = some host ∧
          resolveHost (i + k) host ((lookupSorted name p.hosts).getD {}) = .ok c := by
  induction hs with
  | nil =>
    intro i seen cs h name c hc
    cases h
    cases hc
  | cons host rest ih =>
    intro i seen cs h name c hc
    simp only [resolveHosts, bind, Except.bind] at h
    split at h
    · cases h
    rename_i config hconfig
    split at h
    · simp [throw, throwThe, MonadExceptOf.throw] at h
    split at h
    · cases h
    rename_i others hothers
    cases h
    have hname := resolveHost_name hconfig
    rw [List.find?_cons] at hc
    by_cases hhere : host.name = name
    · rw [hname, hhere, beq_self_eq_true] at hc
      cases hc
      refine ⟨0, host, ?_, rfl, ?_⟩
      · rw [List.findIdx?_cons, hhere, beq_self_eq_true, if_pos rfl]
      · rw [Nat.add_zero, ← hhere]
        exact hconfig
    · have hne : (config.name == name) = false := by rw [hname]; exact beq_false_of_ne hhere
      rw [hne] at hc
      obtain ⟨k, h', hk, hh', hres⟩ := ih hothers hc
      refine ⟨k + 1, h', ?_, hh', ?_⟩
      · rw [List.findIdx?_cons, beq_false_of_ne hhere, if_neg Bool.false_ne_true, hk]
        rfl
      · rw [← Nat.add_assoc, Nat.add_right_comm]
        exact hres

end AddressPlan

theorem mem_hostCommands_of_mac {c : HostConfig} {i : InterfaceConfig} {m : MacAddr}
    (hi : i ∈ c.interfaces) (hm : i.mac = some m) :
    HostCommand.required ["ip", "link", "set", "dev", i.name, "address", m.toText] ∈
      hostCommands c := by
  unfold hostCommands
  refine List.mem_append_left _ (List.mem_append_left _ (List.mem_flatMap.mpr ⟨i, hi, ?_⟩))
  simp [HostCommand.forInterface, hm]

/-- `m` is the MAC address configuring host `name` sets on its gateway interface. -/
def ResolvedPlan.GatewayMac (R : ResolvedPlan) (t : Topology) (p : AddressPlan) (name : String)
    (m : MacAddr) : Prop :=
  ∃ i host c gw, t.hosts.findIdx? (·.name == name) = some i ∧ t.hosts[i]? = some host ∧
    host.gatewayInterface = some gw ∧ R.host? name = some c ∧ c.mac = m ∧
    m = ((lookupSorted name p.hosts).getD {}).mac.getD (MacAddr.sequential i) ∧
    HostCommand.required ["ip", "link", "set", "dev", gw, "address", m.toText] ∈ hostCommands c

namespace ResolvedPlan

theorem gatewayMac_of_host? {p : AddressPlan} {t : Topology} {R : ResolvedPlan}
    (hR : p.resolve t = .ok R) {name : String} {c : HostConfig} (hc : R.host? name = some c) :
    R.GatewayMac t p name c.mac := by
  obtain ⟨i, host, hi, hhost, hres⟩ := p.resolveHosts_find (AddressPlan.resolve_hosts hR) hc
  obtain ⟨gw, hgw, hmac, htags⟩ := AddressPlan.resolveHost_gateway hres
  rw [Nat.zero_add] at hmac
  refine ⟨i, host, c, gw, hi, hhost, hgw, hc, rfl, hmac, ?_⟩
  obtain ⟨rest, hifs⟩ : ∃ rest, host.interfaces = gw :: rest := by
    unfold Host.gatewayInterface at hgw
    cases hh : host.interfaces with
    | nil => rw [hh] at hgw; cases hgw
    | cons g rest => rw [hh, List.head?_cons, Option.some.injEq] at hgw; exact ⟨rest, hgw ▸ rfl⟩
  rw [hifs] at htags
  cases hci : c.interfaces with
  | nil => rw [hci] at htags; cases htags
  | cons i0 others =>
    rw [hci, List.map_cons, List.map_cons, beq_self_eq_true, if_pos rfl] at htags
    have h0 := (List.cons.inj htags).1
    simp only [InterfaceConfig.tag, Prod.mk.injEq] at h0
    have hmem := mem_hostCommands_of_mac (hci ▸ List.mem_cons_self) h0.2
    rwa [h0.1] at hmem

theorem host?_isSome {p : AddressPlan} {t : Topology} {R : ResolvedPlan}
    (hR : p.resolve t = .ok R) {name : String} (hn : (t.host? name).isSome) :
    (R.host? name).isSome := by
  unfold host? Topology.host? at *
  rw [List.find?_isSome] at hn ⊢
  obtain ⟨x, hx, hxn⟩ := hn
  have hmem : name ∈ R.hosts.map (·.name) := by
    rw [AddressPlan.resolve_host_names hR]
    exact List.mem_map.mpr ⟨x, hx, by simpa using hxn⟩
  obtain ⟨y, hy, rfl⟩ := List.mem_map.mp hmem
  exact ⟨y, hy, by simp⟩

end ResolvedPlan

theorem Transition.target_of_checked {p : AddressPlan} {t : Topology} {R : ResolvedPlan}
    (hR : p.resolve t = .ok R) {tr : Transition} (hnamed : tr.host.isSome ∨ tr.mac.isSome)
    (hhost : ∀ name, tr.host = some name → (t.host? name).isSome) :
    ∃ m, tr.target R = .ok m ∧
      (tr.mac = none → ∀ name, tr.host = some name → R.GatewayMac t p name m) := by
  cases hmac : tr.mac with
  | some m =>
    refine ⟨m, ?_, fun h => by cases h⟩
    unfold target
    rw [hmac]
  | none =>
    cases hh : tr.host with
    | none => rw [hh, hmac] at hnamed; simp at hnamed
    | some name =>
      obtain ⟨c, hc⟩ := Option.isSome_iff_exists.mp
        (ResolvedPlan.host?_isSome hR (hhost name hh))
      refine ⟨c.mac, ?_, fun _ name' hname' => ?_⟩
      · unfold target
        rw [hmac, hh]
        dsimp only
        rw [hc]
      · rw [Option.some.injEq] at hname'
        subst hname'
        exact ResolvedPlan.gatewayMac_of_host? hR hc

/-! ### Provisioning after resolution -/

theorem provision_network_ok {settings : ProvisionSettings} {t : Topology} {plan : AddressPlan}
    {b : MemoryBackend} {live : LiveNetwork} (h : (provision settings t plan b).network = .ok live) :
    plan.resolve t = .ok live.plan ∧ live.topology = t ∧ live.tornDown = false := by
  unfold provision at h
  split at h
  · cases h
  rename_i R hR
  rcases hrun : (Bench.build settings t R).run ⟨b, {}, 0, none⟩ with ⟨r, s⟩
  rw [hrun] at h
  cases r with
  | ok u => cases h; exact ⟨hR, rfl, rfl⟩
  | error e => cases h

theorem provision_network_error {settings : ProvisionSettings} {t : Topology}
    {plan : AddressPlan} {R : ResolvedPlan} (hR : plan.resolve t = .ok R) {b : MemoryBackend}
    {e : Error} (h : (provision settings t plan b).network = .error e) :
    ((Bench.build settings t R).run ⟨b, {}, 0, none⟩).1 = .error e := by
  unfold provision at h
  rw [hR] at h
  dsimp only at h
  rcases hrun : (Bench.build settings t R).run ⟨b, {}, 0, none⟩ with ⟨r, s⟩
  rw [hrun] at h
  cases r with
  | ok u => cases h
  | error e' => cases h; rfl

/-! ### Probes of a run -/

theorem append_ne_of_head?_ne {a b : String} (x y : String) (ha : a.toList ≠ [])
    (hb : b.toList ≠ []) (hne : a.toList.head? ≠ b.toList.head?) : a ++ x ≠ b ++ y := by
  intro h
  have hhead := congrArg (fun s : String => s.toList.head?) h
  simp only [String.toList_append, List.head?_append] at hhead
  obtain ⟨c, rest, hc⟩ := List.exists_cons_of_ne_nil ha
  obtain ⟨d, rest', hd⟩ := List.exists_cons_of_ne_nil hb
  rw [hc, hd, List.head?_cons, List.head?_cons, Option.some_or, Option.some_or] at hhead
  rw [hc, hd, List.head?_cons, List.head?_cons] at hne
  exact hne hhead

namespace MemoryBackend

theorem exec_error {b : MemoryBackend} {host : String} {argv : List String} {e : Error}
    (h : b.exec host argv = .error e) : e = .backend s!"no such host: {host}" := by
  unfold exec at h
  split at h
  · cases h
    rfl
  · cases h

end MemoryBackend

namespace Session

theorem runProbe_known_source {s : Session} {spec : ProbeSpec}
    (h : (s.network.topology.host? spec.source).isSome) :
    (s.runProbe spec).1.observation ≠ .setupFailed ("unknown source host " ++ spec.source) := by
  have hbackend : ∀ d, (Error.backend d).message ≠ "unknown source host " ++ spec.source :=
    fun d => append_ne_of_head?_ne d spec.source (by decide) (by decide) (by decide)
  have hsetup : ∀ d, (Error.probeSetup d).message ≠ "unknown source host " ++ spec.source :=
    fun d => append_ne_of_head?_ne d spec.source (by decide) (by decide) (by decide)
  unfold runProbe
  split_ifs with htorn hunknown
  · exact fun h' => by cases h'
  · rw [Option.isNone_iff_eq_none] at hunknown
    rw [hunknown] at h
    cases h
  · exact fun h' => by cases h'
  · split
    · exact fun h' => by cases h'
    · rename_i e _ hexec
      rw [MemoryBackend.exec_error hexec]
      exact fun h' => hbackend _ (Observation.setupFailed.inj h')
    · dsimp only
      split
      · exact fun h' => by cases h'
      · rename_i e hclass
        obtain ⟨d, rfl⟩ := Probe.classify_error hclass
        exact fun h' => hsetup d (Observation.setupFailed.inj h')

theorem runSequence_results (Q : ProbeResult → Prop) (s : Session) (specs : List ProbeSpec)
    (h : ∀ s' : Session, s'.network = s.network → ∀ spec ∈ specs, Q (s'.runProbe spec).1) :
    ∀ r ∈ (s.runSequence specs).1, Q r := by
  induction specs generalizing s with
  | nil => intro r hr; cases hr
  | cons spec rest ih =>
    obtain ⟨cmds, hs⟩ := s.runProbe_session spec
    intro r hr
    rw [runSequence] at hr
    rcases List.mem_cons.mp hr with rfl | hr
    · exact h s rfl spec List.mem_cons_self
    · refine ih (s.runProbe spec).2 (fun s' hs' spec' hspec' => ?_) r hr
      rw [hs] at hs'
      exact h s' hs' spec' (List.mem_cons_of_mem spec hspec')

end Session

namespace Drive

variable {σ α β : Type} (Q : ProbeResult → Prop)

def ResultsSatisfy (x : Drive σ α) : Prop :=
  ∀ R tb, (∀ r ∈ R.results, Q r) → ∀ r ∈ ((x.run.run R).run tb).1.2.results, Q r

namespace ResultsSatisfy

variable {Q}

theorem of_quiet {x : Drive σ α} (hx : Quiet x) : ResultsSatisfy Q x := by
  intro R tb hR
  rw [hx R tb]
  exact hR

theorem of_enter (s : ScenarioState) : ResultsSatisfy Q (enter s : Drive σ Unit) :=
  fun _ _ hR => hR

theorem bind {x : Drive σ α} {f : α → Drive σ β} (hx : ResultsSatisfy Q x)
    (hf : ∀ a, ResultsSatisfy Q (f a)) : ResultsSatisfy Q (x >>= f) := by
  intro R tb hR
  have hmid := hx R tb hR
  rw [DriveRun.bind_eq]
  rcases hres : (x.run.run R).run tb with ⟨⟨e | a, R'⟩, tb'⟩ <;> rw [hres] at hmid
  · exact hmid
  · exact hf a R' tb' hmid

theorem forM {xs : List α} {f : α → Drive σ PUnit} (h : ∀ a ∈ xs, ResultsSatisfy Q (f a)) :
    ResultsSatisfy Q (xs.forM f) := by
  induction xs with
  | nil => exact of_quiet (Quiet.of_pure _)
  | cons a as ih =>
    show ResultsSatisfy Q (f a >>= fun _ => as.forM f)
    exact bind (h a List.mem_cons_self) fun _ => ih fun b hb => h b (List.mem_cons_of_mem a hb)

end ResultsSatisfy

variable {Q} (ctl : ControllerBehavior σ) (client : ControllerClient (TestbedStep σ))
  (sc : Scenario) (live : LiveNetwork)

theorem probe_run (specs : List ProbeSpec) (R : ScenarioReport) (tb : Testbed σ) :
    ((probe ctl sc live specs).run.run R).run tb =
      ((.ok ((⟨live, (tb.syncQuarantine ctl).backend, sc.tools⟩ : Session).runSequence specs).1,
        R), Testbed.halt
          ((⟨live, (tb.syncQuarantine ctl).backend, sc.tools⟩ : Session).sequencePanic specs)
          { tb.syncQuarantine ctl with backend :=
            ((⟨live, (tb.syncQuarantine ctl).backend, sc.tools⟩ : Session).runSequence
              specs).2.backend }) :=
  rfl

theorem runProbes_results (g : ProbeGroup)
    (h : ∀ s : Session, s.network = live → ∀ spec ∈ g.probes, Q (s.runProbe spec).1) :
    ResultsSatisfy Q (runProbes ctl sc live g) := by
  intro R tb hR
  unfold runProbes
  rw [DriveRun.bind_eq, DriveRun.enter_eq]
  dsimp only
  rw [DriveRun.bind_eq, probe_run]
  dsimp only
  rw [DriveRun.modifyReport_eq]
  intro r hr
  simp only [ScenarioReport.results, List.flatMap_append, List.mem_append] at hr
  rcases hr with hr | hr
  · exact hR r hr
  · simp only [List.flatMap_cons, List.flatMap_nil, List.append_nil] at hr
    exact Session.runSequence_results Q _ g.probes (fun s' hs' => h s' hs') r hr

theorem group_results (g : ProbeGroup)
    (h : ∀ s : Session, s.network = live → ∀ spec ∈ g.probes, Q (s.runProbe spec).1) :
    ResultsSatisfy Q (group ctl client sc live g) := by
  unfold group
  refine ResultsSatisfy.bind ?_ fun _ => ResultsSatisfy.bind ?_ fun _ =>
    runProbes_results ctl sc live g h
  · split
    · exact ResultsSatisfy.of_quiet (Quiet.of_pure _)
    · unfold runTransitions
      exact ResultsSatisfy.bind (ResultsSatisfy.of_enter _) fun _ =>
        ResultsSatisfy.of_quiet (Quiet.bind (Quiet.forM fun t _ => transition_quiet client live t)
          fun _ => Quiet.of_settle _)
  · split
    · exact ResultsSatisfy.of_quiet (awaitReport_quiet ctl client sc)
    · exact ResultsSatisfy.of_quiet (Quiet.of_pure _)

theorem scenario_results
    (h : ∀ g ∈ sc.groups, ∀ s : Session, s.network = live → ∀ spec ∈ g.probes,
      Q (s.runProbe spec).1) :
    ResultsSatisfy Q (scenario ctl client sc live) := by
  unfold scenario
  refine ResultsSatisfy.bind (ResultsSatisfy.of_quiet (Quiet.of_call _)) fun _ => ?_
  refine ResultsSatisfy.bind
    (ResultsSatisfy.of_quiet (Quiet.forM fun _ _ => Quiet.of_call _)) fun _ => ?_
  refine ResultsSatisfy.bind (ResultsSatisfy.of_quiet (Quiet.of_settle _)) fun _ => ?_
  exact ResultsSatisfy.bind (ResultsSatisfy.of_enter _) fun _ =>
    ResultsSatisfy.forM fun g hg => group_results ctl client sc live g (h g hg)

end Drive

namespace Scenario

variable {σ : Type} (ctl : ControllerBehavior σ) (config : ControllerConfig) (sc : Scenario)
  (tb : Testbed σ)

theorem run_results {Q : ProbeResult → Prop}
    (h : ∀ live, (sc.provisionOn (tb.syncQuarantine ctl).backend).network = .ok live →
      Drive.ResultsSatisfy Q (Drive.scenario ctl ⟨Testbed.wire ctl, config⟩ sc live)) :
    ∀ r ∈ ((sc.run ctl config).run tb).1.results, Q r := by
  cases hnet : (sc.provisionOn (tb.syncQuarantine ctl).backend).network with
  | error e =>
    rw [run_of_provision_error ctl config sc tb hnet]
    intro r hr
    cases hr
  | ok live =>
    rw [run_of_provision_ok ctl config sc tb hnet]
    intro r hr
    have hdrive := h live hnet (({ scenario := sc.name } : ScenarioReport).enter .provisioned)
      (Testbed.halt (sc.provisionOn (tb.syncQuarantine ctl).backend).halted
        { tb.syncQuarantine ctl with
          backend := (sc.provisionOn (tb.syncQuarantine ctl).backend).backend,
          clock := (tb.syncQuarantine ctl).clock +
            (sc.provisionOn (tb.syncQuarantine ctl).backend).elapsedMs })
      (fun r hr => by cases hr)
    dsimp only at hr
    split at hr <;> exact hdrive r hr

end Scenario

end MudTestbed

namespace MudTestbed

set_option autoImplicit false

/-- A validated scenario never fails on a dangling reference. -/
theorem validated_scenario_references_resolve (sc : Scenario) (hv : sc.validate = .ok ()) :
    ∃ R, sc.plan.resolve sc.topology = .ok R ∧
      (∀ b e, (sc.provisionOn b).network = .error e →
        ((Bench.build { connectTimeoutSecs := sc.timing.connectTimeoutSecs } sc.topology R).run
          ⟨b, {}, 0, none⟩).1 = .error e) ∧
      (∀ b live, (sc.provisionOn b).network = .ok live → live.plan = R) ∧
      (∀ g ∈ sc.groups, ∀ tr ∈ g.transitions, ∃ m, tr.target R = .ok m ∧
        (tr.mac = none → ∀ name, tr.host = some name → R.GatewayMac sc.topology sc.plan name m) ∧
        ∀ {σ : Type} (client : ControllerClient (TestbedStep σ)) (live : LiveNetwork),
          live.plan = R → Drive.transition client live tr = match tr.action with
            | .quarantine => Drive.call (client.quarantine m)
            | .unquarantine => Drive.call (client.unquarantine m)) ∧
      ∀ {σ : Type} (ctl : ControllerBehavior σ) (config : ControllerConfig) (tb : Testbed σ),
        ∀ r ∈ ((sc.run ctl config).run tb).1.results,
          r.observation ≠ .setupFailed ("unknown source host " ++ r.spec.source) := by
  obtain ⟨⟨R, hR⟩, hgroups⟩ := Scenario.validate_checks hv
  refine ⟨R, hR, fun b e h => provision_network_error hR h, fun b live h => ?_,
    fun g hg tr htr => ?_, ?_⟩
  · have hplan := (provision_network_ok h).1
    rw [hR, Except.ok.injEq] at hplan
    exact hplan.symm
  · obtain ⟨hnamed, hhost⟩ := (hgroups g hg).2 tr htr
    obtain ⟨m, htarget, hgw⟩ := Transition.target_of_checked hR hnamed hhost
    refine ⟨m, htarget, hgw, fun client live hlive => ?_⟩
    unfold Drive.transition
    rw [hlive, htarget]
    rfl
  · intro σ ctl config tb
    refine Scenario.run_results ctl config sc tb fun live hlive =>
      Drive.scenario_results ctl _ sc live fun g hg s hs spec hspec => ?_
    obtain ⟨-, htopo, -⟩ := provision_network_ok hlive
    show (s.runProbe spec).1.observation ≠
      .setupFailed ("unknown source host " ++ (s.runProbe spec).1.spec.source)
    rw [Session.runProbe_spec]
    apply Session.runProbe_known_source
    rw [hs, htopo]
    exact (hgroups g hg).1 spec hspec

/-- A scenario quarantining its host by name validates, and its transition resolves. -/
theorem named_host_transition_resolves :
    let sc : Scenario := ⟨"one host", { hosts := [{ name := "h1", interfaces := ["h1-eth0"] }] },
      { hosts := [("h1", { defaultRoute := some (Ipv4Addr.ofOctets 10 0 0 254) })] }, [],
      [⟨"quarantine h1", [⟨.quarantine, none, some "h1"⟩], false,
        [⟨"h1", .http "http://10.0.0.2/" 1, 20, .failure⟩]⟩], {}, {}⟩
    sc.validate = .ok () ∧ ∃ R, sc.plan.resolve sc.topology = .ok R ∧
      ∀ g ∈ sc.groups, ∀ tr ∈ g.transitions, ∃ m, tr.target R = .ok m := by
  intro sc
  have hv : sc.validate = .ok () := rfl
  obtain ⟨R, hR, -, -, htargets, -⟩ := validated_scenario_references_resolve sc hv
  exact ⟨hv, R, hR, fun g hg tr htr => (htargets g hg tr htr).imp fun _ h => h.1⟩

end MudTestbed
