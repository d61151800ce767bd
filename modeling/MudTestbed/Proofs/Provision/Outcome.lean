import Mathlib.Data.List.Perm.Basic
import MudTestbed.Proofs.Topology.Interfaces
import MudTestbed.Proofs.Provision.Build
import MudTestbed.Proofs.Provision.Configure
import MudTestbed.Proofs.Provision.Cleanup

/-!
# What provisioning builds

`ProvisionSpec` says what a provisioning run on the in-memory backend promises. It
succeeds exactly when no host is refused, no switch is cut off from its controllers and no
required configuration command fails; a best-effort command never matters. A failure is
that of the first phase that fails: the first refused host in topology order, else the first
cut-off switch in topology order, else a required command, after which no later command of
its host ran. A success creates exactly the topology: each host, switch and link once, and
each switch started with the endpoints of the plan.

The main statement, `provision_reachable_meets_spec`, holds for every topology the topology
operations build and every empty backend, whatever faults it injects. It rests on three
facts proved before: reachable topologies are well formed, their links have distinct keys,
and a resolved plan configures exactly their hosts.
-/

namespace MudTestbed

set_option autoImplicit false

/-! ### Resolved hosts -/

namespace AddressPlan

theorem resolveHost_name {i : Nat} {host : Host} {plan : HostPlan} {c : HostConfig}
    (h : resolveHost i host plan = .ok c) : c.name = host.name := by
  unfold resolveHost at h
  simp only [bind, Except.bind, pure, Except.pure] at h
  repeat' split at h
  all_goals cases h <;> rfl

theorem resolveHosts_names (p : AddressPlan) {hs : List Host} :
    ∀ {i : Nat} {seen : List MacAddr} {cs : List HostConfig},
      p.resolveHosts i seen hs = .ok cs → cs.map (·.name) = hs.map (·.name) := by
  induction hs with
  | nil =>
    intro i seen cs h
    cases h
    rfl
  | cons host rest ih =>
    intro i seen cs h
    simp only [resolveHosts, bind, Except.bind] at h
    split at h
    · cases h
    rename_i config hc
    split at h
    · simp [throw, throwThe, MonadExceptOf.throw] at h
    split at h
    · cases h
    rename_i others ho
    cases h
    simp only [List.map_cons, resolveHost_name hc, ih ho]

theorem resolve_hosts {p : AddressPlan} {t : Topology} {R : ResolvedPlan}
    (h : p.resolve t = .ok R) : p.resolveHosts 0 [] t.hosts = .ok R.hosts := by
  unfold resolve at h
  simp only [bind, Except.bind] at h
  split at h
  · cases h
  split at h
  · cases h
  split at h
  · cases h
  rename_i hosts hh
  split at h
  · cases h
  cases h
  exact hh

theorem resolve_host_names {p : AddressPlan} {t : Topology} {R : ResolvedPlan}
    (h : p.resolve t = .ok R) : R.hosts.map (·.name) = t.hosts.map (·.name) :=
  p.resolveHosts_names (resolve_hosts h)

end AddressPlan

/-! ### The backend a run builds -/

namespace MemoryBackend

theorem isEmpty_eq_true {b : MemoryBackend} :
    b.isEmpty = true ↔
      b.hosts = [] ∧ b.switches = [] ∧ b.links = [] ∧ b.controllers = [] ∧ b.services = [] := by
  simp only [isEmpty, Bool.and_eq_true, List.isEmpty_iff, and_assoc]

/-- `b` with the objects of `t` created and its switches started with `R`'s endpoints. -/
def built (b : MemoryBackend) (t : Topology) (R : ResolvedPlan) : MemoryBackend :=
  { b with hosts := t.hosts.foldl (fun acc h => insertName h.name acc) b.hosts,
           switches := t.switches.foldl (fun acc sw => insertSorted sw.name sw.dpid acc) b.switches,
           links := b.links ++ t.linkOrder.map Link.key,
           controllers :=
             t.switches.foldl (fun acc sw => insertSorted sw.name (R.endpoints sw.name) acc)
               b.controllers }

section Built

variable {t : Topology} {b : MemoryBackend} (R : ResolvedPlan)

theorem built_hosts_perm (hw : t.WellFormed) (hb : b.hosts = []) :
    (b.built t R).hosts.Perm (t.hosts.map (·.name)) := by
  have h := foldl_insertName_perm (·.name) t.hosts [] (List.nodup_append.mp hw.names_nodup).1
    (by simp)
  rw [List.append_nil] at h
  simpa only [built, hb] using h

theorem built_switches_perm (hw : t.WellFormed) (hb : b.switches = []) :
    (b.built t R).switches.Perm (t.switches.map fun sw => (sw.name, sw.dpid)) := by
  have h := foldl_insertSorted_perm (·.name) (·.dpid) t.switches []
    (List.nodup_append.mp hw.names_nodup).2.1 (by simp)
  rw [List.append_nil] at h
  simpa only [built, hb] using h

theorem built_controllers_perm (hw : t.WellFormed) (hb : b.controllers = []) :
    (b.built t R).controllers.Perm (t.switches.map fun sw => (sw.name, R.endpoints sw.name)) := by
  have h := foldl_insertSorted_perm (·.name) (R.endpoints ·.name) t.switches []
    (List.nodup_append.mp hw.names_nodup).2.1 (by simp)
  rw [List.append_nil] at h
  simpa only [built, hb] using h

theorem built_links_perm (hw : t.WellFormed) (hk : (t.links.map Link.key).Nodup)
    (hb : b.links = []) : (b.built t R).links.Perm (t.links.map Link.key) := by
  simpa only [built, hb, List.nil_append] using (hw.linkOrder_perm hk).map Link.key

theorem hasNode_of_mem_nodeNames {b' : MemoryBackend} (hh : b'.hosts.Perm (t.hosts.map (·.name)))
    (hs : b'.switches.Perm (t.switches.map fun sw => (sw.name, sw.dpid))) {n : String}
    (hn : n ∈ t.nodeNames) : b'.hasNode n = true := by
  rcases List.mem_append.mp hn with hn | hn
  · simp [hasNode, hh.mem_iff.mpr hn]
  · obtain ⟨sw, hsw, rfl⟩ := List.mem_map.mp hn
    have hmem : (sw.name, sw.dpid) ∈ b'.switches := hs.mem_iff.mpr (List.mem_map_of_mem hsw)
    simp only [hasNode, Bool.or_eq_true, List.any_eq_true]
    exact .inr ⟨_, hmem, beq_self_eq_true _⟩

end Built

end MemoryBackend

theorem Topology.mem_nodeNames_of_kindOf {t : Topology} {n : String} {k : NodeKind}
    (h : t.kindOf n = some k) : n ∈ t.nodeNames := by
  by_contra hn
  rw [← Topology.kindOf_eq_none_iff] at hn
  rw [hn] at h
  cases h

theorem Resources.release_commands (r : Resources) (b : MemoryBackend) :
    (r.release b).commands = b.commands := by
  rw [Resources.release_eq]

/-! ### The build, phase by phase -/

theorem StepRun.exists_bind_ok {ε σ ρ ρ' β : Type} {x : ExceptT ε (StateM σ) PUnit}
    {f : PUnit → ExceptT ε (StateM σ) β} {s : σ} {S : ρ → σ} {G : ρ' → Except ε β × σ}
    (hx : ∃ r, x.run.run s = (.ok ⟨⟩, S r)) (hf : ∀ r, ∃ r', (f ⟨⟩).run.run (S r) = G r') :
    ∃ r', (x >>= f).run.run s = G r' := by
  obtain ⟨r, hr⟩ := hx
  obtain ⟨r', hr'⟩ := hf r
  exact ⟨r', by rw [StepRun.bind_eq, hr]; exact hr'⟩

theorem StepRun.bind_error_fst {ε σ α β : Type} {x : ExceptT ε (StateM σ) α}
    {f : α → ExceptT ε (StateM σ) β} {s : σ} {e : ε} (h : (x.run.run s).1 = .error e) :
    ((x >>= f).run.run s).1 = .error e := by
  rw [StepRun.bind_eq]
  rcases hx : x.run.run s with ⟨_ | _, _⟩ <;> rw [hx] at h <;> cases h
  rfl

namespace Bench

section Phases

variable (settings : ProvisionSettings) (R : ResolvedPlan) {t : Topology} {b : MemoryBackend}

theorem build_run_created (hw : t.WellFormed) (hk : (t.links.map Link.key).Nodup)
    (hb : b.isEmpty = true) (hok : ∀ h ∈ t.hosts, h.name ∉ b.failingHosts) :
    ∃ r, (build settings t R).run.run ⟨b, {}, 0, none⟩ =
      ((t.switches.forM fun sw => awaitSwitch settings sw.name) >>= fun _ =>
        configureHosts R.hosts >>= fun _ => startServices R.hosts).run.run
          ⟨b.built t R, r, 0, none⟩ := by
  obtain ⟨hbh, hbs, hbl, -, -⟩ := MemoryBackend.isEmpty_eq_true.mp hb
  have hnames := List.nodup_append.mp hw.names_nodup
  have hlinks := hw.linkOrder_perm hk
  unfold build
  refine StepRun.exists_bind_ok (createHosts_run_ok _ hnames.1 (by simp [hbh]) hok) fun r₁ => ?_
  refine StepRun.exists_bind_ok (createSwitches_run _ hnames.2.1 (by simp [hbs])) fun r₂ => ?_
  refine StepRun.exists_bind_ok (createLinks_run _ (fun l hl => ?ends)
    ((hlinks.map Link.key).nodup_iff.mpr hk) (by simp [hbl])) fun r₃ => ?_
  case ends =>
    have hnode : ∀ n ∈ t.nodeNames, (b.built t R).hasNode n := fun n hn =>
      MemoryBackend.hasNode_of_mem_nodeNames (MemoryBackend.built_hosts_perm R hw hbh)
        (MemoryBackend.built_switches_perm R hw hbs) hn
    obtain ⟨-, ha, hb', -⟩ := hw.link_ends l (hlinks.mem_iff.mp hl)
    exact ⟨hnode _ (Topology.mem_nodeNames_of_kindOf ha),
      hnode _ (Topology.mem_nodeNames_of_kindOf hb')⟩
  refine StepRun.exists_bind_ok (startSwitches_run _ R fun sw hsw => ?_) fun r₄ => ⟨r₄, rfl⟩
  exact ⟨(sw.name, sw.dpid),
    (MemoryBackend.built_switches_perm R hw hbs).mem_iff.mpr (List.mem_map_of_mem hsw), rfl⟩

theorem build_run_refused (hw : t.WellFormed) (hb : b.isEmpty = true) {h : Host}
    (hfirst : t.hosts.find? (fun h => b.failingHosts.contains h.name) = some h) :
    ((build settings t R).run.run ⟨b, {}, 0, none⟩).1 = .error
      (.provision s!"creating host {h.name}: backend error: cannot create host {h.name}") := by
  obtain ⟨hbh, -⟩ := MemoryBackend.isEmpty_eq_true.mp hb
  unfold build
  exact StepRun.bind_error_fst (createHosts_run_error ⟨b, {}, 0, none⟩
    (List.nodup_append.mp hw.names_nodup).1 (by simp [hbh]) hfirst)

theorem built_started (hw : t.WellFormed) (hb : b.isEmpty = true) :
    ∀ sw ∈ t.switches, ∃ p ∈ (b.built t R).controllers, p.1 = sw.name := by
  obtain ⟨-, -, -, hbc, -⟩ := MemoryBackend.isEmpty_eq_true.mp hb
  intro sw hsw
  exact ⟨(sw.name, R.endpoints sw.name),
    (MemoryBackend.built_controllers_perm R hw hbc).mem_iff.mpr (List.mem_map_of_mem hsw), rfl⟩

theorem build_run_cut_off (hw : t.WellFormed) (hk : (t.links.map Link.key).Nodup)
    (hb : b.isEmpty = true) (hok : ∀ h ∈ t.hosts, h.name ∉ b.failingHosts) {sw : Switch}
    (hfirst : t.switches.find? (fun sw => b.disconnected.contains sw.name) = some sw) :
    ((build settings t R).run.run ⟨b, {}, 0, none⟩).1 = .error (.controllerUnreachable
      s!"switch {sw.name} did not connect within {secondsText settings.connectTimeoutSecs}") := by
  obtain ⟨r, hrun⟩ := build_run_created settings R hw hk hb hok
  rw [hrun]
  exact StepRun.bind_error_fst (awaitSwitches_run_error settings ⟨b.built t R, r, 0, none⟩
    (built_started R hw hb) hfirst)

theorem build_run_timeout (hw : t.WellFormed) (hk : (t.links.map Link.key).Nodup)
    (hb : b.isEmpty = true) (hok : ∀ h ∈ t.hosts, h.name ∉ b.failingHosts) {sw : Switch}
    (hfirst : t.switches.find? (fun sw => b.disconnected.contains sw.name) = some sw) :
    ∃ r halted, (build settings t R).run.run ⟨b, {}, 0, none⟩ = (.error (.controllerUnreachable
      s!"switch {sw.name} did not connect within {secondsText settings.connectTimeoutSecs}"),
      ⟨b.built t R, r, settings.connectTimeoutSecs * 1000, halted⟩) ∧
      (Instant.fits (settings.connectTimeoutSecs * 1000 + max settings.connectPollMs 1) = true →
        halted = none) := by
  obtain ⟨r, hrun⟩ := build_run_created settings R hw hk hb hok
  obtain ⟨halted, hwait, hkept⟩ :=
    awaitSwitches_run_timeout settings ⟨b.built t R, r, 0, none⟩ (built_started R hw hb) hfirst
  refine ⟨r, halted, ?_, fun hfits => hkept (by rwa [Nat.zero_add])⟩
  rw [hrun, StepRun.bind_eq, hwait]
  dsimp only
  rw [Nat.zero_add]

theorem build_run_connected (hw : t.WellFormed) (hk : (t.links.map Link.key).Nodup)
    (hb : b.isEmpty = true) (hok : ∀ h ∈ t.hosts, h.name ∉ b.failingHosts)
    (hconn : ∀ sw ∈ t.switches, sw.name ∉ b.disconnected) :
    ∃ r halted, (build settings t R).run.run ⟨b, {}, 0, none⟩ =
      (configureHosts R.hosts >>= fun _ => startServices R.hosts).run.run
        ⟨b.built t R, r, 0, halted⟩ ∧
      (Instant.fits (settings.connectTimeoutSecs * 1000 + max settings.connectPollMs 1) = true →
        halted = none) := by
  obtain ⟨r, hrun⟩ := build_run_created settings R hw hk hb hok
  obtain ⟨halted, hwait, hkept⟩ :=
    awaitSwitches_run_ok settings ⟨b.built t R, r, 0, none⟩ (built_started R hw hb) hconn
  refine ⟨r, halted, ?_, fun hfits => hkept (by rwa [Nat.zero_add])⟩
  rw [hrun, StepRun.bind_eq, hwait]

theorem build_run_configured (hw : t.WellFormed) (hk : (t.links.map Link.key).Nodup)
    (hR : R.hosts.map (·.name) = t.hosts.map (·.name)) (hb : b.isEmpty = true)
    (hok : ∀ h ∈ t.hosts, h.name ∉ b.failingHosts)
    (hconn : ∀ sw ∈ t.switches, sw.name ∉ b.disconnected) :
    (∃ e s, (build settings t R).run.run ⟨b, {}, 0, none⟩ = (.error e, s) ∧
        CommandFailure (b.built t R) (R.hosts.map fun h => (h.name, hostCommands h)) e s.backend) ∨
      ∃ s, (build settings t R).run.run ⟨b, {}, 0, none⟩ = (.ok (), s) ∧
        (∀ h ∈ R.hosts, ∀ c ∈ hostCommands h, (b.built t R).accepts h.name c) ∧
        s.backend.hosts = (b.built t R).hosts ∧ s.backend.switches = (b.built t R).switches ∧
        s.backend.links = (b.built t R).links ∧
        s.backend.controllers = (b.built t R).controllers := by
  obtain ⟨hbh, -⟩ := MemoryBackend.isEmpty_eq_true.mp hb
  obtain ⟨r, halted, hrun, -⟩ := build_run_connected settings R hw hk hb hok hconn
  have hhosts : ∀ h ∈ R.hosts, h.name ∈ (b.built t R).hosts := fun h hh =>
    (MemoryBackend.built_hosts_perm R hw hbh).mem_iff.mpr (hR ▸ List.mem_map_of_mem hh)
  have hnd : (R.hosts.map (·.name)).Nodup := hR ▸ (List.nodup_append.mp hw.names_nodup).1
  obtain ⟨⟨cmds, clock, hs⟩, hdone, hfail⟩ :=
    configureHosts_run ⟨b.built t R, r, 0, halted⟩ hhosts hnd
  rw [hrun, StepRun.bind_eq]
  rcases hcfg : (configureHosts R.hosts).run.run ⟨b.built t R, r, 0, halted⟩ with ⟨_ | _, s⟩
  · rw [hcfg] at hfail
    exact .inl ⟨_, s, rfl, hfail _ rfl⟩
  · rw [hcfg] at hs hdone
    dsimp only at hs hdone
    subst hs
    obtain ⟨s', hsvc, v, n, r', rfl⟩ :=
      startServices_run ⟨(b.built t R).ran cmds, r, clock, halted⟩ fun h hh => hhosts h hh
    refine .inr ⟨_, hsvc, fun h hh c hc => ?_, rfl, rfl, rfl, rfl⟩
    exact hdone rfl (h.name, hostCommands h) (List.mem_map_of_mem hh) c hc

end Phases

end Bench

/-! ### The outcome of a run -/

/-- What provisioning `t` with plan `R` from `b` promises of its end `p`. -/
structure ProvisionSpec (settings : ProvisionSettings) (t : Topology) (R : ResolvedPlan)
    (b : MemoryBackend) (p : Provisioned) : Prop where
  /-- The run succeeds exactly when no host is refused, no switch cut off, no command fails. -/
  succeeds_iff : (∃ live, p.network = .ok live) ↔
    (∀ h ∈ t.hosts, h.name ∉ b.failingHosts) ∧ (∀ sw ∈ t.switches, sw.name ∉ b.disconnected) ∧
      ∀ h ∈ R.hosts, ∀ c ∈ hostCommands h, c.bestEffort = false →
        (b.answer h.name c.argv).success = true
  /-- The first refused host, in topology order, fails the run. -/
  host_refused : ∀ h, t.hosts.find? (fun h => b.failingHosts.contains h.name) = some h →
    p.network = .error
      (.provision s!"creating host {h.name}: backend error: cannot create host {h.name}")
  /-- Else the first switch cut off, in topology order, fails it. -/
  switch_cut_off : (∀ h ∈ t.hosts, h.name ∉ b.failingHosts) →
    ∀ sw, t.switches.find? (fun sw => b.disconnected.contains sw.name) = some sw →
      p.network = .error (.controllerUnreachable
        s!"switch {sw.name} did not connect within {secondsText settings.connectTimeoutSecs}")
  /-- Else a failure is that of a required command, after which its host ran no command. -/
  command_failed : (∀ h ∈ t.hosts, h.name ∉ b.failingHosts) →
    (∀ sw ∈ t.switches, sw.name ∉ b.disconnected) → ∀ e, p.network = .error e →
      ∃ h ∈ R.hosts, ∃ i c, (hostCommands h)[i]? = some c ∧ c.bestEffort = false ∧
        (b.answer h.name c.argv).success = false ∧
        e = Error.commandFailed h.name c.argv (b.answer h.name c.argv) ∧
        p.backend.commandsFor h.name =
          b.commandsFor h.name ++ ((hostCommands h).take (i + 1)).map (·.argv)
  /-- A success builds each host, switch and link once, switches with the plan's endpoints. -/
  builds_topology : ∀ live, p.network = .ok live → live.topology = t ∧ live.plan = R ∧
    p.backend.hosts.Perm (t.hosts.map (·.name)) ∧
    p.backend.switches.Perm (t.switches.map fun sw => (sw.name, sw.dpid)) ∧
    p.backend.links.Perm (t.links.map Link.key) ∧ (t.links.map Link.key).Nodup ∧
    p.backend.controllers.Perm (t.switches.map fun sw => (sw.name, R.endpoints sw.name))

section Provision

variable {settings : ProvisionSettings} {t : Topology} {plan : AddressPlan} {R : ResolvedPlan}
  {b : MemoryBackend}

theorem provision_of_build_ok (hR : plan.resolve t = .ok R) {s : Bench}
    (h : (Bench.build settings t R).run.run ⟨b, {}, 0, none⟩ = (.ok (), s)) :
    provision settings t plan b = ⟨.ok ⟨t, R, s.resources, false⟩, s.backend, s.clock, s.halted⟩ := by
  simp only [provision, hR]
  rw [show ExceptT.run (Bench.build settings t R) ⟨b, {}, 0, none⟩ = (.ok (), s) from h]

theorem provision_of_build_error (hR : plan.resolve t = .ok R) {e : Error} {s : Bench}
    (h : (Bench.build settings t R).run.run ⟨b, {}, 0, none⟩ = (.error e, s)) :
    provision settings t plan b =
      ⟨.error e, s.resources.release s.backend, s.clock, s.halted⟩ := by
  simp only [provision, hR]
  rw [show ExceptT.run (Bench.build settings t R) ⟨b, {}, 0, none⟩ = (.error e, s) from h]

theorem provision_network_of_build_error (hR : plan.resolve t = .ok R) {e : Error}
    (h : ((Bench.build settings t R).run.run ⟨b, {}, 0, none⟩).1 = .error e) :
    (provision settings t plan b).network = .error e := by
  rcases hrun : (Bench.build settings t R).run.run ⟨b, {}, 0, none⟩ with ⟨_ | _, s⟩ <;>
    rw [hrun] at h <;> cases h
  rw [provision_of_build_error hR hrun]

theorem provision_cut_off_at_timeout (settings : ProvisionSettings) (hw : t.WellFormed)
    (hk : (t.links.map Link.key).Nodup)
    (hR : plan.resolve t = .ok R) (hb : b.isEmpty = true)
    (hok : ∀ h ∈ t.hosts, h.name ∉ b.failingHosts) {sw : Switch}
    (hfirst : t.switches.find? (fun sw => b.disconnected.contains sw.name) = some sw) :
    ∃ b' halted, provision settings t plan b = ⟨.error (.controllerUnreachable
        s!"switch {sw.name} did not connect within {secondsText settings.connectTimeoutSecs}"),
        b', settings.connectTimeoutSecs * 1000, halted⟩ ∧ b'.isEmpty = true ∧
      (Instant.fits (settings.connectTimeoutSecs * 1000 + max settings.connectPollMs 1) = true →
        halted = none) := by
  obtain ⟨r, halted, hrun, hkept⟩ := Bench.build_run_timeout settings R hw hk hb hok hfirst
  have hprov := provision_of_build_error hR hrun
  refine ⟨_, halted, hprov, ?_, hkept⟩
  have hempty := provision_error_isEmpty hb (congrArg Provisioned.network hprov)
  rwa [hprov] at hempty

theorem MemoryBackend.accepts_eq_false {b : MemoryBackend} {host : String} {c : HostCommand} :
    b.accepts host c = false ↔ c.bestEffort = false ∧ (b.answer host c.argv).success = false := by
  simp [MemoryBackend.accepts, and_comm]

theorem provision_clean_of_ok (hw : t.WellFormed) (hk : (t.links.map Link.key).Nodup)
    (hR : plan.resolve t = .ok R) (hb : b.isEmpty = true) {live : LiveNetwork}
    (h : (provision settings t plan b).network = .ok live) :
    (∀ x ∈ t.hosts, x.name ∉ b.failingHosts) ∧ ∀ sw ∈ t.switches, sw.name ∉ b.disconnected := by
  have hok : ∀ x ∈ t.hosts, x.name ∉ b.failingHosts := by
    intro x hx hfail
    obtain ⟨y, hy⟩ : ∃ y, t.hosts.find? (fun h => b.failingHosts.contains h.name) = some y :=
      Option.isSome_iff_exists.mp (List.find?_isSome.mpr ⟨x, hx, by simpa using hfail⟩)
    rw [provision_network_of_build_error hR (Bench.build_run_refused settings R hw hb hy)] at h
    cases h
  refine ⟨hok, fun sw hsw hcut => ?_⟩
  obtain ⟨y, hy⟩ : ∃ y, t.switches.find? (fun sw => b.disconnected.contains sw.name) = some y :=
    Option.isSome_iff_exists.mp (List.find?_isSome.mpr ⟨sw, hsw, by simpa using hcut⟩)
  rw [provision_network_of_build_error hR (Bench.build_run_cut_off settings R hw hk hb hok hy)] at h
  cases h

theorem provision_commands_pass (hw : t.WellFormed) (hk : (t.links.map Link.key).Nodup)
    (hR : plan.resolve t = .ok R) (hb : b.isEmpty = true)
    (hok : ∀ x ∈ t.hosts, x.name ∉ b.failingHosts)
    (hconn : ∀ sw ∈ t.switches, sw.name ∉ b.disconnected) {live : LiveNetwork}
    (hlive : (provision settings t plan b).network = .ok live) :
    ∀ h ∈ R.hosts, ∀ c ∈ hostCommands h, c.bestEffort = false →
      (b.answer h.name c.argv).success = true := by
  intro h hh c hc hreq
  rcases Bench.build_run_configured settings R hw hk (AddressPlan.resolve_host_names hR) hb hok
    hconn with ⟨e, s, hrun, -⟩ | ⟨s, -, hall, -⟩
  · rw [provision_of_build_error hR hrun] at hlive
    cases hlive
  · have hpass : b.accepts h.name c = true := hall h hh c hc
    simpa [MemoryBackend.accepts, hreq] using hpass

theorem provision_ok_of_commands_pass (hw : t.WellFormed) (hk : (t.links.map Link.key).Nodup)
    (hR : plan.resolve t = .ok R) (hb : b.isEmpty = true)
    (hok : ∀ x ∈ t.hosts, x.name ∉ b.failingHosts)
    (hconn : ∀ sw ∈ t.switches, sw.name ∉ b.disconnected)
    (hall : ∀ h ∈ R.hosts, ∀ c ∈ hostCommands h, c.bestEffort = false →
      (b.answer h.name c.argv).success = true) :
    ∃ live, (provision settings t plan b).network = .ok live := by
  rcases Bench.build_run_configured settings R hw hk (AddressPlan.resolve_host_names hR) hb hok
    hconn with ⟨e, s, -, lane, hlane, i, c, hi, hc, -⟩ | ⟨s, hrun, -⟩
  · obtain ⟨h, hh, rfl⟩ := List.mem_map.mp hlane
    have hc' : b.accepts h.name c = false := hc
    obtain ⟨hreq, hfails⟩ := MemoryBackend.accepts_eq_false.mp hc'
    have hpass := hall h hh c (List.mem_of_getElem? hi) hreq
    rw [hfails] at hpass
    cases hpass
  · rw [provision_of_build_ok hR hrun]
    exact ⟨_, rfl⟩

theorem provision_command_failed (hw : t.WellFormed) (hk : (t.links.map Link.key).Nodup)
    (hR : plan.resolve t = .ok R) (hb : b.isEmpty = true)
    (hok : ∀ x ∈ t.hosts, x.name ∉ b.failingHosts)
    (hconn : ∀ sw ∈ t.switches, sw.name ∉ b.disconnected) {e : Error}
    (he : (provision settings t plan b).network = .error e) :
    ∃ h ∈ R.hosts, ∃ i c, (hostCommands h)[i]? = some c ∧ c.bestEffort = false ∧
      (b.answer h.name c.argv).success = false ∧
      e = Error.commandFailed h.name c.argv (b.answer h.name c.argv) ∧
      (provision settings t plan b).backend.commandsFor h.name =
        b.commandsFor h.name ++ ((hostCommands h).take (i + 1)).map (·.argv) := by
  rcases Bench.build_run_configured settings R hw hk (AddressPlan.resolve_host_names hR) hb hok
    hconn with ⟨e', s, hrun, lane, hlane, i, c, hi, hc, he', hrec⟩ | ⟨s, hrun, -⟩
  · rw [provision_of_build_error hR hrun] at he ⊢
    cases he
    obtain ⟨h, hh, rfl⟩ := List.mem_map.mp hlane
    have hc' : b.accepts h.name c = false := hc
    obtain ⟨hreq, hfails⟩ := MemoryBackend.accepts_eq_false.mp hc'
    refine ⟨h, hh, i, c, hi, hreq, hfails, he', ?_⟩
    simp only [MemoryBackend.commandsFor, Resources.release_commands]
    exact hrec
  · rw [provision_of_build_ok hR hrun] at he
    cases he

theorem provision_builds_topology (hw : t.WellFormed) (hk : (t.links.map Link.key).Nodup)
    (hR : plan.resolve t = .ok R) (hb : b.isEmpty = true)
    (hok : ∀ x ∈ t.hosts, x.name ∉ b.failingHosts)
    (hconn : ∀ sw ∈ t.switches, sw.name ∉ b.disconnected) {live : LiveNetwork}
    (hlive : (provision settings t plan b).network = .ok live) :
    live.topology = t ∧ live.plan = R ∧
      (provision settings t plan b).backend.hosts.Perm (t.hosts.map (·.name)) ∧
      (provision settings t plan b).backend.switches.Perm
        (t.switches.map fun sw => (sw.name, sw.dpid)) ∧
      (provision settings t plan b).backend.links.Perm (t.links.map Link.key) ∧
      (provision settings t plan b).backend.controllers.Perm
        (t.switches.map fun sw => (sw.name, R.endpoints sw.name)) := by
  obtain ⟨hbh, hbs, hbl, hbc, -⟩ := MemoryBackend.isEmpty_eq_true.mp hb
  rcases Bench.build_run_configured settings R hw hk (AddressPlan.resolve_host_names hR) hb hok
    hconn with ⟨e, s, hrun, -⟩ | ⟨s, hrun, -, hh, hs, hl, hc⟩
  · rw [provision_of_build_error hR hrun] at hlive
    cases hlive
  · rw [provision_of_build_ok hR hrun] at hlive ⊢
    cases hlive
    refine ⟨rfl, rfl, ?_, ?_, ?_, ?_⟩
    · rw [hh]
      exact MemoryBackend.built_hosts_perm R hw hbh
    · rw [hs]
      exact MemoryBackend.built_switches_perm R hw hbs
    · rw [hl]
      exact MemoryBackend.built_links_perm R hw hk hbl
    · rw [hc]
      exact MemoryBackend.built_controllers_perm R hw hbc

theorem provision_meets_spec (hw : t.WellFormed) (hk : (t.links.map Link.key).Nodup)
    (hR : plan.resolve t = .ok R) (hb : b.isEmpty = true) :
    ProvisionSpec settings t R b (provision settings t plan b) where
  succeeds_iff := by
    constructor
    · rintro ⟨live, hlive⟩
      obtain ⟨hok, hconn⟩ := provision_clean_of_ok hw hk hR hb hlive
      exact ⟨hok, hconn, provision_commands_pass hw hk hR hb hok hconn hlive⟩
    · rintro ⟨hok, hconn, hall⟩
      exact provision_ok_of_commands_pass hw hk hR hb hok hconn hall
  host_refused h hfirst :=
    provision_network_of_build_error hR (Bench.build_run_refused settings R hw hb hfirst)
  switch_cut_off hok sw hfirst :=
    provision_network_of_build_error hR (Bench.build_run_cut_off settings R hw hk hb hok hfirst)
  command_failed hok hconn _ he := provision_command_failed hw hk hR hb hok hconn he
  builds_topology live hlive := by
    obtain ⟨hok, hconn⟩ := provision_clean_of_ok hw hk hR hb hlive
    obtain ⟨htop, hplan, hh, hs, hl, hc⟩ := provision_builds_topology hw hk hR hb hok hconn hlive
    exact ⟨htop, hplan, hh, hs, hl, hk, hc⟩

end Provision

/-- Provisioning a built topology with a resolved plan meets `ProvisionSpec`. -/
theorem provision_reachable_meets_spec (settings : ProvisionSettings) (calls : List Topology.Call)
    (plan : AddressPlan) (R : ResolvedPlan) (b : MemoryBackend)
    (hR : plan.resolve (Topology.replay calls) = .ok R) (hb : b.isEmpty = true) :
    ProvisionSpec settings (Topology.replay calls) R b
      (provision settings (Topology.replay calls) plan b) :=
  provision_meets_spec (Topology.replay_wellFormed calls) (Topology.replay_keys_nodup calls) hR hb

/-- A host on a switch whose default route fails: the run meets the spec. -/
theorem provision_with_failing_route_meets_spec :
    let calls : List Topology.Call :=
      [.addHost "h1", .addSwitch "s1" none, .bindController "s1" "c1", .link "h1" "s1"]
    let plan : AddressPlan :=
      { hosts := [("h1", { defaultRoute := some ⟨0x0a0000fe⟩ })],
        controllers := [("c1", [⟨.v4 ⟨0x7f000001⟩ 6653⟩])] }
    let b : MemoryBackend := { failingCommands := ["ip route"] }
    let R := (plan.resolve (Topology.replay calls)).toOption.getD ⟨[], []⟩
    plan.resolve (Topology.replay calls) = .ok R ∧ b.isEmpty = true ∧
      ProvisionSpec {} (Topology.replay calls) R b
        (provision {} (Topology.replay calls) plan b) := by
  intro calls plan b R
  have hR : plan.resolve (Topology.replay calls) = .ok R := by decide
  have hb : b.isEmpty = true := by decide
  exact ⟨hR, hb, provision_reachable_meets_spec {} calls plan R b hR hb⟩

/-- The switch wait asks on its grid and times out exactly at its deadline. -/
theorem switch_wait_times_out_at_deadline (name : String) (timeoutSecs : Nat) {pollMs : Nat}
    (hp : 0 < pollMs) (s : SwitchSchedule) :
    WaitOutcome name timeoutSecs pollMs s
        ((SwitchSchedule.watch.waitConnected name timeoutSecs pollMs).run.run s) ∧
      ∀ (calls : List Topology.Call) (plan : AddressPlan) (R : ResolvedPlan) (b : MemoryBackend)
        (sw : Switch), plan.resolve (Topology.replay calls) = .ok R → b.isEmpty = true →
        (∀ h ∈ (Topology.replay calls).hosts, h.name ∉ b.failingHosts) →
        (Topology.replay calls).switches.find? (fun sw => b.disconnected.contains sw.name) =
          some sw →
        Instant.fits (timeoutSecs * 1000 + pollMs) = true →
        ∃ b', provision ⟨timeoutSecs, pollMs⟩ (Topology.replay calls) plan b =
            ⟨.error (.controllerUnreachable
              s!"switch {sw.name} did not connect within {secondsText timeoutSecs}"),
              b', timeoutSecs * 1000, none⟩ ∧ b'.isEmpty = true := by
  refine ⟨SwitchSchedule.waitConnected_outcome name hp timeoutSecs s,
    fun calls _ _ _ _ hR hb hok hfirst hfits => ?_⟩
  obtain ⟨b', halted, hprov, hempty, hkept⟩ := provision_cut_off_at_timeout ⟨timeoutSecs, pollMs⟩
    (Topology.replay_wellFormed calls) (Topology.replay_keys_nodup calls) hR hb hok hfirst
  have hnone : halted = none :=
    hkept (by simpa only [Nat.max_eq_left (show 1 ≤ pollMs by omega)] using hfits)
  exact ⟨b', hnone ▸ hprov, hempty⟩

/-- A switch that connects on its third question, and one cut off from its controller. -/
theorem cut_off_switch_times_out :
    let calls : List Topology.Call :=
      [.addHost "h1", .addSwitch "s1" none, .bindController "s1" "c1", .link "h1" "s1"]
    let plan : AddressPlan :=
      { hosts := [("h1", { defaultRoute := some ⟨0x0a0000fe⟩ })],
        controllers := [("c1", [⟨.v4 ⟨0x7f000001⟩ 6653⟩])] }
    let b : MemoryBackend := { disconnected := ["s1"] }
    let R := (plan.resolve (Topology.replay calls)).toOption.getD ⟨[], []⟩
    let sw : Switch := { name := "s1", controllers := ["c1"], ports := ["s1-eth1"] }
    let s : SwitchSchedule := { answers := fun k => .ok (decide (2 ≤ k)) }
    0 < 500 ∧
      WaitOutcome "s1" 30 500 s ((SwitchSchedule.watch.waitConnected "s1" 30 500).run.run s) ∧
      plan.resolve (Topology.replay calls) = .ok R ∧ b.isEmpty = true ∧
      (∀ h ∈ (Topology.replay calls).hosts, h.name ∉ b.failingHosts) ∧
      (Topology.replay calls).switches.find? (fun sw => b.disconnected.contains sw.name) =
        some sw ∧
      Instant.fits (30 * 1000 + 500) = true ∧
      ∃ b', provision ⟨30, 500⟩ (Topology.replay calls) plan b =
          ⟨.error (.controllerUnreachable
            s!"switch {sw.name} did not connect within {secondsText 30}"), b', 30 * 1000, none⟩ ∧
        b'.isEmpty = true := by
  intro calls plan b R sw s
  have hR : plan.resolve (Topology.replay calls) = .ok R := by decide
  have hb : b.isEmpty = true := by decide
  have hok : ∀ h ∈ (Topology.replay calls).hosts, h.name ∉ b.failingHosts := by decide
  have hfirst : (Topology.replay calls).switches.find?
      (fun sw => b.disconnected.contains sw.name) = some sw := by decide
  have hfits : Instant.fits (30 * 1000 + 500) = true := by decide
  have hwait := switch_wait_times_out_at_deadline "s1" 30 (by decide : 0 < 500) s
  exact ⟨by decide, hwait.1, hR, hb, hok, hfirst, hfits,
    hwait.2 calls plan R b sw hR hb hok hfirst hfits⟩

/-- A connect timeout of `2^63 - 1` seconds stops the program with an overflow. -/
theorem huge_connect_timeout_overflows :
    let calls : List Topology.Call :=
      [.addHost "h1", .addSwitch "s1" (some ⟨1, by decide⟩), .link "s1" "h1",
        .bindController "s1" "c1"]
    let plan : AddressPlan :=
      { hosts := [("h1", { defaultRoute := some ⟨0x0a0000fe⟩ })],
        controllers := [("c1", [⟨.v4 ⟨0x7f000001⟩ 6653⟩])] }
    (provision ⟨9223372036854775807, 500⟩ (Topology.replay calls) plan {}).network.isOk = true ∧
      (provision ⟨9223372036854775807, 500⟩ (Topology.replay calls) plan {}).halted =
        some .instantOverflow := by
  intro calls plan
  decide +kernel

end MudTestbed
