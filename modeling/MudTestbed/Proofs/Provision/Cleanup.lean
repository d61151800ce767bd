import MudTestbed.Proofs.Provision.Steps

/-!
# Provisioning leaves nothing behind

A provisioning run records every object right after the backend creates it, and on
failure releases what it recorded. `Resources.Covers r b` says that every object alive on
the backend is recorded in `r`; releasing `r` then empties the backend
(`Resources.release_isEmpty`). Every step of `Bench.build` keeps the record covering the
backend whether it succeeds or fails, the step that fails included, so a failed run leaves
an empty backend and a provisioned network is emptied by its teardown.
-/

namespace MudTestbed

set_option autoImplicit false

namespace MemoryBackend

theorem foldl_stopService (ids : List String) (b : MemoryBackend) :
    ids.foldl stopService b =
      { b with services := b.services.filter fun p => !ids.contains p.1 } := by
  induction ids generalizing b with
  | nil =>
    cases b
    simp only [List.foldl_nil, List.contains_nil, Bool.not_false]
    rw [List.filter_eq_self.mpr fun _ _ => rfl]
  | cons id rest ih =>
    rw [List.foldl_cons, ih]
    simp only [stopService, eraseKey, List.filter_filter, List.contains_cons, bne, Bool.not_or,
      Bool.and_comm]

theorem foldl_stopSwitch (names : List String) (b : MemoryBackend) :
    names.foldl stopSwitch b =
      { b with controllers := b.controllers.filter fun p => !names.contains p.1 } := by
  induction names generalizing b with
  | nil =>
    cases b
    simp only [List.foldl_nil, List.contains_nil, Bool.not_false]
    rw [List.filter_eq_self.mpr fun _ _ => rfl]
  | cons n rest ih =>
    rw [List.foldl_cons, ih]
    simp only [stopSwitch, eraseKey, List.filter_filter, List.contains_cons, bne, Bool.not_or,
      Bool.and_comm]

theorem foldl_destroyLink (ls : List Link) (b : MemoryBackend) :
    ls.foldl destroyLink b =
      { b with links := b.links.filter fun k => !(ls.map Link.key).contains k } := by
  induction ls generalizing b with
  | nil =>
    cases b
    simp only [List.foldl_nil, List.map_nil, List.contains_nil, Bool.not_false]
    rw [List.filter_eq_self.mpr fun _ _ => rfl]
  | cons l rest ih =>
    rw [List.foldl_cons, ih]
    simp only [destroyLink, List.filter_filter, List.map_cons, List.contains_cons, bne,
      Bool.not_or, Bool.and_comm]

theorem foldl_destroySwitch (names : List String) (b : MemoryBackend) :
    names.foldl destroySwitch b =
      { b with switches := b.switches.filter fun p => !names.contains p.1,
               controllers := b.controllers.filter fun p => !names.contains p.1 } := by
  induction names generalizing b with
  | nil =>
    cases b
    simp only [List.foldl_nil, List.contains_nil, Bool.not_false]
    rw [List.filter_eq_self.mpr fun _ _ => rfl, List.filter_eq_self.mpr fun _ _ => rfl]
  | cons n rest ih =>
    rw [List.foldl_cons, ih]
    simp only [destroySwitch, eraseKey, List.filter_filter, List.contains_cons, bne, Bool.not_or,
      Bool.and_comm]

theorem foldl_destroyHost (names : List String) (b : MemoryBackend) :
    names.foldl destroyHost b = { b with hosts := b.hosts.filter fun h => !names.contains h } := by
  induction names generalizing b with
  | nil =>
    cases b
    simp only [List.foldl_nil, List.contains_nil, Bool.not_false]
    rw [List.filter_eq_self.mpr fun _ _ => rfl]
  | cons n rest ih =>
    rw [List.foldl_cons, ih]
    simp only [destroyHost, List.filter_filter, List.contains_cons, bne, Bool.not_or,
      Bool.and_comm]

end MemoryBackend

namespace Resources

/-- Every object alive on the backend is one the run recorded. -/
structure Covers (r : Resources) (b : MemoryBackend) : Prop where
  hosts : ∀ h ∈ b.hosts, h ∈ r.hosts
  switches : ∀ p ∈ b.switches, p.1 ∈ r.switches
  links : ∀ k ∈ b.links, ∃ l ∈ r.links, l.key = k
  controllers : ∀ p ∈ b.controllers, p.1 ∈ r.startedSwitches ∨ p.1 ∈ r.switches
  services : ∀ p ∈ b.services, p.1 ∈ r.services

theorem release_eq (r : Resources) (b : MemoryBackend) :
    r.release b =
      { b with hosts := b.hosts.filter fun h => !r.hosts.reverse.contains h,
               switches := b.switches.filter fun p => !r.switches.reverse.contains p.1,
               links := b.links.filter fun k => !(r.links.reverse.map Link.key).contains k,
               controllers := (b.controllers.filter fun p => !r.startedSwitches.reverse.contains p.1).filter
                 fun p => !r.switches.reverse.contains p.1,
               services := b.services.filter fun p => !r.services.reverse.contains p.1 } := by
  simp only [release, MemoryBackend.foldl_stopService, MemoryBackend.foldl_stopSwitch,
    MemoryBackend.foldl_destroyLink, MemoryBackend.foldl_destroySwitch,
    MemoryBackend.foldl_destroyHost]

theorem release_isEmpty {r : Resources} {b : MemoryBackend} (h : r.Covers b) :
    (r.release b).isEmpty = true := by
  rw [release_eq]
  simp only [MemoryBackend.isEmpty, Bool.and_eq_true, List.isEmpty_iff, List.filter_eq_nil_iff,
    List.contains_reverse, List.map_reverse, Bool.not_eq_eq_eq_not, Bool.not_true,
    List.filter_filter]
  refine ⟨⟨⟨⟨fun x hx => ?_, fun p hp => ?_⟩, fun k hk => ?_⟩, fun p hp => ?_⟩, fun p hp => ?_⟩
  · simpa using h.hosts x hx
  · simpa using h.switches p hp
  · obtain ⟨l, hl, rfl⟩ := h.links k hk
    simpa using ⟨l, hl, rfl⟩
  · rcases h.controllers p hp with hs | hs <;> simp [hs]
  · simpa using h.services p hp

theorem Covers.of_objects {r : Resources} {b b' : MemoryBackend} (h : r.Covers b)
    (hh : b'.hosts = b.hosts) (hs : b'.switches = b.switches) (hl : b'.links = b.links)
    (hc : b'.controllers = b.controllers) (hv : b'.services = b.services) : r.Covers b' :=
  ⟨hh ▸ h.hosts, hs ▸ h.switches, hl ▸ h.links, hc ▸ h.controllers, hv ▸ h.services⟩

theorem covers_of_isEmpty {b : MemoryBackend} (hb : b.isEmpty = true) : ({} : Resources).Covers b := by
  simp only [MemoryBackend.isEmpty, Bool.and_eq_true, List.isEmpty_iff] at hb
  obtain ⟨⟨⟨⟨hh, hs⟩, hl⟩, hc⟩, hv⟩ := hb
  exact ⟨by simp [hh], by simp [hs], by simp [hl], by simp [hc], by simp [hv]⟩

end Resources

namespace Bench

def Covered (s : Bench) : Prop := s.resources.Covers s.backend

theorem apply_note_preserves {ctx : String} {f : MemoryBackend → Except Error MemoryBackend}
    {g : Resources → Resources}
    (h : ∀ s b', f s.backend = .ok b' → Covered s → (g s.resources).Covers b') :
    Preserves Covered (apply ctx f >>= fun _ => note g).run := by
  intro s hs
  show Covered ((apply ctx f >>= fun _ => note g).run.run s).2
  rw [apply_note_run]
  cases hf : f s.backend with
  | error e => exact hs
  | ok b' => exact h s b' hf hs

theorem createHost_preserves (ctx n : String) :
    Preserves Covered (apply ctx (·.createHost n) >>= fun _ =>
      note fun r => { r with hosts := r.hosts ++ [n] }).run := by
  refine apply_note_preserves fun s b' hb hs => ?_
  obtain ⟨-, -, rfl⟩ := MemoryBackend.createHost_eq_ok.mp hb
  refine { hs with hosts := fun x hx => ?_ }
  rcases mem_insertName.mp hx with rfl | hx
  · exact List.mem_append_right _ List.mem_cons_self
  · exact List.mem_append_left _ (hs.hosts x hx)

theorem createSwitch_preserves (ctx n : String) (dpid : Option Dpid) :
    Preserves Covered (apply ctx (·.createSwitch n dpid) >>= fun _ =>
      note fun r => { r with switches := r.switches ++ [n] }).run := by
  refine apply_note_preserves fun s b' hb hs => ?_
  obtain ⟨-, rfl⟩ := MemoryBackend.createSwitch_eq_ok.mp hb
  refine { hs with switches := fun p hp => ?_, controllers := fun p hp => ?_ }
  · rcases mem_of_mem_insertSorted hp with rfl | hp
    · exact List.mem_append_right _ List.mem_cons_self
    · exact List.mem_append_left _ (hs.switches p hp)
  · rcases hs.controllers p hp with h | h
    · exact Or.inl h
    · exact Or.inr (List.mem_append_left _ h)

theorem createLink_preserves (l : Link) : Preserves Covered (createLink l).run := by
  refine apply_note_preserves fun s b' hb hs => ?_
  obtain ⟨-, -, -, rfl⟩ := MemoryBackend.createLink_eq_ok.mp hb
  refine { hs with links := fun k hk => ?_ }
  rcases List.mem_append.mp hk with hk | hk
  · obtain ⟨l', hl', rfl⟩ := hs.links k hk
    exact ⟨l', List.mem_append_left _ hl', rfl⟩
  · rw [List.mem_singleton.mp hk]
    exact ⟨l, List.mem_append_right _ List.mem_cons_self, rfl⟩

theorem startSwitch_preserves (ctx n : String) (eps : List ControllerEndpoint) :
    Preserves Covered (apply ctx (·.startSwitch n eps) >>= fun _ =>
      note fun r => { r with startedSwitches := r.startedSwitches ++ [n] }).run := by
  refine apply_note_preserves fun s b' hb hs => ?_
  obtain ⟨-, rfl⟩ := MemoryBackend.startSwitch_eq_ok.mp hb
  refine { hs with controllers := fun p hp => ?_ }
  rcases mem_of_mem_insertSorted hp with rfl | hp
  · exact Or.inl (List.mem_append_right _ List.mem_cons_self)
  · rcases hs.controllers p hp with h | h
    · exact Or.inl (List.mem_append_left _ h)
    · exact Or.inr h

theorem awaitSwitch_preserves (settings : ProvisionSettings) (name : String) :
    Preserves Covered (awaitSwitch settings name).run := by
  intro s hs
  show Covered ((awaitSwitch settings name).run.run s).2
  obtain ⟨_, hrun, -⟩ := awaitSwitch_run s settings name
  rw [hrun]
  split
  · exact hs
  · exact hs

theorem runCommand_preserves (host : String) (cmd : HostCommand) :
    Preserves Covered (runCommand host cmd).run := by
  intro s hs
  show Covered ((runCommand host cmd).run.run s).2
  rw [runCommand_run]
  rcases h : s.backend.exec host cmd.argv with e | ⟨o, b'⟩
  · exact hs
  · obtain ⟨-, rfl, -⟩ := MemoryBackend.exec_eq_ok.mp h
    exact Resources.Covers.of_objects hs rfl rfl rfl rfl rfl

theorem configureRound_preserves (lanes : List (String × List HostCommand)) :
    Preserves Covered (configureRound lanes).run := by
  induction lanes with
  | nil => exact Preserves.except_pure _
  | cons lane rest ih =>
    obtain ⟨h, cmds⟩ := lane
    cases cmds with
    | nil =>
      rw [configureRound]
      exact Preserves.except_bind ih fun _ => Preserves.except_pure _
    | cons c cs =>
      rw [configureRound]
      exact Preserves.except_bind (runCommand_preserves h c) fun _ =>
        Preserves.except_bind ih fun _ => Preserves.except_pure _

theorem configureLockstep_preserves (delayMs fuel : Nat) (lanes : List (String × List HostCommand)) :
    Preserves Covered (configureLockstep delayMs fuel lanes).run := by
  induction fuel generalizing lanes with
  | zero => exact Preserves.except_pure _
  | succ fuel ih =>
    rw [configureLockstep]
    split
    · exact Preserves.except_pure _
    · exact Preserves.except_bind (Preserves.except_modify fun _ h => h) fun _ =>
        Preserves.except_bind (configureRound_preserves lanes) fun lanes => ih lanes

theorem configureHosts_preserves (hosts : List HostConfig) :
    Preserves Covered (configureHosts hosts).run := by
  unfold configureHosts
  refine Preserves.except_bind Preserves.except_get fun s => ?_
  split
  · exact configureLockstep_preserves _ _ _
  · exact Preserves.except_forM fun lane _ =>
      Preserves.except_forM fun cmd _ => runCommand_preserves lane.1 cmd

theorem startServices_preserves (hosts : List HostConfig) :
    Preserves Covered (startServices hosts).run := by
  unfold startServices
  refine Preserves.except_forM fun h _ => Preserves.except_forM fun svc _ => ?_
  intro s hs
  simp only [StepRun.bind_eq, StepRun.get_eq]
  split
  · exact hs
  · rename_i id b' hspawn
    obtain ⟨-, -, rfl⟩ := MemoryBackend.spawn_eq_ok.mp hspawn
    refine ⟨hs.hosts, hs.switches, hs.links, hs.controllers, fun p hp => ?_⟩
    rcases mem_of_mem_insertSorted hp with rfl | hp
    · exact List.mem_append_right _ List.mem_cons_self
    · exact List.mem_append_left _ (hs.services p hp)

theorem createHosts_preserves (hosts : List Host) : Preserves Covered (createHosts hosts).run :=
  Preserves.except_forM fun h _ => createHost_preserves _ h.name

theorem createSwitches_preserves (switches : List Switch) :
    Preserves Covered (createSwitches switches).run :=
  Preserves.except_forM fun sw _ => createSwitch_preserves _ sw.name sw.dpid

theorem startSwitches_preserves (plan : ResolvedPlan) (switches : List Switch) :
    Preserves Covered (startSwitches plan switches).run :=
  Preserves.except_forM fun sw _ => startSwitch_preserves _ sw.name _

theorem build_preserves (settings : ProvisionSettings) (t : Topology) (plan : ResolvedPlan) :
    Preserves Covered (build settings t plan).run := by
  unfold build
  refine Preserves.except_bind (createHosts_preserves t.hosts) fun _ => ?_
  refine Preserves.except_bind (createSwitches_preserves t.switches) fun _ => ?_
  refine Preserves.except_bind
    (Preserves.except_forM fun l _ => createLink_preserves l) fun _ => ?_
  refine Preserves.except_bind (startSwitches_preserves plan t.switches) fun _ => ?_
  refine Preserves.except_bind
    (Preserves.except_forM fun sw _ => awaitSwitch_preserves settings sw.name) fun _ => ?_
  exact Preserves.except_bind (configureHosts_preserves plan.hosts) fun _ =>
    startServices_preserves plan.hosts

end Bench

section Provision

variable {settings : ProvisionSettings} {t : Topology} {plan : AddressPlan} {b : MemoryBackend}

theorem provision_ends (hb : b.isEmpty = true) :
    ((provision settings t plan b).backend = b ∧
        ∃ e, (provision settings t plan b).network = .error e) ∨
      ∃ s : Bench, s.Covered ∧
        (((provision settings t plan b).backend = s.backend ∧
            ∃ resolved, (provision settings t plan b).network = .ok ⟨t, resolved, s.resources, false⟩) ∨
          ((provision settings t plan b).backend = s.resources.release s.backend ∧
            ∃ e, (provision settings t plan b).network = .error e)) := by
  unfold provision
  cases hres : plan.resolve t with
  | error e => exact Or.inl ⟨rfl, e, rfl⟩
  | ok resolved =>
    have hcov :=
      Bench.build_preserves settings t resolved ⟨b, {}, 0, none⟩ (Resources.covers_of_isEmpty hb)
    simp only
    generalize hrun : ExceptT.run (Bench.build settings t resolved) { backend := b } = res
    have hcov' : Bench.Covered res.2 := by rw [← hrun]; exact hcov
    obtain ⟨r, s⟩ := res
    refine Or.inr ⟨s, hcov', ?_⟩
    cases r with
    | ok u => exact Or.inl ⟨rfl, resolved, rfl⟩
    | error e => exact Or.inr ⟨rfl, e, rfl⟩

theorem provision_covers (hb : b.isEmpty = true) {live : LiveNetwork}
    (h : (provision settings t plan b).network = .ok live) :
    live.resources.Covers (provision settings t plan b).backend := by
  rcases @provision_ends settings t plan b hb with
    ⟨-, e, he⟩ | ⟨s, hs, ⟨hback, resolved, hnet⟩ | ⟨-, e, he⟩⟩
  · rw [he] at h
    cases h
  · rw [hnet] at h
    cases h
    rw [hback]
    exact hs
  · rw [he] at h
    cases h

theorem provision_error_isEmpty (hb : b.isEmpty = true) {e : Error}
    (h : (provision settings t plan b).network = .error e) :
    (provision settings t plan b).backend.isEmpty = true := by
  rcases @provision_ends settings t plan b hb with
    ⟨hback, -⟩ | ⟨s, hs, ⟨-, resolved, hnet⟩ | ⟨hback, -⟩⟩
  · rw [hback]
    exact hb
  · rw [hnet] at h
    cases h
  · rw [hback]
    exact Resources.release_isEmpty hs

end Provision

end MudTestbed
