import Mathlib.Data.List.Perm.Basic
import MudTestbed.Proofs.Provision.Steps

/-!
# The phases of a provisioning run

`Bench.build` creates the hosts, then the switches and the links, starts the switches, waits
for each, configures the hosts and starts their services. One lemma per phase says what it
does on a bench whose backend is ready for it. Creating hosts fails only at a host the
backend refuses, the first in order; waiting fails only at a switch that never connects, the
first in order; every other phase succeeds and changes only its own part of the backend.
-/

namespace MudTestbed

set_option autoImplicit false

/-! ### Sorted insertion of new keys -/

section Insertion

variable {β : Type} (key : β → String)

theorem insertName_perm {n : String} {l : List String} (h : n ∉ l) :
    (insertName n l).Perm (n :: l) := by
  induction l with
  | nil => exact List.Perm.refl _
  | cons m rest ih =>
    have hnm : n ≠ m := fun he => h (he ▸ List.mem_cons_self)
    have hrest : n ∉ rest := fun hr => h (List.mem_cons_of_mem m hr)
    unfold insertName
    rw [if_neg hnm]
    split_ifs
    · exact List.Perm.refl _
    · exact ((ih hrest).cons m).trans (List.Perm.swap n m rest)

theorem insertSorted_perm {α : Type} {k : String} {v : α} {l : List (String × α)}
    (h : ∀ p ∈ l, p.1 ≠ k) : (insertSorted k v l).Perm ((k, v) :: l) := by
  induction l with
  | nil => exact List.Perm.refl _
  | cons p rest ih =>
    obtain ⟨k', v'⟩ := p
    have hne : k ≠ k' := fun he => h (k', v') List.mem_cons_self he.symm
    unfold insertSorted
    rw [if_neg hne]
    split_ifs
    · exact List.Perm.refl _
    · exact ((ih fun p hp => h p (List.mem_cons_of_mem _ hp)).cons _).trans (List.Perm.swap _ _ _)

theorem foldl_insertName_perm :
    ∀ (xs : List β) (init : List String), (xs.map key).Nodup → (∀ x ∈ xs, key x ∉ init) →
      (xs.foldl (fun acc x => insertName (key x) acc) init).Perm (xs.map key ++ init)
  | [], _, _, _ => List.Perm.refl _
  | x :: xs, init, hnd, hfresh => by
    have hx : key x ∉ xs.map key := (List.nodup_cons.mp hnd).1
    have hrest := foldl_insertName_perm xs (insertName (key x) init) (List.nodup_cons.mp hnd).2
      fun y hy hmem => by
        rcases List.mem_cons.mp ((insertName_perm (hfresh x List.mem_cons_self)).mem_iff.mp hmem)
          with he | hi
        · exact hx (by rw [← he]; exact List.mem_map_of_mem hy)
        · exact hfresh y (List.mem_cons_of_mem x hy) hi
    refine hrest.trans ?_
    exact ((insertName_perm (hfresh x List.mem_cons_self)).append_left _).trans List.perm_middle

theorem foldl_insertSorted_perm {α : Type} (val : β → α) :
    ∀ (xs : List β) (init : List (String × α)), (xs.map key).Nodup →
      (∀ x ∈ xs, ∀ p ∈ init, p.1 ≠ key x) →
      (xs.foldl (fun acc x => insertSorted (key x) (val x) acc) init).Perm
        (xs.map (fun x => (key x, val x)) ++ init)
  | [], _, _, _ => List.Perm.refl _
  | x :: xs, init, hnd, hfresh => by
    have hx : key x ∉ xs.map key := (List.nodup_cons.mp hnd).1
    have hrest := foldl_insertSorted_perm val xs (insertSorted (key x) (val x) init)
      (List.nodup_cons.mp hnd).2 fun y hy p hp => by
        rcases mem_of_mem_insertSorted hp with rfl | hp
        · exact fun he => hx (by rw [show key x = key y from he]; exact List.mem_map_of_mem hy)
        · exact hfresh y (List.mem_cons_of_mem x hy) p hp
    refine hrest.trans ?_
    exact ((insertSorted_perm (hfresh x List.mem_cons_self)).append_left _).trans List.perm_middle

end Insertion

/-! ### Errors of backend operations -/

theorem Error.during_backend (d c : String) :
    (Error.backend d).during c = .provision s!"{c}: {(Error.backend d).message}" := rfl

theorem Error.message_backend (d : String) : (Error.backend d).message = s!"backend error: {d}" :=
  rfl

theorem Error.hostRefused (n : String) :
    (Error.backend s!"cannot create host {n}").during s!"creating host {n}" =
      .provision s!"creating host {n}: backend error: cannot create host {n}" := by
  rw [Error.during_backend, Error.message_backend, Error.provision.injEq]
  apply String.ext
  simp [toString]

theorem MemoryBackend.switchConnected_of_started {b : MemoryBackend} {n : String}
    (h : ∃ p ∈ b.controllers, p.1 = n) : b.switchConnected n = !b.disconnected.contains n := by
  obtain ⟨p, hp, rfl⟩ := h
  have hany : b.controllers.any (·.1 == p.1) = true :=
    List.any_eq_true.mpr ⟨p, hp, beq_self_eq_true _⟩
  simp [MemoryBackend.switchConnected, hany]

namespace Bench

/-! ### Creating hosts -/

section Hosts

variable {hs : List Host}

theorem fresh_after_insertName {h : Host} {rest : List Host} {names : List String}
    (hnd : ((h :: rest).map (·.name)).Nodup) (hfresh : ∀ x ∈ h :: rest, x.name ∉ names) :
    ∀ x ∈ rest, x.name ∉ insertName h.name names := by
  intro x hx hmem
  rcases mem_insertName.mp hmem with he | hi
  · exact (List.nodup_cons.mp hnd).1 (List.mem_map.mpr ⟨x, hx, he⟩)
  · exact hfresh x (List.mem_cons_of_mem h hx) hi

theorem createHosts_run_ok (s : Bench) (hnd : (hs.map (·.name)).Nodup)
    (hfresh : ∀ h ∈ hs, h.name ∉ s.backend.hosts)
    (hok : ∀ h ∈ hs, h.name ∉ s.backend.failingHosts) :
    ∃ r, (createHosts hs).run.run s = (.ok (), { s with
      backend := { s.backend with
        hosts := hs.foldl (fun acc h => insertName h.name acc) s.backend.hosts },
      resources := r }) := by
  induction hs generalizing s with
  | nil => exact ⟨s.resources, rfl⟩
  | cons h rest ih =>
    have hc : s.backend.createHost h.name = .ok { s.backend with
        hosts := insertName h.name s.backend.hosts } :=
      MemoryBackend.createHost_eq_ok.mpr
        ⟨hok h List.mem_cons_self, hfresh h List.mem_cons_self, rfl⟩
    simp only [createHosts] at ih ⊢
    rw [StepRun.forM_cons_eq, apply_note_run, hc]
    dsimp only
    exact ih _ (List.nodup_cons.mp hnd).2 (fresh_after_insertName hnd hfresh)
      fun x hx => hok x (List.mem_cons_of_mem h hx)

theorem createHosts_run_error (s : Bench) (hnd : (hs.map (·.name)).Nodup)
    (hfresh : ∀ h ∈ hs, h.name ∉ s.backend.hosts) {h : Host}
    (hfirst : hs.find? (fun h => s.backend.failingHosts.contains h.name) = some h) :
    ((createHosts hs).run.run s).1 = .error
      (.provision s!"creating host {h.name}: backend error: cannot create host {h.name}") := by
  induction hs generalizing s with
  | nil => cases hfirst
  | cons x rest ih =>
    simp only [createHosts] at ih ⊢
    rw [StepRun.forM_cons_eq, apply_note_run]
    rw [List.find?_cons] at hfirst
    by_cases hx : x.name ∈ s.backend.failingHosts
    · have hxh : x = h := by simpa [hx] using hfirst
      subst hxh
      have hc : s.backend.createHost x.name =
          .error (.backend s!"cannot create host {x.name}") := by
        simp [MemoryBackend.createHost, hx, throw, throwThe, MonadExceptOf.throw]
      rw [hc, ← Error.hostRefused]
    · have hc : s.backend.createHost x.name = .ok { s.backend with
          hosts := insertName x.name s.backend.hosts } :=
        MemoryBackend.createHost_eq_ok.mpr ⟨hx, hfresh x List.mem_cons_self, rfl⟩
      rw [hc]
      dsimp only
      exact ih _ (List.nodup_cons.mp hnd).2 (fresh_after_insertName hnd hfresh)
        (by simpa [hx] using hfirst)

end Hosts

/-! ### Creating switches and links, starting switches -/

theorem createSwitches_run (s : Bench) {ss : List Switch} (hnd : (ss.map (·.name)).Nodup)
    (hfresh : ∀ sw ∈ ss, ∀ p ∈ s.backend.switches, p.1 ≠ sw.name) :
    ∃ r, (createSwitches ss).run.run s = (.ok (), { s with
      backend := { s.backend with
        switches := ss.foldl (fun acc sw => insertSorted sw.name sw.dpid acc) s.backend.switches },
      resources := r }) := by
  induction ss generalizing s with
  | nil => exact ⟨s.resources, rfl⟩
  | cons sw rest ih =>
    have hc : s.backend.createSwitch sw.name sw.dpid = .ok { s.backend with
        switches := insertSorted sw.name sw.dpid s.backend.switches } :=
      MemoryBackend.createSwitch_eq_ok.mpr ⟨hfresh sw List.mem_cons_self, rfl⟩
    simp only [createSwitches] at ih ⊢
    rw [StepRun.forM_cons_eq, apply_note_run, hc]
    dsimp only
    refine ih _ (List.nodup_cons.mp hnd).2 fun x hx p hp => ?_
    rcases mem_of_mem_insertSorted hp with rfl | hp
    · exact fun he => (List.nodup_cons.mp hnd).1 (List.mem_map.mpr ⟨x, hx, he.symm⟩)
    · exact hfresh x (List.mem_cons_of_mem sw hx) p hp

theorem createLinks_run (s : Bench) {ls : List Link}
    (hends : ∀ l ∈ ls, s.backend.hasNode l.a.node ∧ s.backend.hasNode l.b.node)
    (hnd : (ls.map Link.key).Nodup) (hfresh : ∀ l ∈ ls, l.key ∉ s.backend.links) :
    ∃ r, (ls.forM createLink).run.run s = (.ok (), { s with
      backend := { s.backend with links := s.backend.links ++ ls.map Link.key },
      resources := r }) := by
  induction ls generalizing s with
  | nil => exact ⟨s.resources, by simp only [List.map_nil, List.append_nil]; rfl⟩
  | cons l rest ih =>
    have hc : s.backend.createLink l = .ok { s.backend with links := s.backend.links ++ [l.key] } :=
      MemoryBackend.createLink_eq_ok.mpr ⟨(hends l List.mem_cons_self).1,
        (hends l List.mem_cons_self).2, hfresh l List.mem_cons_self, rfl⟩
    rw [StepRun.forM_cons_eq, createLink_run, hc]
    dsimp only
    rw [show s.backend.links ++ (l :: rest).map Link.key
      = s.backend.links ++ [l.key] ++ rest.map Link.key by simp]
    refine ih _ (fun x hx => hends x (List.mem_cons_of_mem l hx)) (List.nodup_cons.mp hnd).2
      fun x hx hmem => ?_
    rcases List.mem_append.mp hmem with hmem | hmem
    · exact hfresh x (List.mem_cons_of_mem l hx) hmem
    · exact (List.nodup_cons.mp hnd).1 (List.mem_map.mpr ⟨x, hx, List.mem_singleton.mp hmem⟩)

theorem startSwitches_run (s : Bench) (plan : ResolvedPlan) {ss : List Switch}
    (hex : ∀ sw ∈ ss, ∃ p ∈ s.backend.switches, p.1 = sw.name) :
    ∃ r, (startSwitches plan ss).run.run s = (.ok (), { s with
      backend := { s.backend with
        controllers := ss.foldl (fun acc sw => insertSorted sw.name (plan.endpoints sw.name) acc)
          s.backend.controllers },
      resources := r }) := by
  induction ss generalizing s with
  | nil => exact ⟨s.resources, rfl⟩
  | cons sw rest ih =>
    have hc : s.backend.startSwitch sw.name (plan.endpoints sw.name) = .ok { s.backend with
        controllers := insertSorted sw.name (plan.endpoints sw.name) s.backend.controllers } :=
      MemoryBackend.startSwitch_eq_ok.mpr ⟨hex sw List.mem_cons_self, rfl⟩
    simp only [startSwitches] at ih ⊢
    rw [StepRun.forM_cons_eq, apply_note_run, hc]
    dsimp only
    exact ih _ fun x hx => hex x (List.mem_cons_of_mem sw hx)

/-! ### Waiting for the switches -/

section Await

variable (settings : ProvisionSettings) {ss : List Switch}

theorem awaitSwitches_run_ok : ∀ (s : Bench),
    (∀ sw ∈ ss, ∃ p ∈ s.backend.controllers, p.1 = sw.name) →
    (∀ sw ∈ ss, sw.name ∉ s.backend.disconnected) →
    ∃ halted, (ss.forM fun sw => awaitSwitch settings sw.name).run.run s =
        (.ok (), { s with halted := halted }) ∧
      (Instant.fits (s.clock + settings.connectTimeoutSecs * 1000 + max settings.connectPollMs 1) =
        true → halted = s.halted) := by
  induction ss with
  | nil => exact fun s _ _ => ⟨s.halted, rfl, fun _ => rfl⟩
  | cons sw rest ih =>
    intro s hstarted hc
    have hconn : s.backend.switchConnected sw.name = true := by
      rw [MemoryBackend.switchConnected_of_started (hstarted sw List.mem_cons_self)]
      simpa using hc sw List.mem_cons_self
    obtain ⟨h₁, hrun, hkept, -⟩ := awaitSwitch_run s settings sw.name
    rw [if_pos hconn] at hrun
    obtain ⟨h₂, hrest, hkept'⟩ := ih { s with halted := h₁ }
      (fun x hx => hstarted x (List.mem_cons_of_mem sw hx))
      (fun x hx => hc x (List.mem_cons_of_mem sw hx))
    refine ⟨h₂, ?_, fun hfits => (hkept' hfits).trans (hkept hfits)⟩
    rw [StepRun.forM_cons_eq, hrun]
    exact hrest

theorem awaitSwitches_run_timeout {sw : Switch} : ∀ (s : Bench),
    (∀ sw ∈ ss, ∃ p ∈ s.backend.controllers, p.1 = sw.name) →
    ss.find? (fun sw => s.backend.disconnected.contains sw.name) = some sw →
    ∃ halted, (ss.forM fun sw => awaitSwitch settings sw.name).run.run s =
        (.error (.controllerUnreachable
          s!"switch {sw.name} did not connect within {secondsText settings.connectTimeoutSecs}"),
          { s with clock := s.clock + settings.connectTimeoutSecs * 1000, halted := halted }) ∧
      (Instant.fits (s.clock + settings.connectTimeoutSecs * 1000 + max settings.connectPollMs 1) =
        true → halted = s.halted) := by
  induction ss with
  | nil => intro _ _ hfirst; cases hfirst
  | cons x rest ih =>
    intro s hstarted hfirst
    rw [List.find?_cons] at hfirst
    obtain ⟨h₁, hrun, hkept, -⟩ := awaitSwitch_run s settings x.name
    rw [MemoryBackend.switchConnected_of_started (hstarted x List.mem_cons_self)] at hrun
    rw [StepRun.forM_cons_eq, hrun]
    by_cases hx : s.backend.disconnected.contains x.name = true
    · rw [hx] at hfirst
      obtain rfl : x = sw := Option.some.inj hfirst
      simp only [hx, Bool.not_true, Bool.false_eq_true, ↓reduceIte]
      exact ⟨h₁, rfl, hkept⟩
    · have hx' : s.backend.disconnected.contains x.name = false := by simpa using hx
      rw [hx'] at hfirst
      simp only [hx', Bool.not_false, ↓reduceIte]
      obtain ⟨h₂, hrest, hkept'⟩ := ih { s with halted := h₁ }
        (fun y hy => hstarted y (List.mem_cons_of_mem x hy)) hfirst
      exact ⟨h₂, hrest, fun hfits => (hkept' hfits).trans (hkept hfits)⟩

theorem awaitSwitches_run_error (s : Bench)
    (hstarted : ∀ sw ∈ ss, ∃ p ∈ s.backend.controllers, p.1 = sw.name) {sw : Switch}
    (hfirst : ss.find? (fun sw => s.backend.disconnected.contains sw.name) = some sw) :
    ((ss.forM fun sw => awaitSwitch settings sw.name).run.run s).1 = .error (.controllerUnreachable
      s!"switch {sw.name} did not connect within {secondsText settings.connectTimeoutSecs}") := by
  obtain ⟨_, hrun, -⟩ := awaitSwitches_run_timeout settings s hstarted hfirst
  rw [hrun]

end Await

/-! ### Starting services -/

theorem StepRun.forM_ok {ε σ α : Type} {xs : List α} {f : α → ExceptT ε (StateM σ) PUnit}
    (P : σ → Prop) (R : σ → σ → Prop) (hrefl : ∀ s, R s s)
    (htrans : ∀ {s₁ s₂ s₃}, R s₁ s₂ → R s₂ s₃ → R s₁ s₃)
    (hstep : ∀ x ∈ xs, ∀ s, P s → ∃ s', (f x).run.run s = (.ok ⟨⟩, s') ∧ R s s' ∧ P s') :
    ∀ s, P s → ∃ s', (xs.forM f).run.run s = (.ok ⟨⟩, s') ∧ R s s' ∧ P s' := by
  induction xs with
  | nil => exact fun s hs => ⟨s, rfl, hrefl s, hs⟩
  | cons x rest ih =>
    intro s hs
    obtain ⟨s₁, h₁, hr₁, hs₁⟩ := hstep x List.mem_cons_self s hs
    obtain ⟨s₂, h₂, hr₂, hs₂⟩ := ih (fun y hy => hstep y (List.mem_cons_of_mem x hy)) s₁ hs₁
    refine ⟨s₂, ?_, htrans hr₁ hr₂, hs₂⟩
    rw [StepRun.forM_cons_eq, h₁]
    exact h₂

def ServicesOnly (s s' : Bench) : Prop :=
  ∃ services nextService r,
    s' = { s with backend := { s.backend with services, nextService }, resources := r }

theorem ServicesOnly.refl (s : Bench) : ServicesOnly s s :=
  ⟨s.backend.services, s.backend.nextService, s.resources, rfl⟩

theorem ServicesOnly.trans {s₁ s₂ s₃ : Bench} (h₁ : ServicesOnly s₁ s₂) (h₂ : ServicesOnly s₂ s₃) :
    ServicesOnly s₁ s₃ := by
  obtain ⟨v, n, r, rfl⟩ := h₂
  obtain ⟨-, -, -, rfl⟩ := h₁
  exact ⟨v, n, r, rfl⟩

theorem startServices_run (s : Bench) {hosts : List HostConfig}
    (hh : ∀ h ∈ hosts, h.name ∈ s.backend.hosts) :
    ∃ s', (startServices hosts).run.run s = (.ok (), s') ∧ ServicesOnly s s' := by
  suffices h : ∃ s', (startServices hosts).run.run s = (.ok (), s') ∧ ServicesOnly s s' ∧
      ∀ h ∈ hosts, h.name ∈ s'.backend.hosts by
    obtain ⟨s', hrun, hs', -⟩ := h
    exact ⟨s', hrun, hs'⟩
  refine StepRun.forM_ok _ ServicesOnly ServicesOnly.refl ServicesOnly.trans (fun h hmem s₁ hs₁ =>
    StepRun.forM_ok _ ServicesOnly ServicesOnly.refl ServicesOnly.trans
      (fun svc _ s₂ hs₂ => ?_) s₁ hs₁) s hh
  have hspawn : s₂.backend.spawn h.name svc.command = .ok (_, _) :=
    MemoryBackend.spawn_eq_ok.mpr ⟨hs₂ h hmem, rfl, rfl⟩
  refine ⟨?after, ?run, ?only, ?known⟩
  case run =>
    rw [StepRun.bind_eq, StepRun.get_eq]
    dsimp only
    rw [hspawn]
    rfl
  case only => exact ⟨_, _, _, rfl⟩
  case known => exact hs₂

end Bench

end MudTestbed
