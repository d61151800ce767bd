import Mathlib.Tactic.SplitIfs
import MudTestbed.Proofs.Preserves
import MudTestbed.Topology.Graph

/-!
# What each change of a topology does

One lemma per change evaluates it on a topology (`addHostIn_run`, ..., `linkIn_run_of_ok`):
its checks come first, and a failed check leaves the topology as it was. Giving an interface
fails only for a node of the kind asked that does not exist, which the checks of a link rule
out, so once they pass a link is made. Hence every change that fails leaves the topology
exactly as it found it (`Atomic`), whatever the topology.
-/

namespace MudTestbed

set_option autoImplicit false

theorem StepRun.check_bind_eq {ε σ α β : Type} (c : Except ε α) (f : α → ExceptT ε (StateM σ) β)
    (s : σ) : (ExceptT.mk (pure c) >>= f).run.run s = match c with
      | .ok a => (f a).run.run s
      | .error e => (.error e, s) := by
  rw [StepRun.bind_eq, StepRun.mk_eq]
  cases c <;> rfl

section Ends

variable {e : LinkEnd}

@[simp]
theorem Host.addEnd_name (h : Host) : (h.addEnd e).name = h.name := by
  unfold Host.addEnd
  split <;> rfl

@[simp]
theorem Switch.addEnd_name (s : Switch) : (s.addEnd e).name = s.name := by
  unfold Switch.addEnd
  split <;> rfl

@[simp]
theorem Switch.addEnd_dpid (s : Switch) : (s.addEnd e).dpid = s.dpid := by
  unfold Switch.addEnd
  split <;> rfl

@[simp]
theorem Switch.addEnd_controllers (s : Switch) : (s.addEnd e).controllers = s.controllers := by
  unfold Switch.addEnd
  split <;> rfl

theorem Host.addEnd_of_ne {h : Host} (hn : h.name ≠ e.node) : h.addEnd e = h := by
  simp [Host.addEnd, hn]

theorem Switch.addEnd_of_ne {s : Switch} (hn : s.name ≠ e.node) : s.addEnd e = s := by
  simp [Switch.addEnd, hn]

end Ends

namespace Topology

variable (t : Topology)

theorem kindOf_eq_some_host {n : String} :
    t.kindOf n = some .host ↔ ∃ h ∈ t.hosts, h.name = n := by
  unfold kindOf
  simp only [List.any_eq_true, beq_iff_eq]
  split_ifs with hh hs
  · exact iff_of_true rfl hh
  · exact iff_of_false (by simp) hh
  · exact iff_of_false (by simp) hh

theorem kindOf_eq_some_switch {n : String} :
    t.kindOf n = some .switch ↔ (∀ h ∈ t.hosts, h.name ≠ n) ∧ ∃ s ∈ t.switches, s.name = n := by
  unfold kindOf
  simp only [List.any_eq_true, beq_iff_eq]
  split_ifs with hh hs
  · obtain ⟨h, hmem, he⟩ := hh
    exact iff_of_false (by simp) fun ⟨hall, _⟩ => hall h hmem he
  · exact iff_of_true rfl ⟨fun h hmem he => hh ⟨h, hmem, he⟩, hs⟩
  · exact iff_of_false (by simp) fun ⟨_, hs'⟩ => hs hs'

theorem kindOf_eq_none {n : String} :
    t.kindOf n = none ↔ (∀ h ∈ t.hosts, h.name ≠ n) ∧ ∀ s ∈ t.switches, s.name ≠ n := by
  unfold kindOf
  simp only [List.any_eq_true, beq_iff_eq]
  split_ifs with hh hs
  · obtain ⟨h, hmem, he⟩ := hh
    exact iff_of_false (by simp) fun ⟨hall, _⟩ => hall h hmem he
  · obtain ⟨s, hmem, he⟩ := hs
    exact iff_of_false (by simp) fun ⟨_, hall⟩ => hall s hmem he
  · exact iff_of_true rfl ⟨fun h hmem he => hh ⟨h, hmem, he⟩, fun s hmem he => hs ⟨s, hmem, he⟩⟩

theorem host?_eq_some {n : String} {h : Host} : t.host? n = some h → h ∈ t.hosts ∧ h.name = n := by
  intro hf
  exact ⟨List.mem_of_find?_eq_some hf, by simpa using List.find?_some hf⟩

theorem switch?_eq_some {n : String} {s : Switch} :
    t.switch? n = some s → s ∈ t.switches ∧ s.name = n := by
  intro hf
  exact ⟨List.mem_of_find?_eq_some hf, by simpa using List.find?_some hf⟩

theorem host?_isSome {n : String} (hk : t.kindOf n = some .host) : (t.host? n).isSome := by
  obtain ⟨h, hmem, rfl⟩ := (t.kindOf_eq_some_host).mp hk
  simpa [host?] using ⟨h, hmem, rfl⟩

theorem switch?_isSome {n : String} (hk : t.kindOf n = some .switch) : (t.switch? n).isSome := by
  obtain ⟨-, s, hmem, rfl⟩ := (t.kindOf_eq_some_switch).mp hk
  simpa [switch?] using ⟨s, hmem, rfl⟩

theorem checkNewName_eq_ok {n : String} :
    t.checkNewName n = .ok () ↔ n ≠ "" ∧ t.kindOf n = none := by
  unfold checkNewName
  split_ifs with he hk
  · exact iff_of_false (by simp) fun ⟨hne, _⟩ => hne (String.isEmpty_iff.mp he)
  · exact iff_of_false (by simp) fun ⟨_, hn⟩ => by simp [hn] at hk
  · exact iff_of_true rfl
      ⟨fun h => he (String.isEmpty_iff.mpr h), Option.not_isSome_iff_eq_none.mp hk⟩

theorem checkDpid_eq_ok {d : Option Dpid} :
    t.checkDpid d = .ok () ↔ ∀ x ∈ d, ∀ s ∈ t.switches, s.dpid ≠ some x := by
  cases d with
  | none => simp [checkDpid]
  | some x =>
    unfold checkDpid
    simp only [List.any_eq_true, beq_iff_eq, Option.mem_def, Option.some.injEq, forall_eq']
    split_ifs with hd
    · obtain ⟨s, hs, hsx⟩ := hd
      exact iff_of_false (by simp) fun hall => hall s hs hsx
    · exact iff_of_true rfl fun s hs hsx => hd ⟨s, hs, hsx⟩

theorem checkSwitch_eq_ok {n : String} :
    t.checkSwitch n = .ok () ↔ ∃ s ∈ t.switches, s.name = n := by
  unfold checkSwitch
  simp only [List.any_eq_true, beq_iff_eq]
  split_ifs with hs
  · exact iff_of_true rfl hs
  · exact iff_of_false (by simp) hs

theorem checkLink_eq_ok {a b : String} {kA kB : NodeKind} :
    t.checkLink a b = .ok (kA, kB) ↔
      t.kindOf a = some kA ∧ t.kindOf b = some kB ∧ a ≠ b ∧ (kA = .switch ∨ kB = .switch) ∧
        ∀ l ∈ t.links, l.joins a b = false := by
  unfold checkLink
  split
  · next ha => simp [ha]
  · next hb => simp [hb]
  · next kA' kB' ha hb =>
    simp only [ha, hb, Option.some.injEq]
    split_ifs with hab hhost hlink
    · simp [hab]
    · obtain ⟨rfl, rfl⟩ := hhost
      refine iff_of_false id ?_
      rintro ⟨rfl, rfl, -, hsw, -⟩
      simp at hsw
    · refine iff_of_false id ?_
      rintro ⟨-, -, -, -, hnone⟩
      obtain ⟨l, hl, hj⟩ := List.any_eq_true.mp hlink
      rw [hnone l hl] at hj
      cases hj
    · simp only [Except.ok.injEq, Prod.mk.injEq]
      have hsw : kA' = .switch ∨ kB' = .switch := by
        cases kA' <;> cases kB' <;> simp at hhost ⊢
      constructor
      · rintro ⟨rfl, rfl⟩
        exact ⟨rfl, rfl, hab, hsw, by simpa using hlink⟩
      · rintro ⟨h1, h2, -⟩
        exact ⟨h1, h2⟩

/-! ### What each update keeps -/

section Updates

variable {n c : String} {d : Option Dpid} {l : Link} {e : LinkEnd}

@[simp] theorem withHost_hosts : (t.withHost n).hosts = t.hosts ++ [{ name := n }] := rfl
@[simp] theorem withHost_switches : (t.withHost n).switches = t.switches := rfl
@[simp] theorem withHost_links : (t.withHost n).links = t.links := rfl
@[simp] theorem withSwitch_hosts : (t.withSwitch n d).hosts = t.hosts := rfl
@[simp] theorem withSwitch_switches :
    (t.withSwitch n d).switches = t.switches ++ [{ name := n, dpid := d }] := rfl
@[simp] theorem withSwitch_links : (t.withSwitch n d).links = t.links := rfl
@[simp] theorem withBinding_hosts : (t.withBinding n c).hosts = t.hosts := rfl
@[simp] theorem withBinding_links : (t.withBinding n c).links = t.links := rfl
@[simp] theorem withLink_hosts : (t.withLink l).hosts = t.hosts := rfl
@[simp] theorem withLink_switches : (t.withLink l).switches = t.switches := rfl
@[simp] theorem withLink_links : (t.withLink l).links = t.links ++ [l] := rfl
@[simp] theorem addEnd_hosts : (t.addEnd e).hosts = t.hosts.map (·.addEnd e) := rfl
@[simp] theorem addEnd_switches : (t.addEnd e).switches = t.switches.map (·.addEnd e) := rfl

end Updates

/-! ### Giving a node an interface -/

section Allocation

variable {e : LinkEnd} {n : String} {k : NodeKind}

@[simp]
theorem kindOf_addEnd : (t.addEnd e).kindOf n = t.kindOf n := by
  simp only [kindOf, addEnd, List.any_map, Function.comp_def, Host.addEnd_name, Switch.addEnd_name]

@[simp]
theorem addEnd_links : (t.addEnd e).links = t.links := rfl

@[simp]
theorem kindOf_withLink {l : Link} : (t.withLink l).kindOf n = t.kindOf n := rfl

theorem host?_addEnd : (t.addEnd e).host? n = (t.host? n).map (·.addEnd e) := by
  simp only [host?, addEnd, List.find?_map, Function.comp_def, Host.addEnd_name]

theorem switch?_addEnd : (t.switch? n).map (·.addEnd e) = (t.addEnd e).switch? n := by
  simp only [switch?, addEnd, List.find?_map, Function.comp_def, Switch.addEnd_name]

theorem nextInterface_addEnd (hn : n ≠ e.node) :
    (t.addEnd e).nextInterface n k = t.nextInterface n k := by
  cases k with
  | host =>
    simp only [nextInterface, host?_addEnd, Option.map_map]
    refine Option.map_congr fun h hf => ?_
    rw [Function.comp_apply, Host.addEnd_of_ne (by rw [(t.host?_eq_some hf).2]; exact hn)]
  | switch =>
    simp only [nextInterface, ← switch?_addEnd, Option.map_map]
    refine Option.map_congr fun s hf => ?_
    rw [Function.comp_apply, Switch.addEnd_of_ne (by rw [(t.switch?_eq_some hf).2]; exact hn)]

theorem nextInterface_isSome (hk : t.kindOf n = some k) : (t.nextInterface n k).isSome := by
  cases k with
  | host => simpa [nextInterface] using t.host?_isSome hk
  | switch => simpa [nextInterface] using t.switch?_isSome hk

end Allocation

/-! ### Each change, run -/

section Runs

variable {n a b : String}

theorem addHostIn_run : (addHostIn n).run.run t = match t.checkNewName n with
    | .ok _ => (.ok (), t.withHost n)
    | .error e => (.error e, t) := by
  unfold addHostIn
  rw [StepRun.bind_eq, StepRun.get_eq]
  dsimp only
  rw [StepRun.check_bind_eq]
  cases t.checkNewName n <;> rfl

theorem addSwitchIn_run (d : Option Dpid) : (addSwitchIn n d).run.run t =
    match t.checkNewName n, t.checkDpid d with
    | .ok _, .ok _ => (.ok (), t.withSwitch n d)
    | .error e, _ => (.error e, t)
    | .ok _, .error e => (.error e, t) := by
  unfold addSwitchIn
  rw [StepRun.bind_eq, StepRun.get_eq]
  dsimp only
  rw [StepRun.check_bind_eq]
  cases t.checkNewName n with
  | error e => rfl
  | ok _ =>
    dsimp only
    rw [StepRun.check_bind_eq]
    cases t.checkDpid d <;> rfl

theorem bindControllerIn_run (c : String) : (bindControllerIn n c).run.run t =
    match t.checkSwitch n with
    | .ok _ => (.ok (), t.withBinding n c)
    | .error e => (.error e, t) := by
  unfold bindControllerIn
  rw [StepRun.bind_eq, StepRun.get_eq]
  dsimp only
  rw [StepRun.check_bind_eq]
  cases t.checkSwitch n <;> rfl

theorem allocateIn_run {k : NodeKind} {i : String} (h : t.nextInterface n k = some i) :
    (allocateIn n k).run.run t = (.ok ⟨n, k, i⟩, t.addEnd ⟨n, k, i⟩) := by
  unfold allocateIn
  rw [StepRun.bind_eq, StepRun.get_eq]
  dsimp only
  rw [h]
  rfl

theorem linkIn_run_of_error {e : Error} (hc : t.checkLink a b = .error e) :
    (linkIn a b).run.run t = (.error e, t) := by
  unfold linkIn
  rw [StepRun.bind_eq, StepRun.get_eq]
  dsimp only
  rw [StepRun.check_bind_eq, hc]

theorem linkIn_run_of_ok {kA kB : NodeKind} {iA iB : String} (hc : t.checkLink a b = .ok (kA, kB))
    (hA : t.nextInterface a kA = some iA) (hB : t.nextInterface b kB = some iB) :
    (linkIn a b).run.run t = (.ok ⟨⟨a, kA, iA⟩, ⟨b, kB, iB⟩⟩,
      ((t.addEnd ⟨a, kA, iA⟩).addEnd ⟨b, kB, iB⟩).withLink ⟨⟨a, kA, iA⟩, ⟨b, kB, iB⟩⟩) := by
  have hab : a ≠ b := ((t.checkLink_eq_ok).mp hc).2.2.1
  have hB' : (t.addEnd ⟨a, kA, iA⟩).nextInterface b kB = some iB := by
    rw [nextInterface_addEnd _ (Ne.symm hab), hB]
  unfold linkIn
  rw [StepRun.bind_eq, StepRun.get_eq]
  dsimp only
  rw [StepRun.check_bind_eq, hc]
  dsimp only
  rw [StepRun.bind_eq, allocateIn_run _ hA]
  dsimp only
  rw [StepRun.bind_eq, allocateIn_run _ hB']
  rfl

end Runs

/-! ### A change that fails changes nothing -/

def Atomic {α : Type} (x : TopologyStep α) : Prop :=
  ∀ t e, (x.run.run t).1 = .error e → (x.run.run t).2 = t

section Atomic

variable {n a b : String}

theorem addHostIn_atomic : Atomic (addHostIn n) := by
  intro t e he
  rw [addHostIn_run] at he ⊢
  cases hc : t.checkNewName n with
  | ok _ => rw [hc] at he; cases he
  | error _ => rfl

theorem addSwitchIn_atomic (d : Option Dpid) : Atomic (addSwitchIn n d) := by
  intro t e he
  rw [addSwitchIn_run] at he ⊢
  cases hc : t.checkNewName n with
  | error _ => rfl
  | ok _ =>
    cases hd : t.checkDpid d with
    | ok _ => rw [hc, hd] at he; cases he
    | error _ => rfl

theorem bindControllerIn_atomic (c : String) : Atomic (bindControllerIn n c) := by
  intro t e he
  rw [bindControllerIn_run] at he ⊢
  cases hc : t.checkSwitch n with
  | ok _ => rw [hc] at he; cases he
  | error _ => rfl

theorem linkIn_atomic : Atomic (linkIn a b) := by
  intro t e he
  cases hc : t.checkLink a b with
  | error _ => rw [linkIn_run_of_error t hc]
  | ok kinds =>
    obtain ⟨kA, kB⟩ := kinds
    obtain ⟨hkA, hkB, -⟩ := (t.checkLink_eq_ok).mp hc
    obtain ⟨iA, hA⟩ := Option.isSome_iff_exists.mp (t.nextInterface_isSome hkA)
    obtain ⟨iB, hB⟩ := Option.isSome_iff_exists.mp (t.nextInterface_isSome hkB)
    rw [linkIn_run_of_ok t hc hA hB] at he
    cases he

end Atomic

end Topology

end MudTestbed
