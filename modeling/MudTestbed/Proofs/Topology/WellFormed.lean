import Mathlib.Data.List.Nodup
import MudTestbed.Proofs.Topology.Steps

/-!
# The topology's representation invariant

`Topology.WellFormed` is what every topology built by calls of its interface satisfies: node
names nonempty and unique across hosts and switches, pinned datapath ids distinct, every link
between two distinct nodes of the kinds its ends say, at least one a switch, no two links
between the same pair, each node's interfaces numbered in the order its links were made,
and no controller bound twice to a switch.

The empty topology is well formed and each change keeps it so (`WellFormed.addHost`, ...),
so every sequence of calls from the empty topology ends well formed (`replay_wellFormed`),
whichever calls fail on the way.
-/

namespace MudTestbed

set_option autoImplicit false

def interfaceNames (node : String) (first k : Nat) : List String :=
  (List.range k).map fun i => interfaceName node (i + first)

theorem interfaceNames_succ (node : String) (first k : Nat) :
    interfaceNames node first (k + 1) =
      interfaceNames node first k ++ [interfaceName node (k + first)] := by
  simp [interfaceNames, List.range_succ]

def NumberedEnds (node : String) (first : Nat) (ends : List LinkEnd) (names : List String) :
    Prop :=
  ends.map (·.interface) = names ∧ names = interfaceNames node first ends.length

theorem NumberedEnds.nil (node : String) (first : Nat) : NumberedEnds node first [] [] :=
  ⟨rfl, rfl⟩

theorem NumberedEnds.append {node : String} {first : Nat} {ends : List LinkEnd}
    {names : List String} {o : Option LinkEnd} (h : NumberedEnds node first ends names)
    (ho : ∀ e ∈ o, e.interface = interfaceName node (names.length + first)) :
    NumberedEnds node first (ends ++ o.toList) (names ++ o.toList.map (·.interface)) := by
  obtain ⟨hmap, hnames⟩ := h
  have hlen : names.length = ends.length := by rw [← hmap, List.length_map]
  cases o with
  | none => simpa using ⟨hmap, hnames⟩
  | some e =>
    refine ⟨by simp [hmap], ?_⟩
    rw [Option.toList_some, List.map_singleton, ho e rfl, hlen, List.length_append,
      List.length_singleton, interfaceNames_succ, ← hnames]

theorem Host.addEnd_addEnd_interfaces {h : Host} {l : Link} (hne : l.a.node ≠ l.b.node)
    (ha : h.name = l.a.node → l.a.kind = .host) (hb : h.name = l.b.node → l.b.kind = .host) :
    ((h.addEnd l.a).addEnd l.b).interfaces =
      h.interfaces ++ (l.endFor h.name).toList.map (·.interface) := by
  by_cases hA : h.name = l.a.node
  · simp [Host.addEnd, Link.endFor, hA, ha hA, hne]
  · by_cases hB : h.name = l.b.node
    · simp [Host.addEnd, Link.endFor, hB, hb hB, hne, Ne.symm hne]
    · simp [Host.addEnd, Link.endFor, hA, hB, Ne.symm hA, Ne.symm hB]

theorem Switch.addEnd_addEnd_ports {s : Switch} {l : Link} (hne : l.a.node ≠ l.b.node)
    (ha : s.name = l.a.node → l.a.kind = .switch) (hb : s.name = l.b.node → l.b.kind = .switch) :
    ((s.addEnd l.a).addEnd l.b).ports = s.ports ++ (l.endFor s.name).toList.map (·.interface) := by
  by_cases hA : s.name = l.a.node
  · simp [Switch.addEnd, Link.endFor, hA, ha hA, hne]
  · by_cases hB : s.name = l.b.node
    · simp [Switch.addEnd, Link.endFor, hB, hb hB, hne, Ne.symm hne]
    · simp [Switch.addEnd, Link.endFor, hA, hB, Ne.symm hA, Ne.symm hB]

namespace Link

theorem endFor_node {l : Link} {n : String} {e : LinkEnd} (h : l.endFor n = some e) :
    e.node = n ∧ (e = l.a ∨ e = l.b) := by
  unfold endFor at h
  split_ifs at h with ha hb
  · cases h
    exact ⟨beq_iff_eq.mp ha, .inl rfl⟩
  · cases h
    exact ⟨beq_iff_eq.mp hb, .inr rfl⟩

theorem joins_ends (l l' : Link) : l'.joins l.a.node l.b.node = l.joins l'.a.node l'.b.node := by
  unfold joins
  grind

end Link

namespace Topology

def nodeNames (t : Topology) : List String := t.hosts.map (·.name) ++ t.switches.map (·.name)

def endsAt (t : Topology) (n : String) : List LinkEnd := t.links.filterMap (·.endFor n)

def ProperLink (t : Topology) (l : Link) : Prop :=
  l.a.node ≠ l.b.node ∧ t.kindOf l.a.node = some l.a.kind ∧ t.kindOf l.b.node = some l.b.kind ∧
    (l.a.kind = .switch ∨ l.b.kind = .switch)

/-- The representation invariant, see the module comment. -/
structure WellFormed (t : Topology) : Prop where
  names_ne_empty : ∀ n ∈ t.nodeNames, n ≠ ""
  names_nodup : t.nodeNames.Nodup
  dpids_nodup : (t.switches.filterMap (·.dpid)).Nodup
  link_ends : ∀ l ∈ t.links, t.ProperLink l
  links_distinct : t.links.Pairwise fun l l' => l'.joins l.a.node l.b.node = false
  host_interfaces : ∀ h ∈ t.hosts, NumberedEnds h.name 0 (t.endsAt h.name) h.interfaces
  switch_ports : ∀ s ∈ t.switches, NumberedEnds s.name 1 (t.endsAt s.name) s.ports
  controllers_nodup : ∀ s ∈ t.switches, s.controllers.Nodup

section Names

variable {t u : Topology} {n : String}

theorem kindOf_eq_of_names (hh : u.hosts.map (·.name) = t.hosts.map (·.name))
    (hs : u.switches.map (·.name) = t.switches.map (·.name)) (n : String) :
    u.kindOf n = t.kindOf n := by
  have hh' : u.hosts.any (·.name == n) = t.hosts.any (·.name == n) := by
    simpa [List.any_map, Function.comp_def] using congrArg (List.any · (· == n)) hh
  have hs' : u.switches.any (·.name == n) = t.switches.any (·.name == n) := by
    simpa [List.any_map, Function.comp_def] using congrArg (List.any · (· == n)) hs
  simp only [kindOf, hh', hs']

theorem kindOf_eq_none_iff : t.kindOf n = none ↔ n ∉ t.nodeNames := by
  simp [kindOf_eq_none, nodeNames]

theorem kindOf_of_host {h : Host} (hh : h ∈ t.hosts) : t.kindOf h.name = some .host :=
  (t.kindOf_eq_some_host).mpr ⟨h, hh, rfl⟩

theorem kindOf_of_switch {s : Switch} (hnd : t.nodeNames.Nodup) (hs : s ∈ t.switches) :
    t.kindOf s.name = some .switch := by
  have hdisj := (List.nodup_append.mp hnd).2.2
  refine (t.kindOf_eq_some_switch).mpr ⟨fun h hh he => ?_, s, hs, rfl⟩
  exact hdisj h.name (List.mem_map_of_mem hh) s.name (List.mem_map_of_mem hs) he

theorem host?_of_mem {h : Host} (hnd : t.nodeNames.Nodup) (hh : h ∈ t.hosts) :
    t.host? h.name = some h := by
  obtain ⟨h', hf⟩ := Option.isSome_iff_exists.mp (t.host?_isSome (kindOf_of_host hh))
  obtain ⟨hm', hn'⟩ := t.host?_eq_some hf
  have hnd' := (List.nodup_append.mp hnd).1
  rw [hf, List.inj_on_of_nodup_map hnd' hm' hh hn']

theorem switch?_of_mem {s : Switch} (hnd : t.nodeNames.Nodup) (hs : s ∈ t.switches) :
    t.switch? s.name = some s := by
  obtain ⟨s', hf⟩ := Option.isSome_iff_exists.mp (t.switch?_isSome (kindOf_of_switch hnd hs))
  obtain ⟨hm', hn'⟩ := t.switch?_eq_some hf
  have hnd' := (List.nodup_append.mp hnd).2.1
  rw [hf, List.inj_on_of_nodup_map hnd' hm' hs hn']

theorem nextInterface_of_host {h : Host} (hnd : t.nodeNames.Nodup) (hh : h ∈ t.hosts) :
    t.nextInterface h.name .host = some (interfaceName h.name (h.interfaces.length + 0)) := by
  simp [nextInterface, host?_of_mem hnd hh]

theorem nextInterface_of_switch {s : Switch} (hnd : t.nodeNames.Nodup) (hs : s ∈ t.switches) :
    t.nextInterface s.name .switch = some (interfaceName s.name (s.ports.length + 1)) := by
  simp [nextInterface, switch?_of_mem hnd hs]

theorem endsAt_eq_nil (hw : t.WellFormed) (hn : t.kindOf n = none) : t.endsAt n = [] := by
  refine List.filterMap_eq_nil_iff.mpr fun l hl => ?_
  cases he : l.endFor n with
  | none => rfl
  | some e =>
    obtain ⟨_, hka, hkb, _⟩ := hw.link_ends l hl
    obtain ⟨hnode, rfl | rfl⟩ := Link.endFor_node he
    · rw [hnode, hn] at hka
      cases hka
    · rw [hnode, hn] at hkb
      cases hkb

end Names

theorem WellFormed.empty : WellFormed {} where
  names_ne_empty := by simp [nodeNames]
  names_nodup := by simp [nodeNames]
  dpids_nodup := by simp
  link_ends := by simp
  links_distinct := by simp
  host_interfaces := by simp
  switch_ports := by simp
  controllers_nodup := by simp

/-! ### Each change keeps the invariant -/

section Preservation

variable {t : Topology}

theorem ProperLink.of_kinds {u : Topology} {l : Link} (h : t.ProperLink l)
    (hkind : ∀ x, t.kindOf x ≠ none → u.kindOf x = t.kindOf x) : u.ProperLink l := by
  obtain ⟨hab, ha, hb, hsw⟩ := h
  refine ⟨hab, ?_, ?_, hsw⟩
  · rw [hkind _ (by simp [ha]), ha]
  · rw [hkind _ (by simp [hb]), hb]

theorem WellFormed.names_of_perm {u : Topology} {n : String} (hw : t.WellFormed)
    (hp : u.nodeNames.Perm (n :: t.nodeNames)) (hne : n ≠ "") (hfresh : n ∉ t.nodeNames) :
    (∀ x ∈ u.nodeNames, x ≠ "") ∧ u.nodeNames.Nodup := by
  refine ⟨fun x hx => ?_, hp.nodup_iff.mpr (List.nodup_cons.mpr ⟨hfresh, hw.names_nodup⟩)⟩
  rcases List.mem_cons.mp (hp.mem_iff.mp hx) with rfl | hx
  · exact hne
  · exact hw.names_ne_empty x hx

theorem WellFormed.withHost (hw : t.WellFormed) {n : String} (hc : t.checkNewName n = .ok ()) :
    (t.withHost n).WellFormed := by
  obtain ⟨hne, hk⟩ := (t.checkNewName_eq_ok).mp hc
  obtain ⟨hnames, hnodup⟩ := hw.names_of_perm (u := t.withHost n)
    (by simp [nodeNames, List.perm_middle]) hne (kindOf_eq_none_iff.mp hk)
  have hkind : ∀ x, t.kindOf x ≠ none → (t.withHost n).kindOf x = t.kindOf x := by
    intro x hx
    have hxn : n ≠ x := fun h => hx (h ▸ hk)
    simp [kindOf, hxn]
  constructor
  case names_ne_empty => exact hnames
  case names_nodup => exact hnodup
  case dpids_nodup => exact hw.dpids_nodup
  case link_ends => exact fun l hl => (hw.link_ends l hl).of_kinds hkind
  case links_distinct => exact hw.links_distinct
  case host_interfaces =>
    intro h hh
    rcases List.mem_append.mp hh with hh | hh
    · exact hw.host_interfaces h hh
    · rw [List.mem_singleton.mp hh]
      show NumberedEnds n 0 (t.endsAt n) []
      rw [endsAt_eq_nil hw hk]
      exact NumberedEnds.nil n 0
  case switch_ports => exact hw.switch_ports
  case controllers_nodup => exact hw.controllers_nodup

theorem WellFormed.withSwitch (hw : t.WellFormed) {n : String} {d : Option Dpid}
    (hc : t.checkNewName n = .ok ()) (hd : t.checkDpid d = .ok ()) :
    (t.withSwitch n d).WellFormed := by
  obtain ⟨hne, hk⟩ := (t.checkNewName_eq_ok).mp hc
  obtain ⟨hnames, hnodup⟩ := hw.names_of_perm (u := t.withSwitch n d)
    (by simpa [nodeNames] using List.perm_append_singleton n t.nodeNames) hne
    (kindOf_eq_none_iff.mp hk)
  have hkind : ∀ x, t.kindOf x ≠ none → (t.withSwitch n d).kindOf x = t.kindOf x := by
    intro x hx
    have hxn : n ≠ x := fun h => hx (h ▸ hk)
    simp [kindOf, hxn]
  constructor
  case names_ne_empty => exact hnames
  case names_nodup => exact hnodup
  case dpids_nodup =>
    cases d with
    | none => simpa using hw.dpids_nodup
    | some x =>
      have hx : ∀ s ∈ t.switches, s.dpid ≠ some x := (t.checkDpid_eq_ok).mp hd x rfl
      simp only [withSwitch_switches, List.filterMap_append, List.filterMap_cons,
        List.filterMap_nil, List.nodup_append, hw.dpids_nodup, List.nodup_singleton,
        List.mem_singleton, List.mem_filterMap, true_and]
      rintro a ⟨s, hs, hsx⟩ _ rfl rfl
      exact hx s hs hsx
  case link_ends => exact fun l hl => (hw.link_ends l hl).of_kinds hkind
  case links_distinct => exact hw.links_distinct
  case host_interfaces => exact hw.host_interfaces
  case switch_ports =>
    intro s hs
    rcases List.mem_append.mp hs with hs | hs
    · exact hw.switch_ports s hs
    · rw [List.mem_singleton.mp hs]
      show NumberedEnds n 1 (t.endsAt n) []
      rw [endsAt_eq_nil hw hk]
      exact NumberedEnds.nil n 1
  case controllers_nodup =>
    intro s hs
    rcases List.mem_append.mp hs with hs | hs
    · exact hw.controllers_nodup s hs
    · rw [List.mem_singleton.mp hs]
      exact List.nodup_nil

theorem WellFormed.withBinding (hw : t.WellFormed) (n c : String) :
    (t.withBinding n c).WellFormed := by
  have hnames : (t.withBinding n c).switches.map (·.name) = t.switches.map (·.name) := by
    refine (List.map_map ..).trans (List.map_congr_left fun s _ => ?_)
    simp only [Function.comp_apply]
    split <;> rfl
  have hdpids : (t.withBinding n c).switches.filterMap (·.dpid) =
      t.switches.filterMap (·.dpid) := by
    refine (List.filterMap_map ..).trans (congrArg₂ _ (funext fun s => ?_) rfl)
    simp only [Function.comp_apply]
    split <;> rfl
  have hkind (x : String) : (t.withBinding n c).kindOf x = t.kindOf x :=
    kindOf_eq_of_names (t := t) (u := t.withBinding n c) rfl hnames x
  constructor
  case names_ne_empty => simpa [nodeNames, hnames] using hw.names_ne_empty
  case names_nodup => simpa [nodeNames, hnames] using hw.names_nodup
  case dpids_nodup => simpa [hdpids] using hw.dpids_nodup
  case link_ends => exact fun l hl => (hw.link_ends l hl).of_kinds fun x _ => hkind x
  case links_distinct => exact hw.links_distinct
  case host_interfaces => exact hw.host_interfaces
  case switch_ports =>
    intro s' hs'
    obtain ⟨s, hs, rfl⟩ := List.mem_map.mp hs'
    split
    · exact hw.switch_ports s hs
    · exact hw.switch_ports s hs
  case controllers_nodup =>
    intro s' hs'
    obtain ⟨s, hs, rfl⟩ := List.mem_map.mp hs'
    split
    · next hbind =>
      have hc : c ∉ s.controllers := (by simpa using hbind : s.name = n ∧ c ∉ s.controllers).2
      simp only [List.nodup_append, hw.controllers_nodup s hs, List.nodup_singleton,
        List.mem_singleton, true_and]
      rintro a ha _ rfl rfl
      exact hc ha
    · exact hw.controllers_nodup s hs

theorem WellFormed.withLink (hw : t.WellFormed) {l : Link} (hl : t.ProperLink l)
    (hnew : ∀ l' ∈ t.links, l'.joins l.a.node l.b.node = false)
    (hA : t.nextInterface l.a.node l.a.kind = some l.a.interface)
    (hB : t.nextInterface l.b.node l.b.kind = some l.b.interface) :
    (((t.addEnd l.a).addEnd l.b).withLink l).WellFormed := by
  obtain ⟨hab, hka, hkb, _⟩ := hl
  have hends : ∀ e, (e = l.a ∨ e = l.b) →
      t.kindOf e.node = some e.kind ∧ t.nextInterface e.node e.kind = some e.interface := by
    rintro e (rfl | rfl)
    · exact ⟨hka, hA⟩
    · exact ⟨hkb, hB⟩
  have hnames : (((t.addEnd l.a).addEnd l.b).withLink l).nodeNames = t.nodeNames := by
    simp [nodeNames, Function.comp_def]
  have hkind (x : String) : (((t.addEnd l.a).addEnd l.b).withLink l).kindOf x = t.kindOf x := by
    simp
  have hendsAt (x : String) : (((t.addEnd l.a).addEnd l.b).withLink l).endsAt x =
      t.endsAt x ++ (l.endFor x).toList := by
    cases hx : l.endFor x <;> simp [endsAt, hx]
  have hkindAt : ∀ {x k}, t.kindOf x = some k → ∀ e, (e = l.a ∨ e = l.b) → x = e.node →
      e.kind = k := by
    intro x k hk e he hx
    rw [hx, (hends e he).1] at hk
    exact Option.some.inj hk
  constructor
  case names_ne_empty => rw [hnames]; exact hw.names_ne_empty
  case names_nodup => rw [hnames]; exact hw.names_nodup
  case dpids_nodup => simpa [List.filterMap_map, Function.comp_def] using hw.dpids_nodup
  case link_ends =>
    intro l' hl'
    rcases List.mem_append.mp hl' with hl' | hl'
    · exact (hw.link_ends l' hl').of_kinds fun x _ => hkind x
    · rw [List.mem_singleton.mp hl']
      exact ProperLink.of_kinds ⟨hab, hka, hkb, ‹_›⟩ fun x _ => hkind x
  case links_distinct =>
    refine List.pairwise_append.mpr ⟨hw.links_distinct, List.pairwise_singleton _ _, ?_⟩
    intro l' hl' l'' hl''
    rw [List.mem_singleton.mp hl'', Link.joins_ends]
    exact hnew l' hl'
  case host_interfaces =>
    intro h' hh'
    obtain ⟨h, hh, rfl⟩ : ∃ h ∈ t.hosts, (h.addEnd l.a).addEnd l.b = h' := by simpa using hh'
    have hkh := kindOf_of_host hh
    rw [Host.addEnd_addEnd_interfaces hab (hkindAt hkh l.a (.inl rfl))
      (hkindAt hkh l.b (.inr rfl)), Host.addEnd_name, Host.addEnd_name, hendsAt]
    refine (hw.host_interfaces h hh).append fun e he => ?_
    obtain ⟨hnode, hel⟩ := Link.endFor_node he
    have hi := (hends e hel).2
    rw [hkindAt hkh e hel hnode.symm, hnode, nextInterface_of_host hw.names_nodup hh] at hi
    exact (Option.some.inj hi).symm
  case switch_ports =>
    intro s' hs'
    obtain ⟨s, hs, rfl⟩ : ∃ s ∈ t.switches, (s.addEnd l.a).addEnd l.b = s' := by simpa using hs'
    have hks := kindOf_of_switch hw.names_nodup hs
    rw [Switch.addEnd_addEnd_ports hab (hkindAt hks l.a (.inl rfl))
      (hkindAt hks l.b (.inr rfl)), Switch.addEnd_name, Switch.addEnd_name, hendsAt]
    refine (hw.switch_ports s hs).append fun e he => ?_
    obtain ⟨hnode, hel⟩ := Link.endFor_node he
    have hi := (hends e hel).2
    rw [hkindAt hks e hel hnode.symm, hnode, nextInterface_of_switch hw.names_nodup hs] at hi
    exact (Option.some.inj hi).symm
  case controllers_nodup =>
    intro s' hs'
    obtain ⟨s, hs, rfl⟩ : ∃ s ∈ t.switches, (s.addEnd l.a).addEnd l.b = s' := by simpa using hs'
    simpa using hw.controllers_nodup s hs

end Preservation

/-! ### Sequences of calls -/

/-- A call of the topology's interface. -/
inductive Call where
  | addHost (name : String)
  | addSwitch (name : String) (dpid : Option Dpid)
  | bindController (switch controller : String)
  | link (a b : String)

def Call.run : Call → TopologyStep Unit
  | .addHost name => addHostIn name
  | .addSwitch name dpid => addSwitchIn name dpid
  | .bindController switch controller => bindControllerIn switch controller
  | .link a b => linkIn a b >>= fun _ => pure ()

def replay (calls : List Call) : Topology := calls.foldl (fun t c => (c.run.run.run t).2) {}

section Calls

variable {t : Topology}

theorem WellFormed.call (hw : t.WellFormed) (c : Call) : (c.run.run.run t).2.WellFormed := by
  cases c with
  | addHost n =>
    show ((addHostIn n).run.run t).2.WellFormed
    rw [addHostIn_run]
    cases hc : t.checkNewName n with
    | error _ => exact hw
    | ok _ => exact hw.withHost hc
  | addSwitch n d =>
    show ((addSwitchIn n d).run.run t).2.WellFormed
    rw [addSwitchIn_run]
    cases hc : t.checkNewName n with
    | error _ => exact hw
    | ok _ =>
      cases hd : t.checkDpid d with
      | error _ => exact hw
      | ok _ => exact hw.withSwitch hc hd
  | bindController n c =>
    show ((bindControllerIn n c).run.run t).2.WellFormed
    rw [bindControllerIn_run]
    cases t.checkSwitch n with
    | error _ => exact hw
    | ok _ => exact hw.withBinding n c
  | link a b =>
    show ((linkIn a b >>= fun _ => pure ()).run.run t).2.WellFormed
    rw [StepRun.bind_eq]
    cases hc : t.checkLink a b with
    | error _ =>
      rw [linkIn_run_of_error t hc]
      exact hw
    | ok kinds =>
      obtain ⟨kA, kB⟩ := kinds
      obtain ⟨hkA, hkB, hab, hsw, hnew⟩ := (t.checkLink_eq_ok).mp hc
      obtain ⟨iA, hA⟩ := Option.isSome_iff_exists.mp (t.nextInterface_isSome hkA)
      obtain ⟨iB, hB⟩ := Option.isSome_iff_exists.mp (t.nextInterface_isSome hkB)
      rw [linkIn_run_of_ok t hc hA hB]
      exact hw.withLink (l := ⟨⟨a, kA, iA⟩, ⟨b, kB, iB⟩⟩) ⟨hab, hkA, hkB, hsw⟩ hnew hA hB

theorem WellFormed.calls (hw : t.WellFormed) (calls : List Call) :
    (calls.foldl (fun t c => (c.run.run.run t).2) t).WellFormed := by
  induction calls generalizing t with
  | nil => exact hw
  | cons c cs ih => exact ih (hw.call c)

theorem replay_wellFormed (calls : List Call) : (replay calls).WellFormed :=
  WellFormed.empty.calls calls

theorem Call.run_atomic (c : Call) : Atomic c.run := by
  cases c with
  | addHost n => exact addHostIn_atomic
  | addSwitch n d => exact addSwitchIn_atomic d
  | bindController n c => exact bindControllerIn_atomic c
  | link a b =>
    intro t e he
    change ((linkIn a b >>= fun _ => pure ()).run.run t).1 = .error e at he
    show ((linkIn a b >>= fun _ => pure ()).run.run t).2 = t
    rw [StepRun.bind_eq] at he ⊢
    have hatomic := linkIn_atomic (a := a) (b := b) t
    rcases hl : (linkIn a b).run.run t with ⟨e' | l, t'⟩
    · rw [hl] at hatomic
      exact hatomic e' rfl
    · rw [hl] at he
      cases he

end Calls

/-- Calls keep the topology well formed, and a failed call changes nothing. -/
theorem calls_keep_topology_wellFormed :
    (∀ calls : List Call, (replay calls).WellFormed) ∧
      ∀ (c : Call) (t : Topology) (e : Error),
        (c.run.run.run t).1 = .error e → (c.run.run.run t).2 = t :=
  ⟨replay_wellFormed, fun c => c.run_atomic⟩

end Topology

end MudTestbed
