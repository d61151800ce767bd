import Mathlib.Data.List.Perm.Basic
import MudTestbed.Proofs.Topology.WellFormed
import MudTestbed.Provision.Basic

/-!
# Interface names are unique

An interface is named `<node>-eth<i>`. The digits at the end of a name give back `i`, and
what stands before them the node, so two interfaces share a name only when they are the same
interface of the same node (`interfaceName_inj`). A well-formed topology names each
node's interfaces after the node with distinct numbers, so no interface name is used twice
in the whole topology (`WellFormed.nodeInterfaces_nodup`), whatever the node names, even
names that themselves end in `-eth<digits>`. On a topology built by calls every link end
has an interface of its own (`replay_endInterfaces_nodup`). So no two links have the same
key, and the order provisioning creates links in is a permutation of the links
(`linkOrder_perm`): each link is created once.
-/

namespace MudTestbed

set_option autoImplicit false

/-! ### Reading a name back -/

theorem takeWhile_reverse_append_toDigits {l : List Char}
    (hl : ∀ c ∈ l.getLast?, c.isDigit = false) (i : Nat) :
    (l ++ Nat.toDigits 10 i).reverse.takeWhile Char.isDigit = (Nat.toDigits 10 i).reverse := by
  have hdigits : ∀ c ∈ (Nat.toDigits 10 i).reverse, c.isDigit = true := fun c hc =>
    Nat.isDigit_of_mem_toDigits (by decide) (by decide) (List.mem_reverse.mp hc)
  rw [List.reverse_append, List.takeWhile_append_of_pos hdigits]
  cases hrev : l.reverse with
  | nil => simp
  | cons c rest =>
    have hc : c ∈ l.getLast? := by rw [← List.head?_reverse, hrev]; rfl
    simp [hl c hc]

theorem interfaceName_toList (n : String) (i : Nat) :
    (interfaceName n i).toList = (n.toList ++ "-eth".toList) ++ Nat.toDigits 10 i := by
  simp only [interfaceName, String.toList_append, List.append_assoc, Nat.toString_eq_repr,
    Nat.toList_repr]
  rfl

theorem interfaceName_inj {n m : String} {i j : Nat} :
    interfaceName n i = interfaceName m j ↔ n = m ∧ i = j := by
  refine ⟨fun h => ?_, fun ⟨hn, hi⟩ => hn ▸ hi ▸ rfl⟩
  have hl := congrArg String.toList h
  rw [interfaceName_toList, interfaceName_toList] at hl
  have hlast (s : String) : ∀ c ∈ (s.toList ++ "-eth".toList).getLast?, c.isDigit = false := by
    simp [List.getLast?_append]
  have hd : Nat.toDigits 10 i = Nat.toDigits 10 j := by
    have := congrArg (fun l => l.reverse.takeWhile Char.isDigit) hl
    simpa only [takeWhile_reverse_append_toDigits (hlast n),
      takeWhile_reverse_append_toDigits (hlast m), List.reverse_inj] using this
  have hij : i = j := calc
    i = Nat.ofDigitChars 10 (Nat.toDigits 10 i) 0 := Nat.ofDigitChars_ten_toDigits.symm
    _ = Nat.ofDigitChars 10 (Nat.toDigits 10 j) 0 := by rw [hd]
    _ = j := Nat.ofDigitChars_ten_toDigits
  subst hij
  exact ⟨String.ext (List.append_cancel_right (List.append_cancel_right hl)), rfl⟩

theorem interfaceNames_nodup (node : String) (first k : Nat) :
    (interfaceNames node first k).Nodup := by
  refine List.nodup_range.map_on fun i _ j _ h => ?_
  have := (interfaceName_inj.mp h).2
  omega

theorem mem_interfaceNames {node x : String} {first k : Nat}
    (hx : x ∈ interfaceNames node first k) : ∃ i, x = interfaceName node i := by
  obtain ⟨i, -, rfl⟩ := List.mem_map.mp hx
  exact ⟨_, rfl⟩

theorem nodup_flatMap_interfaceNames {ns : List (String × List String)}
    (hnames : (ns.map Prod.fst).Nodup)
    (hown : ∀ p ∈ ns, p.2.Nodup ∧ ∀ x ∈ p.2, ∃ i, x = interfaceName p.1 i) :
    (ns.flatMap Prod.snd).Nodup := by
  refine List.nodup_flatMap.mpr ⟨fun p hp => (hown p hp).1, ?_⟩
  refine (List.pairwise_map.mp hnames).imp_of_mem fun hp hq hne x hxp hxq => ?_
  obtain ⟨i, rfl⟩ := (hown _ hp).2 x hxp
  obtain ⟨j, hj⟩ := (hown _ hq).2 _ hxq
  exact hne (interfaceName_inj.mp hj).1

def NodeKind.firstIndex : NodeKind → Nat
  | .host => 0
  | .switch => 1

namespace Topology

def endInterfaces (t : Topology) : List String :=
  t.links.flatMap fun l => [l.a.interface, l.b.interface]

def nodeInterfaces (t : Topology) : List String :=
  t.hosts.flatMap (·.interfaces) ++ t.switches.flatMap (·.ports)

@[simp]
theorem endInterfaces_addEnd (t : Topology) (e : LinkEnd) :
    (t.addEnd e).endInterfaces = t.endInterfaces := rfl

@[simp]
theorem endInterfaces_withLink (t : Topology) (l : Link) :
    (t.withLink l).endInterfaces = t.endInterfaces ++ [l.a.interface, l.b.interface] := by
  simp [endInterfaces]

/-! ### Where each interface stands -/

section Numbering

variable {t : Topology} {n : String} {k : NodeKind} {l : Link} {e : LinkEnd}

theorem WellFormed.numbered (hw : t.WellFormed) (hk : t.kindOf n = some k) :
    (∃ names, NumberedEnds n k.firstIndex (t.endsAt n) names) ∧
      t.nextInterface n k = some (interfaceName n ((t.endsAt n).length + k.firstIndex)) := by
  cases k with
  | host =>
    obtain ⟨h, hh, rfl⟩ := (t.kindOf_eq_some_host).mp hk
    have hn := hw.host_interfaces h hh
    refine ⟨⟨_, hn⟩, ?_⟩
    rw [nextInterface_of_host hw.names_nodup hh, ← hn.1, List.length_map]
    rfl
  | switch =>
    obtain ⟨-, s, hs, rfl⟩ := (t.kindOf_eq_some_switch).mp hk
    have hn := hw.switch_ports s hs
    refine ⟨⟨_, hn⟩, ?_⟩
    rw [nextInterface_of_switch hw.names_nodup hs, ← hn.1, List.length_map]
    rfl

theorem WellFormed.endFor_node (hw : t.WellFormed) (hl : l ∈ t.links) (he : e = l.a ∨ e = l.b) :
    l.endFor e.node = some e := by
  rcases he with rfl | rfl
  · simp [Link.endFor]
  · simp [Link.endFor, (hw.link_ends l hl).1]

theorem WellFormed.mem_endsAt (hw : t.WellFormed) (hl : l ∈ t.links) (he : e = l.a ∨ e = l.b) :
    e ∈ t.endsAt e.node :=
  List.mem_filterMap.mpr ⟨l, hl, hw.endFor_node hl he⟩

theorem WellFormed.end_interface (hw : t.WellFormed) (hl : l ∈ t.links) (he : e = l.a ∨ e = l.b) :
    ∃ i < (t.endsAt e.node).length, e.interface = interfaceName e.node (i + e.kind.firstIndex) := by
  have hk : t.kindOf e.node = some e.kind := by
    obtain ⟨-, ha, hb, -⟩ := hw.link_ends l hl
    rcases he with rfl | rfl
    · exact ha
    · exact hb
  obtain ⟨⟨names, hmap, hnames⟩, -⟩ := hw.numbered hk
  have hm : e.interface ∈ names := hmap ▸ List.mem_map_of_mem (hw.mem_endsAt hl he)
  rw [hnames, interfaceNames] at hm
  obtain ⟨i, hi, heq⟩ := List.mem_map.mp hm
  exact ⟨i, List.mem_range.mp hi, heq.symm⟩

theorem WellFormed.nextInterface_fresh (hw : t.WellFormed) (hk : t.kindOf n = some k) {i : String}
    (hi : t.nextInterface n k = some i) : i ∉ t.endInterfaces := by
  intro hmem
  obtain ⟨l, hl, he⟩ := List.mem_flatMap.mp hmem
  obtain ⟨e, hel, rfl⟩ : ∃ e, (e = l.a ∨ e = l.b) ∧ e.interface = i := by
    rcases List.mem_cons.mp he with he | he
    · exact ⟨l.a, .inl rfl, he.symm⟩
    · exact ⟨l.b, .inr rfl, (List.mem_singleton.mp he).symm⟩
  obtain ⟨j, hj, hname⟩ := hw.end_interface hl hel
  rw [(hw.numbered hk).2, Option.some.injEq, hname, interfaceName_inj] at hi
  obtain ⟨rfl, hidx⟩ := hi
  have hkind : e.kind = k := by
    obtain ⟨-, ha, hb, -⟩ := hw.link_ends l hl
    have hke : t.kindOf e.node = some e.kind := by
      rcases hel with rfl | rfl
      · exact ha
      · exact hb
    rw [hk] at hke
    exact (Option.some.inj hke).symm
  rw [hkind] at hidx
  omega

end Numbering

/-! ### Every link end has its own interface -/

section Distinct

variable {t : Topology}

theorem WellFormed.nodeInterfaces_nodup (hw : t.WellFormed) : t.nodeInterfaces.Nodup := by
  have hsplit : t.nodeInterfaces = (t.hosts.map (fun h => (h.name, h.interfaces)) ++
      t.switches.map (fun s => (s.name, s.ports))).flatMap Prod.snd := by
    simp [nodeInterfaces, List.flatMap_append, List.flatMap_map]
  rw [hsplit]
  refine nodup_flatMap_interfaceNames
    (by simpa [nodeNames, Function.comp_def] using hw.names_nodup) fun p hp => ?_
  rcases List.mem_append.mp hp with hp | hp
  · obtain ⟨h, hh, rfl⟩ := List.mem_map.mp hp
    rw [(hw.host_interfaces h hh).2]
    exact ⟨interfaceNames_nodup .., fun x hx => mem_interfaceNames hx⟩
  · obtain ⟨s, hs, rfl⟩ := List.mem_map.mp hp
    rw [(hw.switch_ports s hs).2]
    exact ⟨interfaceNames_nodup .., fun x hx => mem_interfaceNames hx⟩

theorem WellFormed.endInterfaces_call (hw : t.WellFormed) (hn : t.endInterfaces.Nodup)
    (c : Call) : (c.run.run.run t).2.endInterfaces.Nodup := by
  cases c with
  | addHost n =>
    show ((addHostIn n).run.run t).2.endInterfaces.Nodup
    rw [addHostIn_run]
    cases t.checkNewName n <;> exact hn
  | addSwitch n d =>
    show ((addSwitchIn n d).run.run t).2.endInterfaces.Nodup
    rw [addSwitchIn_run]
    cases t.checkNewName n <;> cases t.checkDpid d <;> exact hn
  | bindController n c =>
    show ((bindControllerIn n c).run.run t).2.endInterfaces.Nodup
    rw [bindControllerIn_run]
    cases t.checkSwitch n <;> exact hn
  | link a b =>
    show ((linkIn a b >>= fun _ => pure ()).run.run t).2.endInterfaces.Nodup
    rw [StepRun.bind_eq]
    cases hc : t.checkLink a b with
    | error _ =>
      rw [linkIn_run_of_error t hc]
      exact hn
    | ok kinds =>
      obtain ⟨kA, kB⟩ := kinds
      obtain ⟨hkA, hkB, hab, -, -⟩ := (t.checkLink_eq_ok).mp hc
      obtain ⟨iA, hA⟩ := Option.isSome_iff_exists.mp (t.nextInterface_isSome hkA)
      obtain ⟨iB, hB⟩ := Option.isSome_iff_exists.mp (t.nextInterface_isSome hkB)
      rw [linkIn_run_of_ok t hc hA hB]
      have hAB : iA ≠ iB := by
        rw [(hw.numbered hkA).2, Option.some.injEq] at hA
        rw [(hw.numbered hkB).2, Option.some.injEq] at hB
        rw [← hA, ← hB, Ne, interfaceName_inj]
        exact fun h => hab h.1
      show (((t.addEnd ⟨a, kA, iA⟩).addEnd ⟨b, kB, iB⟩).withLink
        ⟨⟨a, kA, iA⟩, ⟨b, kB, iB⟩⟩).endInterfaces.Nodup
      rw [endInterfaces_withLink, endInterfaces_addEnd, endInterfaces_addEnd]
      refine List.nodup_append.mpr ⟨hn, by simp [hAB], ?_⟩
      rintro x hx y hy rfl
      rcases List.mem_cons.mp hy with rfl | hy
      · exact hw.nextInterface_fresh hkA hA hx
      · rw [List.mem_singleton.mp hy] at hx
        exact hw.nextInterface_fresh hkB hB hx

theorem WellFormed.endInterfaces_calls (hw : t.WellFormed) (hn : t.endInterfaces.Nodup)
    (calls : List Call) : (calls.foldl (fun t c => (c.run.run.run t).2) t).endInterfaces.Nodup := by
  induction calls generalizing t with
  | nil => exact hn
  | cons c cs ih => exact ih (hw.call c) (hw.endInterfaces_call hn c)

theorem replay_endInterfaces_nodup (calls : List Call) : (replay calls).endInterfaces.Nodup :=
  WellFormed.empty.endInterfaces_calls List.nodup_nil calls

end Distinct

end Topology

theorem Link.interface_of_key_eq {l l' : Link} (h : l.key = l'.key) :
    l.a.interface = l'.a.interface ∨ l.a.interface = l'.b.interface := by
  unfold Link.key at h
  split_ifs at h <;> obtain ⟨h₁, h₂⟩ := Prod.mk.inj h
  · exact .inl h₁
  · exact .inr h₁
  · exact .inr h₂
  · exact .inl h₂

theorem Link.keys_nodup {ls : List Link}
    (h : (ls.flatMap fun l => [l.a.interface, l.b.interface]).Nodup) : (ls.map Link.key).Nodup := by
  induction ls with
  | nil => exact List.nodup_nil
  | cons l rest ih =>
    rw [List.flatMap_cons, List.nodup_append] at h
    obtain ⟨-, hrest, hdisj⟩ := h
    refine List.nodup_cons.mpr ⟨fun hk => ?_, ih hrest⟩
    obtain ⟨l', hl', hkey⟩ := List.mem_map.mp hk
    have hmem : l.a.interface ∈ rest.flatMap fun l => [l.a.interface, l.b.interface] := by
      refine List.mem_flatMap.mpr ⟨l', hl', ?_⟩
      rcases Link.interface_of_key_eq hkey.symm with h | h <;> simp [h]
    exact hdisj _ (by simp) _ hmem rfl

namespace Topology

theorem attachedSwitches_links (t : Topology) (n : String) :
    (t.attachedSwitches n).filterMap (fun a => t.links[a.linkIndex]?) =
      t.links.filter fun l => (l.endFor n).any (·.kind == .host) := by
  unfold attachedSwitches
  rw [List.filterMap_filterMap]
  conv_rhs => rw [← List.zipIdx_map_fst 0 t.links, ← List.filterMap_eq_filter, List.filterMap_map]
  refine List.filterMap_congr fun x hx => ?_
  obtain ⟨l, i⟩ := x
  have hi : t.links[i]? = some l := List.mem_zipIdx_iff_getElem?.mp hx
  unfold Link.endFor Link.peerOf
  by_cases ha : l.a.node = n
  · by_cases hk : l.a.kind = .host <;> simp [ha, hk, hi, Option.guard]
  · by_cases hb : l.b.node = n
    · by_cases hk : l.b.kind = .host <;> simp [ha, hb, hk, hi, Option.guard]
    · simp [ha, hb, Option.guard]

section Order

variable {t : Topology}

theorem WellFormed.hostEnd_unique (hw : t.WellFormed) {l : Link} (hl : l ∈ t.links) {n m : String}
    (hn : (l.endFor n).any (·.kind == .host)) (hm : (l.endFor m).any (·.kind == .host)) :
    n = m := by
  obtain ⟨-, -, -, hsw⟩ := hw.link_ends l hl
  have hend : ∀ {x}, (l.endFor x).any (·.kind == .host) →
      (x = l.a.node ∧ l.a.kind = .host) ∨ (x = l.b.node ∧ l.b.kind = .host) := by
    intro x hx
    cases he : l.endFor x with
    | none =>
      rw [he] at hx
      cases hx
    | some e =>
      rw [he] at hx
      obtain ⟨hnode, rfl | rfl⟩ := Link.endFor_node he
      · exact .inl ⟨hnode.symm, by simpa using hx⟩
      · exact .inr ⟨hnode.symm, by simpa using hx⟩
  rcases hend hn with ⟨rfl, ha⟩ | ⟨rfl, hb⟩ <;> rcases hend hm with ⟨rfl, ha'⟩ | ⟨rfl, hb'⟩
  · rfl
  · rcases hsw with h | h <;> simp_all
  · rcases hsw with h | h <;> simp_all
  · rfl

theorem WellFormed.linkOrder_perm (hw : t.WellFormed) (hk : (t.links.map Link.key).Nodup) :
    t.linkOrder.Perm t.links := by
  have hnd : t.links.Nodup := hk.of_map _
  have hnames : t.hosts.Pairwise fun h h' => h.name ≠ h'.name :=
    List.pairwise_map.mp (List.nodup_append.mp hw.names_nodup).1
  unfold linkOrder
  simp only [attachedSwitches_links]
  refine (List.perm_ext_iff_of_nodup ?_ hnd).mpr fun l => ⟨fun hl => ?_, fun hl => ?_⟩
  · refine List.nodup_append.mpr ⟨?_, hnd.filter _, ?_⟩
    · refine List.nodup_flatMap.mpr ⟨fun h _ => hnd.filter _, hnames.imp fun hne => ?_⟩
      intro l hl hl'
      simp only [List.mem_filter] at hl hl'
      exact hne (hw.hostEnd_unique hl.1 hl.2 hl'.2)
    · rintro l hl l' hl' rfl
      obtain ⟨h, -, hh⟩ := List.mem_flatMap.mp hl
      simp only [List.mem_filter, Bool.and_eq_true, beq_iff_eq] at hh hl'
      cases he : l.endFor h.name with
      | none => simp [he] at hh
      | some e =>
        obtain ⟨-, rfl | rfl⟩ := Link.endFor_node he <;> simp_all
  · rcases List.mem_append.mp hl with hl | hl
    · obtain ⟨h, -, hh⟩ := List.mem_flatMap.mp hl
      exact (List.mem_filter.mp hh).1
    · exact (List.mem_filter.mp hl).1
  · by_cases htrunk : l.a.kind = .switch ∧ l.b.kind = .switch
    · exact List.mem_append_right _ (List.mem_filter.mpr ⟨hl, by simpa using htrunk⟩)
    · obtain ⟨e, hel, hke⟩ : ∃ e, (e = l.a ∨ e = l.b) ∧ e.kind = .host := by
        cases hka : l.a.kind
        · exact ⟨l.a, .inl rfl, hka⟩
        · cases hkb : l.b.kind
          · exact ⟨l.b, .inr rfl, hkb⟩
          · exact absurd ⟨hka, hkb⟩ htrunk
      have hkind : t.kindOf e.node = some .host := by
        obtain ⟨-, ha, hb, -⟩ := hw.link_ends l hl
        rcases hel with rfl | rfl
        · rw [ha, hke]
        · rw [hb, hke]
      obtain ⟨h, hh, hname⟩ := (t.kindOf_eq_some_host).mp hkind
      refine List.mem_append_left _ (List.mem_flatMap.mpr ⟨h, hh, List.mem_filter.mpr ⟨hl, ?_⟩⟩)
      rw [hname, hw.endFor_node hl hel]
      simp [hke]

end Order

theorem replay_keys_nodup (calls : List Call) : ((replay calls).links.map Link.key).Nodup :=
  Link.keys_nodup (replay_endInterfaces_nodup calls)

/-- On a built topology no interface name, link end or link key is used twice. -/
theorem replay_interface_names_distinct (calls : List Call) :
    (replay calls).nodeInterfaces.Nodup ∧ (replay calls).endInterfaces.Nodup ∧
      ((replay calls).links.map Link.key).Nodup :=
  ⟨(replay_wellFormed calls).nodeInterfaces_nodup, replay_endInterfaces_nodup calls,
    replay_keys_nodup calls⟩

end Topology

end MudTestbed
