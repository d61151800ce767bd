import MudTestbed.Proofs.Topology.Interfaces

/-!
# The switches a host hangs off

`Topology.attachedSwitches` reads a host's attachments off the links: an entry for each link
whose end at the node is a host end, in link order, with the node across and the interfaces
at both ends. On a well-formed topology the end a link has at a host is always a host end
(`WellFormed.kindOf_of_endFor`), so the kind check drops nothing and the entries are the
links with an end at the host (`WellFormed.attachedSwitches_eq`).

Hence the indices of the entries are those of the host's links in link order, their host
interfaces are the host's interfaces in order, the first being its gateway interface, and
each entry names the switch across with one of its ports (`WellFormed.attachment_at_switch`).
A name that is no host's has no entries (`WellFormed.attachedSwitches_eq_nil`).
-/

namespace MudTestbed

set_option autoImplicit false

namespace Link

def attachment (l : Link) (n : String) (i : Nat) : Option Attachment :=
  (l.endFor n).bind fun mine =>
    (l.peerOf n).map fun peer => ⟨i, peer.node, mine.interface, peer.interface⟩

theorem isSome_peerOf (l : Link) (n : String) : (l.peerOf n).isSome = (l.endFor n).isSome := by
  unfold peerOf endFor
  split_ifs <;> rfl

theorem peerOf_of_endFor {l : Link} {n : String} {e : LinkEnd} (he : l.endFor n = some e) :
    ∃ p, l.peerOf n = some p ∧ (e = l.a ∧ p = l.b ∨ e = l.b ∧ p = l.a) := by
  unfold endFor at he
  unfold peerOf
  split_ifs at he ⊢
  · exact ⟨_, rfl, .inl ⟨(Option.some.inj he).symm, rfl⟩⟩
  · exact ⟨_, rfl, .inr ⟨(Option.some.inj he).symm, rfl⟩⟩

theorem exists_peerOf {l : Link} {n : String} {e : LinkEnd} (he : l.endFor n = some e) :
    ∃ p, l.peerOf n = some p :=
  Option.isSome_iff_exists.mp (by rw [isSome_peerOf, he]; rfl)

theorem attachment_map_linkIndex (l : Link) (n : String) (i : Nat) :
    (l.attachment n i).map (·.linkIndex) = (l.endFor n).map fun _ => i := by
  unfold attachment
  cases he : l.endFor n with
  | none => rfl
  | some e =>
    obtain ⟨p, hp⟩ := exists_peerOf he
    simp [hp]

theorem attachment_map_hostInterface (l : Link) (n : String) (i : Nat) :
    (l.attachment n i).map (·.hostInterface) = (l.endFor n).map (·.interface) := by
  unfold attachment
  cases he : l.endFor n with
  | none => rfl
  | some e =>
    obtain ⟨p, hp⟩ := exists_peerOf he
    simp [hp]

end Link

namespace Topology

variable {t : Topology} {n : String}

theorem WellFormed.kindOf_of_endFor (hw : t.WellFormed) {l : Link} (hl : l ∈ t.links)
    {e : LinkEnd} (he : l.endFor n = some e) : t.kindOf n = some e.kind := by
  obtain ⟨hnode, hel⟩ := Link.endFor_node he
  obtain ⟨-, ha, hb, -⟩ := hw.link_ends l hl
  rw [← hnode]
  rcases hel with rfl | rfl
  · exact ha
  · exact hb

theorem WellFormed.peer_of_hostEnd (hw : t.WellFormed) {l : Link} (hl : l ∈ t.links)
    {mine peer : LinkEnd} (hmine : l.endFor n = some mine) (hk : mine.kind = .host)
    (hpeer : l.peerOf n = some peer) :
    t.kindOf peer.node = some .switch ∧ peer ∈ t.endsAt peer.node := by
  obtain ⟨p, hp, hends⟩ := Link.peerOf_of_endFor hmine
  rw [hpeer, Option.some.injEq] at hp
  subst hp
  obtain ⟨-, ha, hb, hsw⟩ := hw.link_ends l hl
  have hkpeer : peer.kind = .switch := by
    rcases hends with ⟨rfl, rfl⟩ | ⟨rfl, rfl⟩ <;> rcases hsw with h | h <;> simp_all
  refine ⟨?_, hw.mem_endsAt hl (by rcases hends with ⟨-, rfl⟩ | ⟨-, rfl⟩ <;> simp)⟩
  rw [← hkpeer]
  rcases hends with ⟨-, rfl⟩ | ⟨-, rfl⟩
  · exact hb
  · exact ha

theorem WellFormed.attachedSwitches_eq (hw : t.WellFormed) (hn : t.kindOf n = some .host) :
    t.attachedSwitches n = t.links.zipIdx.filterMap fun p => p.1.attachment n p.2 := by
  unfold attachedSwitches
  refine List.filterMap_congr fun p hp => ?_
  have hl : p.1 ∈ t.links := List.mem_of_getElem? (List.mem_zipIdx_iff_getElem?.mp hp)
  cases he : p.1.endFor n with
  | none => simp [Link.attachment, he]
  | some e =>
    have hk : e.kind = .host := by
      rw [hw.kindOf_of_endFor hl he] at hn
      exact Option.some.inj hn
    simp [Link.attachment, he, hk]
    cases p.1.peerOf n <;> rfl

theorem WellFormed.attachedSwitches_eq_nil (hw : t.WellFormed) (hn : t.kindOf n ≠ some .host) :
    t.attachedSwitches n = [] := by
  unfold attachedSwitches
  refine List.filterMap_eq_nil_iff.mpr fun p hp => ?_
  have hl : p.1 ∈ t.links := List.mem_of_getElem? (List.mem_zipIdx_iff_getElem?.mp hp)
  cases he : p.1.endFor n with
  | none => simp [he]
  | some e =>
    have hk : e.kind ≠ .host := fun hk => hn (hk ▸ hw.kindOf_of_endFor hl he)
    simp [he, hk]

theorem WellFormed.attachedSwitches_linkIndex (hw : t.WellFormed) (hn : t.kindOf n = some .host) :
    (t.attachedSwitches n).map (·.linkIndex) =
      (t.links.zipIdx.filter fun p => (p.1.endFor n).isSome).map Prod.snd := by
  rw [hw.attachedSwitches_eq hn, List.map_filterMap, ← List.filterMap_eq_filter, List.map_filterMap]
  refine List.filterMap_congr fun p _ => ?_
  rw [Link.attachment_map_linkIndex]
  cases he : p.1.endFor n <;> simp [Option.guard, he]

theorem WellFormed.attachedSwitches_hostInterface (hw : t.WellFormed)
    (hn : t.kindOf n = some .host) :
    (t.attachedSwitches n).map (·.hostInterface) = (t.endsAt n).map (·.interface) := by
  rw [hw.attachedSwitches_eq hn, List.map_filterMap, endsAt, List.map_filterMap]
  simp only [Link.attachment_map_hostInterface]
  conv_rhs => rw [← List.zipIdx_map_fst 0 t.links, List.filterMap_map]
  rfl

theorem WellFormed.attachment_at_switch (hw : t.WellFormed) (hn : t.kindOf n = some .host)
    {a : Attachment} (ha : a ∈ t.attachedSwitches n) :
    ∃ l peer, t.links[a.linkIndex]? = some l ∧ l.peerOf n = some peer ∧ a.switch = peer.node ∧
      a.switchPort = peer.interface ∧ ∃ s ∈ t.switches, s.name = a.switch ∧ a.switchPort ∈ s.ports := by
  rw [hw.attachedSwitches_eq hn] at ha
  obtain ⟨⟨l, i⟩, hp, hatt⟩ := List.mem_filterMap.mp ha
  have hi : t.links[i]? = some l := List.mem_zipIdx_iff_getElem?.mp hp
  have hl : l ∈ t.links := List.mem_of_getElem? hi
  obtain ⟨mine, hmine, hatt⟩ := Option.bind_eq_some_iff.mp hatt
  obtain ⟨peer, hpeer, rfl⟩ := Option.map_eq_some_iff.mp hatt
  refine ⟨l, peer, hi, hpeer, rfl, rfl, ?_⟩
  have hk : mine.kind = .host := by
    rw [hw.kindOf_of_endFor hl hmine] at hn
    exact Option.some.inj hn
  obtain ⟨hkpeer, hmem⟩ := hw.peer_of_hostEnd hl hmine hk hpeer
  obtain ⟨-, s, hs, hsn⟩ := (t.kindOf_eq_some_switch).mp hkpeer
  refine ⟨s, hs, hsn, ?_⟩
  rw [← (hw.switch_ports s hs).1, hsn]
  exact List.mem_map_of_mem hmem

end Topology

/-- The attachments of a host of a built topology are its links, in link order. -/
theorem attachedSwitches_lists_host_links (calls : List Topology.Call) :
    let t := Topology.replay calls
    (∀ h ∈ t.hosts,
      (t.attachedSwitches h.name).map (·.linkIndex) =
          (t.links.zipIdx.filter fun p => (p.1.endFor h.name).isSome).map Prod.snd ∧
        (t.attachedSwitches h.name).map (·.hostInterface) = h.interfaces ∧
        (t.attachedSwitches h.name).head?.map (·.hostInterface) = h.gatewayInterface ∧
        ∀ a ∈ t.attachedSwitches h.name, ∃ l peer, t.links[a.linkIndex]? = some l ∧
          l.peerOf h.name = some peer ∧ a.switch = peer.node ∧ a.switchPort = peer.interface ∧
          ∃ s ∈ t.switches, s.name = a.switch ∧ a.switchPort ∈ s.ports) ∧
      ∀ n, t.kindOf n ≠ some .host → t.attachedSwitches n = [] := by
  intro t
  have hw : t.WellFormed := Topology.replay_wellFormed calls
  refine ⟨fun h hh => ?_, fun n hn => hw.attachedSwitches_eq_nil hn⟩
  have hk := Topology.kindOf_of_host hh
  have hifaces : (t.attachedSwitches h.name).map (·.hostInterface) = h.interfaces :=
    (hw.attachedSwitches_hostInterface hk).trans (hw.host_interfaces h hh).1
  refine ⟨hw.attachedSwitches_linkIndex hk, hifaces, ?_, fun a ha => hw.attachment_at_switch hk ha⟩
  rw [← List.head?_map, hifaces]
  rfl

end MudTestbed
