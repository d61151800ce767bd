import MudTestbed.Address.Endpoint
import MudTestbed.Proofs.Net.Ipv6Text

/-!
# Controller endpoints read back from their texts

A socket address is written `a.b.c.d:port`, or `[v6]:port` with `%scope` before the `]` when
the scope is not `0`. Reading gives only addresses whose numbers are in range
(`SocketAddr.Valid`: a 16-bit port, 16-bit groups, a 32-bit scope), and the text of every such
address reads back as it (`SocketAddr.parse?_toText`), through the dotted quad and the IPv6
text on either side of the `:` or the brackets.

An endpoint is read after one `tcp:` is taken off, from a socket address or from a bare
address at the OpenFlow port. Its text never starts with `tcp:`, and its switch target is
`tcp:` and its text, so every endpoint that was read reads back from its text, from its
target and from its document form (`ControllerEndpoint.endpoint_text_forms_read_back`).
-/

namespace MudTestbed

set_option autoImplicit false

namespace SocketAddr

def Valid : SocketAddr → Prop
  | .v4 _ port => port ≤ 65535
  | .v6 ip port scope => (∀ g ∈ ip.groups, g ≤ 0xFFFF) ∧ port ≤ 65535 ∧ scope ≤ 4294967295

theorem readPort_toDigits {p : Nat} (hp : p ≤ 65535) {rest : List Char} (hrest : Text.EndsRun 10 rest) :
    readPort (':' :: (Nat.toDigits 10 p ++ rest)) = some (p, rest) := by
  have hnum : Net.readNumber 10 none true 65535 (Nat.toDigits 10 p ++ rest) = some (p, rest) :=
    Net.readNumber_toDigits (by decide) (by decide) (by simp) hp hrest
  simp [readPort, Net.expectChar, hnum]

theorem readScope_of_bracket (rest : List Char) : readScope (']' :: rest) = (0, ']' :: rest) := by
  simp [readScope, Net.expectChar]

theorem readScope_toDigits {s : Nat} (hs : s ≤ 4294967295) {rest : List Char}
    (hrest : Text.EndsRun 10 rest) : readScope ('%' :: (Nat.toDigits 10 s ++ rest)) = (s, rest) := by
  have hnum : Net.readNumber 10 none true 4294967295 (Nat.toDigits 10 s ++ rest) = some (s, rest) :=
    Net.readNumber_toDigits (by decide) (by decide) (by simp) hs hrest
  simp [readScope, Net.expectChar, hnum]

theorem endsRun_colon (rest : List Char) : Text.EndsRun 10 (':' :: rest) := by
  rintro c ⟨⟩
  decide

theorem endsRun_bracket (rest : List Char) : Text.EndsRun 10 (']' :: rest) := by
  rintro c ⟨⟩
  decide

theorem endsRun_nil : Text.EndsRun 10 [] := fun _ h => by cases h

theorem readV4_bracket (rest : List Char) : readV4 ('[' :: rest) = none := by
  have hquad : Ipv4Addr.readPrefix ('[' :: rest) = none :=
    Ipv4Addr.readPrefix_eq_none (by simp)
  simp [readV4, hquad]

theorem parse?_toText (a : SocketAddr) (h : a.Valid) : parse? a.toText = some a := by
  cases a with
  | v4 ip port =>
    have hip := Ipv4Addr.readPrefix_toText_append ip (endsRun_colon (Nat.toDigits 10 port))
    have hport := readPort_toDigits h endsRun_nil
    rw [List.append_nil] at hport
    simp [parse?, toText, readV4, hip, hport]
  | v6 ip port scope =>
    obtain ⟨hg, hp, hs⟩ := h
    have hport := readPort_toDigits hp endsRun_nil
    rw [List.append_nil] at hport
    obtain ⟨more, htext, hstop, hscope⟩ : ∃ more, (toText (.v6 ip port scope)).toList =
        '[' :: (ip.toText.toList ++ more) ∧ Ipv6Addr.Stop more ∧
        readScope more = (scope, ']' :: ':' :: Nat.toDigits 10 port) := by
      by_cases hs0 : scope = 0
      · refine ⟨']' :: ':' :: Nat.toDigits 10 port, ?_, .inr (.inr (.inl ⟨_, rfl⟩)), ?_⟩
        · simp [toText, hs0]
        · rw [readScope_of_bracket, hs0]
      · refine ⟨'%' :: (Nat.toDigits 10 scope ++ ']' :: ':' :: Nat.toDigits 10 port), ?_,
          .inr (.inl ⟨_, rfl⟩), readScope_toDigits hs (endsRun_bracket _)⟩
        simp [toText, hs0]
    unfold parse?
    dsimp only
    rw [htext, readV4_bracket]
    simp [readV6, Net.expectChar, Ipv6Addr.readPrefix_toText ip hg hstop, hscope, hport]

/-! ### What reading gives -/

theorem readPort_le {cs rest : List Char} {p : Nat} (h : readPort cs = some (p, rest)) : p ≤ 65535 := by
  obtain ⟨_, -, h⟩ := Option.bind_eq_some_iff.mp h
  exact Net.readNumber_le h

theorem readScope_le (cs : List Char) : (readScope cs).1 ≤ 4294967295 := by
  unfold readScope
  split
  · rename_i r h
    obtain ⟨_, -, h⟩ := Option.bind_eq_some_iff.mp h
    exact Net.readNumber_le h
  · exact Nat.zero_le _

theorem readV4_valid {cs rest : List Char} {a : SocketAddr} (h : readV4 cs = some (a, rest)) :
    a.Valid := by
  simp only [readV4, bind, Option.bind_eq_some_iff, pure, Option.some.injEq, Prod.mk.injEq,
    Prod.exists] at h
  obtain ⟨ip, cs₁, -, port, cs₂, hport, rfl, -⟩ := h
  exact readPort_le hport

theorem readV6_valid {cs rest : List Char} {a : SocketAddr} (h : readV6 cs = some (a, rest)) :
    a.Valid := by
  simp only [readV6, bind, Option.bind_eq_some_iff, pure, Option.some.injEq, Prod.mk.injEq,
    Prod.exists] at h
  obtain ⟨cs₁, -, ip, cs₂, hip, cs₃, -, port, cs₄, hport, rfl, -⟩ := h
  exact ⟨Ipv6Addr.readPrefix_le hip, readPort_le hport, readScope_le cs₂⟩

theorem parse?_valid {s : String} {a : SocketAddr} (h : parse? s = some a) : a.Valid := by
  unfold parse? at h
  dsimp only at h
  split at h
  · rename_i b rest hv4
    split at h
    · cases h
      exact readV4_valid hv4
    · cases h
  · split at h
    · rename_i b hv6
      cases h
      exact readV6_valid hv6
    · cases h

theorem ofIp_valid {s : String} {ip : IpAddr} (h : IpAddr.parse? s = some ip) :
    (ofIp ip ControllerEndpoint.defaultPort).Valid := by
  unfold IpAddr.parse? at h
  dsimp only at h
  split at h
  · split at h
    · cases h
      exact (by decide : ControllerEndpoint.defaultPort ≤ 65535)
    · cases h
  · split at h
    · rename_i x hv6
      cases h
      exact ⟨Ipv6Addr.readPrefix_le hv6, by decide, by decide⟩
    · cases h

end SocketAddr

namespace ControllerEndpoint

theorem parse_valid {s : String} {e : ControllerEndpoint} (h : parse s = .ok e) : e.addr.Valid := by
  unfold parse at h
  dsimp only at h
  split at h
  · rename_i a ha
    cases h
    exact SocketAddr.parse?_valid ha
  · split at h
    · rename_i ip hip
      cases h
      exact SocketAddr.ofIp_valid hip
    · cases h

theorem stripPrefix_toText (a : SocketAddr) : Text.stripPrefix "tcp:" a.toText = none := by
  have hhead : a.toText.toList.head? ≠ some 't' := by
    cases a with
    | v4 ip port =>
      obtain ⟨o₁, o₂, o₃, o₄, v₁, v₂, v₃, v₄, hq, h₁, -⟩ := Ipv4Addr.dottedQuad_toText ip
      obtain ⟨c, os, rfl⟩ := List.exists_cons_of_ne_nil h₁.1
      have hc : c.isDigit := h₁.isDigit c List.mem_cons_self
      simp only [SocketAddr.toText, String.toList_append, hq, List.cons_append, List.head?_cons,
        ne_eq, Option.some.injEq]
      rintro rfl
      exact absurd hc (by decide)
    | v6 ip port scope => simp [SocketAddr.toText]
  unfold Text.stripPrefix
  rw [if_neg]
  cases hcs : a.toText.toList with
  | nil => simp
  | cons c rest =>
    rw [hcs] at hhead
    have hc : c ≠ 't' := fun h => hhead (by rw [h]; rfl)
    simp [List.isPrefixOf, Ne.symm hc]

theorem stripPrefix_tcp (s : String) : Text.stripPrefix "tcp:" ("tcp:" ++ s) = some s := by
  unfold Text.stripPrefix
  simp

theorem parse_toText {e : ControllerEndpoint} (h : e.addr.Valid) : parse e.toText = .ok e := by
  unfold parse toText
  simp only [stripPrefix_toText, Option.getD_none]
  rw [SocketAddr.parse?_toText _ h]

theorem parse_ovsTarget {e : ControllerEndpoint} (h : e.addr.Valid) : parse e.ovsTarget = .ok e := by
  unfold parse ovsTarget toText
  simp only [stripPrefix_tcp, Option.getD_some]
  rw [SocketAddr.parse?_toText _ h]

theorem decode_toText {e : ControllerEndpoint} (h : e.addr.Valid) (place : Place) :
    decode place (.string e.toText) = .ok e := by
  simp only [decode, Decode.parsed, Decode.string, Decode.within, parse_toText h, Except.mapError]

/-- Every endpoint that was read reads back from its text, its target and its document. -/
theorem endpoint_text_forms_read_back {s : String} {e : ControllerEndpoint} (h : parse s = .ok e) :
    parse e.toText = .ok e ∧ parse e.ovsTarget = .ok e ∧
      ∀ place, decode place (.string e.toText) = .ok e :=
  ⟨parse_toText (parse_valid h), parse_ovsTarget (parse_valid h), decode_toText (parse_valid h)⟩

/-- A scoped IPv6 endpoint written as a switch target reads back in all three forms. -/
theorem scoped_target_reads_back :
    parse "tcp:[fe80::1%2]:6653" = .ok ⟨.v6 (Ipv6Addr.ofGroups [0xfe80, 0, 0, 0, 0, 0, 0, 1]) 6653 2⟩ ∧
      (parse (ControllerEndpoint.toText ⟨.v6 (Ipv6Addr.ofGroups [0xfe80, 0, 0, 0, 0, 0, 0, 1]) 6653 2⟩) =
          .ok ⟨.v6 (Ipv6Addr.ofGroups [0xfe80, 0, 0, 0, 0, 0, 0, 1]) 6653 2⟩ ∧
        parse (ControllerEndpoint.ovsTarget ⟨.v6 (Ipv6Addr.ofGroups [0xfe80, 0, 0, 0, 0, 0, 0, 1]) 6653 2⟩) =
          .ok ⟨.v6 (Ipv6Addr.ofGroups [0xfe80, 0, 0, 0, 0, 0, 0, 1]) 6653 2⟩ ∧
        ∀ place, decode place (.string (ControllerEndpoint.toText
          ⟨.v6 (Ipv6Addr.ofGroups [0xfe80, 0, 0, 0, 0, 0, 0, 1]) 6653 2⟩)) =
          .ok ⟨.v6 (Ipv6Addr.ofGroups [0xfe80, 0, 0, 0, 0, 0, 0, 1]) 6653 2⟩) :=
  have h : parse "tcp:[fe80::1%2]:6653" =
      .ok ⟨.v6 (Ipv6Addr.ofGroups [0xfe80, 0, 0, 0, 0, 0, 0, 1]) 6653 2⟩ := by decide +kernel
  ⟨h, endpoint_text_forms_read_back h⟩

end ControllerEndpoint

end MudTestbed
