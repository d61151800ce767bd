import MudTestbed.Address.Cidr
import MudTestbed.Proofs.Net.DottedQuad

/-!
# Prefixes, masks and the text of a CIDR

The prefix length of an `Ipv4Cidr` is at most 32 by construction, so the mask is a shift by
less than 32 whenever it shifts at all (`Ipv4Cidr.shift_lt`). Its bits are exactly the top
`prefixLen` bits of the word (`Ipv4Cidr.testBit_maskBits`), so masking a word keeps its value
rounded down to a multiple of `2 ^ (32 - prefixLen)` (`Ipv4Cidr.and_maskBits_toNat`). Everything
else follows from that one fact: `contains` compares the top bits (`Ipv4Cidr.contains_iff`),
and `network` clears the host bits, is idempotent and contains the same addresses.

Reading cuts the text at its first `/` (`Text.splitOnce_eq_some_iff`), so a text reads as a
CIDR exactly when it is a dotted quad, a `/` and an unsigned decimal of at most 32
(`Ipv4Cidr.parse_eq_ok_iff`); the text of a CIDR is one (`Ipv4Cidr.parse_toText`).
-/

namespace MudTestbed

set_option autoImplicit false

namespace Text

theorem splitOnce_of_eq {sep : Char} {s : String} {xs ys : List Char}
    (hs : s.toList = xs ++ sep :: ys) (hxs : sep ∉ xs) :
    splitOnce sep s = some (String.ofList xs, String.ofList ys) := by
  have hidx : s.toList.idxOf? sep = some xs.length := by
    rw [List.idxOf?_eq_some_iff, hs]
    refine ⟨by simp, by simp, fun j hj hget => hxs ?_⟩
    rw [List.getElem_append_left hj] at hget
    exact hget ▸ List.getElem_mem hj
  simp only [splitOnce, hidx]
  simp [hs]

theorem splitOnce_eq_some_iff {sep : Char} {s a p : String} :
    splitOnce sep s = some (a, p) ↔
      ∃ xs ys, s.toList = xs ++ sep :: ys ∧ sep ∉ xs ∧ a = String.ofList xs ∧ p = String.ofList ys := by
  constructor
  · intro h
    simp only [splitOnce] at h
    cases hidx : s.toList.idxOf? sep with
    | none =>
      rw [hidx] at h
      cases h
    | some i =>
      rw [hidx, Option.some.injEq, Prod.mk.injEq] at h
      obtain ⟨hi, hget, hbefore⟩ := List.idxOf?_eq_some_iff.mp hidx
      refine ⟨s.toList.take i, s.toList.drop (i + 1), ?_, fun hmem => ?_, h.1.symm, h.2.symm⟩
      · conv_lhs => rw [← List.take_append_drop i s.toList]
        rw [List.drop_eq_getElem_cons hi, hget]
      · obtain ⟨j, hj, hjget⟩ := List.mem_take_iff_getElem.mp hmem
        exact hbefore j (by omega) hjget
  · rintro ⟨xs, ys, hs, hxs, rfl, rfl⟩
    exact splitOnce_of_eq hs hxs

end Text

namespace Ipv4Cidr

/-! ### Masks -/

section Masks

variable (c : Ipv4Cidr)

theorem shift_toNat : (32 - c.prefixLen).toUInt32.toNat = 32 - c.prefixLen := by
  have := c.prefixLen_le
  simp [Nat.toUInt32]
  omega

theorem shift_lt (h : c.prefixLen ≠ 0) : (32 - c.prefixLen).toUInt32.toNat < 32 := by
  rw [shift_toNat]
  omega

theorem testBit_maskBits (i : Nat) :
    c.maskBits.toNat.testBit i = decide (32 - c.prefixLen ≤ i ∧ i < 32) := by
  unfold maskBits
  split_ifs with h0
  · simp [h0]
  · have hle := c.prefixLen_le
    rw [UInt32.toNat_shiftLeft, Nat.mod_eq_of_lt (shift_lt c h0), shift_toNat,
      Nat.testBit_mod_two_pow, Nat.testBit_shiftLeft,
      show (0xFFFFFFFF : UInt32).toNat = 2 ^ 32 - 1 from rfl, Nat.testBit_two_pow_sub_one]
    by_cases hi : i < 32
    · have hlow : i - (32 - c.prefixLen) < 32 := by omega
      simp [hi, hlow]
    · simp [hi]

theorem and_maskBits_toNat (w : UInt32) :
    (w &&& c.maskBits).toNat = w.toNat / 2 ^ (32 - c.prefixLen) * 2 ^ (32 - c.prefixLen) := by
  rw [UInt32.toNat_and]
  apply Nat.eq_of_testBit_eq
  intro i
  rw [Nat.testBit_and, testBit_maskBits, Nat.testBit_mul_two_pow, Nat.testBit_div_two_pow]
  by_cases hk : 32 - c.prefixLen ≤ i
  · rw [Nat.sub_add_cancel hk]
    by_cases hi : i < 32
    · simp [hi, hk]
    · have : w.toNat.testBit i = false :=
        Nat.testBit_lt_two_pow (lt_of_lt_of_le w.toNat_lt (Nat.pow_le_pow_right (by decide) (by omega)))
      simp [hi, this]
  · simp [hk]

theorem contains_iff (ip : Ipv4Addr) :
    c.contains ip = true ↔
      ip.bits.toNat / 2 ^ (32 - c.prefixLen) = c.addr.bits.toNat / 2 ^ (32 - c.prefixLen) := by
  rw [contains, beq_iff_eq, ← UInt32.toNat_inj, and_maskBits_toNat, and_maskBits_toNat]
  exact Nat.mul_left_inj (Nat.two_pow_pos _).ne'

theorem contains_of_prefixLen_eq_zero (h : c.prefixLen = 0) (ip : Ipv4Addr) :
    c.contains ip = true := by
  rw [contains_iff, h, Nat.div_eq_of_lt ip.bits.toNat_lt, Nat.div_eq_of_lt c.addr.bits.toNat_lt]

theorem contains_addr : c.contains c.addr = true := by
  simp [contains]

theorem network_bits_toNat :
    c.network.addr.bits.toNat =
      c.addr.bits.toNat / 2 ^ (32 - c.prefixLen) * 2 ^ (32 - c.prefixLen) :=
  and_maskBits_toNat c c.addr.bits

theorem network_hostBits : c.network.addr.bits.toNat % 2 ^ (32 - c.prefixLen) = 0 := by
  rw [network_bits_toNat]
  exact Nat.mul_mod_left _ _

theorem and_maskBits_and_maskBits (w : UInt32) :
    w &&& c.maskBits &&& c.maskBits = w &&& c.maskBits := by
  rw [UInt32.and_assoc, UInt32.and_self]

theorem network_network : c.network.network = c.network := by
  show (⟨⟨c.addr.bits &&& c.maskBits &&& c.maskBits⟩, c.prefixLen, c.prefixLen_le⟩ : Ipv4Cidr) =
    c.network
  rw [and_maskBits_and_maskBits]
  rfl

theorem contains_network (ip : Ipv4Addr) : c.network.contains ip = c.contains ip := by
  show ((ip.bits &&& c.maskBits) == (c.addr.bits &&& c.maskBits &&& c.maskBits)) = c.contains ip
  rw [and_maskBits_and_maskBits]
  rfl

end Masks

/-! ### Text -/

theorem new_eq_ok_iff {a : Ipv4Addr} {p : Nat} {c : Ipv4Cidr} :
    new a p = .ok c ↔ c.addr = a ∧ c.prefixLen = p := by
  unfold new
  split_ifs with h
  · constructor
    · rintro ⟨⟩
      exact ⟨rfl, rfl⟩
    · rintro ⟨rfl, rfl⟩
      rfl
  · refine ⟨(fun hc => by cases hc), ?_⟩
    rintro ⟨-, rfl⟩
    exact absurd c.prefixLen_le h

theorem new_ok_iff (a : Ipv4Addr) (p : Nat) : (∃ c, new a p = .ok c) ↔ p ≤ 32 := by
  constructor
  · rintro ⟨c, hc⟩
    rw [← (new_eq_ok_iff.mp hc).2]
    exact c.prefixLen_le
  · intro h
    exact ⟨⟨a, p, h⟩, new_eq_ok_iff.mpr ⟨rfl, rfl⟩⟩

theorem parse_eq_ok_iff {s : String} {c : Ipv4Cidr} :
    parse s = .ok c ↔
      ∃ a p ds, s.toList = a ++ '/' :: p ∧ '/' ∉ a ∧ Ipv4Addr.DottedQuad a c.addr ∧
        Text.UnsignedNumeral Char.isDigit p ds ∧ Text.digitsValue 10 ds = c.prefixLen := by
  constructor
  · intro h
    unfold parse at h
    split at h
    · cases h
    · rename_i a p hsplit
      obtain ⟨xs, ys, hs, hxs, rfl, rfl⟩ := Text.splitOnce_eq_some_iff.mp hsplit
      split at h
      · rename_i addr n haddr hn
        split at h
        · rename_i c' hnew
          cases h
          obtain ⟨rfl, rfl⟩ := new_eq_ok_iff.mp hnew
          rw [Ipv4Addr.parse?_eq_some_iff, String.toList_ofList] at haddr
          obtain ⟨ds, hnum, hval, -⟩ := Text.parseNat?_eq_some_iff.mp hn
          rw [String.toList_ofList, Text.isDigit_eq] at hnum
          exact ⟨xs, ys, ds, hs, hxs, haddr, hnum, hval⟩
        · cases h
      · cases h
  · rintro ⟨a, p, ds, hs, ha, hquad, hnum, hval⟩
    have haddr : Ipv4Addr.parse? (String.ofList a) = some c.addr := by
      rw [Ipv4Addr.parse?_eq_some_iff, String.toList_ofList]
      exact hquad
    have hp : Text.parseNat? 10 255 (String.ofList p) = some c.prefixLen := by
      rw [Text.parseNat?_eq_some_iff, String.toList_ofList, Text.isDigit_eq]
      exact ⟨ds, hnum, hval, by have := c.prefixLen_le; omega⟩
    have hnew : new c.addr c.prefixLen = .ok c := new_eq_ok_iff.mpr ⟨rfl, rfl⟩
    simp only [parse, Text.splitOnce_of_eq hs ha, haddr, hp, hnew]

theorem parse_ok_iff (s : String) :
    (∃ c, parse s = .ok c) ↔
      ∃ a p ds x, s.toList = a ++ '/' :: p ∧ '/' ∉ a ∧ Ipv4Addr.DottedQuad a x ∧
        Text.UnsignedNumeral Char.isDigit p ds ∧ Text.digitsValue 10 ds ≤ 32 := by
  constructor
  · rintro ⟨c, hc⟩
    obtain ⟨a, p, ds, hs, ha, hquad, hnum, hval⟩ := parse_eq_ok_iff.mp hc
    exact ⟨a, p, ds, c.addr, hs, ha, hquad, hnum, hval ▸ c.prefixLen_le⟩
  · rintro ⟨a, p, ds, x, hs, ha, hquad, hnum, hle⟩
    exact ⟨⟨x, _, hle⟩, parse_eq_ok_iff.mpr ⟨a, p, ds, hs, ha, hquad, hnum, rfl⟩⟩

theorem parse_error {s : String} {e : Error} (h : parse s = .error e) : e = invalid s := by
  unfold parse at h
  split at h
  · cases h
    rfl
  · split at h
    · split at h
      · cases h
      · cases h
        rfl
    · cases h
      rfl

theorem parse_toText (c : Ipv4Cidr) : parse c.toText = .ok c := by
  have hquad := Ipv4Addr.dottedQuad_toText c.addr
  have hdigits : ∀ d ∈ Nat.toDigits 10 c.prefixLen, d.isDigit := fun _ hd =>
    Nat.isDigit_of_mem_toDigits (by decide) (by decide) hd
  refine parse_eq_ok_iff.mpr ⟨c.addr.toText.toList, Nat.toDigits 10 c.prefixLen,
    Nat.toDigits 10 c.prefixLen, ?_, fun hmem => ?_, hquad, ⟨.inr rfl, Nat.toDigits_ne_nil, hdigits⟩,
    Text.digitsValue_toDigits (by decide) (by decide) _⟩
  · simp [toText, toString, Nat.repr]
  · rcases hquad.isDigit_or_eq_dot '/' hmem with h | h
    · exact absurd h (by decide)
    · exact absurd h (by decide)

theorem decode_toText (place : Place) (c : Ipv4Cidr) : decode place (.string c.toText) = .ok c := by
  simp only [decode, Decode.parsed, Decode.string, Decode.within, parse_toText, Except.mapError]

/-- The laws of prefixes: masks, containment, networks and the CIDR text form. -/
theorem mask_containment_and_text_laws :
    (∀ a p, (∃ c, new a p = .ok c) ↔ p ≤ 32) ∧
    (∀ c : Ipv4Cidr, c.prefixLen ≤ 32 ∧
      (c.prefixLen ≠ 0 → (32 - c.prefixLen).toUInt32.toNat < 32)) ∧
    (∀ (c : Ipv4Cidr) i, c.netmask.bits.toNat.testBit i = decide (32 - c.prefixLen ≤ i ∧ i < 32)) ∧
    (∀ (c : Ipv4Cidr) ip, c.contains ip = true ↔
      ip.bits.toNat / 2 ^ (32 - c.prefixLen) = c.addr.bits.toNat / 2 ^ (32 - c.prefixLen)) ∧
    (∀ c : Ipv4Cidr, c.prefixLen = 0 → ∀ ip, c.contains ip = true) ∧
    (∀ c : Ipv4Cidr, c.network.prefixLen = c.prefixLen ∧
      c.network.addr.bits.toNat % 2 ^ (32 - c.prefixLen) = 0 ∧ c.network.network = c.network ∧
      ∀ ip, c.network.contains ip = c.contains ip) ∧
    (∀ c : Ipv4Cidr, c.contains c.addr = true) ∧
    (∀ s, (∃ c, parse s = .ok c) ↔
      ∃ a p ds x, s.toList = a ++ '/' :: p ∧ '/' ∉ a ∧ Ipv4Addr.DottedQuad a x ∧
        Text.UnsignedNumeral Char.isDigit p ds ∧ Text.digitsValue 10 ds ≤ 32) ∧
    (∀ s c, parse s = .ok c ↔
      ∃ a p ds, s.toList = a ++ '/' :: p ∧ '/' ∉ a ∧ Ipv4Addr.DottedQuad a c.addr ∧
        Text.UnsignedNumeral Char.isDigit p ds ∧ Text.digitsValue 10 ds = c.prefixLen) ∧
    (∀ s e, parse s = .error e → e = invalid s) ∧
    (∀ c, parse c.toText = .ok c) ∧
    ∀ place c, decode place (.string c.toText) = .ok c :=
  ⟨new_ok_iff, fun c => ⟨c.prefixLen_le, shift_lt c⟩, testBit_maskBits, contains_iff,
    contains_of_prefixLen_eq_zero,
    fun c => ⟨rfl, network_hostBits c, network_network c, contains_network c⟩, contains_addr,
    parse_ok_iff, fun _ _ => parse_eq_ok_iff, fun _ _ => parse_error, parse_toText, decode_toText⟩

end Ipv4Cidr

end MudTestbed
