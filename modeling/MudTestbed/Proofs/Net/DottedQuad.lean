import MudTestbed.Net.Ipv4
import MudTestbed.Proofs.Text.Numerals

/-!
# The dotted quad

An octet of a dotted quad is one to three decimal digits worth at most 255, with no leading
zero unless it is `0` itself (`Ipv4Addr.OctetText`). `Ipv4Addr.readOctet` reads exactly such an
octet before a text that does not go on with a digit (`Ipv4Addr.readOctet_eq_some_iff`), and
`Ipv4Addr.readPrefix` reads four of them joined by `.` (`Ipv4Addr.readPrefix_eq_some_iff`).

So `Ipv4Addr.parse?` accepts exactly the texts that are four octets joined by `.`, and gives
the address of those octets (`Ipv4Addr.parse?_eq_some_iff`). The text of an address is such a
quad of its own octets, so it reads back as the address (`Ipv4Addr.parse?_toText`).
-/

namespace MudTestbed

set_option autoImplicit false

namespace Ipv4Addr

def OctetText (o : List Char) (v : Nat) : Prop :=
  o ≠ [] ∧ o.length ≤ 3 ∧ (∀ c ∈ o, c.isDigit) ∧ (o.head? = some '0' → o.length = 1) ∧
    Text.digitsValue 10 o = v ∧ v ≤ 255

def DottedQuad (cs : List Char) (x : Ipv4Addr) : Prop :=
  ∃ o₁ o₂ o₃ o₄ v₁ v₂ v₃ v₄, cs = o₁ ++ '.' :: (o₂ ++ '.' :: (o₃ ++ '.' :: o₄)) ∧
    OctetText o₁ v₁ ∧ OctetText o₂ v₂ ∧ OctetText o₃ v₃ ∧ OctetText o₄ v₄ ∧
    x = ofOctets v₁ v₂ v₃ v₄

theorem OctetText.isDigit {o : List Char} {v : Nat} (h : OctetText o v) : ∀ c ∈ o, c.isDigit :=
  h.2.2.1

theorem OctetText.isSome_digitValue {o : List Char} {v : Nat} (h : OctetText o v) :
    ∀ c ∈ o, (Text.digitValue 10 c).isSome := fun c hc => by
  rw [Text.isSome_digitValue_ten]
  exact h.isDigit c hc

/-! ### Octets -/

theorem readOctet_append {o rest : List Char} (ho : ∀ c ∈ o, (Text.digitValue 10 c).isSome)
    (hrest : Text.EndsRun 10 rest) {v : Nat} {r : List Char} :
    readOctet (o ++ rest) = some (v, r) ↔ r = rest ∧ OctetText o v := by
  have hdig : ∀ c ∈ o, c.isDigit := fun c hc => by
    rw [← Text.isSome_digitValue_ten]
    exact ho c hc
  unfold readOctet Net.readNumber
  rw [Text.digitRun_append 10 ho hrest]
  cases o with
  | nil => simp [OctetText]
  | cons c cs =>
    simp only [List.length_cons, Nat.add_one_ne_zero, if_false, List.cons_append,
      List.head?_cons, Option.any_some, decide_eq_true_eq, Bool.not_false, Bool.true_and,
      Bool.and_eq_true, OctetText, ne_eq, reduceCtorEq, not_false_eq_true, true_and,
      Option.some.injEq]
    split_ifs with hlong hbig hzero
    · simp only [false_iff, not_and]
      intro _ hlen
      omega
    · simp only [false_iff, not_and]
      intro _ _ _ _ hv
      omega
    · simp only [false_iff, not_and]
      intro _ _ _ hone
      have := hone hzero.1
      omega
    · rw [Option.some.injEq, Prod.mk.injEq]
      constructor
      · rintro ⟨rfl, rfl⟩
        exact ⟨rfl, by omega, hdig, fun h0 => by have := not_and.mp hzero h0; omega, rfl, by omega⟩
      · rintro ⟨rfl, -, -, -, hv, -⟩
        exact ⟨hv, rfl⟩

theorem readOctet_eq_some_iff {cs rest : List Char} {v : Nat} :
    readOctet cs = some (v, rest) ↔ ∃ o, cs = o ++ rest ∧ OctetText o v ∧ Text.EndsRun 10 rest := by
  constructor
  · intro h
    obtain ⟨ds, rest', rfl, hds, hrest'⟩ := Text.exists_digitRun 10 cs
    obtain ⟨rfl, hoct⟩ := (readOctet_append hds hrest').mp h
    exact ⟨ds, rfl, hoct, hrest'⟩
  · rintro ⟨o, rfl, hoct, hrest⟩
    exact (readOctet_append hoct.isSome_digitValue hrest).mpr ⟨rfl, hoct⟩

theorem endsRun_dot (rest : List Char) : Text.EndsRun 10 ('.' :: rest) := by
  rintro c ⟨⟩
  decide

theorem octetText_toDigits {n : Nat} (hn : n ≤ 255) : OctetText (Nat.toDigits 10 n) n := by
  refine ⟨Nat.toDigits_ne_nil, ?_, fun c hc => Nat.isDigit_of_mem_toDigits (by decide) (by decide) hc,
    fun h0 => ?_, Text.digitsValue_toDigits (by decide) (by decide) n, hn⟩
  · exact (Nat.length_toDigits_le_iff (by decide) (by decide)).mpr (by omega)
  · rw [Text.eq_zero_of_toDigits_head (by decide) (by decide) n h0]
    rfl

/-! ### Quads -/

theorem expectChar_eq_some_iff {c : Char} {cs rest : List Char} :
    Net.expectChar c cs = some rest ↔ cs = c :: rest := by
  cases cs with
  | nil => simp [Net.expectChar]
  | cons d ds =>
    by_cases h : d = c
    · simp [Net.expectChar, h, eq_comm]
    · simp [Net.expectChar, h]

theorem readPrefix_eq_some_iff {cs rest : List Char} {x : Ipv4Addr} :
    readPrefix cs = some (x, rest) ↔
      ∃ o₁ o₂ o₃ o₄ v₁ v₂ v₃ v₄,
        cs = o₁ ++ '.' :: (o₂ ++ '.' :: (o₃ ++ '.' :: (o₄ ++ rest))) ∧
        OctetText o₁ v₁ ∧ OctetText o₂ v₂ ∧ OctetText o₃ v₃ ∧ OctetText o₄ v₄ ∧
        Text.EndsRun 10 rest ∧ x = ofOctets v₁ v₂ v₃ v₄ := by
  simp only [readPrefix, bind, pure, Option.bind_eq_some_iff, readOctet_eq_some_iff,
    expectChar_eq_some_iff, Prod.exists, Option.some.injEq, Prod.mk.injEq]
  constructor
  · rintro ⟨v₁, _, ⟨o₁, rfl, h₁, -⟩, _, rfl, v₂, _, ⟨o₂, rfl, h₂, -⟩, _, rfl,
      v₃, _, ⟨o₃, rfl, h₃, -⟩, _, rfl, v₄, _, ⟨o₄, rfl, h₄, hend⟩, rfl, rfl⟩
    exact ⟨o₁, o₂, o₃, o₄, v₁, v₂, v₃, v₄, rfl, h₁, h₂, h₃, h₄, hend, rfl⟩
  · rintro ⟨o₁, o₂, o₃, o₄, v₁, v₂, v₃, v₄, rfl, h₁, h₂, h₃, h₄, hend, rfl⟩
    exact ⟨v₁, _, ⟨o₁, rfl, h₁, endsRun_dot _⟩, _, rfl, v₂, _, ⟨o₂, rfl, h₂, endsRun_dot _⟩, _, rfl,
      v₃, _, ⟨o₃, rfl, h₃, endsRun_dot _⟩, _, rfl, v₄, _, ⟨o₄, rfl, h₄, hend⟩, rfl, rfl⟩

theorem parse?_eq_some_iff_readPrefix {s : String} {x : Ipv4Addr} :
    parse? s = some x ↔ readPrefix s.toList = some (x, []) := by
  unfold parse?
  cases readPrefix s.toList with
  | none => simp
  | some p =>
    obtain ⟨y, _ | ⟨c, rest⟩⟩ := p <;> simp

theorem parse?_eq_some_iff {s : String} {x : Ipv4Addr} :
    parse? s = some x ↔ DottedQuad s.toList x := by
  have hnil : Text.EndsRun 10 [] := fun _ h => by cases h
  simp only [parse?_eq_some_iff_readPrefix, readPrefix_eq_some_iff, List.append_nil, hnil,
    true_and, DottedQuad]

theorem DottedQuad.isDigit_or_eq_dot {cs : List Char} {x : Ipv4Addr} (h : DottedQuad cs x) :
    ∀ c ∈ cs, c.isDigit ∨ c = '.' := by
  obtain ⟨o₁, o₂, o₃, o₄, v₁, v₂, v₃, v₄, rfl, h₁, h₂, h₃, h₄, -⟩ := h
  intro c hc
  simp only [List.mem_append, List.mem_cons] at hc
  rcases hc with hc | hc | hc | hc | hc | hc | hc
  · exact .inl (h₁.isDigit c hc)
  · exact .inr hc
  · exact .inl (h₂.isDigit c hc)
  · exact .inr hc
  · exact .inl (h₃.isDigit c hc)
  · exact .inr hc
  · exact .inl (h₄.isDigit c hc)

/-! ### The text of an address -/

theorem ofOctets_octets (x : Ipv4Addr) :
    ofOctets (x.bits.toNat / 16777216 % 256) (x.bits.toNat / 65536 % 256) (x.bits.toNat / 256 % 256)
      (x.bits.toNat % 256) = x := by
  have hlt := x.bits.toNat_lt
  have hsum : ((x.bits.toNat / 16777216 % 256 * 256 + x.bits.toNat / 65536 % 256) * 256 +
      x.bits.toNat / 256 % 256) * 256 + x.bits.toNat % 256 = x.bits.toNat := by omega
  rw [ofOctets, hsum, UInt32.ofNat_toNat]

theorem dottedQuad_toText (x : Ipv4Addr) : DottedQuad x.toText.toList x := by
  have hlt := x.bits.toNat_lt
  refine ⟨_, _, _, _, _, _, _, _, ?_, octetText_toDigits (by omega), octetText_toDigits (by omega),
    octetText_toDigits (by omega), octetText_toDigits (by omega), (ofOctets_octets x).symm⟩
  simp [toText, octets, String.intercalate_cons_cons, toString, Nat.repr]

theorem parse?_toText (x : Ipv4Addr) : parse? x.toText = some x :=
  parse?_eq_some_iff.mpr (dottedQuad_toText x)

end Ipv4Addr

end MudTestbed
