import MudTestbed.Address.Dpid
import MudTestbed.Proofs.Address.MacSyntax

/-!
# The text forms of a datapath id

Reading a datapath id first removes every leading `0x`; what is left must be one to sixteen
bytes and an optional `+` followed by one or more hex digits in either case. Sixteen hex digits
always fit in 64 bits, so every such text is read, as its hex value
(`Dpid.parse_eq_ok_iff`), and a failure names the text as given (`Dpid.parse_error`). The text
of an id is sixteen lowercase hex digits worth the id, which never starts with `0x`, so it
reads back as the id (`Dpid.parse_toText`). Documents hold an id as a 64-bit number or as its
text, and both decode as the id (`Dpid.decode_word`, `Dpid.decode_toText`).
-/

namespace MudTestbed

set_option autoImplicit false

namespace Text

theorem stripPrefixes_of_not_isPrefixOf {pre cs : List Char} (h : pre.isPrefixOf cs = false) :
    stripPrefixes pre cs = cs := by
  rw [stripPrefixes, dif_neg (by simp [h])]

theorem ofList_eq_empty_iff {cs : List Char} : String.ofList cs = "" ↔ cs = [] := by
  constructor
  · intro h
    simpa using congrArg String.toList h
  · rintro rfl
    rfl

end Text

namespace Dpid

def digitsOf (s : String) : List Char := Text.stripPrefixes ['0', 'x'] s.toList

/-! ### Reading -/

theorem digitsValue_lt_of_numeral {r ds : List Char} (hle : (String.ofList r).utf8ByteSize ≤ 16)
    (hnum : Text.UnsignedNumeral Char.isHexDigit r ds) :
    Text.digitsValue 16 ds < 0x10000000000000000 := by
  have hlen : ds.length ≤ 16 := by
    have h1 := Text.length_le_utf8ByteSize r
    rcases hnum.1 with h | h <;> rw [h] at h1 hle
    · rw [List.length_cons] at h1
      omega
    · omega
  calc Text.digitsValue 16 ds
      < 16 ^ ds.length :=
        Text.digitsValue_lt 16 (by simpa only [Text.isSome_digitValue_sixteen] using hnum.2.2)
    _ ≤ 16 ^ 16 := Nat.pow_le_pow_right (by decide) hlen
    _ = 0x10000000000000000 := by decide

theorem parse_eq_ok_iff {s : String} {d : Dpid} :
    parse s = .ok d ↔
      digitsOf s ≠ [] ∧ (String.ofList (digitsOf s)).utf8ByteSize ≤ 16 ∧
        ∃ ds, Text.UnsignedNumeral Char.isHexDigit (digitsOf s) ds ∧
          Text.digitsValue 16 ds = d.value := by
  unfold parse digitsOf
  dsimp only
  by_cases hbad : (String.ofList (Text.stripPrefixes ['0', 'x'] s.toList)).isEmpty = true ∨
      16 < (String.ofList (Text.stripPrefixes ['0', 'x'] s.toList)).utf8ByteSize
  · rw [if_pos hbad]
    refine ⟨(fun h => by cases h), fun ⟨hne, hle, _⟩ => absurd hbad ?_⟩
    rintro (hempty | hlong)
    · exact hne (Text.ofList_eq_empty_iff.mp (String.isEmpty_iff.mp hempty))
    · omega
  · rw [if_neg hbad]
    have hne : Text.stripPrefixes ['0', 'x'] s.toList ≠ [] := fun h => hbad (.inl (by rw [h]; rfl))
    have hle : (String.ofList (Text.stripPrefixes ['0', 'x'] s.toList)).utf8ByteSize ≤ 16 := by
      omega
    split
    · rename_i v hv
      obtain ⟨ds, hnum, rfl, -⟩ := Text.parseNat?_eq_some_iff.mp hv
      rw [String.toList_ofList, Text.isHexDigit_eq] at hnum
      constructor
      · rintro ⟨⟩
        exact ⟨hne, hle, ds, hnum, rfl⟩
      · rintro ⟨-, -, ds', hnum', hv'⟩
        have hds : ds' = ds := by
          rcases hnum.1 with h | h <;> rcases hnum'.1 with h' | h'
          · exact (List.cons.inj (h'.symm.trans h)).2
          · exact absurd (hnum'.2.2 '+' (by rw [← h', h]; exact List.mem_cons_self)) (by decide)
          · exact absurd (hnum.2.2 '+' (by rw [← h, h']; exact List.mem_cons_self)) (by decide)
          · exact h'.symm.trans h
        subst hds
        cases d
        simp only [Except.ok.injEq, Dpid.mk.injEq]
        exact hv'
    · rename_i hnone
      refine ⟨(fun h => by cases h), fun ⟨_, _, ds, hnum, hv⟩ => ?_⟩
      have hsome := Text.parseNat?_eq_some_iff.mpr
        ⟨ds, by rw [String.toList_ofList, Text.isHexDigit_eq]; exact hnum, rfl,
          Nat.le_sub_one_of_lt (digitsValue_lt_of_numeral hle hnum)⟩
      rw [hnone] at hsome
      cases hsome

theorem parse_ok_iff {s : String} :
    (∃ d, parse s = .ok d) ↔
      digitsOf s ≠ [] ∧ (String.ofList (digitsOf s)).utf8ByteSize ≤ 16 ∧
        ∃ ds, Text.UnsignedNumeral Char.isHexDigit (digitsOf s) ds := by
  constructor
  · rintro ⟨d, hd⟩
    obtain ⟨hne, hle, ds, hnum, -⟩ := parse_eq_ok_iff.mp hd
    exact ⟨hne, hle, ds, hnum⟩
  · rintro ⟨hne, hle, ds, hnum⟩
    exact ⟨⟨_, digitsValue_lt_of_numeral hle hnum⟩, parse_eq_ok_iff.mpr ⟨hne, hle, ds, hnum, rfl⟩⟩

theorem parse_error {s : String} {e : Error} (h : parse s = .error e) :
    e = .invalidConfig s!"invalid datapath id '{s}'" := by
  unfold parse at h
  dsimp only at h
  split at h
  · cases h
    rfl
  · split at h
    · cases h
    · cases h
      rfl

/-! ### Writing -/

theorem toText_toList (d : Dpid) :
    d.toText.toList =
      List.replicate (16 - (Nat.toDigits 16 d.value).length) '0' ++ Nat.toDigits 16 d.value := by
  simp only [toText, String.toList_append, String.toList_ofList, String.length_ofList]

theorem length_toDigits_value (d : Dpid) : (Nat.toDigits 16 d.value).length ≤ 16 :=
  (Nat.length_toDigits_le_iff (by decide) (by decide)).mpr d.value_lt

theorem digitsValue_replicate_zero (n : Nat) (ds : List Char) :
    Text.digitsValue 16 (List.replicate n '0' ++ ds) = Text.digitsValue 16 ds := by
  induction n with
  | zero => rfl
  | succ n ih =>
    have hzero : (Text.digitValue 16 '0').getD 0 = 0 := by decide
    rw [List.replicate_succ, List.cons_append, Text.digitsValue, ih, hzero, Nat.zero_mul,
      Nat.zero_add]

theorem toText_digits (d : Dpid) :
    d.toText.toList.length = 16 ∧ (∀ c ∈ d.toText.toList, Text.LowerHex c) ∧
      Text.digitsValue 16 d.toText.toList = d.value := by
  rw [toText_toList]
  refine ⟨?_, fun c hc => ?_, ?_⟩
  · have := length_toDigits_value d
    simp only [List.length_append, List.length_replicate]
    omega
  · rcases List.mem_append.mp hc with hc | hc
    · rw [(List.mem_replicate.mp hc).2]
      exact Text.lowerHex_digitChar 0 (by decide)
    · obtain ⟨k, hk, rfl⟩ := Text.mem_toDigits (by decide) hc
      exact Text.lowerHex_digitChar k hk
  · rw [digitsValue_replicate_zero, Text.digitsValue_toDigits (by decide) (by decide)]

theorem parse_toText (d : Dpid) : parse d.toText = .ok d := by
  obtain ⟨hlen, hlower, hval⟩ := toText_digits d
  have hhex : ∀ c ∈ d.toText.toList, c.isHexDigit := fun c hc => (hlower c hc).1
  have hdigits : digitsOf d.toText = d.toText.toList := by
    apply Text.stripPrefixes_of_not_isPrefixOf
    cases hcs : d.toText.toList with
    | nil => rfl
    | cons c cs =>
      cases cs with
      | nil => simp [List.isPrefixOf]
      | cons c' cs =>
        have hx : c' ≠ 'x' := fun h => by
          have := hhex c' (by rw [hcs]; simp)
          rw [h] at this
          cases this
        simp [List.isPrefixOf, Ne.symm hx]
  refine parse_eq_ok_iff.mpr ⟨?_, ?_, d.toText.toList, ⟨.inr hdigits, ?_, ?_⟩, ?_⟩
  · rw [hdigits]
    intro h
    rw [h] at hlen
    cases hlen
  · rw [hdigits, Text.utf8ByteSize_of_isHexDigit hhex, hlen]
  · intro h
    rw [h] at hlen
    cases hlen
  · exact hhex
  · exact hval

/-! ### Documents -/

theorem decode_word (place : Place) (w : UInt64) :
    decode place (Json.ofNat w.toNat) = .ok (ofWord w) := by
  simp only [decode, Json.ofNat, dif_pos w.toNat_lt, Decode.within]
  rfl

theorem decode_string (place : Place) (s : String) :
    (∀ d, decode place (.string s) = .ok d ↔ parse s = .ok d) ∧
      ∀ e, parse s = .error e → ∃ spot, decode place (.string s) = .error ⟨e.message, spot⟩ := by
  constructor
  · intro d
    simp only [decode, Decode.within]
    cases parse s <;> simp [Except.mapError]
  · intro e he
    simp only [decode, Decode.within, he, Except.mapError]
    exact ⟨_, rfl⟩

theorem decode_toText (place : Place) (d : Dpid) : decode place (.string d.toText) = .ok d :=
  ((decode_string place d.toText).1 d).mpr (parse_toText d)

/-- Reading and writing datapath ids: the texts accepted, and every id read back. -/
theorem hex_forms_round_trip :
    (∀ s d, parse s = .ok d ↔
      digitsOf s ≠ [] ∧ (String.ofList (digitsOf s)).utf8ByteSize ≤ 16 ∧
        ∃ ds, Text.UnsignedNumeral Char.isHexDigit (digitsOf s) ds ∧
          Text.digitsValue 16 ds = d.value) ∧
    (∀ s, (∃ d, parse s = .ok d) ↔
      digitsOf s ≠ [] ∧ (String.ofList (digitsOf s)).utf8ByteSize ≤ 16 ∧
        ∃ ds, Text.UnsignedNumeral Char.isHexDigit (digitsOf s) ds) ∧
    (∀ s e, parse s = .error e → e = .invalidConfig s!"invalid datapath id '{s}'") ∧
    (∀ d : Dpid, d.toText.toList.length = 16 ∧ (∀ c ∈ d.toText.toList, Text.LowerHex c) ∧
      Text.digitsValue 16 d.toText.toList = d.value ∧ parse d.toText = .ok d) ∧
    (∀ place (w : UInt64), decode place (Json.ofNat w.toNat) = .ok (ofWord w)) ∧
    (∀ place s, (∀ d, decode place (.string s) = .ok d ↔ parse s = .ok d) ∧
      ∀ e, parse s = .error e → ∃ spot, decode place (.string s) = .error ⟨e.message, spot⟩) ∧
    ∀ place d, decode place (.string d.toText) = .ok d :=
  ⟨fun _ _ => parse_eq_ok_iff, fun _ => parse_ok_iff, fun _ _ => parse_error,
    fun d => ⟨(toText_digits d).1, (toText_digits d).2.1, (toText_digits d).2.2, parse_toText d⟩,
    decode_word, decode_string, decode_toText⟩

end Dpid

end MudTestbed
