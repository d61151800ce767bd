import Mathlib.Data.List.Forall2
import MudTestbed.Proofs.Address.MacText
import MudTestbed.Proofs.Text.Numerals

/-!
# The text forms of a MAC address

An address is read from six pieces between `:`, each the text of one byte (`ByteText`): two
hex digits in either case, or `+` and one hex digit. `MacAddr.parse_eq_ok_iff` says reading
accepts exactly these texts and gives the bytes they are worth. The text of an address is six
pieces of two lowercase hex digits (`MacAddr.toText_pieces`); it reads back as the address,
and reading an accepted text and writing it again lowercases it, a `+` becoming `0`
(`MacAddr.toText_of_parse`). Documents hold an address as its text, so decoding the document
form of an address gives the address (`MacAddr.decode_toText`).
-/

namespace MudTestbed

set_option autoImplicit false

theorem List.mapM_option_eq_some_iff {α β : Type} (f : α → Option β) (xs : List α)
    (ys : List β) : xs.mapM f = some ys ↔ List.Forall₂ (fun x y => f x = some y) xs ys := by
  induction xs generalizing ys with
  | nil => cases ys <;> simp
  | cons x xs ih =>
    cases ys with
    | nil => simp [List.mapM_cons, Option.bind_eq_some_iff]
    | cons y ys => simp [List.mapM_cons, Option.bind_eq_some_iff, ← ih]

theorem List.Forall₂.exists_right_of_mem {α β : Type} {R : α → β → Prop} {xs : List α}
    {ys : List β} (h : List.Forall₂ R xs ys) {x : α} (hx : x ∈ xs) : ∃ y, R x y := by
  induction h with
  | nil => cases hx
  | cons hr _ ih =>
    rcases List.mem_cons.mp hx with rfl | hx
    · exact ⟨_, hr⟩
    · exact ih hx

theorem List.exists_forall₂_of_forall_exists {α β : Type} {R : α → β → Prop} :
    ∀ {xs : List α}, (∀ x ∈ xs, ∃ y, R x y) → ∃ ys, List.Forall₂ R xs ys
  | [], _ => ⟨[], .nil⟩
  | x :: xs, h => by
    obtain ⟨y, hy⟩ := h x List.mem_cons_self
    obtain ⟨ys, hys⟩ := List.exists_forall₂_of_forall_exists fun x' hx' =>
      h x' (List.mem_cons_of_mem x hx')
    exact ⟨y :: ys, .cons hy hys⟩

theorem List.map_intercalate {α β : Type} (f : α → β) (sep : List α) (xss : List (List α)) :
    (sep.intercalate xss).map f = (sep.map f).intercalate (xss.map (List.map f)) := by
  induction xss with
  | nil => rfl
  | cons xs rest ih =>
    cases rest with
    | nil => simp
    | cons ys more =>
      rw [List.intercalate_cons_cons, List.map_cons, List.map_cons, List.intercalate_cons_cons,
        List.map_append, List.map_append, ih, List.map_cons]

namespace MacAddr

def ByteText (p : String) (b : Nat) : Prop :=
  (∃ hi lo, p.toList = [hi, lo] ∧ hi.isHexDigit ∧ lo.isHexDigit ∧
      b = Text.digitsValue 16 [hi, lo]) ∨
    ∃ lo, p.toList = ['+', lo] ∧ lo.isHexDigit ∧ b = Text.digitsValue 16 [lo]

/-! ### Reading one byte -/

theorem ByteText.utf8ByteSize {p : String} {b : Nat} (h : ByteText p b) : p.utf8ByteSize = 2 := by
  rw [← String.ofList_toList (s := p)]
  rcases h with ⟨hi, lo, hp, hhi, hlo, -⟩ | ⟨lo, hp, hlo, -⟩
  · rw [hp, Text.utf8ByteSize_of_isHexDigit (by simp [hhi, hlo])]
    rfl
  · rw [hp, Text.utf8ByteSize_ofList_cons, Text.utf8ByteSize_of_isHexDigit (by simp [hlo])]
    rfl

theorem ByteText.numeral {p : String} {b : Nat} (h : ByteText p b) :
    ∃ ds, Text.UnsignedNumeral Char.isHexDigit p.toList ds ∧ Text.digitsValue 16 ds = b ∧
      b ≤ 255 := by
  rcases h with ⟨hi, lo, hp, hhi, hlo, rfl⟩ | ⟨lo, hp, hlo, rfl⟩
  · have hhex : ∀ c ∈ [hi, lo], c.isHexDigit := by simp [hhi, hlo]
    have hlt : Text.digitsValue 16 [hi, lo] < 16 ^ 2 :=
      Text.digitsValue_lt 16 (by simpa only [Text.isSome_digitValue_sixteen] using hhex)
    exact ⟨[hi, lo], ⟨.inr hp, List.cons_ne_nil _ _, hhex⟩, rfl, by omega⟩
  · have hhex : ∀ c ∈ [lo], c.isHexDigit := by simp [hlo]
    have hlt : Text.digitsValue 16 [lo] < 16 ^ 1 :=
      Text.digitsValue_lt 16 (by simpa only [Text.isSome_digitValue_sixteen] using hhex)
    exact ⟨[lo], ⟨.inl hp, List.cons_ne_nil _ _, hhex⟩, rfl, by omega⟩

theorem byteText_of_numeral {p : String} {ds : List Char} (h2 : p.utf8ByteSize = 2)
    (h : Text.UnsignedNumeral Char.isHexDigit p.toList ds) :
    ByteText p (Text.digitsValue 16 ds) := by
  obtain ⟨hsign | hsign, hne, hhex⟩ := h
  · rw [← String.ofList_toList (s := p), hsign, Text.utf8ByteSize_ofList_cons,
      Text.utf8ByteSize_of_isHexDigit hhex, show '+'.utf8Size = 1 by decide] at h2
    rcases ds with _ | ⟨lo, _ | ⟨x, rest⟩⟩
    · exact absurd rfl hne
    · exact .inr ⟨lo, hsign, hhex lo List.mem_cons_self, rfl⟩
    · simp only [List.length_cons] at h2
      omega
  · rw [← String.ofList_toList (s := p), hsign, Text.utf8ByteSize_of_isHexDigit hhex] at h2
    rcases ds with _ | ⟨hi, _ | ⟨lo, _ | ⟨x, rest⟩⟩⟩
    · exact absurd rfl hne
    · simp only [List.length_cons, List.length_nil] at h2
      omega
    · exact .inl ⟨hi, lo, hsign, hhex hi List.mem_cons_self, hhex lo (by simp), rfl⟩
    · simp only [List.length_cons] at h2
      omega

theorem parseByte?_eq_some_iff {p : String} {b : Nat} : parseByte? p = some b ↔ ByteText p b := by
  unfold parseByte?
  by_cases h2 : p.utf8ByteSize = 2
  · rw [if_pos h2, Text.parseNat?_eq_some_iff, Text.isHexDigit_eq]
    constructor
    · rintro ⟨ds, hnum, rfl, -⟩
      exact byteText_of_numeral h2 hnum
    · exact ByteText.numeral
  · rw [if_neg h2]
    exact ⟨(fun h => by cases h), fun h => absurd h.utf8ByteSize h2⟩

/-! ### Reading an address -/

theorem parse_eq_ok_iff {s : String} {m : MacAddr} :
    parse s = .ok m ↔ List.Forall₂ ByteText (Text.split ':' s) m.bytes := by
  have hbytes : ∀ bytes, (Text.split ':' s).mapM parseByte? = some bytes ↔
      List.Forall₂ ByteText (Text.split ':' s) bytes := by
    intro bytes
    simp only [List.mapM_option_eq_some_iff, parseByte?_eq_some_iff]
  unfold parse
  dsimp only
  split
  · rename_i bytes h
    split
    · constructor
      · intro hm
        cases hm
        exact (hbytes bytes).mp h
      · intro hm
        have hsome := (hbytes m.bytes).mpr hm
        rw [h, Option.some.injEq] at hsome
        subst hsome
        rfl
    · rename_i hlen
      refine ⟨(fun h => by cases h), fun hm => absurd ?_ hlen⟩
      have hsome := (hbytes m.bytes).mpr hm
      rw [h, Option.some.injEq] at hsome
      rw [hsome, m.length_bytes]
  · rename_i h
    refine ⟨(fun h => by cases h), fun hm => ?_⟩
    have hsome := (hbytes m.bytes).mpr hm
    rw [h] at hsome
    cases hsome

theorem parse_ok_iff {s : String} :
    (∃ m, parse s = .ok m) ↔
      (Text.split ':' s).length = 6 ∧ ∀ p ∈ Text.split ':' s, ∃ b, ByteText p b := by
  constructor
  · rintro ⟨m, hm⟩
    have hall := parse_eq_ok_iff.mp hm
    exact ⟨hall.length_eq.trans m.length_bytes, fun p hp => List.Forall₂.exists_right_of_mem hall hp⟩
  · rintro ⟨hlen, hall⟩
    obtain ⟨bytes, hbytes⟩ := List.exists_forall₂_of_forall_exists hall
    have hlt : ∀ b ∈ bytes, b < 256 := fun b hb => by
      obtain ⟨p, hp⟩ :=
        List.Forall₂.exists_right_of_mem (List.Forall₂.flip (R := flip ByteText) hbytes) hb
      obtain ⟨-, -, -, hle⟩ := ByteText.numeral hp
      omega
    exact ⟨⟨bytes, hbytes.length_eq.symm.trans hlen, hlt⟩, parse_eq_ok_iff.mpr hbytes⟩

/-! ### Writing an address -/

theorem hexByte_digits {b : Nat} (hb : b < 256) :
    ∃ hi lo, (hexByte b).toList = [hi, lo] ∧ Text.LowerHex hi ∧ Text.LowerHex lo ∧
      Text.digitsValue 16 [hi, lo] = b := by
  have hhi : b / 16 % 16 < 16 := Nat.mod_lt _ (by decide)
  have hlo : b % 16 < 16 := Nat.mod_lt _ (by decide)
  refine ⟨_, _, hexByte_toList b, Text.lowerHex_digitChar _ hhi, Text.lowerHex_digitChar _ hlo, ?_⟩
  rw [Text.digitsValue_pair, Text.digitValue_digitChar _ hhi 16 (by decide) hhi,
    Text.digitValue_digitChar _ hlo 16 (by decide) hlo, Option.getD_some, Option.getD_some]
  omega

theorem toText_pieces (m : MacAddr) :
    List.Forall₂ (fun p b => ∃ hi lo, p.toList = [hi, lo] ∧ Text.LowerHex hi ∧ Text.LowerHex lo ∧
      Text.digitsValue 16 [hi, lo] = b) (Text.split ':' m.toText) m.bytes := by
  rw [split_toText, List.forall₂_map_left_iff, List.forall₂_same]
  exact fun b hb => hexByte_digits (m.bytes_lt b hb)

def writtenBack (c : Char) : Char := if c = '+' then '0' else c.toLower

theorem digitChar_hexValue : ∀ n < 103, (Char.ofNat n).isHexDigit →
    Nat.digitChar ((Text.digitValue 16 (Char.ofNat n)).getD 0) = writtenBack (Char.ofNat n) := by
  decide

theorem digitChar_hexValue_eq {c : Char} (h : c.isHexDigit) :
    Nat.digitChar ((Text.digitValue 16 c).getD 0) = writtenBack c := by
  have hlt : c.toNat < 103 := by
    unfold Char.isHexDigit Char.isDigit at h
    simp only [Bool.or_eq_true, Bool.and_eq_true, decide_eq_true_eq, UInt32.le_iff_toNat_le,
      Char.toNat_val] at h
    grind
  rw [← Char.ofNat_toNat c] at h ⊢
  exact digitChar_hexValue _ hlt h

theorem hexValue_lt {c : Char} (h : c.isHexDigit) : (Text.digitValue 16 c).getD 0 < 16 := by
  obtain ⟨d, hd⟩ := Option.isSome_iff_exists.mp ((Text.isSome_digitValue_sixteen c).trans h)
  rw [hd, Option.getD_some]
  exact Text.digitValue_lt hd

theorem hexByte_of_byteText {p : String} {b : Nat} (h : ByteText p b) :
    (hexByte b).toList = p.toList.map writtenBack := by
  rw [hexByte_toList]
  rcases h with ⟨hi, lo, hp, hhi, hlo, rfl⟩ | ⟨lo, hp, hlo, rfl⟩
  · have h1 := hexValue_lt hhi
    have h2 := hexValue_lt hlo
    rw [hp, List.map_cons, List.map_cons, List.map_nil, Text.digitsValue_pair,
      ← digitChar_hexValue_eq hhi, ← digitChar_hexValue_eq hlo]
    congr 3 <;> omega
  · have h2 := hexValue_lt hlo
    rw [hp, List.map_cons, List.map_cons, List.map_nil, Text.digitsValue_singleton,
      ← digitChar_hexValue_eq hlo, Nat.mod_eq_of_lt h2, Nat.div_eq_of_lt h2, Nat.zero_mod]
    rfl

theorem toText_of_parse {s : String} {m : MacAddr} (h : parse s = .ok m) :
    m.toText = String.ofList (s.toList.map writtenBack) := by
  have hall := parse_eq_ok_iff.mp h
  apply String.toList_inj.mp
  conv => rhs; rw [← Text.intercalate_split (show ":".toList = [':'] from rfl) s]
  rw [String.toList_ofList, toText, String.toList_intercalate, String.toList_intercalate,
    List.map_intercalate, show ":".toList = [':'] from rfl]
  congr 1
  clear h
  generalize Text.split ':' s = parts at hall ⊢
  generalize m.bytes = bytes at hall ⊢
  induction hall with
  | nil => rfl
  | cons hb _ ih =>
    rw [List.map_cons, List.map_cons, List.map_cons, List.map_cons, ih, hexByte_of_byteText hb]

theorem decode_toText (place : Place) (m : MacAddr) : decode place (.string m.toText) = .ok m := by
  simp only [decode, Decode.parsed, Decode.string, Decode.within, parse_toText]
  rfl

/-- Reading and writing MAC addresses: the texts accepted, and every address read back. -/
theorem text_forms_round_trip :
    (∀ s m, parse s = .ok m ↔ List.Forall₂ ByteText (Text.split ':' s) m.bytes) ∧
    (∀ s, (∃ m, parse s = .ok m) ↔
      (Text.split ':' s).length = 6 ∧ ∀ p ∈ Text.split ':' s, ∃ b, ByteText p b) ∧
    (∀ m : MacAddr, List.Forall₂ (fun p b => ∃ hi lo, p.toList = [hi, lo] ∧ Text.LowerHex hi ∧
        Text.LowerHex lo ∧ Text.digitsValue 16 [hi, lo] = b) (Text.split ':' m.toText) m.bytes ∧
      parse m.toText = .ok m) ∧
    (∀ s m, parse s = .ok m → m.toText = String.ofList (s.toList.map writtenBack)) ∧
    ∀ place m, decode place (.string m.toText) = .ok m :=
  ⟨fun _ _ => parse_eq_ok_iff, fun _ => parse_ok_iff, fun m => ⟨toText_pieces m, parse_toText m⟩,
    fun _ _ => toText_of_parse, decode_toText⟩

end MacAddr

end MudTestbed
