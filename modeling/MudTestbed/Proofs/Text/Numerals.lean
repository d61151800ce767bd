import Mathlib.Data.Nat.Bitwise
import Mathlib.Tactic.Ring
import MudTestbed.Text.Numeral

/-!
# What the digit readers accept

The readers of numbers take the longest run of digits at the front of a text
(`Text.digitRun`). The value of digits is `Text.digitsValue`, most significant digit first.
The run of a text made of digits and then a rest that does not start with one is exactly
those digits (`Text.digitRun_append`), and every text splits so (`Text.exists_digitRun`).

From these, `Text.parseNat?` accepts exactly an optional `+` and one or more digits whose
value does not pass the bound, and gives that value (`Text.parseNat?_eq_some_iff`). The
digits of radix 16 are the hex digits of either case and those of radix 10 the ASCII digits
(`Text.isHexDigit_eq`, `Text.isDigit_eq`). What `Nat.toDigits` writes are digits that read back
as the number, with no leading zero (`Text.digitsValue_toDigits`,
`Text.eq_zero_of_toDigits_head`).
-/

namespace MudTestbed

namespace Text

set_option autoImplicit false

def digitsValue (radix : Nat) : List Char → Nat
  | [] => 0
  | c :: ds => (digitValue radix c).getD 0 * radix ^ ds.length + digitsValue radix ds

def EndsRun (radix : Nat) (rest : List Char) : Prop :=
  ∀ c, rest.head? = some c → digitValue radix c = none

def UnsignedNumeral (isDigit : Char → Bool) (cs ds : List Char) : Prop :=
  (cs = '+' :: ds ∨ cs = ds) ∧ ds ≠ [] ∧ ∀ c ∈ ds, isDigit c

def LowerHex (c : Char) : Prop := c.isHexDigit ∧ c.isUpper = false

/-! ### Digits -/

theorem digitValue_lt {radix d : Nat} {c : Char} (h : digitValue radix c = some d) : d < radix := by
  grind [digitValue]

theorem digitValue_plus (radix : Nat) : digitValue radix '+' = none := by
  simp [digitValue]

theorem isSome_digitValue_sixteen (c : Char) : (digitValue 16 c).isSome = c.isHexDigit := by
  unfold digitValue Char.isHexDigit Char.isDigit
  simp only [Char.le_def, UInt32.le_iff_toNat_le, Char.toNat_val]
  split_ifs <;> grind

theorem isSome_digitValue_ten (c : Char) : (digitValue 10 c).isSome = c.isDigit := by
  unfold digitValue Char.isDigit
  simp only [Char.le_def, UInt32.le_iff_toNat_le, Char.toNat_val]
  split_ifs <;> grind

theorem isHexDigit_eq : (fun c => (digitValue 16 c).isSome) = Char.isHexDigit :=
  funext isSome_digitValue_sixteen

theorem isDigit_eq : (fun c => (digitValue 10 c).isSome) = Char.isDigit :=
  funext isSome_digitValue_ten

theorem digitValue_digitChar :
    ∀ d < 16, ∀ radix < 17, d < radix → digitValue radix (Nat.digitChar d) = some d := by
  decide

theorem digitChar_eq_zero : ∀ d < 16, Nat.digitChar d = '0' → d = 0 := by
  decide

theorem lowerHex_digitChar : ∀ d < 16, LowerHex (Nat.digitChar d) := by
  unfold LowerHex
  decide

/-! ### The value of digits -/

theorem digitsValue_append (radix : Nat) (xs ys : List Char) :
    digitsValue radix (xs ++ ys) =
      digitsValue radix xs * radix ^ ys.length + digitsValue radix ys := by
  induction xs with
  | nil => simp [digitsValue]
  | cons c xs ih =>
    simp only [List.cons_append, digitsValue, List.length_append, ih, Nat.pow_add]
    ring

@[simp] theorem digitsValue_singleton (radix : Nat) (c : Char) :
    digitsValue radix [c] = (digitValue radix c).getD 0 := by
  simp [digitsValue]

@[simp] theorem digitsValue_pair (radix : Nat) (c d : Char) :
    digitsValue radix [c, d] = (digitValue radix c).getD 0 * radix + (digitValue radix d).getD 0 := by
  simp [digitsValue]

theorem digitsValue_lt (radix : Nat) {ds : List Char}
    (h : ∀ c ∈ ds, (digitValue radix c).isSome) : digitsValue radix ds < radix ^ ds.length := by
  induction ds with
  | nil => simp [digitsValue]
  | cons c ds ih =>
    obtain ⟨d, hd⟩ := Option.isSome_iff_exists.mp (h c List.mem_cons_self)
    have hlt : d < radix := digitValue_lt hd
    have hrest := ih fun c' hc' => h c' (List.mem_cons_of_mem c hc')
    simp only [digitsValue, hd, Option.getD_some, List.length_cons, Nat.pow_succ]
    calc d * radix ^ ds.length + digitsValue radix ds
        < d * radix ^ ds.length + radix ^ ds.length := Nat.add_lt_add_left hrest _
      _ = (d + 1) * radix ^ ds.length := by ring
      _ ≤ radix * radix ^ ds.length := Nat.mul_le_mul_right _ hlt
      _ = radix ^ ds.length * radix := Nat.mul_comm _ _

/-! ### Runs of digits -/

section Run

variable (radix : Nat)

theorem digitRun_append {ds rest : List Char} (hds : ∀ c ∈ ds, (digitValue radix c).isSome)
    (hrest : EndsRun radix rest) :
    digitRun radix (ds ++ rest) = (digitsValue radix ds, ds.length, rest) := by
  induction ds with
  | nil =>
    cases rest with
    | nil => rfl
    | cons c rest =>
      simp only [List.nil_append, digitRun, hrest c rfl, digitsValue, List.length_nil]
  | cons c ds ih =>
    obtain ⟨d, hd⟩ := Option.isSome_iff_exists.mp (hds c List.mem_cons_self)
    simp only [List.cons_append, digitRun, hd, ih fun c' hc' => hds c' (List.mem_cons_of_mem c hc'),
      digitsValue, Option.getD_some, List.length_cons, Nat.pow_eq]

theorem exists_digitRun (cs : List Char) :
    ∃ ds rest, cs = ds ++ rest ∧ (∀ c ∈ ds, (digitValue radix c).isSome) ∧ EndsRun radix rest := by
  induction cs with
  | nil => exact ⟨[], [], rfl, fun _ h => absurd h List.not_mem_nil, fun _ h => by cases h⟩
  | cons c cs ih =>
    cases hc : digitValue radix c with
    | none =>
      exact ⟨[], c :: cs, rfl, fun _ h => absurd h List.not_mem_nil, fun c' h => by cases h; exact hc⟩
    | some d =>
      obtain ⟨ds, rest, rfl, hds, hrest⟩ := ih
      refine ⟨c :: ds, rest, rfl, fun c' hc' => ?_, hrest⟩
      rcases List.mem_cons.mp hc' with rfl | hc'
      · rw [hc]
        rfl
      · exact hds c' hc'

theorem digitsValue?_eq_some_iff {v : Nat} {cs : List Char} :
    digitsValue? radix cs = some v ↔
      cs ≠ [] ∧ (∀ c ∈ cs, (digitValue radix c).isSome) ∧ digitsValue radix cs = v := by
  obtain ⟨ds, rest, rfl, hds, hrest⟩ := exists_digitRun radix cs
  unfold digitsValue?
  rw [digitRun_append radix hds hrest]
  cases rest with
  | nil =>
    rw [List.append_nil]
    cases ds with
    | nil => simp
    | cons c ds =>
      simp only [List.length_cons, Nat.add_one_ne_zero, if_false, Option.some.injEq, ne_eq,
        reduceCtorEq, not_false_eq_true, true_and]
      exact ⟨fun h => ⟨hds, h⟩, And.right⟩
  | cons c rest =>
    simp only [reduceCtorEq, false_iff, not_and]
    intro _ hall
    have := hall c (List.mem_append_right ds List.mem_cons_self)
    rw [hrest c rfl] at this
    cases this

end Run

/-! ### Unsigned numerals -/

section Numeral

variable (isDigit : Char → Bool) {ds : List Char}

theorem not_unsignedNumeral_nil : ¬ UnsignedNumeral isDigit [] ds :=
  fun ⟨hcs, hne, _⟩ => by rcases hcs with h | rfl <;> simp_all

theorem unsignedNumeral_plus_iff (hplus : isDigit '+' = false) {r : List Char} :
    UnsignedNumeral isDigit ('+' :: r) ds ↔ ds = r ∧ r ≠ [] ∧ ∀ c ∈ r, isDigit c := by
  constructor
  · rintro ⟨h | rfl, hne, hall⟩
    · obtain rfl := (List.cons.inj h).2
      exact ⟨rfl, hne, hall⟩
    · exact absurd (hall '+' List.mem_cons_self) (by simp [hplus])
  · rintro ⟨rfl, hne, hall⟩
    exact ⟨.inl rfl, hne, hall⟩

theorem unsignedNumeral_unsigned_iff {c : Char} {r : List Char} (hc : c ≠ '+') :
    UnsignedNumeral isDigit (c :: r) ds ↔ ds = c :: r ∧ ∀ d ∈ c :: r, isDigit d := by
  constructor
  · rintro ⟨h | rfl, -, hall⟩
    · exact absurd (List.cons.inj h).1 hc
    · exact ⟨rfl, hall⟩
  · rintro ⟨rfl, hall⟩
    exact ⟨.inr rfl, List.cons_ne_nil c r, hall⟩

end Numeral

theorem ite_le_eq_some_iff {w bound v : Nat} :
    (if w ≤ bound then some w else none) = some v ↔ w = v ∧ v ≤ bound := by
  split
  · rename_i hle
    rw [Option.some.injEq]
    exact ⟨fun h => ⟨h, h ▸ hle⟩, And.left⟩
  · rename_i hgt
    exact ⟨(fun h => by cases h), fun ⟨hv, hle⟩ => absurd (hv ▸ hle) hgt⟩

theorem parseNat?_eq_some_iff {radix bound v : Nat} {s : String} :
    parseNat? radix bound s = some v ↔
      ∃ ds, UnsignedNumeral (fun c => (digitValue radix c).isSome) s.toList ds ∧
        digitsValue radix ds = v ∧ v ≤ bound := by
  have hplus : (digitValue radix '+').isSome = false := by
    rw [digitValue_plus]
    rfl
  unfold parseNat?
  rcases hs : s.toList with _ | ⟨c, r⟩
  · simp [digitsValue?, digitRun, not_unsignedNumeral_nil]
  · by_cases hc : c = '+'
    · subst hc
      simp only [unsignedNumeral_plus_iff (fun c => (digitValue radix c).isSome) hplus, and_assoc,
        exists_eq_left]
      cases hd : digitsValue? radix r with
      | none =>
        simp only [reduceCtorEq, false_iff, not_and]
        intro hne hall hv
        exact absurd ((digitsValue?_eq_some_iff radix).mpr ⟨hne, hall, hv⟩) (by rw [hd]; simp)
      | some w =>
        obtain ⟨hne, hall, rfl⟩ := (digitsValue?_eq_some_iff radix).mp hd
        simp only [ite_le_eq_some_iff]
        exact ⟨fun h => ⟨hne, hall, h⟩, fun h => h.2.2⟩
    · simp only [unsignedNumeral_unsigned_iff (fun c => (digitValue radix c).isSome) hc, and_assoc,
        exists_eq_left]
      split
      · rename_i w h
        split at h
        · simp_all
        · obtain ⟨-, hall, rfl⟩ := (digitsValue?_eq_some_iff radix).mp h
          simp only [ite_le_eq_some_iff]
          exact ⟨fun h => ⟨hall, h⟩, fun h => h.2⟩
      · rename_i h
        split at h
        · simp_all
        · simp only [reduceCtorEq, false_iff, not_and]
          intro hall hv
          exact absurd ((digitsValue?_eq_some_iff radix).mpr ⟨List.cons_ne_nil c r, hall, hv⟩)
            (by rw [h]; simp)

example : parseNat? 16 255 "+f" = some 15 ∧ parseNat? 10 255 "0032" = some 32 := by cbv

/-! ### Digits written by `Nat.toDigits` -/

section ToDigits

variable {radix : Nat} (h1 : 1 < radix)
include h1

theorem mem_toDigits {n : Nat} {c : Char} (hc : c ∈ Nat.toDigits radix n) :
    ∃ d < radix, c = Nat.digitChar d := by
  induction n using Nat.base_induction radix h1 with
  | single m hm =>
    rw [Nat.toDigits_of_lt_base hm, List.mem_singleton] at hc
    exact ⟨m, hm, hc⟩
  | digit m k hk hm ih =>
    rw [← Nat.toDigits_append_toDigits h1 hm hk, Nat.toDigits_of_lt_base hk] at hc
    rcases List.mem_append.mp hc with hc | hc
    · exact ih hc
    · exact ⟨k, hk, List.mem_singleton.mp hc⟩

variable (h16 : radix ≤ 16)
include h16

theorem isSome_digitValue_of_mem_toDigits {n : Nat} {c : Char} (hc : c ∈ Nat.toDigits radix n) :
    (digitValue radix c).isSome := by
  obtain ⟨d, hd, rfl⟩ := mem_toDigits h1 hc
  rw [digitValue_digitChar d (by omega) radix (by omega) hd]
  rfl

theorem digitsValue_toDigits (n : Nat) : digitsValue radix (Nat.toDigits radix n) = n := by
  induction n using Nat.base_induction radix h1 with
  | single m hm =>
    rw [Nat.toDigits_of_lt_base hm, digitsValue_singleton,
      digitValue_digitChar m (by omega) radix (by omega) hm]
    rfl
  | digit m k hk hm ih =>
    rw [← Nat.toDigits_append_toDigits h1 hm hk, Nat.toDigits_of_lt_base hk, digitsValue_append, ih,
      digitsValue_singleton, digitValue_digitChar k (by omega) radix (by omega) hk, Option.getD_some,
      List.length_singleton, Nat.pow_one, Nat.mul_comm]

theorem eq_zero_of_toDigits_head (n : Nat) (h : (Nat.toDigits radix n).head? = some '0') :
    n = 0 := by
  induction n using Nat.base_induction radix h1 with
  | single m hm =>
    rw [Nat.toDigits_of_lt_base hm] at h
    exact digitChar_eq_zero m (by omega) (Option.some.inj h)
  | digit m k hk hm ih =>
    obtain ⟨x, xs, hx⟩ := List.exists_cons_of_ne_nil (Nat.toDigits_ne_nil (n := m) (b := radix))
    rw [← Nat.toDigits_append_toDigits h1 hm hk, hx, List.cons_append, List.head?_cons] at h
    rw [hx, List.head?_cons] at ih
    exact absurd (ih h) (by omega)

end ToDigits

/-! ### Bytes of a text -/

theorem utf8ByteSize_ofList_cons (c : Char) (cs : List Char) :
    (String.ofList (c :: cs)).utf8ByteSize = c.utf8Size + (String.ofList cs).utf8ByteSize := by
  rw [← String.size_toByteArray, ← String.size_toByteArray, String.toByteArray_ofList,
    String.toByteArray_ofList, List.utf8Encode_cons, ByteArray.size_append, List.utf8Encode_singleton]
  simp

theorem length_le_utf8ByteSize (cs : List Char) : cs.length ≤ (String.ofList cs).utf8ByteSize := by
  induction cs with
  | nil => exact Nat.zero_le _
  | cons c cs ih =>
    rw [utf8ByteSize_ofList_cons, List.length_cons]
    have := c.utf8Size_pos
    omega

theorem utf8Size_of_isHexDigit {c : Char} (h : c.isHexDigit) : c.utf8Size = 1 := by
  rw [Char.utf8Size_eq_one_iff]
  unfold Char.isHexDigit Char.isDigit at h
  simp only [Bool.or_eq_true, Bool.and_eq_true, decide_eq_true_eq] at h
  simp only [UInt32.le_iff_toNat_le] at h ⊢
  grind

theorem utf8ByteSize_of_isHexDigit {ds : List Char} (h : ∀ c ∈ ds, c.isHexDigit) :
    (String.ofList ds).utf8ByteSize = ds.length := by
  induction ds with
  | nil => rfl
  | cons c ds ih =>
    rw [utf8ByteSize_ofList_cons, utf8Size_of_isHexDigit (h c List.mem_cons_self),
      ih fun c' hc' => h c' (List.mem_cons_of_mem c hc'), List.length_cons, Nat.add_comm]

end Text

end MudTestbed
