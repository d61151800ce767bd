import Mathlib.Algebra.Order.Field.Power
import Mathlib.Data.Rat.Cast.Order
import MudTestbed.Binary64.Read

/-!
# Doubles rounded from non-negative values

`roundRatio` is where every double of the library comes from, and what it gives is always
`NonNeg`: positive infinity, or a pattern with the sign bit clear, an exponent field below
the all-ones of infinities and NaNs, and 52 fraction bits (`PlainFields`). The one fact this
rests on is that the significand it rounds to has at most 53 bits or is exactly `2 ^ 53`
(`roundedSignificand_le`), which follows from `floorLog2Ratio` never falling short of the
binary logarithm (`lt_two_zpow_floorLog2Ratio`).

So a double read from an unsigned decimal (`ofString?_of_readDecimal`), and every `ofNat`,
is never a NaN and never negative; it is finite exactly when it lies below some finite
non-negative double, and then at least zero and below that double.
-/

namespace MudTestbed

namespace Binary64

set_option autoImplicit false

/-- Fields of a finite non-negative pattern: exponent below all-ones, 52-bit fraction. -/
structure PlainFields (e f : Nat) : Prop where
  exponent_le : e ≤ 2046
  fraction_lt : f < 2 ^ 52

section PlainFields

variable {e f : Nat}

theorem PlainFields.bits (h : PlainFields e f) :
    (ofFields false e f).bits.toNat = e * 2 ^ 52 + f := by
  have he := h.exponent_le
  have hf := h.fraction_lt
  simp only [ofFields, Bool.false_eq_true, ↓reduceIte, UInt64.toNat_or, UInt64.toNat_shiftLeft,
    UInt64.toNat_ofNat', UInt64.toNat_zero, Nat.zero_or]
  rw [Nat.mod_eq_of_lt (by omega : e < 2 ^ 64), Nat.mod_eq_of_lt (by omega : f < 2 ^ 64)]
  have h52 : UInt64.toNat 52 % 64 = 52 := rfl
  rw [h52, Nat.shiftLeft_eq, Nat.mod_eq_of_lt (by omega), ← Nat.shiftLeft_eq,
    ← Nat.shiftLeft_add_eq_or_of_lt hf, Nat.shiftLeft_eq]

theorem PlainFields.negative (h : PlainFields e f) : (ofFields false e f).negative = false := by
  have he := h.exponent_le
  have hf := h.fraction_lt
  unfold Binary64.negative
  rw [beq_eq_false_iff_ne]
  intro hsign
  have hbit := congrArg UInt64.toNat hsign
  rw [UInt64.toNat_shiftRight, h.bits, Nat.shiftRight_eq_div_pow] at hbit
  have hlow : (e * 2 ^ 52 + f) / 2 ^ (UInt64.toNat 63 % 64) = 0 :=
    Nat.div_eq_of_lt (show e * 2 ^ 52 + f < 2 ^ 63 by omega)
  rw [hlow] at hbit
  exact absurd hbit (by decide)

theorem PlainFields.exponentField (h : PlainFields e f) :
    (ofFields false e f).exponentField = e := by
  have he := h.exponent_le
  have hf := h.fraction_lt
  unfold Binary64.exponentField
  rw [UInt64.toNat_and, UInt64.toNat_shiftRight, h.bits, Nat.shiftRight_eq_div_pow]
  show (e * 2 ^ 52 + f) / 2 ^ 52 &&& 2 ^ 11 - 1 = e
  rw [Nat.and_two_pow_sub_one_eq_mod]
  omega

theorem PlainFields.isNaN (h : PlainFields e f) : (ofFields false e f).isNaN = false := by
  have he := h.exponent_le
  simp only [Binary64.isNaN, h.exponentField, Bool.and_eq_false_iff, beq_eq_false_iff_ne]
  exact .inl (by omega)

theorem PlainFields.isFinite (h : PlainFields e f) : (ofFields false e f).isFinite = true := by
  have he := h.exponent_le
  simp only [Binary64.isFinite, h.exponentField, bne_iff_ne]
  omega

theorem PlainFields.orderKey (h : PlainFields e f) :
    (ofFields false e f).orderKey = e * 2 ^ 52 + f := by
  have he := h.exponent_le
  have hf := h.fraction_lt
  unfold Binary64.orderKey
  rw [h.negative, UInt64.toNat_and, h.bits]
  show (((e * 2 ^ 52 + f &&& 2 ^ 63 - 1 : Nat)) : Int) = _
  rw [Nat.and_two_pow_sub_one_eq_mod, Nat.mod_eq_of_lt (by omega)]
  rfl

end PlainFields

/-! ## The significand of a rounded fraction -/

theorem roundHalfEven_le_succ_div (num den : Nat) : roundHalfEven num den ≤ num / den + 1 := by
  unfold roundHalfEven
  dsimp only
  split_ifs <;> omega

theorem roundHalfEven_le_of_lt {num den bound : Nat} (h : num < bound * den) :
    roundHalfEven num den ≤ bound := by
  have hden : 0 < den := Nat.pos_of_ne_zero fun h0 => by simp [h0] at h
  have hq : num / den < bound := (Nat.div_lt_iff_lt_mul hden).mpr h
  have := roundHalfEven_le_succ_div num den
  omega

theorem lt_two_zpow_floorLog2Ratio {num den : Nat} (hden : 0 < den) :
    (num : ℚ) < den * 2 ^ (floorLog2Ratio num den + 1) := by
  have hn : (num : ℚ) < 2 ^ ((num.log2 : ℤ) + 1) := by
    rw [zpow_add_one₀ two_ne_zero, zpow_natCast, ← pow_succ]
    exact_mod_cast Nat.lt_log2_self
  have hd : (2 : ℚ) ^ (den.log2 : ℤ) ≤ den := by
    rw [zpow_natCast]
    exact_mod_cast Nat.log2_self_le (Nat.pos_iff_ne_zero.mp hden)
  have hwide : (num : ℚ) < den * 2 ^ ((num.log2 : ℤ) - den.log2 + 1) := by
    calc (num : ℚ) < 2 ^ ((num.log2 : ℤ) + 1) := hn
      _ = 2 ^ (den.log2 : ℤ) * 2 ^ ((num.log2 : ℤ) - den.log2 + 1) := by
        rw [← zpow_add₀ two_ne_zero]
        congr 1
        omega
      _ ≤ den * 2 ^ ((num.log2 : ℤ) - den.log2 + 1) := by gcongr
  unfold floorLog2Ratio
  dsimp only
  split_ifs with hk hlt hlt
  · rw [sub_add_cancel, ← Int.toNat_of_nonneg hk, zpow_natCast]
    exact_mod_cast hlt
  · exact hwide
  · rw [sub_add_cancel]
    have hlt' : (num : ℚ) * 2 ^ (-((num.log2 : ℤ) - den.log2)) < den := by
      rw [← Int.toNat_of_nonneg (by omega : 0 ≤ -((num.log2 : ℤ) - den.log2)), zpow_natCast]
      exact_mod_cast hlt
    rw [zpow_neg, ← div_eq_mul_inv, div_lt_iff₀ (by positivity)] at hlt'
    exact hlt'
  · exact hwide

theorem roundedSignificand_le {num den : Nat} (hden : 0 < den) {e₀ : Int}
    (he : floorLog2Ratio num den - 52 ≤ e₀) :
    (if 0 ≤ e₀ then roundHalfEven num (den * Nat.pow 2 e₀.toNat)
      else roundHalfEven (num * Nat.pow 2 (-e₀).toNat) den) ≤ 2 ^ 53 := by
  have hbound : (num : ℚ) < den * 2 ^ (e₀ + 53) :=
    calc (num : ℚ) < den * 2 ^ (floorLog2Ratio num den + 1) := lt_two_zpow_floorLog2Ratio hden
      _ ≤ den * 2 ^ (e₀ + 53) :=
        mul_le_mul_of_nonneg_left (zpow_le_zpow_right₀ (by norm_num) (by omega))
          (Nat.cast_nonneg _)
  simp only [Nat.pow_eq]
  split_ifs with hpos
  · refine roundHalfEven_le_of_lt ?_
    have hsplit : (2 : ℚ) ^ (e₀ + 53) = 2 ^ 53 * 2 ^ e₀.toNat := by
      rw [zpow_add₀ two_ne_zero, ← Int.toNat_of_nonneg hpos, zpow_natCast, Int.toNat_natCast,
        mul_comm]
      rfl
    rw [hsplit, mul_left_comm] at hbound
    exact_mod_cast hbound
  · refine roundHalfEven_le_of_lt ?_
    have hscale : (0 : ℚ) < 2 ^ (-e₀).toNat := pow_pos two_pos _
    have hsplit : (2 : ℚ) ^ (e₀ + 53) * 2 ^ (-e₀).toNat = 2 ^ 53 := by
      rw [← zpow_natCast, Int.toNat_of_nonneg (by omega), ← zpow_add₀ two_ne_zero]
      norm_num
    have hscaled : (num : ℚ) * 2 ^ (-e₀).toNat < 2 ^ 53 * den :=
      calc (num : ℚ) * 2 ^ (-e₀).toNat < den * 2 ^ (e₀ + 53) * 2 ^ (-e₀).toNat :=
            mul_lt_mul_of_pos_right hbound hscale
        _ = 2 ^ 53 * den := by rw [mul_assoc, hsplit, mul_comm]
    exact_mod_cast hscaled

/-! ## Non-negative patterns -/

/-- The patterns rounding gives a non-negative fraction: `+∞`, or finite with sign clear. -/
inductive NonNeg : Binary64 → Prop
  | infinity : NonNeg infinity
  | finite {e f : Nat} : PlainFields e f → NonNeg (ofFields false e f)

theorem zero_nonNeg : NonNeg zero :=
  (show zero = ofFields false 0 0 by decide) ▸ .finite ⟨by omega, by omega⟩

theorem roundRatio_nonNeg (num den : Nat) : NonNeg (roundRatio num den) := by
  unfold roundRatio
  split_ifs with h0
  · exact zero_nonNeg
  have hden : 0 < den := by omega
  dsimp only
  have he₀ := le_max_left (floorLog2Ratio num den - 52) (-1074)
  generalize max (floorLog2Ratio num den - 52) (-1074) = e₀ at he₀ ⊢
  have hm₀ := roundedSignificand_le hden he₀
  generalize (if 0 ≤ e₀ then roundHalfEven num (den * Nat.pow 2 e₀.toNat)
    else roundHalfEven (num * Nat.pow 2 (-e₀).toNat) den) = m₀ at hm₀ ⊢
  have hm : (if m₀ = 0x20000000000000 then 0x10000000000000 else m₀) < 2 ^ 53 := by
    split_ifs <;> omega
  generalize (if m₀ = 0x20000000000000 then 0x10000000000000 else m₀) = m at hm ⊢
  generalize (if m₀ = 0x20000000000000 then e₀ + 1 else e₀) = e
  split_ifs with hinf hsub
  · exact .infinity
  · exact .finite ⟨by omega, hsub⟩
  · exact .finite ⟨by omega, by omega⟩

theorem ofRatio_false (num den : Nat) : ofRatio false num den = roundRatio num den := rfl

theorem ofNat_nonNeg (n : Nat) : NonNeg (ofNat n) := roundRatio_nonNeg n 1

theorem ofDecimal_false_nonNeg (digits : Nat) (exp10 : Int) :
    NonNeg (ofDecimal false digits exp10) := by
  unfold ofDecimal
  simp only [Bool.false_eq_true, ↓reduceIte, ofRatio_false]
  split_ifs
  · exact zero_nonNeg
  · exact .infinity
  · exact zero_nonNeg
  · exact roundRatio_nonNeg _ _
  · exact roundRatio_nonNeg _ _

section NonNeg

variable {x : Binary64}

theorem NonNeg.negative (h : NonNeg x) : x.negative = false := by
  cases h with
  | infinity => decide
  | finite hf => exact hf.negative

theorem NonNeg.isNaN (h : NonNeg x) : x.isNaN = false := by
  cases h with
  | infinity => decide
  | finite hf => exact hf.isNaN

theorem NonNeg.orderKey_nonneg (h : NonNeg x) : 0 ≤ x.orderKey := by
  unfold orderKey
  simp [h.negative]

theorem NonNeg.zero_le (h : NonNeg x) : Binary64.zero.le x = true := by
  simp [le, h.isNaN, h.orderKey_nonneg, orderKey_zero]
  decide

theorem NonNeg.le_infinity (h : NonNeg x) : x.le Binary64.infinity = true := by
  cases h with
  | infinity => decide
  | finite hf =>
    have he := hf.exponent_le
    have hfr := hf.fraction_lt
    have hinf : Binary64.infinity.orderKey = 2047 * 2 ^ 52 := by decide
    have hinfNaN : Binary64.infinity.isNaN = false := by decide
    simp only [le, hf.isNaN, hf.orderKey, hinf, hinfNaN, Bool.not_false, Bool.true_and,
      decide_eq_true_eq]
    omega

theorem NonNeg.isFinite_of_le_eq_false {y : Binary64} (h : NonNeg x) (hy : NonNeg y)
    (hle : y.le x = false) : x.isFinite = true := by
  cases h with
  | infinity => simp [hy.le_infinity] at hle
  | finite hf => exact hf.isFinite

end NonNeg

theorem lt_of_le_eq_false {x y : Binary64} (hx : x.isNaN = false) (hy : y.isNaN = false)
    (h : y.le x = false) : x.lt y = true := by
  simp only [le, hx, hy, Bool.not_false, Bool.true_and, decide_eq_false_iff_not, not_le] at h
  simp [lt, hx, hy, h]

/-! ## Reading unsigned decimals -/

theorem readDecimal_cons_eq_none {c : Char} (hd : c.isDigit = false) (hp : c ≠ '.')
    (r : List Char) : readDecimal (c :: r) = none := by
  simp [readDecimal, takeDigits, hd, hp]

theorem ofString?_of_readDecimal {s : String} {digits : Nat} {exp10 : Int}
    (h : readDecimal s.toList = some (digits, exp10)) :
    ofString? s = some (ofDecimal false digits exp10) := by
  unfold ofString?
  dsimp only
  split
  · rename_i r hr
    rw [hr, readDecimal_cons_eq_none (by decide) (by decide)] at h
    cases h
  · rename_i r hr
    rw [hr, readDecimal_cons_eq_none (by decide) (by decide)] at h
    cases h
  · have hne : s.toList.isEmpty = false := by
      cases hs : s.toList with
      | nil => simp [hs, readDecimal, takeDigits] at h
      | cons => rfl
    dsimp only
    rw [hne, h]
    rfl

theorem ofString?_nonNeg {s : String} {x : Binary64} (hs : (readDecimal s.toList).isSome)
    (hx : ofString? s = some x) : NonNeg x := by
  obtain ⟨⟨digits, exp10⟩, hd⟩ := Option.isSome_iff_exists.mp hs
  rw [ofString?_of_readDecimal hd, Option.some.injEq] at hx
  exact hx ▸ ofDecimal_false_nonNeg digits exp10

end Binary64

end MudTestbed
