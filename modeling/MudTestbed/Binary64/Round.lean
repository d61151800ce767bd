import MudTestbed.Binary64.Basic

/-!
# Rounding exact values to doubles

Every way a double comes into being here goes through `ofRatio`: the double nearest to a
non-negative fraction `num / den`, a tie going to the even significand, and anything beyond
the largest finite double becoming infinite. Decimal text (`ofDecimal`), integers (`ofNat`)
and the two IEEE 754 operations the library needs (`mul`, `div` of finite operands) are
exact values handed to it, so each is correctly rounded by construction.
-/

namespace MudTestbed

namespace Binary64

/-- Rounds `num / den` to the nearest natural number, a tie going to the even neighbour. -/
def roundHalfEven (num den : Nat) : Nat :=
  let q := num / den
  let r := num % den
  if 2 * r < den then q
  else if den < 2 * r then q + 1
  else if q % 2 = 0 then q else q + 1

def floorLog2Ratio (num den : Nat) : Int :=
  let k : Int := (num.log2 : Int) - den.log2
  if 0 ≤ k then (if num < den * Nat.pow 2 k.toNat then k - 1 else k)
  else (if num * Nat.pow 2 (-k).toNat < den then k - 1 else k)

/-- The non-negative double nearest to `num / den`. -/
def roundRatio (num den : Nat) : Binary64 :=
  if num = 0 ∨ den = 0 then zero
  else
    let e₀ : Int := max (floorLog2Ratio num den - 52) (-1074)
    let m₀ :=
      if 0 ≤ e₀ then roundHalfEven num (den * Nat.pow 2 e₀.toNat)
      else roundHalfEven (num * Nat.pow 2 (-e₀).toNat) den
    let m := if m₀ = 0x20000000000000 then 0x10000000000000 else m₀
    let e := if m₀ = 0x20000000000000 then e₀ + 1 else e₀
    if 971 < e then infinity
    else if m < 0x10000000000000 then ofFields false 0 m
    else ofFields false (e + 1075).toNat (m - 0x10000000000000)

def ofRatio (negative : Bool) (num den : Nat) : Binary64 :=
  let magnitude := roundRatio num den
  if negative then magnitude.neg else magnitude

def decimalWidth (n : Nat) : Nat := (toString n).length

/-- The double nearest to `± digits * 10 ^ exp10`. -/
def ofDecimal (negative : Bool) (digits : Nat) (exp10 : Int) : Binary64 :=
  let width : Int := decimalWidth digits
  if digits = 0 then (if negative then negZero else zero)
  else if 310 < exp10 + width then (if negative then negInfinity else infinity)
  else if exp10 + width < -330 then (if negative then negZero else zero)
  else if 0 ≤ exp10 then ofRatio negative (digits * Nat.pow 10 exp10.toNat) 1
  else ofRatio negative digits (Nat.pow 10 (-exp10).toNat)

def ofNat (n : Nat) : Binary64 := ofRatio false n 1

def ofInt (n : Int) : Binary64 := ofRatio (decide (n < 0)) n.natAbs 1

def toRatio (x : Binary64) : Nat × Nat :=
  if 0 ≤ x.exponent then (x.significand * Nat.pow 2 x.exponent.toNat, 1)
  else (x.significand, Nat.pow 2 (-x.exponent).toNat)

def mul (x y : Binary64) : Binary64 :=
  let (a, b) := x.toRatio
  let (c, d) := y.toRatio
  ofRatio (x.negative != y.negative) (a * c) (b * d)

def div (x y : Binary64) : Binary64 :=
  let (a, b) := x.toRatio
  let (c, d) := y.toRatio
  ofRatio (x.negative != y.negative) (a * d) (b * c)

theorem roundHalfEven_exact (n d : Nat) (hd : 0 < d) : roundHalfEven (n * d) d = n := by
  unfold roundHalfEven
  simp [Nat.mul_div_cancel _ hd, Nat.mul_mod_left, hd]

example : ofNat 1 = ⟨0x3FF0000000000000⟩ := by decide +kernel

example : ofDecimal false 1 (-1) = ⟨0x3FB999999999999A⟩ := by decide +kernel

end Binary64

end MudTestbed
