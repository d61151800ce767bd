/-!
# Doubles as bit patterns

A `Binary64` is the 64-bit pattern of an IEEE 754 double. Nothing in the library computes
with hardware floating point: a finite pattern decodes exactly to
`significand * 2 ^ exponent`, and sign, class, order and equality are read off the three
fields. Reading decimals (`Binary64.Round`) and writing them (`Binary64.Shortest`) build on
this decoding.

Main facts: `orderKey` orders every non-NaN pattern as the number it stands for, with both
zeros equal, so `le` and `eq` are the comparisons of IEEE 754 (false whenever a NaN takes
part).
-/

namespace MudTestbed

/-- An IEEE 754 binary64 value, kept as its bit pattern. -/
structure Binary64 where
  bits : UInt64
  deriving DecidableEq, Inhabited, Repr

namespace Binary64

def negative (x : Binary64) : Bool := x.bits >>> 63 == 1

def exponentField (x : Binary64) : Nat := ((x.bits >>> 52) &&& 0x7FF).toNat

def fractionField (x : Binary64) : Nat := (x.bits &&& 0xFFFFFFFFFFFFF).toNat

def isNaN (x : Binary64) : Bool := x.exponentField == 2047 && x.fractionField != 0

def isInfinite (x : Binary64) : Bool := x.exponentField == 2047 && x.fractionField == 0

def isFinite (x : Binary64) : Bool := x.exponentField != 2047

def isZero (x : Binary64) : Bool := x.exponentField == 0 && x.fractionField == 0

def significand (x : Binary64) : Nat :=
  if x.exponentField = 0 then x.fractionField else x.fractionField + 0x10000000000000

def exponent (x : Binary64) : Int :=
  if x.exponentField = 0 then -1074 else (x.exponentField : Int) - 1075

def ofFields (negative : Bool) (exponentField fraction : Nat) : Binary64 :=
  ⟨(if negative then (0x8000000000000000 : UInt64) else 0) |||
    (UInt64.ofNat exponentField <<< 52) ||| UInt64.ofNat fraction⟩

def zero : Binary64 := ⟨0⟩

def negZero : Binary64 := ⟨0x8000000000000000⟩

def infinity : Binary64 := ⟨0x7FF0000000000000⟩

def negInfinity : Binary64 := ⟨0xFFF0000000000000⟩

def nan : Binary64 := ⟨0x7FF8000000000000⟩

def neg (x : Binary64) : Binary64 := ⟨x.bits ^^^ 0x8000000000000000⟩

def abs (x : Binary64) : Binary64 := ⟨x.bits &&& 0x7FFFFFFFFFFFFFFF⟩

def orderKey (x : Binary64) : Int :=
  let magnitude : Int := (x.bits &&& 0x7FFFFFFFFFFFFFFF).toNat
  if x.negative then -magnitude else magnitude

def le (x y : Binary64) : Bool := !x.isNaN && !y.isNaN && decide (x.orderKey ≤ y.orderKey)

def lt (x y : Binary64) : Bool := !x.isNaN && !y.isNaN && decide (x.orderKey < y.orderKey)

def eq (x y : Binary64) : Bool := !x.isNaN && !y.isNaN && x.orderKey == y.orderKey

theorem orderKey_zero : zero.orderKey = 0 := by decide

theorem orderKey_negZero : negZero.orderKey = 0 := by decide

theorem eq_zero_negZero : eq zero negZero = true := by decide

theorem le_nan_left (y : Binary64) : le nan y = false := by
  simp [le, isNaN, nan, exponentField, fractionField]

end Binary64

end MudTestbed
