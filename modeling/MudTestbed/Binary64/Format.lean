import MudTestbed.Binary64.Shortest

/-!
# Writing doubles as text

Every text form here writes the shortest decimal that reads back (`Binary64.shortest`); the
forms differ only in the decisions collected in a `Notation`: where positional notation
stops and exponent notation takes over, whether an integral value keeps a `.0`, and whether
a positive exponent carries a `+`.

* `plain`: always positional, no `.0` (`100`, `0.0000001`, `100000000000000000000`).
* `debug`: positional for magnitudes in `[1e-4, 1e16)` and for zero, with `.0` kept on
  integral values (`1.0`); otherwise `1e16`, `1.5e-5`.
* `document`: positional for magnitudes in `[1e-5, 1e16)` and for zero, with `.0` kept;
  otherwise exponent notation with a signed exponent (`1e+16`, `1e-7`). This is how
  numbers are written inside JSON documents.

In all three, NaN is `NaN`, the infinities are `inf` and `-inf`, and a negative zero keeps
its sign.
-/

namespace MudTestbed

/-- The choices that separate one way of writing doubles from another. -/
structure Notation where
  /-- Integral values written positionally end in `.0`. -/
  pointZero : Bool
  /-- The decimal point positions written positionally; `none` means every one is. -/
  positional : Option (Int × Int)
  /-- A positive exponent is written with `+`. -/
  exponentPlus : Bool

namespace Notation

def plain : Notation := ⟨false, none, false⟩

def debug : Notation := ⟨true, some (-3, 16), false⟩

def document : Notation := ⟨true, some (-4, 16), true⟩

end Notation

namespace Decimal

/-- Positional text of a decimal, `.0` added to an integral value when asked. -/
def positionalText (d : Decimal) (pointZero : Bool) : String :=
  let ds := toString d.digits
  let n : Int := ds.length
  if 0 ≤ d.exponent then
    ds ++ String.ofList (List.replicate d.exponent.toNat '0') ++ (if pointZero then ".0" else "")
  else if 0 < n + d.exponent then
    let cut := (n + d.exponent).toNat
    String.ofList (ds.toList.take cut) ++ "." ++ String.ofList (ds.toList.drop cut)
  else
    "0." ++ String.ofList (List.replicate (-(n + d.exponent)).toNat '0') ++ ds

/-- Exponent text: the digits with a point after the first, `e`, and the power of ten. -/
def exponentText (d : Decimal) (plus : Bool) : String :=
  let ds := (toString d.digits).toList
  let mantissa := match ds with
    | [] => "0"
    | [c] => String.ofList [c]
    | c :: rest => String.ofList (c :: '.' :: rest)
  let power := d.point - 1
  mantissa ++ "e" ++ (if plus && 0 < power then "+" else "") ++ toString power

end Decimal

namespace Binary64

/-- Writes `x` in the given notation. -/
def format (style : Notation) (x : Binary64) : String :=
  let sign := if x.negative then "-" else ""
  if x.isNaN then "NaN"
  else if x.isInfinite then sign ++ "inf"
  else if x.isZero then sign ++ (if style.pointZero then "0.0" else "0")
  else
    let d := x.shortest
    let body := match style.positional with
      | none => d.positionalText style.pointZero
      | some (lo, hi) =>
        if lo ≤ d.point ∧ d.point ≤ hi then d.positionalText style.pointZero else d.exponentText style.exponentPlus
    sign ++ body

def toPlainString (x : Binary64) : String := format .plain x

def toDebugString (x : Binary64) : String := format .debug x

example : toPlainString (ofNat 100) = "100" := by decide +kernel

example : toDebugString (ofNat 1) = "1.0" := by decide +kernel

example : toDebugString (ofDecimal false 1 16) = "1e16" := by decide +kernel

example : toPlainString (ofDecimal false 1 (-7)) = "0.0000001" := by decide +kernel

example : format .document (ofDecimal false 1 20) = "1e+20" := by decide +kernel

example : format .document (ofDecimal false 1 (-7)) = "1e-7" := by decide +kernel

example : toDebugString (ofDecimal false 15 (-6)) = "1.5e-5" := by decide +kernel

end Binary64

end MudTestbed
