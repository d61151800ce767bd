import MudTestbed.Binary64.Round

/-!
# The shortest decimal that reads back

A finite nonzero double `x = m * 2 ^ e` is read back from every real in its rounding
interval: half the gap to each neighbour on either side, both ends included exactly when
`m` is even (a tie then rounds to `x`). Below a power of two the lower gap is half as wide.

`shortest x` tries one significant digit, then two, up to seventeen: at each precision the
only candidates are the two neighbours of `x` on that decimal grid, since if any grid point
lies in the interval, one of them does. The first precision with a hit wins; of two hits
the nearer, and of an exact tie the even one. Seventeen digits always hit.
-/

namespace MudTestbed

/-- A decimal `digits * 10 ^ exponent`. -/
structure Decimal where
  digits : Nat
  exponent : Int
  deriving DecidableEq, Repr, Inhabited

namespace Decimal

def compareScaled (c : Nat) (s : Int) (x : Nat) (t : Int) : Ordering :=
  compare (c * Nat.pow 10 s.toNat * Nat.pow 2 (-t).toNat) (x * Nat.pow 2 t.toNat * Nat.pow 10 (-s).toNat)

/-- `⌊log₁₀ (num / den)⌋` for positive `num` and `den`. -/
def floorLog10Ratio (num den : Nat) : Int :=
  if den ≤ num then ((toString (num / den)).length : Int) - 1
  else
    let t := (den + num - 1) / num
    Int.neg (toString (t - 1)).length

/-- Drops trailing zero digits, raising the exponent to match. -/
def normalize (d : Decimal) : Decimal :=
  if h : d.digits = 0 then ⟨0, 0⟩
  else if d.digits % 10 = 0 then
    have : d.digits / 10 < d.digits := Nat.div_lt_self (Nat.pos_of_ne_zero h) (by decide)
    normalize ⟨d.digits / 10, d.exponent + 1⟩
  else d
termination_by d.digits

def width (d : Decimal) : Nat := (toString d.digits).length

def point (d : Decimal) : Int := (d.width : Int) + d.exponent

end Decimal

namespace Binary64

def roundingInterval (x : Binary64) : Nat × Nat × Nat :=
  let m := x.significand
  let lower := if x.fractionField = 0 ∧ 1 < x.exponentField then 4 * m - 1 else 4 * m - 2
  (lower, 4 * m, 4 * m + 2)

/-- The decimal of `k` digits nearest to `x` within its rounding interval, if there is one. -/
def candidateAt (x : Binary64) (p : Int) (k : Nat) : Option Decimal :=
  let (lower, value, upper) := x.roundingInterval
  let t := x.exponent - 2
  let inclusive := x.significand % 2 == 0
  let s : Int := p + 1 - k
  let below :=
    (value * Nat.pow 2 t.toNat * Nat.pow 10 (-s).toNat) / (Nat.pow 2 (-t).toNat * Nat.pow 10 s.toNat)
  let inside (c : Nat) : Bool :=
    let lo := Decimal.compareScaled c s lower t
    let hi := Decimal.compareScaled c s upper t
    (lo == .gt || (inclusive && lo == .eq)) && (hi == .lt || (inclusive && hi == .eq))
  match inside below, inside (below + 1) with
  | false, false => none
  | true, false => some ⟨below, s⟩
  | false, true => some ⟨below + 1, s⟩
  | true, true =>
    match Decimal.compareScaled (2 * below + 1) s (2 * value) t with
    | .gt => some ⟨below, s⟩
    | .lt => some ⟨below + 1, s⟩
    | .eq => some ⟨if below % 2 = 0 then below else below + 1, s⟩

def shortest (x : Binary64) : Decimal :=
  let (num, den) := x.toRatio
  let p := Decimal.floorLog10Ratio num den
  let found := (List.range 17).findSome? fun k => x.candidateAt p (k + 1)
  (found.getD ⟨x.significand, 0⟩).normalize

end Binary64

end MudTestbed
