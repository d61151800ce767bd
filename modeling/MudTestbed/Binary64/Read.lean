import MudTestbed.Binary64.Round

/-!
# Reading doubles from text

`Binary64.ofString?` accepts the usual decimal notation for a double and nothing around it:

* an optional sign, `+` or `-`;
* then `inf`, `infinity` or `nan` in any letter case;
* or digits with at most one point, at least one digit on either side of it, and an
  optional exponent: `e` or `E`, an optional sign and at least one digit.

No blanks, underscores or radix prefixes are allowed. The value is the exact decimal rounded
once (`Binary64.ofDecimal`), so the result is correctly rounded however many digits are given.
-/

namespace MudTestbed

namespace Binary64

/-- Splits off the longest prefix of decimal digits, with its value and length. -/
def takeDigits : List Char → Nat × Nat × List Char
  | c :: rest =>
    if c.isDigit then
      let (v, n, r) := takeDigits rest
      (v + (c.toNat - '0'.toNat) * Nat.pow 10 n, n + 1, r)
    else (0, 0, c :: rest)
  | [] => (0, 0, [])

/-- Reads an unsigned decimal covering the whole input, as its digits and power of ten. -/
def readDecimal (cs : List Char) : Option (Nat × Int) :=
  let (whole, wholeLen, rest) := takeDigits cs
  let (frac, fracLen, rest) := match rest with
    | '.' :: r => takeDigits r
    | r => (0, 0, r)
  if wholeLen + fracLen = 0 then none
  else
    let digits := whole * Nat.pow 10 fracLen + frac
    let base : Int := -(fracLen : Int)
    match rest with
    | [] => some (digits, base)
    | e :: r =>
      if e = 'e' ∨ e = 'E' then
        let (negExp, r) := match r with
          | '+' :: r => (false, r)
          | '-' :: r => (true, r)
          | r => (false, r)
        let (ev, en, r) := takeDigits r
        if en = 0 ∨ !r.isEmpty then none
        else some (digits, if negExp then base - ev else base + ev)
      else none

/-- Reads a double written in decimal or as an infinity or NaN, see the module comment. -/
def ofString? (s : String) : Option Binary64 :=
  let cs := s.toList
  let (negative, body) := match cs with
    | '-' :: r => (true, r)
    | '+' :: r => (false, r)
    | r => (false, r)
  if body.isEmpty then none
  else match readDecimal body with
    | some (digits, exp10) => some (ofDecimal negative digits exp10)
    | none =>
      let word := String.ofList (body.map Char.toLower)
      if word = "inf" ∨ word = "infinity" then some (if negative then negInfinity else infinity)
      else if word = "nan" then some (if negative then nan.neg else nan)
      else none

end Binary64

end MudTestbed
