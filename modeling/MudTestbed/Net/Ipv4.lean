import MudTestbed.Text.Numeral

/-!
# IPv4 addresses

An `Ipv4Addr` is a 32-bit word. Its text is the dotted quad: four decimal octets joined by
`.`, each written without leading zeros.

Reading is strict: exactly four parts, each one to three ASCII digits with value at most
255, and no leading zero unless the part is `0` itself. No sign, blank or other character
is allowed anywhere.

`readNumber` is the digit reader shared by every address form: up to an optional number of
digits in a radix, refusing values past a bound, and optionally refusing leading zeros.
-/

namespace MudTestbed

/-- An IPv4 address. -/
structure Ipv4Addr where
  bits : UInt32
  deriving DecidableEq, Repr, Inhabited

namespace Net

/-- Reads a number of `radix` at the front, within `maxDigits` digits and `bound`. -/
def readNumber (radix : Nat) (maxDigits : Option Nat) (zeroPrefix : Bool) (bound : Nat)
    (cs : List Char) : Option (Nat × List Char) :=
  let (v, n, rest) := Text.digitRun radix cs
  if n = 0 then none
  else if maxDigits.any (· < n) then none
  else if bound < v then none
  else if !zeroPrefix && cs.head? = some '0' && 1 < n then none
  else some (v, rest)

def expectChar (c : Char) : List Char → Option (List Char)
  | d :: rest => if d = c then some rest else none
  | [] => none

end Net

namespace Ipv4Addr

def ofOctets (a b c d : Nat) : Ipv4Addr :=
  ⟨UInt32.ofNat (((a * 256 + b) * 256 + c) * 256 + d)⟩

def octets (x : Ipv4Addr) : List Nat :=
  let n := x.bits.toNat
  [n / 16777216 % 256, n / 65536 % 256, n / 256 % 256, n % 256]

def toText (x : Ipv4Addr) : String := ".".intercalate (x.octets.map toString)

def readOctet (cs : List Char) : Option (Nat × List Char) :=
  Net.readNumber 10 (some 3) false 255 cs

/-- Reads a dotted quad at the front of the text. -/
def readPrefix (cs : List Char) : Option (Ipv4Addr × List Char) := do
  let (a, cs) ← readOctet cs
  let cs ← Net.expectChar '.' cs
  let (b, cs) ← readOctet cs
  let cs ← Net.expectChar '.' cs
  let (c, cs) ← readOctet cs
  let cs ← Net.expectChar '.' cs
  let (d, cs) ← readOctet cs
  pure (ofOctets a b c d, cs)

def parse? (s : String) : Option Ipv4Addr :=
  match readPrefix s.toList with
  | some (x, []) => some x
  | _ => none

example : (parse? "10.0.0.7").map toText = some "10.0.0.7" := by cbv

example : parse? "01.0.0.1" = none := by cbv

end Ipv4Addr

end MudTestbed
