/-!
# Lowercasing for searches

Client output is searched for lowercase ASCII phrases after lowercasing it. Under full
Unicode lowercasing only three kinds of character produce ASCII letters: the ASCII capitals,
`İ` (U+0130, which becomes `i` followed by the combining dot U+0307) and the Kelvin sign
(U+212A, which becomes `k`); every other character lowercases to non-ASCII characters only.
`lower` maps exactly those three kinds and keeps every other character, so an ASCII phrase
occurs in `lower s` exactly when it occurs in the full Unicode lowercase of `s`.
-/

namespace MudTestbed

namespace Text

def lowerChar (c : Char) : List Char :=
  if 'A' ≤ c ∧ c ≤ 'Z' then [Char.ofNat (c.toNat + 32)]
  else if c.toNat = 0x130 then ['i', Char.ofNat 0x307]
  else if c.toNat = 0x212A then ['k']
  else [c]

def lower (s : String) : String := String.ofList (s.toList.flatMap lowerChar)

example : lower "Connection REFUSED" = "connection refused" := by decide

end Text

end MudTestbed
