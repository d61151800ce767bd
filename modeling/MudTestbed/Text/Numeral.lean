/-!
# Integers written in text

`Text.parseNat?` reads an unsigned integer the strict way: an optional `+`, then one or more
ASCII digits of the radix and nothing else; the value must not exceed the bound of the
integer type. A lone sign, a `-`, blanks and underscores are refused. `Text.parseInt?` also
takes a `-` and checks both ends of a signed range.
-/

namespace MudTestbed

namespace Text

/-- The value of `c` as a digit of `radix` (at most 16), ASCII only. -/
def digitValue (radix : Nat) (c : Char) : Option Nat :=
  let v :=
    if '0' ≤ c ∧ c ≤ '9' then some (c.toNat - '0'.toNat)
    else if 'a' ≤ c ∧ c ≤ 'f' then some (c.toNat - 'a'.toNat + 10)
    else if 'A' ≤ c ∧ c ≤ 'F' then some (c.toNat - 'A'.toNat + 10)
    else none
  match v with
  | some d => if d < radix then some d else none
  | none => none

/-- The longest run of digits of `radix` at the front, with its value, length and rest. -/
def digitRun (radix : Nat) : List Char → Nat × Nat × List Char
  | c :: rest =>
    match digitValue radix c with
    | some d =>
      let (v, n, r) := digitRun radix rest
      (d * Nat.pow radix n + v, n + 1, r)
    | none => (0, 0, c :: rest)
  | [] => (0, 0, [])

def digitsValue? (radix : Nat) (cs : List Char) : Option Nat :=
  match digitRun radix cs with
  | (v, n, []) => if n = 0 then none else some v
  | _ => none

/-- Reads an unsigned integer, see the module comment. -/
def parseNat? (radix bound : Nat) (s : String) : Option Nat :=
  let digits := match s.toList with
    | '+' :: rest => rest
    | cs => cs
  match digitsValue? radix digits with
  | some v => if v ≤ bound then some v else none
  | none => none

/-- Reads a signed integer in `[lo, hi]`: an optional `+` or `-`, then digits. -/
def parseInt? (radix : Nat) (lo hi : Int) (s : String) : Option Int :=
  let (negative, digits) := match s.toList with
    | '+' :: rest => (false, rest)
    | '-' :: rest => (true, rest)
    | cs => (false, cs)
  match digitsValue? radix digits with
  | some v =>
    let n : Int := if negative then -(v : Int) else v
    if lo ≤ n ∧ n ≤ hi then some n else none
  | none => none

theorem parseNat?_le {radix bound : Nat} {s : String} {v : Nat}
    (h : parseNat? radix bound s = some v) : v ≤ bound := by
  unfold parseNat? at h
  generalize (match s.toList with | '+' :: rest => rest | cs => cs) = digits at h
  cases hd : digitsValue? radix digits with
  | none => simp [hd] at h
  | some w =>
    simp only [hd] at h
    split at h
    · cases h; assumption
    · cases h

example : parseNat? 16 255 "+f" = some 15 := by cbv

example : parseNat? 10 255 "+" = none := by cbv

end Text

end MudTestbed
