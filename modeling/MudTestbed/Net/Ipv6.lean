import MudTestbed.Net.Ipv4

/-!
# IPv6 addresses

An `Ipv6Addr` is eight 16-bit groups.

Reading: groups of one to four hex digits separated by `:`; one `::` may stand for one or
more zero groups; the last two groups may be written as an embedded dotted quad, but not
before a `::`. Reading is greedy and never backtracks into a group once read.

Writing: an address of the form `::ffff:a.b.c.d` is written so. Otherwise the groups are
written in lowercase hex without leading zeros, joined by `:`, and the first longest run of
at least two zero groups is replaced by `::`.
-/

namespace MudTestbed

/-- An IPv6 address as its eight groups. -/
structure Ipv6Addr where
  groups : List Nat
  length_groups : groups.length = 8 := by decide
  deriving DecidableEq, Repr

namespace Ipv6Addr

def ofGroups (gs : List Nat) : Ipv6Addr :=
  ⟨(gs ++ List.replicate 8 0).take 8, by simp⟩

def groupsOfIpv4 (a : Ipv4Addr) : List Nat :=
  let n := a.bits.toNat
  [n / 65536, n % 65536]

/-- Reads up to `remaining` groups, trying a dotted quad where two groups remain. -/
def readGroups : Nat → Bool → List Char → List Nat × Bool × List Char
  | 0, _, cs => ([], false, cs)
  | r + 1, first, cs =>
    let afterSep := if first then some cs else Net.expectChar ':' cs
    let quad := if 2 ≤ r + 1 then afterSep.bind Ipv4Addr.readPrefix else none
    match quad with
    | some (a, rest) => (groupsOfIpv4 a, true, rest)
    | none =>
      match afterSep.bind (Net.readNumber 16 (some 4) true 0xFFFF) with
      | some (g, rest) =>
        let (gs, quadEnd, rest) := readGroups r false rest
        (g :: gs, quadEnd, rest)
      | none => ([], false, cs)

/-- Reads an IPv6 address at the front of the text. -/
def readPrefix (cs : List Char) : Option (Ipv6Addr × List Char) :=
  let (head, headQuad, cs) := readGroups 8 true cs
  if head.length = 8 then some (ofGroups head, cs)
  else if headQuad then none
  else do
    let cs ← Net.expectChar ':' cs
    let cs ← Net.expectChar ':' cs
    let (tail, _, cs) := readGroups (7 - head.length) true cs
    pure (ofGroups (head ++ List.replicate (8 - head.length - tail.length) 0 ++ tail), cs)

def parse? (s : String) : Option Ipv6Addr :=
  match readPrefix s.toList with
  | some (x, []) => some x
  | _ => none

def hex (n : Nat) : String := String.ofList (Nat.toDigits 16 n)

/-- The first longest run of zero groups, as start and length. -/
def longestZeroRun (gs : List Nat) : Nat × Nat :=
  let step (acc : (Nat × Nat) × (Nat × Nat) × Nat) (g : Nat) :=
    let (best, (curStart, curLen), i) := acc
    if g = 0 then
      let cur := if curLen = 0 then (i, 1) else (curStart, curLen + 1)
      (if best.2 < cur.2 then cur else best, cur, i + 1)
    else (best, (0, 0), i + 1)
  (gs.foldl step ((0, 0), (0, 0), 0)).1

/-- The text of the address, see the module comment. -/
def toText (x : Ipv6Addr) : String :=
  let gs := x.groups
  if gs.take 6 = [0, 0, 0, 0, 0, 0xFFFF] then
    "::ffff:" ++ (Ipv4Addr.ofOctets (gs.getD 6 0 / 256) (gs.getD 6 0 % 256) (gs.getD 7 0 / 256) (gs.getD 7 0 % 256)).toText
  else
    let (start, len) := longestZeroRun gs
    let join (xs : List Nat) : String := ":".intercalate (xs.map hex)
    if 1 < len then join (gs.take start) ++ "::" ++ join (gs.drop (start + len))
    else join gs

example : (parse? "fe80::1").map toText = some "fe80::1" := by decide

example : (parse? "2001:db8:0:0:1:0:0:1").map toText = some "2001:db8::1:0:0:1" := by decide

end Ipv6Addr

end MudTestbed
