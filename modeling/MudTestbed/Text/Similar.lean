import MudTestbed.Binary64.Round

/-!
# Similar words

`Text.jaro` is the Jaro similarity of two words, computed in doubles as
`(m / |a| + m / |b| + (m - t) / m) / 3`: `m` characters match when they are equal and at
most `max(|a|, |b|) / 2 - 1` places apart (each character of `b` matching once, the
earliest free one), and `t` is half the number of matched pairs out of order. Two empty
words are equal (`1`), an empty and a non-empty word have nothing in common (`0`).

`Text.similar` keeps the candidates more similar to a word than `0.7`, least similar first
(candidates equally similar keep their order).
-/

namespace MudTestbed

namespace Binary64

def addNonneg (x y : Binary64) : Binary64 :=
  let (a, b) := x.toRatio
  let (c, d) := y.toRatio
  roundRatio (a * d + c * b) (b * d)

end Binary64

namespace Text

/-- Marks the matching characters of `a` and `b` within `range`, and counts them. -/
def jaroMarks (a b : List Char) (range : Nat) : List Bool × List Bool × Nat :=
  let step (acc : List Bool × List Bool × Nat) (ci : Char × Nat) :=
    let (aMarks, bMarks, m) := acc
    let (c, i) := ci
    let lo := i - range
    let hi := min b.length (i + range + 1)
    let free := (b.zip bMarks).zipIdx.find? fun ((d, used), j) =>
      lo ≤ j && j < hi && d == c && !used
    match free with
    | some (_, j) => (aMarks ++ [true], bMarks.set j true, m + 1)
    | none => (aMarks ++ [false], bMarks, m)
  a.zipIdx.foldl step ([], b.map fun _ => false, 0)

def jaroTranspositions (a b : List Char) (aMarks bMarks : List Bool) : Nat :=
  let fromA := (a.zip aMarks).filterMap fun (c, used) => if used then some c else none
  let fromB := (b.zip bMarks).filterMap fun (c, used) => if used then some c else none
  ((fromA.zip fromB).filter fun (x, y) => x != y).length / 2

/-- The Jaro similarity of two words, see the module comment. -/
def jaro (a b : String) : Binary64 :=
  let a := a.toList
  let b := b.toList
  if a.isEmpty && b.isEmpty then Binary64.ofNat 1
  else if a.isEmpty || b.isEmpty then Binary64.zero
  else
    let range := max a.length b.length / 2 - 1
    let (aMarks, bMarks, m) := jaroMarks a b range
    if m = 0 then Binary64.zero
    else
      let t := jaroTranspositions a b aMarks bMarks
      let sum := Binary64.addNonneg
        (Binary64.addNonneg (Binary64.ofRatio false m a.length) (Binary64.ofRatio false m b.length))
        (Binary64.ofRatio false (m - t) m)
      Binary64.div sum (Binary64.ofNat 3)

def similarityFloor : Binary64 := Binary64.ofDecimal false 7 (-1)

def similar (word : String) (candidates : List String) : List String :=
  let scored := (candidates.map fun c => (jaro word c, c)).filter fun (s, _) => similarityFloor.lt s
  (scored.mergeSort fun x y => x.1.le y.1).map (·.2)

end Text

end MudTestbed
