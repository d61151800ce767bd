/-!
# Cutting texts

`Text.split c s` cuts `s` at every `c`: `n` separators give `n + 1` pieces, empty ones
included, so the empty text is one empty piece. `Text.splitOnce c s` cuts at the first `c`
only. `Text.stripPrefix` removes a prefix once; `Text.stripPrefixes` removes it as often as
it repeats.
-/

namespace MudTestbed

namespace Text

def splitAux (sep : Char) : List Char → List Char → List String
  | [], acc => [String.ofList acc.reverse]
  | c :: rest, acc =>
    if c = sep then String.ofList acc.reverse :: splitAux sep rest []
    else splitAux sep rest (c :: acc)

def split (sep : Char) (s : String) : List String := splitAux sep s.toList []

def splitOnce (sep : Char) (s : String) : Option (String × String) :=
  let cs := s.toList
  match cs.idxOf? sep with
  | some i => some (String.ofList (cs.take i), String.ofList (cs.drop (i + 1)))
  | none => none

def stripPrefix (pre s : String) : Option String :=
  let p := pre.toList
  let cs := s.toList
  if p.isPrefixOf cs then some (String.ofList (cs.drop p.length)) else none

/-- Removes a nonempty prefix as often as the text starts with it. -/
def stripPrefixes (pre : List Char) (cs : List Char) : List Char :=
  if h : pre ≠ [] ∧ pre.isPrefixOf cs then
    have : cs.length - pre.length < cs.length := by
      have hp : 0 < pre.length := List.length_pos_iff.mpr h.1
      have hl : pre.length ≤ cs.length := (List.isPrefixOf_iff_prefix.mp h.2).length_le
      omega
    stripPrefixes pre (cs.drop pre.length)
  else cs
termination_by cs.length

example : split ':' "a::b" = ["a", "", "b"] := by cbv

example : stripPrefixes ['0', 'x'] ['0', 'x', '0', 'x', '1', 'a'] = ['1', 'a'] := by
  decide +kernel

end Text

end MudTestbed
