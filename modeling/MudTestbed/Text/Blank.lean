/-!
# Blanks, trimming and lines

`isBlank` is the Unicode `White_Space` property: the ASCII tab, line feed, vertical tab, form
feed, carriage return and space, then U+0085, U+00A0, U+1680, U+2000 to U+200A, U+2028,
U+2029, U+202F, U+205F and U+3000. Trimming removes such characters from one or both ends.

`lines` cuts a text after each line feed; a line that ended in a line feed loses it and then
one carriage return before it, if any. A final line feed starts no further line, so `"a\n"`
has the one line `"a"` and the empty text has none.
-/

namespace MudTestbed

namespace Text

def isBlank (c : Char) : Bool :=
  let n := c.toNat
  (0x09 ≤ n && n ≤ 0x0D) || n == 0x20 || n == 0x85 || n == 0xA0 || n == 0x1680 ||
    (0x2000 ≤ n && n ≤ 0x200A) || n == 0x2028 || n == 0x2029 || n == 0x202F ||
    n == 0x205F || n == 0x3000

def trimEnd (s : String) : String :=
  String.ofList (s.toList.reverse.dropWhile isBlank).reverse

def trimStart (s : String) : String :=
  String.ofList (s.toList.dropWhile isBlank)

def trim (s : String) : String := trimStart (trimEnd s)

def isBlankText (s : String) : Bool := s.toList.all isBlank

def closeLine (line : List Char) : String :=
  match line.reverse with
  | '\r' :: rest => String.ofList rest.reverse
  | _ => String.ofList line

def linesAux : List Char → List Char → List String
  | [], [] => []
  | [], acc => [String.ofList acc.reverse]
  | '\n' :: rest, acc => closeLine acc.reverse :: linesAux rest []
  | c :: rest, acc => linesAux rest (c :: acc)

def lines (s : String) : List String := linesAux s.toList []

example : lines "a\r\nb\n\nc\r" = ["a", "b", "", "c\r"] := by decide

example : lines "" = [] := by decide

example : trim "  x y　\n" = "x y" := by decide

end Text

end MudTestbed
