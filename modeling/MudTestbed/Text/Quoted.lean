import MudTestbed.Text.Escaped

/-!
# Quoted text in messages

Error messages show an offending text between double quotes. Inside the quotes a tab, line
feed, carriage return, NUL, backslash and double quote are written `\t`, `\n`, `\r`, `\0`,
`\\` and `\"`. The characters of `Text.escaped` (those that do not show as a glyph of their
own, and those that attach to the one before) are written `\u{hex}` with lowercase hex
digits and no leading zeros. Every other character stands for itself.
-/

namespace MudTestbed

namespace Text

def hexDigits (n : Nat) : String :=
  String.ofList (Nat.toDigits 16 n)

/-- One character as written inside quotes. -/
def quoteChar (c : Char) : String :=
  match c with
  | '\t' => "\\t"
  | '\n' => "\\n"
  | '\r' => "\\r"
  | '\\' => "\\\\"
  | '"' => "\\\""
  | c =>
    if c.toNat = 0 then "\\0"
    else if escaped c then "\\u\x7b" ++ hexDigits c.toNat ++ "\x7d"
    else String.singleton c

def quoted (s : String) : String :=
  "\"" ++ String.join (s.toList.map quoteChar) ++ "\""

example : quoted "\"\n\t" = "\"\\\"\\n\\t\"" := by decide

end Text

end MudTestbed
