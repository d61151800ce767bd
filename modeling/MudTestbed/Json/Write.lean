import MudTestbed.Json.Value
import MudTestbed.Binary64.Format

/-!
# Writing JSON documents

`Json.render` writes a value compactly: no blanks, members in key order, `,` between items
and `:` after keys. `Json.renderPretty` puts each item and member on a line of its own,
indented by two blanks a level, with `: ` after keys; an empty array or object stays `[]`
or `{}`. In strings the quote, the backslash and the controls below U+0020 are
escaped (`\b`, `\f`, `\n`, `\r`, `\t`, else `\u00xx` with lowercase hex); every other
character is written as it is. Doubles are written in `Notation.document`; a NaN or an
infinity has no JSON form and is written `null`.
-/

namespace MudTestbed

namespace Json

/-- One character of a string body. -/
def escapeChar (c : Char) : String :=
  match c with
  | '"' => "\\\""
  | '\\' => "\\\\"
  | '\n' => "\\n"
  | '\r' => "\\r"
  | '\t' => "\\t"
  | c =>
    if c.toNat = 8 then "\\b"
    else if c.toNat = 12 then "\\f"
    else if c.toNat < 0x20 then
      let hex := String.ofList (Nat.toDigits 16 c.toNat)
      "\\u" ++ String.ofList (List.replicate (4 - hex.length) '0') ++ hex
    else String.singleton c

def quote (s : String) : String := "\"" ++ String.join (s.toList.map escapeChar) ++ "\""

def renderNumber : JsonNumber → String
  | .nat n => toString n
  | .negInt n => toString n
  | .double x => if x.isFinite then x.format .document else "null"

mutual

/-- The compact text of a value. -/
def render : Json → String
  | .null => "null"
  | .bool true => "true"
  | .bool false => "false"
  | .number n => renderNumber n
  | .string s => quote s
  | .array items => "[" ++ renderItems items ++ "]"
  | .object fields => "\x7b" ++ renderFields fields ++ "\x7d"

def renderItems : List Json → String
  | [] => ""
  | [x] => render x
  | x :: xs => render x ++ "," ++ renderItems xs

def renderFields : List (String × Json) → String
  | [] => ""
  | [(k, v)] => quote k ++ ":" ++ render v
  | (k, v) :: rest => quote k ++ ":" ++ render v ++ "," ++ renderFields rest

end

def indentation (depth : Nat) : String := String.ofList (List.replicate (2 * depth) ' ')

mutual

/-- The text of a value at a depth, one item or member a line. -/
def renderPretty (depth : Nat) : Json → String
  | .array [] => "[]"
  | .object [] => "\x7b\x7d"
  | .array items => "[\n" ++ prettyItems (depth + 1) items ++ "\n" ++ indentation depth ++ "]"
  | .object fields =>
    "\x7b\n" ++ prettyFields (depth + 1) fields ++ "\n" ++ indentation depth ++ "\x7d"
  | j => render j

def prettyItems (depth : Nat) : List Json → String
  | [] => ""
  | [x] => indentation depth ++ renderPretty depth x
  | x :: xs => indentation depth ++ renderPretty depth x ++ ",\n" ++ prettyItems depth xs

def prettyFields (depth : Nat) : List (String × Json) → String
  | [] => ""
  | [(k, v)] => indentation depth ++ quote k ++ ": " ++ renderPretty depth v
  | (k, v) :: rest =>
    indentation depth ++ quote k ++ ": " ++ renderPretty depth v ++ ",\n" ++ prettyFields depth rest

end

end Json

end MudTestbed
