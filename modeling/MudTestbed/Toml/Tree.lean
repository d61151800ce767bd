import MudTestbed.Json.Decode
import MudTestbed.Binary64.Basic

/-!
# TOML documents

A parsed TOML document is a tree of `TomlNode`s that remembers where each part was
written: every value has the byte span of its text, every key the span of its name, and
a table the span of its header, grown to the end of the last value written under it. The
root table's span starts empty at offset 0 and grows the same way. Tables created only as
the parents of other tables, or by dotted keys, have no span of their own.

`TomlNode.toJson` gives the document to the typed decoders, with a `SpanIndex` that maps a
decoding error's spot back to text: a value's span, else its key's span, else the span of
the nearest enclosing part that has one. A date or time becomes a one-member object,
which is how typed readers see it.

`TomlError.render` writes an error the way users see it: the line and column (counted in
characters) of the span's start, the line itself, a row of carets under the span (cut at
the line's end, but at least one), and the message.
-/

namespace MudTestbed

/-- A byte range of a text. -/
structure Span where
  start : Nat
  stop : Nat
  deriving DecidableEq, Repr

/-- A key as written: its name and the span of the name. -/
structure TomlKey where
  name : String
  span : Span
  deriving DecidableEq, Repr

/-- A node of a TOML document. -/
inductive TomlNode where
  | string (s : String) (span : Span)
  | integer (i : Int) (span : Span)
  | float (x : Binary64) (span : Span)
  | boolean (b : Bool) (span : Span)
  /-- A date, time or date-time, kept as its text. -/
  | datetime (text : String) (span : Span)
  | array (items : List TomlNode) (span : Span)
  /-- A `{ ... }` table; `implicit` when created by a dotted key inside one. -/
  | inlineTable (entries : List (TomlKey × TomlNode)) (span : Option Span) (implicit : Bool)
  /-- A table; `implicit` when only created as a parent, `dotted` when by a dotted key. -/
  | table (entries : List (TomlKey × TomlNode)) (span : Option Span) (implicit dotted : Bool)
  /-- An array of tables, each a `table`. -/
  | tables (items : List TomlNode) (span : Option Span)
  deriving Repr

namespace TomlNode

/-- The name of a node's kind, as messages give it. -/
def typeName : TomlNode → String
  | string .. => "string"
  | integer .. => "integer"
  | float .. => "float"
  | boolean .. => "boolean"
  | datetime .. => "datetime"
  | array .. => "array"
  | inlineTable .. => "inline table"
  | table .. => "table"
  | tables .. => "array of tables"

def span? : TomlNode → Option Span
  | string _ s | integer _ s | float _ s | boolean _ s | datetime _ s | array _ s => some s
  | inlineTable _ s _ | table _ s _ _ | tables _ s => s

end TomlNode

abbrev SpanIndex := List (List PathStep × Option Span × Option Span)

mutual

/-- A node as a document value, with the spans of it and everything in it. -/
def TomlNode.toJson (path : List PathStep) (keySpan : Option Span) :
    TomlNode → Json × SpanIndex
  | .string s sp => (.string s, [(path, keySpan, some sp)])
  | .integer i sp => (Json.ofInt i, [(path, keySpan, some sp)])
  | .float x sp => (.number (.double x), [(path, keySpan, some sp)])
  | .boolean b sp => (.bool b, [(path, keySpan, some sp)])
  | .datetime t sp => (.object [(Decode.datetimeKey, .string t)], [(path, keySpan, some sp)])
  | .array items sp =>
    let (js, idx) := TomlNode.itemsToJson path 0 items
    (.array js, (path, keySpan, some sp) :: idx)
  | .tables items sp =>
    let (js, idx) := TomlNode.itemsToJson path 0 items
    (.array js, (path, keySpan, sp) :: idx)
  | .inlineTable entries sp _ =>
    let (ms, idx) := TomlNode.entriesToJson path entries
    (.object ms, (path, keySpan, sp) :: idx)
  | .table entries sp _ _ =>
    let (ms, idx) := TomlNode.entriesToJson path entries
    (.object ms, (path, keySpan, sp) :: idx)

/-- Array items as values. -/
def TomlNode.itemsToJson (path : List PathStep) (i : Nat) :
    List TomlNode → List Json × SpanIndex
  | [] => ([], [])
  | n :: rest =>
    let (j, idx) := TomlNode.toJson (path ++ [.index i]) none n
    let (js, idx') := TomlNode.itemsToJson path (i + 1) rest
    (j :: js, idx ++ idx')

/-- Table entries as members, in document order. -/
def TomlNode.entriesToJson (path : List PathStep) :
    List (TomlKey × TomlNode) → List (String × Json) × SpanIndex
  | [] => ([], [])
  | (k, n) :: rest =>
    let (j, idx) := TomlNode.toJson (path ++ [.key k.name]) (some k.span) n
    let (ms, idx') := TomlNode.entriesToJson path rest
    ((k.name, j) :: ms, idx ++ idx')

end

namespace SpanIndex

/-- The span an error at a value points to: the value's, its key's, or an enclosing one. -/
def valueSpan (idx : SpanIndex) (path : List PathStep) : Option Span :=
  let rec up (steps : List PathStep) (fuel : Nat) : Option Span :=
    match fuel with
    | 0 => none
    | fuel + 1 =>
      match idx.find? (·.1 == steps) with
      | some (_, k, v) =>
        match v <|> k with
        | some s => some s
        | none => if steps.isEmpty then none else up steps.dropLast fuel
      | none => if steps.isEmpty then none else up steps.dropLast fuel
  up path (path.length + 1)

/-- The span an error points to. -/
def spotSpan (idx : SpanIndex) : Spot → Option Span
  | .key path =>
    match idx.find? (·.1 == path) with
    | some (_, some k, _) => some k
    | _ => idx.valueSpan path
  | .value path => idx.valueSpan path

end SpanIndex

/-- An error of reading a TOML text: its message and, when known, the span it points to. -/
structure TomlError where
  message : String
  span : Option Span
  deriving DecidableEq, Repr

namespace TomlError

/-- The line and character column of a byte offset, both from 0, as an editor counts. -/
def position (raw : List UInt8) (index : Nat) : Nat × Nat :=
  if raw.isEmpty then (0, index)
  else
    let safe := min index (raw.length - 1)
    let beyond := index - safe
    let before := raw.take safe
    let lineStart := match (before.reverse.idxOf? 10) with
      | some k => safe - k
      | none => 0
    let line := (raw.take lineStart).count 10
    let piece := (raw.drop lineStart).take (safe - lineStart + 1)
    let column := match String.fromUTF8? ⟨piece.toArray⟩ with
      | some s => s.length - 1
      | none => safe - lineStart
    (line, column + beyond)

def rawLines (s : String) : List String := s.splitOn "\n"

/-- The error as users see it, see the module comment. -/
def render (raw : String) (e : TomlError) : String :=
  match e.span with
  | none => e.message ++ "\n"
  | some sp =>
    let bytes := raw.toUTF8.toList
    let (line, column) := position bytes sp.start
    let lineNum := line + 1
    let gutter := (toString lineNum).length
    let content := (rawLines raw).getD line ""
    let highlight := min (sp.stop - sp.start) (content.utf8ByteSize - column)
    let pad := String.ofList (List.replicate (gutter + 1) ' ')
    s!"TOML parse error at line {lineNum}, column {column + 1}\n" ++
    pad ++ "|\n" ++
    s!"{lineNum} | {content}\n" ++
    pad ++ "|" ++ String.ofList (List.replicate (column + 1) ' ') ++ "^" ++
    String.ofList (List.replicate (highlight - 1) '^') ++ "\n" ++
    e.message ++ "\n"

end TomlError

end MudTestbed
