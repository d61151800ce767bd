import MudTestbed.Toml.Number
import MudTestbed.Toml.Build

/-!
# Reading TOML documents

Values, arrays and inline tables, key/value lines, table headers, and the document.

A value is chosen by its first byte: a quote starts a string, `[` an array, `{` an inline
table, a sign or digit a date, float or integer (tried in that order), `t`/`f` a boolean
and `i`/`n` a special float. Anything else is `invalid string` / ``expected `"`, `'` ``,
as most stray values are unquoted strings. Arrays may span lines and hold comments; inline
tables are one line. Arrays and inline tables may nest 79 deep.

A document is key/value lines, headers, comments and blank lines; each line must end after
its content, else `expected newline, `#``. A failure becomes a `TomlError` pointing at
the byte where reading stood (an empty span at the end of the text).
-/

namespace MudTestbed

namespace Toml

def stringNotes : List Note := [.label "string", expectChar '"', expectChar '\'']

def notAValue (pos : Nat) (final : Bool) : Failure := ⟨final, pos, stringNotes, none⟩

/-- Reads a number, date or time: a date-time first, then a float, then an integer. -/
def numberLike (c : Cursor) : Except Failure (TomlNode × Cursor) :=
  let start := c.pos
  match dateTime c with
  | .ok (t, c') => .ok (.datetime t ⟨start, c'.pos⟩, c')
  | .error f =>
    if f.final then .error f
    else match float c with
      | .ok (x, c') => .ok (.float x ⟨start, c'.pos⟩, c')
      | .error f =>
        if f.final then .error f
        else (integer c).map fun (i, c') => (.integer i ⟨start, c'.pos⟩, c')

/-- Reads a value that has no nested values: all but arrays and inline tables. -/
def leafValue (c : Cursor) : Except Failure (TomlNode × Cursor) :=
  let start := c.pos
  match c.peek with
  | none => .error (.soft c.pos)
  | some b =>
    if b == 34 || b == 39 then (string c).map fun (s, c') => (.string s ⟨start, c'.pos⟩, c')
    else if b == byte '+' || b == byte '-' || isDigit b then numberLike c
    else if b == byte '_' then
      noted (.expected "leading digit") <|
        (integer c).map fun (i, c') => (.integer i ⟨start, c'.pos⟩, c')
    else if b == byte '.' then
      noted (.expected "leading digit") <|
        (float c).map fun (x, c') => (.float x ⟨start, c'.pos⟩, c')
    else if b == byte 't' then
      if c.startsWith (bytesOf "true") then .ok (.boolean true ⟨start, start + 4⟩, c.skip 4)
      else .error (notAValue c.pos true)
    else if b == byte 'f' then
      if c.startsWith (bytesOf "false") then .ok (.boolean false ⟨start, start + 5⟩, c.skip 5)
      else .error (notAValue c.pos true)
    else if b == byte 'i' then
      if c.startsWith (bytesOf "inf") then .ok (.float Binary64.infinity ⟨start, start + 3⟩, c.skip 3)
      else .error (notAValue c.pos false)
    else if b == byte 'n' then
      if c.startsWith (bytesOf "nan") then .ok (.float Binary64.nan ⟨start, start + 3⟩, c.skip 3)
      else .error (notAValue c.pos false)
    else .error (notAValue c.pos false)

mutual

/-- Reads a value; `depth` counts the arrays and inline tables around it. -/
def value (depth : Nat) (c : Cursor) (fuel : Nat) : Except Failure (TomlNode × Cursor) :=
  match fuel with
  | 0 => .error (.soft c.pos)
  | fuel + 1 =>
    match c.peek with
    | some 91 => array depth c fuel
    | some 123 => inlineTable depth c fuel
    | _ => leafValue c

/-- Reads an array; `c` stands at `[`. -/
def array (depth : Nat) (c : Cursor) (fuel : Nat) : Except Failure (TomlNode × Cursor) :=
  match fuel with
  | 0 => .error (.soft c.pos)
  | fuel + 1 =>
    let start := c.pos
    let c1 := c.skip 1
    if depthLimit ≤ depth + 1 then .error (Failure.because c1.pos "recursion limit exceeded")
    else do
      let (items, c2) ← cutting (arrayItems (depth + 1) c1 fuel)
      let ((), c3) ← cutting (blankLines c2)
      if c3.peek == some (byte ']') then pure (.array items ⟨start, c3.pos + 1⟩, c3.skip 1)
      else throw ⟨true, c3.pos, [.label "array", expectChar ']'], none⟩

/-- Reads an array's items and an optional trailing comma. -/
def arrayItems (depth : Nat) (c : Cursor) (fuel : Nat) :
    Except Failure (List TomlNode × Cursor) :=
  match fuel with
  | 0 => .ok ([], c)
  | fuel + 1 =>
    match arrayItem depth c fuel with
    | .error f => if f.final then .error f else .ok ([], c)
    | .ok (v, c') => do
      let (vs, c'') ← moreArrayItems depth c' fuel
      let c'' := if c''.peek == some (byte ',') then c''.skip 1 else c''
      pure (v :: vs, c'')

/-- Reads `, item` pairs while they are there. -/
def moreArrayItems (depth : Nat) (c : Cursor) (fuel : Nat) :
    Except Failure (List TomlNode × Cursor) :=
  match fuel with
  | 0 => .ok ([], c)
  | fuel + 1 =>
    if c.peek != some (byte ',') then .ok ([], c)
    else
      match arrayItem depth (c.skip 1) fuel with
      | .error f => if f.final then .error f else .ok ([], c)
      | .ok (v, c') => do
        let (vs, c'') ← moreArrayItems depth c' fuel
        pure (v :: vs, c'')

/-- Reads an array item with the blanks, line ends and comments around it. -/
def arrayItem (depth : Nat) (c : Cursor) (fuel : Nat) : Except Failure (TomlNode × Cursor) :=
  match fuel with
  | 0 => .error (.soft c.pos)
  | fuel + 1 => do
    let ((), c) ← blankLines c
    let (v, c) ← value depth c fuel
    let ((), c) ← blankLines c
    pure (v, c)

/-- Reads an inline table; `c` stands at `{`. -/
def inlineTable (depth : Nat) (c : Cursor) (fuel : Nat) : Except Failure (TomlNode × Cursor) :=
  match fuel with
  | 0 => .error (.soft c.pos)
  | fuel + 1 =>
    let start := c.pos
    let c1 := c.skip 1
    if depthLimit ≤ depth + 1 then .error (Failure.because c1.pos "recursion limit exceeded")
    else do
      let (pairs, c2) ← cutting (inlinePairs (depth + 1) c1 fuel)
      let c2 := blanks c2
      let entries ← match inlineEntries pairs with
        | .ok es => pure es
        | .error msg => throw (Failure.because c1.pos msg)
      if c2.peek == some (byte '}') then
        pure (.inlineTable entries (some ⟨start, c2.pos + 1⟩) false, c2.skip 1)
      else throw ⟨true, c2.pos, [.label "inline table", expectChar '}'], none⟩

/-- Reads an inline table's pairs separated by commas. -/
def inlinePairs (depth : Nat) (c : Cursor) (fuel : Nat) :
    Except Failure (List (List TomlKey × TomlKey × TomlNode) × Cursor) :=
  match fuel with
  | 0 => .ok ([], c)
  | fuel + 1 =>
    match inlinePair depth c fuel with
    | .error f => if f.final then .error f else .ok ([], c)
    | .ok (p, c') => do
      let (ps, c'') ← moreInlinePairs depth c' fuel
      pure (p :: ps, c'')

/-- Reads `, pair` while they are there. -/
def moreInlinePairs (depth : Nat) (c : Cursor) (fuel : Nat) :
    Except Failure (List (List TomlKey × TomlKey × TomlNode) × Cursor) :=
  match fuel with
  | 0 => .ok ([], c)
  | fuel + 1 =>
    if c.peek != some (byte ',') then .ok ([], c)
    else
      match inlinePair depth (c.skip 1) fuel with
      | .error f => if f.final then .error f else .ok ([], c)
      | .ok (p, c') => do
        let (ps, c'') ← moreInlinePairs depth c' fuel
        pure (p :: ps, c'')

/-- Reads `key = value` inside an inline table. -/
def inlinePair (depth : Nat) (c : Cursor) (fuel : Nat) :
    Except Failure ((List TomlKey × TomlKey × TomlNode) × Cursor) :=
  match fuel with
  | 0 => .error (.soft c.pos)
  | fuel + 1 => do
    let (ks, c) ← key c
    cutting do
      if c.peek != some (byte '=') then
        throw ⟨false, c.pos, [expectChar '.', expectChar '='], none⟩
      let (v, c) ← value depth (blanks (c.skip 1)) fuel
      pure ((ks.dropLast, ks.getLast?.getD ⟨"", ⟨0, 0⟩⟩, v), blanks c)

end

/-- Reads a key/value line of the document, up to and including its line end. -/
def keyvalLine (c : Cursor) : Except Failure ((List TomlKey × TomlKey × TomlNode) × Cursor) := do
  let (ks, c) ← key c
  cutting do
    if c.peek != some (byte '=') then
      throw ⟨false, c.pos, [expectChar '.', expectChar '='], none⟩
    let (v, c) ← value 0 (blanks (c.skip 1)) (4 * c.rest.length + 16)
    let ((), c) ← noted (expectChar '#') (noted (expectChar '\n') (lineTrailing c))
    pure ((ks.dropLast, ks.getLast?.getD ⟨"", ⟨0, 0⟩⟩, v), c)

/-- Reads a table header up to its line end: array or not, its path and its span. -/
def header (c : Cursor) : Except Failure ((Bool × List TomlKey × Span) × Cursor) :=
  noted (.label "table header") do
    let start := c.pos
    let isArray := c.startsWith [91, 91]
    let close : List UInt8 := if isArray then [93, 93] else [93]
    let (ks, c1) ← cutting (key (c.skip close.length))
    if !c1.startsWith close then
      throw ⟨true, c1.pos, [expectChar '.', .expected (if isArray then "`]]`" else "`]`")], none⟩
    let c2 := c1.skip close.length
    let ((), c3) ← cutting (noted (expectChar '#') (noted (expectChar '\n') (lineTrailing c2)))
    pure ((isArray, ks, ⟨start, c2.pos⟩), c3)

def commentLine (c : Cursor) : Except Failure (Unit × Cursor) :=
  cutting (lineEnding ((comment c).getD c))

def failureSpan (total : Nat) (f : Failure) : Span :=
  if f.pos = total then ⟨f.pos, f.pos⟩ else ⟨f.pos, f.pos + 1⟩

/-- Reads the document's lines into a builder. -/
def lines (c : Cursor) (b : Builder) (fuel : Nat) : Except Failure (Builder × Cursor) :=
  match fuel with
  | 0 => .ok (b, c)
  | fuel + 1 =>
    match c.peek with
    | none => .ok (b, c)
    | some 35 => do
      let ((), c) ← commentLine c
      lines (blanks c) b fuel
    | some 91 => do
      let ((isArray, path, span), c') ← header c
      let b' := if isArray then b.arrayHeader path span else b.stdHeader path span
      match b' with
      | .ok b' => lines (blanks c') b' fuel
      | .error msg => throw ((Failure.because c.pos msg).note (.label "table header"))
    | some 10 | some 13 =>
      match newline c with
      | .ok ((), c') => lines (blanks c') b fuel
      | .error _ => .ok (b, c)
    | some _ => do
      let ((path, k, v), c') ← cutting (keyvalLine c)
      match b.keyval path k v with
      | .ok b' => lines (blanks c') b' fuel
      | .error msg => throw (Failure.because c.pos msg)

/-- Reads a TOML text into its root table's entries and the root's span. -/
def parse (raw : String) : Except TomlError (List (TomlKey × TomlNode) × Option Span) :=
  let bytes := bytesOf raw
  let c : Cursor := ⟨bytes, 0⟩
  let c := if c.startsWith [0xEF, 0xBB, 0xBF] then c.skip 3 else c
  match lines (blanks c) {} (bytes.length + 1) with
  | .error f => .error ⟨f.message, some (failureSpan bytes.length f)⟩
  | .ok (b, c) =>
    if !c.atEnd then .error ⟨"", some (failureSpan bytes.length (.soft c.pos))⟩
    else match b.finalize with
      | .ok b => .ok (b.root, b.rootSpan)
      | .error msg => .error ⟨msg, none⟩

end Toml

end MudTestbed
