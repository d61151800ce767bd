import MudTestbed.Toml.Tree
import MudTestbed.Binary64.Read

/-!
# Reading TOML: failures, bytes and leaves

A TOML text is read as its UTF-8 bytes, with a `Cursor` holding the bytes left and the
offset of the first. A reading step (`Except Failure (α × Cursor)`) gives a value and the cursor after it, or a `Failure`.

A failure is either soft, and then an enclosing choice may try something else from where
it started, or final, and then the whole reading stops. It records the offset the reading
stood at, notes on what was being read (innermost first) and maybe a cause. Its message
names the first `label` note (`invalid basic string`), then every `expected` note
(`expected newline, #`), then the cause, one per line.

This module reads the leaves: blanks, comments, line ends, keys, strings, numbers, and
dates and times.
-/

namespace MudTestbed

namespace Toml

/-- What a failed reading was doing. -/
inductive Note where
  /-- The kind of thing being read, as in `invalid <label>`. -/
  | label (s : String)
  /-- One thing that would have been accepted. -/
  | expected (s : String)
  deriving DecidableEq, Repr

/-- A failed reading, see the module comment. -/
structure Failure where
  final : Bool
  pos : Nat
  notes : List Note
  cause : Option String
  deriving DecidableEq, Repr

namespace Failure

def soft (pos : Nat) : Failure := ⟨false, pos, [], none⟩

def because (pos : Nat) (cause : String) : Failure := ⟨true, pos, [], some cause⟩

def note (f : Failure) (n : Note) : Failure := { f with notes := f.notes ++ [n] }

/-- The message, see the module comment. -/
def message (f : Failure) : String :=
  let label := f.notes.findSome? fun n => match n with
    | .label s => some s
    | .expected _ => none
  let expected := f.notes.filterMap fun n => match n with
    | .expected s => some s
    | .label _ => none
  let parts := (label.map (s!"invalid {·}")).toList ++
    (if expected.isEmpty then [] else ["expected " ++ ", ".intercalate expected]) ++
    f.cause.toList
  "\n".intercalate parts

end Failure

/-- The bytes left to read and the offset of the first. -/
structure Cursor where
  rest : List UInt8
  pos : Nat
  deriving DecidableEq, Repr

def noted {α : Type} (n : Note) (r : Except Failure (α × Cursor)) : Except Failure (α × Cursor) := r.mapError (·.note n)

def cutting {α : Type} (r : Except Failure (α × Cursor)) : Except Failure (α × Cursor) := r.mapError fun f => { f with final := true }

def expectChar (c : Char) : Note :=
  if c = '\n' then .expected "newline" else .expected ("`" ++ String.singleton c ++ "`")

namespace Cursor

def peek (c : Cursor) : Option UInt8 := c.rest.head?

def skip (c : Cursor) (n : Nat) : Cursor := ⟨c.rest.drop n, c.pos + min n c.rest.length⟩

def startsWith (c : Cursor) (bs : List UInt8) : Bool := bs.isPrefixOf c.rest

def span (c : Cursor) (p : UInt8 → Bool) : List UInt8 × Cursor :=
  let run := c.rest.takeWhile p
  (run, c.skip run.length)

def spanAtMost (c : Cursor) (n : Nat) (p : UInt8 → Bool) : List UInt8 × Cursor :=
  let run := (c.rest.takeWhile p).take n
  (run, c.skip run.length)

def atEnd (c : Cursor) : Bool := c.rest.isEmpty

end Cursor

def bytesOf (s : String) : List UInt8 := s.toUTF8.toList

def textOf (bs : List UInt8) : String := (String.fromUTF8? ⟨bs.toArray⟩).getD ""

/-! ## Byte classes -/

def isBlank (b : UInt8) : Bool := b == 0x20 || b == 0x09

def isDigit (b : UInt8) : Bool := 0x30 ≤ b && b ≤ 0x39

def isHexDigit (b : UInt8) : Bool :=
  isDigit b || (0x41 ≤ b && b ≤ 0x46) || (0x61 ≤ b && b ≤ 0x66)

def isNonAscii (b : UInt8) : Bool := 0x80 ≤ b

def isCommentByte (b : UInt8) : Bool := b == 0x09 || (0x20 ≤ b && b ≤ 0x7E) || isNonAscii b

def isBasicByte (b : UInt8) : Bool :=
  isBlank b || b == 0x21 || (0x23 ≤ b && b ≤ 0x5B) || (0x5D ≤ b && b ≤ 0x7E) || isNonAscii b

def isLiteralByte (b : UInt8) : Bool :=
  b == 0x09 || (0x20 ≤ b && b ≤ 0x26) || (0x28 ≤ b && b ≤ 0x7E) || isNonAscii b

def isBareKeyByte (b : UInt8) : Bool :=
  (0x41 ≤ b && b ≤ 0x5A) || (0x61 ≤ b && b ≤ 0x7A) || isDigit b || b == 0x2D || b == 0x5F

def byte (c : Char) : UInt8 := c.toNat.toUInt8

/-! ## Blanks, comments and line ends -/

def blanks (c : Cursor) : Cursor := (c.span isBlank).2

def comment (c : Cursor) : Option Cursor :=
  if c.peek == some (byte '#') then some ((c.skip 1).span isCommentByte).2 else none

/-- Reads a line feed or a carriage return and line feed. -/
def newline (c : Cursor) : Except Failure (Unit × Cursor) :=
  match c.rest with
  | 10 :: _ => .ok ((), c.skip 1)
  | 13 :: 10 :: _ => .ok ((), c.skip 2)
  | 13 :: _ => .error (.soft (c.pos + 1))
  | _ => .error (.soft c.pos)

def lineEnding (c : Cursor) : Except Failure (Unit × Cursor) :=
  match newline c with
  | .ok r => .ok r
  | .error _ => if c.atEnd then .ok ((), c) else .error (.soft c.pos)

def lineTrailing (c : Cursor) : Except Failure (Unit × Cursor) :=
  let c := blanks c
  let c := (comment c).getD c
  lineEnding c

/-- Reads blanks, line ends and comments, each comment closed by a line end. -/
def blankLines (c : Cursor) : Except Failure (Unit × Cursor) :=
  let rec go (c : Cursor) (fuel : Nat) : Except Failure (Unit × Cursor) :=
    match fuel with
    | 0 => .ok ((), c)
    | fuel + 1 =>
      let c := blanks c
      match c.peek with
      | some 35 => do
        let c' := (comment c).getD c
        let ((), c') ← newline c'
        go c' fuel
      | some 10 | some 13 => do
        let ((), c') ← newline c
        go c' fuel
      | _ => .ok ((), c)
  go c (c.rest.length + 1)

/-! ## Strings -/

def charBytes (ch : Char) : List UInt8 := bytesOf (String.singleton ch)

/-- Reads `n` hex digits of a `\u` or `\U` escape; `c` stands after the letter. -/
def hexEscape (n : Nat) (what : String) (c : Cursor) : Except Failure (Char × Cursor) :=
  let (digits, c') := c.spanAtMost n isHexDigit
  if digits.length != n then .error ⟨true, c.pos, [.label what], none⟩
  else
    let v := digits.foldl (fun acc d =>
      acc * 16 + (if isDigit d then d.toNat - 48 else if d ≤ 0x46 then d.toNat - 55 else d.toNat - 87)) 0
    if h : v.isValidChar then .ok (Char.ofNatAux v h, c')
    else .error ((Failure.because c.pos "value is out of range").note (.label what))

def escapeNotes : List Note :=
  .label "escape sequence" :: ['b', 'f', 'n', 'r', 't', 'u', 'U', '\\', '"'].map expectChar

/-- Reads an escape; `c` stands at the backslash. A backslash at the end is a soft failure. -/
def escape (c : Cursor) : Except Failure (Char × Cursor) :=
  let d := c.skip 1
  match d.peek with
  | none => .error (.soft d.pos)
  | some b =>
    let e := d.skip 1
    if b == byte 'b' then .ok ('\x08', e)
    else if b == byte 'f' then .ok ('\x0c', e)
    else if b == byte 'n' then .ok ('\n', e)
    else if b == byte 'r' then .ok ('\r', e)
    else if b == byte 't' then .ok ('\t', e)
    else if b == byte '\\' then .ok ('\\', e)
    else if b == byte '"' then .ok ('"', e)
    else if b == byte 'u' then hexEscape 4 "unicode 4-digit hex code" e
    else if b == byte 'U' then hexEscape 8 "unicode 8-digit hex code" e
    else .error ⟨true, e.pos, escapeNotes, none⟩

/-- Reads a basic string; `c` stands at its opening quote. -/
def basicString (c : Cursor) : Except Failure (String × Cursor) :=
  let rec body (c : Cursor) (acc : List UInt8) (fuel : Nat) : Except Failure ((List UInt8) × Cursor) :=
    match fuel with
    | 0 => .ok (acc, c)
    | fuel + 1 =>
      let (run, c') := c.span isBasicByte
      if !run.isEmpty then body c' (acc ++ run) fuel
      else if c.peek == some (byte '\\') then
        match escape c with
        | .ok (ch, c') => body c' (acc ++ charBytes ch) fuel
        | .error f => if f.final then .error f else .ok (acc, c)
      else .ok (acc, c)
  do
    let (bs, c) ← body (c.skip 1) [] (c.rest.length + 1)
    if c.peek == some (byte '"') then pure (textOf bs, c.skip 1)
    else throw ⟨true, c.pos, [.label "basic string"], none⟩

def literalString (c : Cursor) : Except Failure (String × Cursor) :=
  let (bs, c) := (c.skip 1).span isLiteralByte
  if c.peek == some (byte '\'') then .ok (textOf bs, c.skip 1)
  else .error ⟨true, c.pos, [.label "literal string"], none⟩

def quotes (q : UInt8) (term : Cursor → Bool) (c : Cursor) : Option (List UInt8 × Cursor) :=
  if c.startsWith [q, q] && term (c.skip 2) then some ([q, q], c.skip 2)
  else if c.startsWith [q] && term (c.skip 1) then some ([q], c.skip 1)
  else none

/-- Reads an escaped line end of a multiline basic string, with the blanks after it. -/
def escapedNewline (c : Cursor) : Option Cursor :=
  let once (c : Cursor) : Option Cursor :=
    if c.peek != some (byte '\\') then none
    else
      match newline (blanks (c.skip 1)) with
      | .ok ((), c') =>
        let rec more (c : Cursor) (fuel : Nat) : Cursor :=
          match fuel with
          | 0 => c
          | fuel + 1 =>
            match newline c with
            | .ok ((), c') => more c' fuel
            | .error _ =>
              let (run, c') := c.span isBlank
              if run.isEmpty then c else more c' fuel
        some (more c' (c'.rest.length + 1))
      | .error _ => none
  let rec again (c : Cursor) (fuel : Nat) : Cursor :=
    match fuel with
    | 0 => c
    | fuel + 1 => match once c with
      | some c' => again c' fuel
      | none => c
  (once c).map fun c' => again c' (c'.rest.length + 1)

/-- One piece of a multiline basic string: plain bytes, an escape, or a line end. -/
def mlBasicPiece (c : Cursor) : Except Failure (Option (List UInt8 × Cursor)) :=
  let (run, c') := c.span isBasicByte
  if !run.isEmpty then .ok (some (run, c'))
  else match escapedNewline c with
    | some c' => .ok (some ([], c'))
    | none =>
      if c.peek == some (byte '\\') then
        match escape c with
        | .ok (ch, c') => .ok (some (charBytes ch, c'))
        | .error f => if f.final then .error f else .ok none
      else match newline c with
        | .ok ((), c') => .ok (some ([10], c'))
        | .error _ => .ok none

/-- Reads pieces while there are some. -/
def mlBasicPieces (c : Cursor) (acc : List UInt8) : Except Failure (List UInt8 × Cursor) :=
  let rec go (c : Cursor) (acc : List UInt8) (fuel : Nat) : Except Failure (List UInt8 × Cursor) :=
    match fuel with
    | 0 => .ok (acc, c)
    | fuel + 1 => do
      match ← mlBasicPiece c with
      | some (bs, c') => go c' (acc ++ bs) fuel
      | none => pure (acc, c)
  go c acc (c.rest.length + 1)

/-- The body of a multiline basic string, up to its closing delimiter. -/
def mlBasicBody (c : Cursor) : Except Failure (List UInt8 × Cursor) :=
  let q := byte '"'
  let notQuote (c : Cursor) : Bool := c.peek.isSome && c.peek != some q
  let delim (c : Cursor) : Bool := c.startsWith [q, q, q]
  let rec quoted (c : Cursor) (acc : List UInt8) (fuel : Nat) : Except Failure (List UInt8 × Cursor) :=
    match fuel with
    | 0 => .ok (acc, c)
    | fuel + 1 =>
      match quotes q notQuote c with
      | none => .ok (acc, c)
      | some (qs, c') => do
        match ← mlBasicPiece c' with
        | some (bs, c'') =>
          let (acc, c'') ← mlBasicPieces c'' (acc ++ qs ++ bs)
          quoted c'' acc fuel
        | none => pure (acc, c')
  do
    let (acc, c) ← mlBasicPieces c []
    let (acc, c) ← quoted c acc (c.rest.length + 1)
    match quotes q delim c with
    | some (qs, c') => pure (acc ++ qs, c')
    | none => pure (acc, c)

/-- Reads a multiline basic string; `c` stands at its opening delimiter. -/
def mlBasicString (c : Cursor) : Except Failure (String × Cursor) :=
  let c := c.skip 3
  let c := match newline c with
    | .ok ((), c') => c'
    | .error _ => c
  noted (.label "multiline basic string") do
    let (bs, c) ← (mlBasicBody c).mapError fun f => { f with final := true }
    if c.startsWith [34, 34, 34] then pure (textOf bs, c.skip 3)
    else throw ⟨true, c.pos, [], none⟩

/-- One piece of a multiline literal string: an allowed byte or a line end. -/
def mlLiteralPiece (c : Cursor) : Option Cursor :=
  match c.peek with
  | some b =>
    if isLiteralByte b then some (c.skip 1)
    else match newline c with
      | .ok ((), c') => some c'
      | .error _ => none
  | none => none

/-- Reads literal pieces while there are some. -/
def mlLiteralPieces (c : Cursor) : Cursor :=
  let rec go (c : Cursor) (fuel : Nat) : Cursor :=
    match fuel with
    | 0 => c
    | fuel + 1 => match mlLiteralPiece c with
      | some c' => go c' fuel
      | none => c
  go c (c.rest.length + 1)

/-- Reads a multiline literal string from its opening delimiter. -/
def mlLiteralString (c : Cursor) : Except Failure (String × Cursor) :=
  let q := byte '\''
  let c := c.skip 3
  let c := match newline c with
    | .ok ((), c') => c'
    | .error _ => c
  let start := c
  let notQuote (c : Cursor) : Bool := c.peek.isSome && c.peek != some q
  let delim (c : Cursor) : Bool := c.startsWith [q, q, q]
  let rec quoted (c : Cursor) (fuel : Nat) : Cursor :=
    match fuel with
    | 0 => c
    | fuel + 1 =>
      match quotes q notQuote c with
      | some (_, c') =>
        match mlLiteralPiece c' with
        | some c'' => quoted (mlLiteralPieces c'') fuel
        | none => c
      | none => c
  let c := mlLiteralPieces c
  let c := quoted c (c.rest.length + 1)
  let c := match quotes q delim c with
    | some (_, c') => c'
    | none => c
  let body := textOf (start.rest.take (c.pos - start.pos))
  if c.startsWith [q, q, q] then .ok ("\n".intercalate (body.splitOn "\r\n"), c.skip 3)
  else .error ⟨true, c.pos, [.label "multiline literal string"], none⟩

def string (c : Cursor) : Except Failure (String × Cursor) :=
  if c.startsWith [34, 34, 34] then mlBasicString c
  else if c.startsWith [34] then basicString c
  else if c.startsWith [39, 39, 39] then mlLiteralString c
  else literalString c

/-! ## Keys -/

/-- Reads one key: quoted or bare. A bare key of no bytes is a soft failure. -/
def simpleKey (c : Cursor) : Except Failure (TomlKey × Cursor) :=
  let start := c.pos
  let finish (r : Except Failure (String × Cursor)) : Except Failure (TomlKey × Cursor) :=
    r.map fun (s, c') => (⟨s, ⟨start, c'.pos⟩⟩, c')
  match c.peek with
  | some 34 => finish (basicString c)
  | some 39 => finish (literalString c)
  | _ =>
    let (run, c') := c.span isBareKeyByte
    if run.isEmpty then .error (.soft c.pos) else .ok (⟨textOf run, ⟨start, c'.pos⟩⟩, c')

def depthLimit : Nat := 80

/-- Reads a dotted key: keys separated by `.`, each with blanks around it. -/
def key (c : Cursor) : Except Failure ((List TomlKey) × Cursor) :=
  let part (c : Cursor) : Except Failure (TomlKey × Cursor) := do
    let (k, c) ← simpleKey (blanks c)
    pure (k, blanks c)
  let rec more (c : Cursor) (acc : List TomlKey) (fuel : Nat) : Except Failure ((List TomlKey) × Cursor) :=
    match fuel with
    | 0 => .ok (acc, c)
    | fuel + 1 =>
      if c.peek == some (byte '.') then
        match part (c.skip 1) with
        | .ok (k, c') => more c' (acc ++ [k]) fuel
        | .error f => if f.final then .error f else .ok (acc, c)
      else .ok (acc, c)
  noted (.label "key") do
    let (k, c') ← part c
    let (ks, c') ← more c' [k] (c'.rest.length + 1)
    if depthLimit ≤ ks.length then throw (Failure.because c.pos "recursion limit exceeded")
    pure (ks, c')

end Toml

end MudTestbed
