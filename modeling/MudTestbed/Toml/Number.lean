import MudTestbed.Toml.Scan

/-!
# Reading TOML numbers, dates and times

Integers are decimal (an optional sign, no leading zero, single underscores between
digits) or, without a sign, hexadecimal, octal or binary after `0x`, `0o` or `0b`; each
must fit a signed 64-bit word. Floats are a decimal integer part with a fraction and/or
an exponent, or `inf` and `nan` with an optional sign; a float that rounds to positive
infinity is refused.

Dates are `YYYY-MM-DD` with a real day of the month; times `HH:MM:SS` with an optional
fraction; a date may be followed by `T`, `t` or a space and a time, and then by `Z` or a
`+HH:MM` offset.

Failures carry the notes and causes of the grammar they come from, so that a number with a
stray underscore reads `invalid integer` / `expected digit`.
-/

namespace MudTestbed

namespace Toml

/-- Digits, each pair maybe joined by one underscore. -/
def digitsAfter (isD : UInt8 → Bool) (c : Cursor) : Except Failure Cursor :=
  let rec go (c : Cursor) (fuel : Nat) : Except Failure Cursor :=
    match fuel with
    | 0 => .ok c
    | fuel + 1 =>
      match c.peek with
      | some b =>
        if isD b then go (c.skip 1) fuel
        else if b == byte '_' then
          match (c.skip 1).peek with
          | some d => if isD d then go (c.skip 2) fuel
            else .error ⟨true, (c.skip 1).pos, [.expected "digit"], none⟩
          | none => .error ⟨true, (c.skip 1).pos, [.expected "digit"], none⟩
        else .ok c
      | none => .ok c
  go c (c.rest.length + 1)

def between (a b : Cursor) : List UInt8 := a.rest.take (b.pos - a.pos)

/-- Reads a decimal integer's text: an optional sign, then `0` or digits from 1. -/
def decimalText (c : Cursor) : Except Failure (List UInt8 × Cursor) :=
  noted (.label "integer") do
    let c1 := if c.peek == some (byte '+') || c.peek == some (byte '-') then c.skip 1 else c
    match c1.peek with
    | some b =>
      if 0x31 ≤ b && b ≤ 0x39 then
        let c2 ← digitsAfter isDigit (c1.skip 1)
        pure (between c c2, c2)
      else if b == byte '0' then pure (between c (c1.skip 1), c1.skip 1)
      else throw (.soft c1.pos)
    | none => throw (.soft c1.pos)

def zeroPrefixable (c : Cursor) : Except Failure Cursor :=
  match c.peek with
  | some b => if isDigit b then digitsAfter isDigit (c.skip 1) else .error (.soft c.pos)
  | none => .error (.soft c.pos)

/-- Reads an exponent: `e` or `E`, an optional sign, digits. -/
def exponent (c : Cursor) : Except Failure Cursor :=
  if c.peek == some (byte 'e') || c.peek == some (byte 'E') then
    let c1 := c.skip 1
    let c1 := if c1.peek == some (byte '+') || c1.peek == some (byte '-') then c1.skip 1 else c1
    (zeroPrefixable c1).mapError fun f => { f with final := true }
  else .error (.soft c.pos)

def fraction (c : Cursor) : Except Failure Cursor :=
  if c.peek == some (byte '.') then
    (zeroPrefixable (c.skip 1)).mapError fun f => { f.note (.expected "digit") with final := true }
  else .error (.soft c.pos)

/-- Reads a float's text: an integer part, then an exponent or a fraction. -/
def floatText (c : Cursor) : Except Failure (List UInt8 × Cursor) := do
  let (_, c1) ← decimalText c
  match exponent c1 with
  | .ok c2 => pure (between c c2, c2)
  | .error f =>
    if f.final then throw f
    else
      let c2 ← fraction c1
      match exponent c2 with
      | .ok c3 => pure (between c c3, c3)
      | .error f => if f.final then throw f else pure (between c c2, c2)

/-- Reads `inf` or `nan` with an optional sign. -/
def specialFloat (c : Cursor) : Except Failure (Binary64 × Cursor) :=
  let (negative, c1) :=
    if c.peek == some (byte '+') then (false, c.skip 1)
    else if c.peek == some (byte '-') then (true, c.skip 1) else (false, c)
  let sign (x : Binary64) : Binary64 := if negative then x.neg else x
  if c1.startsWith (bytesOf "inf") then .ok (sign Binary64.infinity, c1.skip 3)
  else if c1.startsWith (bytesOf "nan") then .ok (sign Binary64.nan, c1.skip 3)
  else .error (.soft c1.pos)

/-- Reads a float, see the module comment. -/
def float (c : Cursor) : Except Failure (Binary64 × Cursor) :=
  noted (.label "floating-point number") <|
  match floatText c with
  | .ok (text, c') =>
    let digits := textOf (text.filter (· != byte '_'))
    match Binary64.ofString? digits with
    | some x => if x == Binary64.infinity then .error ⟨true, c.pos, [], none⟩ else .ok (x, c')
    | none => .error ⟨true, c.pos, [], none⟩
  | .error f => if f.final then .error f else specialFloat c

def digitsValue (radix : Nat) (ds : List UInt8) : Nat :=
  ds.foldl (fun acc d =>
    let v := if isDigit d then d.toNat - 48 else if d ≤ 0x46 then d.toNat - 55 else d.toNat - 87
    acc * radix + v) 0

def wordMax : Nat := 0x8000000000000000 - 1

/-- Reads an integer in a radix after its two-byte prefix. -/
def radixInteger (radix : Nat) (what : String) (isD : UInt8 → Bool) (c : Cursor) :
    Except Failure (Int × Cursor) := do
  let c1 := c.skip 2
  let c2 ← noted (.label what) <| cutting <| match c1.peek with
    | some b => if isD b then (digitsAfter isD (c1.skip 1)).map fun c' => ((), c')
      else .error (.soft c1.pos)
    | none => .error (.soft c1.pos)
  let v := digitsValue radix ((between c1 c2.2).filter (· != byte '_'))
  if v ≤ wordMax then pure (v, c2.2)
  else throw (Failure.because c.pos "number too large to fit in target type")

/-- Reads an integer, see the module comment. -/
def integer (c : Cursor) : Except Failure (Int × Cursor) :=
  if c.startsWith (bytesOf "0x") then radixInteger 16 "hexadecimal integer" isHexDigit c
  else if c.startsWith (bytesOf "0o") then
    radixInteger 8 "octal integer" (fun b => 0x30 ≤ b && b ≤ 0x37) c
  else if c.startsWith (bytesOf "0b") then
    radixInteger 2 "binary integer" (fun b => b == 0x30 || b == 0x31) c
  else do
    let (text, c') ← decimalText c
    let text := text.filter (· != byte '_')
    let (negative, digits) := match text with
      | 45 :: ds => (true, ds)
      | 43 :: ds => (false, ds)
      | ds => (false, ds)
    let v := digitsValue 10 digits
    if negative then
      if v ≤ wordMax + 1 then pure (-(v : Int), c')
      else throw (Failure.because c.pos "number too small to fit in target type")
    else if v ≤ wordMax then pure (v, c')
    else throw (Failure.because c.pos "number too large to fit in target type")

/-! ## Dates and times -/

def fixedDigits (n : Nat) (c : Cursor) : Except Failure (Nat × Cursor) :=
  let (ds, c') := c.spanAtMost n isDigit
  if ds.length = n then .ok (digitsValue 10 ds, c') else .error (.soft c.pos)

def boundedField (lo hi : Nat) (c : Cursor) : Except Failure (Nat × Cursor) := do
  let (v, c') ← fixedDigits 2 c
  if lo ≤ v && v ≤ hi then pure (v, c')
  else throw ⟨false, c.pos, [], some "value is out of range"⟩

def monthDays (year month : Nat) : Nat :=
  if month = 2 then
    if year % 4 = 0 && (year % 100 != 0 || year % 400 = 0) then 29 else 28
  else if month = 4 || month = 6 || month = 9 || month = 11 then 30 else 31

/-- Reads `YYYY-MM-DD`; past the first dash every failure is final. -/
def fullDate (c : Cursor) : Except Failure (Unit × Cursor) := do
  let (year, c) ← fixedDigits 4 c
  if c.peek != some (byte '-') then throw (.soft c.pos)
  cutting do
    let (month, c) ← boundedField 1 12 (c.skip 1)
    if c.peek != some (byte '-') then throw (.soft c.pos)
    let dayStart := c.skip 1
    let (day, c) ← boundedField 1 31 dayStart
    if monthDays year month < day then throw (Failure.because dayStart.pos "value is out of range")
    pure ((), c)

/-- Reads `HH:MM:SS` and an optional fraction. -/
def partialTime (c : Cursor) : Except Failure Cursor := do
  let (_, c) ← boundedField 0 23 c
  if c.peek != some (byte ':') then throw (.soft c.pos)
  let (_, c) ← cutting do
    let (_, c) ← boundedField 0 59 (c.skip 1)
    if c.peek != some (byte ':') then throw (.soft c.pos)
    let (_, c) ← boundedField 0 60 (c.skip 1)
    if c.peek == some (byte '.') then
      let (ds, c') := (c.skip 1).span isDigit
      if ds.isEmpty then pure ((), c) else pure ((), c')
    else pure ((), c)
  pure c

/-- Reads a time offset: `Z`, `z`, or a sign and `HH:MM`. -/
def timeOffset (c : Cursor) : Except Failure (Unit × Cursor) :=
  noted (.label "time offset") <|
  if c.peek == some (byte 'Z') || c.peek == some (byte 'z') then .ok ((), c.skip 1)
  else if c.peek == some (byte '+') || c.peek == some (byte '-') then
    cutting do
      let (_, c) ← boundedField 0 23 (c.skip 1)
      if c.peek != some (byte ':') then throw (.soft c.pos)
      let (_, c) ← boundedField 0 59 (c.skip 1)
      pure ((), c)
  else .error (.soft c.pos)

/-- Reads a date, a time, or a date and time with an optional offset, as its text. -/
def dateTime (c : Cursor) : Except Failure (String × Cursor) :=
  match noted (.label "date-time") (fullDate c) with
  | .ok ((), c1) =>
    let isDelim := c1.peek == some (byte 'T') || c1.peek == some (byte 't') || c1.peek == some (byte ' ')
    if !isDelim then .ok (textOf (between c c1), c1)
    else
      match partialTime (c1.skip 1) with
      | .ok c2 =>
        match timeOffset c2 with
        | .ok ((), c3) => .ok (textOf (between c c3), c3)
        | .error f =>
          if f.final then .error (f.note (.label "date-time")) else .ok (textOf (between c c2), c2)
      | .error f =>
        if f.final then .error (f.note (.label "date-time")) else .ok (textOf (between c c1), c1)
  | .error f =>
    if f.final then .error f
    else
      match partialTime c with
      | .ok c' => .ok (textOf (between c c'), c')
      | .error f => .error (f.note (.label "time"))

end Toml

end MudTestbed
