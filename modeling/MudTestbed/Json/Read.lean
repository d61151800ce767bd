import MudTestbed.Json.Value
import MudTestbed.Binary64.Round

/-!
# Reading JSON documents

`Json.parse` reads one JSON value surrounded by optional blanks (space, tab, line feed,
carriage return) and reports the first fault with its line and byte column.

Numbers follow the fast reading rule for doubles: the decimal digits are collected into a
64-bit significand (digits past its capacity are dropped), the significand is rounded to a
double, and that double is multiplied or divided once by the double nearest to the power of
ten; exponents beyond `10 ^ 308` divide by `1e308` first. Integers without point or exponent
stay exact while they fit 64 bits. A result beyond the largest double is an error.

Nesting is limited: the 128th open bracket on one path is refused.

Positions: a fault found while looking at a character is reported one byte past the point
before it (`Cursor.ahead`); a fault found after consuming input is reported where reading
stopped (`Cursor.here`). Columns count bytes from the start of the line, from 0.
-/

namespace MudTestbed

/-- The faults a JSON reader reports. -/
inductive JsonFault where
  | eofInList
  | eofInObject
  | eofInString
  | eofInValue
  | expectedColon
  | expectedListCommaOrEnd
  | expectedObjectCommaOrEnd
  | expectedIdent
  | expectedValue
  | invalidEscape
  | invalidNumber
  | numberOutOfRange
  | invalidCodePoint
  | controlCharacter
  | keyMustBeString
  | loneSurrogate
  | trailingComma
  | trailingCharacters
  | unexpectedEndOfEscape
  | recursionLimit
  deriving DecidableEq, Repr

namespace JsonFault

/-- The wording of each fault. -/
def describe : JsonFault → String
  | eofInList => "EOF while parsing a list"
  | eofInObject => "EOF while parsing an object"
  | eofInString => "EOF while parsing a string"
  | eofInValue => "EOF while parsing a value"
  | expectedColon => "expected `:`"
  | expectedListCommaOrEnd => "expected `,` or `]`"
  | expectedObjectCommaOrEnd => "expected `,` or `\x7d`"
  | expectedIdent => "expected ident"
  | expectedValue => "expected value"
  | invalidEscape => "invalid escape"
  | invalidNumber => "invalid number"
  | numberOutOfRange => "number out of range"
  | invalidCodePoint => "invalid unicode code point"
  | controlCharacter => "control character (\\u0000-\\u001F) found while parsing a string"
  | keyMustBeString => "key must be a string"
  | loneSurrogate => "lone leading surrogate in hex escape"
  | trailingComma => "trailing comma"
  | trailingCharacters => "trailing characters"
  | unexpectedEndOfEscape => "unexpected end of hex escape"
  | recursionLimit => "recursion limit exceeded"

end JsonFault

/-- A fault of a JSON document and where it was found. -/
structure JsonError where
  fault : JsonFault
  line : Nat
  column : Nat
  deriving DecidableEq, Repr

def JsonError.message (e : JsonError) : String :=
  s!"{e.fault.describe} at line {e.line} column {e.column}"

namespace Json

/-- A reading position: the rest of the text, and the line and byte column of its start. -/
structure Cursor where
  rest : List Char
  line : Nat
  column : Nat

namespace Cursor

def step (c : Cursor) (ch : Char) (r : List Char) : Cursor :=
  if ch = '\n' then ⟨r, c.line + 1, 0⟩ else ⟨r, c.line, c.column + ch.utf8Size⟩

@[simp] theorem step_rest (c : Cursor) (ch : Char) (r : List Char) : (c.step ch r).rest = r := by
  unfold step; split <;> rfl

def next (c : Cursor) : Cursor :=
  match c.rest with
  | ch :: r => c.step ch r
  | [] => c

def here (c : Cursor) (f : JsonFault) : JsonError := ⟨f, c.line, c.column⟩

def ahead (c : Cursor) (f : JsonFault) : JsonError :=
  match c.rest with
  | [] => ⟨f, c.line, c.column⟩
  | '\n' :: _ => ⟨f, c.line + 1, 0⟩
  | _ :: _ => ⟨f, c.line, c.column + 1⟩

/-- Skips the blanks of JSON: space, tab, line feed and carriage return. -/
def skipBlanks (c : Cursor) : Cursor :=
  match h : c.rest with
  | ch :: r =>
    if ch = ' ' ∨ ch = '\t' ∨ ch = '\n' ∨ ch = '\r' then skipBlanks (c.step ch r) else c
  | [] => c
termination_by c.rest.length
decreasing_by simp [h]

/-- The cursor at the end of the text. -/
def toEnd (c : Cursor) : Cursor :=
  match h : c.rest with
  | ch :: r => toEnd (c.step ch r)
  | [] => c
termination_by c.rest.length
decreasing_by simp [h]

/-- The cursor `n` bytes further, counting a character cut in the middle by its bytes. -/
def skipBytes (c : Cursor) (n : Nat) : Cursor :=
  match h : c.rest with
  | ch :: r =>
    if n = 0 then c
    else if ch.utf8Size ≤ n then skipBytes (c.step ch r) (n - ch.utf8Size)
    else ⟨r, c.line, c.column + n⟩
  | [] => c
termination_by c.rest.length
decreasing_by simp [h]

end Cursor

def fitsDigit (significand digit : Nat) : Bool :=
  significand * 10 + digit < 0x10000000000000000

def powerOfTen (k : Nat) : Binary64 := Binary64.ofDecimal false 1 k

/-- Scales the significand by a power of ten, failing beyond the largest double. -/
def scaleByTen (f : Binary64) (exponent : Int) (fuel : Nat) : Option Binary64 :=
  match fuel with
  | 0 => some f
  | fuel + 1 =>
    if exponent.natAbs ≤ 308 then
      if 0 ≤ exponent then
        let g := f.mul (powerOfTen exponent.natAbs)
        if g.isInfinite then none else some g
      else some (f.div (powerOfTen exponent.natAbs))
    else if f.isZero then some f
    else if 0 ≤ exponent then none
    else scaleByTen (f.div (powerOfTen 308)) (exponent + 308) fuel

def doubleOfParts (positive : Bool) (significand : Nat) (exponent : Int) : Option Binary64 :=
  (scaleByTen (Binary64.ofNat significand) exponent (exponent.natAbs / 308 + 2)).map
    fun f => if positive then f else f.neg

def finishDouble (positive : Bool) (significand : Nat) (exponent : Int) (c : Cursor) :
    Except JsonError (JsonNumber × Cursor) :=
  match doubleOfParts positive significand exponent with
  | some f => .ok (.double f, c)
  | none => .error (c.here .numberOutOfRange)

/-- Skips decimal digits. -/
def skipDigits (c : Cursor) : Cursor :=
  match h : c.rest with
  | ch :: r => if ch.isDigit then skipDigits (c.step ch r) else c
  | [] => c
termination_by c.rest.length
decreasing_by simp [h]

/-- Reads the digits of an exponent, the first already known to be there. -/
def exponentDigits (positive positiveExp : Bool) (significand : Nat) (start : Int)
    (exp : Nat) (c : Cursor) : Except JsonError (JsonNumber × Cursor) :=
  match h : c.rest with
  | ch :: r =>
    if ch.isDigit then
      let d := ch.toNat - '0'.toNat
      let c' := c.step ch r
      if exp * 10 + d ≥ 0x80000000 then
        if significand ≠ 0 ∧ positiveExp then .error (c'.here .numberOutOfRange)
        else .ok (.double (if positive then Binary64.zero else Binary64.negZero), skipDigits c')
      else exponentDigits positive positiveExp significand start (exp * 10 + d) c'
    else finishDouble positive significand (if positiveExp then start + exp else start - exp) c
  | [] => finishDouble positive significand (if positiveExp then start + exp else start - exp) c
termination_by c.rest.length
decreasing_by simp [h]

/-- Reads an exponent at `e` or `E`. -/
def readExponent (positive : Bool) (significand : Nat) (start : Int) (c : Cursor) :
    Except JsonError (JsonNumber × Cursor) :=
  let c := c.next
  let (positiveExp, c) := match c.rest with
    | '+' :: _ => (true, c.next)
    | '-' :: _ => (false, c.next)
    | _ => (true, c)
  match c.rest with
  | [] => .error (c.here .eofInValue)
  | ch :: _ =>
    if ch.isDigit then
      exponentDigits positive positiveExp significand start (ch.toNat - '0'.toNat) c.next
    else .error (c.ahead .invalidNumber)

/-- After digits that no longer fit: the rest of a fraction is dropped. -/
def afterOverflow (positive : Bool) (significand : Nat) (exponent : Int) (c : Cursor) :
    Except JsonError (JsonNumber × Cursor) :=
  let c := skipDigits c
  match c.rest with
  | 'e' :: _ | 'E' :: _ => readExponent positive significand exponent c
  | _ => finishDouble positive significand exponent c

/-- Reads the digits after a point. -/
def fractionDigits (positive : Bool) (significand : Nat) (before : Int) (count : Nat)
    (c : Cursor) : Except JsonError (JsonNumber × Cursor) :=
  match h : c.rest with
  | ch :: r =>
    if ch.isDigit then
      let d := ch.toNat - '0'.toNat
      if fitsDigit significand d then
        fractionDigits positive (significand * 10 + d) before (count + 1) (c.step ch r)
      else afterOverflow positive significand (before - count) c
    else if count = 0 then .error (c.ahead .invalidNumber)
    else if ch = 'e' ∨ ch = 'E' then readExponent positive significand (before - count) c
    else finishDouble positive significand (before - count) c
  | [] =>
    if count = 0 then .error (c.ahead .eofInValue)
    else finishDouble positive significand (before - count) c
termination_by c.rest.length
decreasing_by simp [h]

/-- The end of an integer part: a fraction, an exponent, or an integer. -/
def numberTail (positive : Bool) (significand : Nat) (c : Cursor) :
    Except JsonError (JsonNumber × Cursor) :=
  match c.rest with
  | '.' :: _ => fractionDigits positive significand 0 0 c.next
  | 'e' :: _ | 'E' :: _ => readExponent positive significand 0 c
  | _ =>
    if positive then .ok (.nat significand, c)
    else if significand = 0 ∨ 0x8000000000000000 < significand then
      .ok (.double (Binary64.ofNat significand).neg, c)
    else .ok (.negInt (-(significand : Int)), c)

/-- Integer digits past the capacity of the significand: each raises the exponent. -/
def longDigits (positive : Bool) (significand : Nat) (exponent : Nat) (c : Cursor) :
    Except JsonError (JsonNumber × Cursor) :=
  match h : c.rest with
  | ch :: r =>
    if ch.isDigit then longDigits positive significand (exponent + 1) (c.step ch r)
    else if ch = '.' then fractionDigits positive significand exponent 0 c.next
    else if ch = 'e' ∨ ch = 'E' then readExponent positive significand exponent c
    else finishDouble positive significand exponent c
  | [] => finishDouble positive significand exponent c
termination_by c.rest.length
decreasing_by simp [h]

/-- Reads the digits of an integer part that starts with a nonzero digit. -/
def integerDigits (positive : Bool) (significand : Nat) (c : Cursor) :
    Except JsonError (JsonNumber × Cursor) :=
  match h : c.rest with
  | ch :: r =>
    if ch.isDigit then
      let d := ch.toNat - '0'.toNat
      if fitsDigit significand d then integerDigits positive (significand * 10 + d) (c.step ch r)
      else longDigits positive significand 0 c
    else numberTail positive significand c
  | [] => numberTail positive significand c
termination_by c.rest.length
decreasing_by simp [h]

/-- Reads a number whose sign, if any, is already consumed. -/
def readNumber (positive : Bool) (c : Cursor) : Except JsonError (JsonNumber × Cursor) :=
  match c.rest with
  | [] => .error (c.here .eofInValue)
  | '0' :: _ =>
    let c' := c.next
    match c'.rest with
    | ch :: _ => if ch.isDigit then .error (c'.ahead .invalidNumber) else numberTail positive 0 c'
    | [] => numberTail positive 0 c'
  | ch :: _ =>
    if ch.isDigit then integerDigits positive (ch.toNat - '0'.toNat) c.next
    else .error (c.ahead .invalidNumber)

def hexValue (c : Char) : Option Nat :=
  if c.isDigit then some (c.toNat - '0'.toNat)
  else if 'a' ≤ c ∧ c ≤ 'f' then some (c.toNat - 'a'.toNat + 10)
  else if 'A' ≤ c ∧ c ≤ 'F' then some (c.toNat - 'A'.toNat + 10)
  else none

def Cursor.bytesLeft (c : Cursor) : Nat := (c.rest.map Char.utf8Size).foldr (· + ·) 0

/-- Reads the four hex digits of a `\u` escape. -/
def readHex4 (c : Cursor) : Except JsonError (Nat × Cursor) :=
  if c.bytesLeft < 4 then .error (c.toEnd.here .eofInString)
  else
    let after := c.skipBytes 4
    match c.rest with
    | a :: b :: d :: e :: r =>
      match hexValue a, hexValue b, hexValue d, hexValue e with
      | some x₁, some x₂, some x₃, some x₄ =>
        .ok (x₁ * 4096 + x₂ * 256 + x₃ * 16 + x₄, ⟨r, c.line, c.column + 4⟩)
      | _, _, _, _ => .error (after.here .invalidEscape)
    | _ => .error (after.here .invalidEscape)

/-- Reads the code point of a `\u` escape whose `u` is consumed, joining a surrogate pair. -/
def readUnicodeEscape (c : Cursor) : Except JsonError (Char × Cursor) := do
  let (n, c) ← readHex4 c
  if 0xDC00 ≤ n ∧ n ≤ 0xDFFF then throw (c.here .loneSurrogate)
  else if 0xD800 ≤ n ∧ n ≤ 0xDBFF then
    match c.rest with
    | [] => throw (c.here .eofInString)
    | '\\' :: _ =>
      let c := c.next
      match c.rest with
      | [] => throw (c.here .eofInString)
      | 'u' :: _ =>
        let (n₂, c) ← readHex4 c.next
        if n₂ < 0xDC00 ∨ 0xDFFF < n₂ then throw (c.here .loneSurrogate)
        else
          let code := (n - 0xD800) * 1024 + (n₂ - 0xDC00) + 0x10000
          pure (Char.ofNat code, c)
      | _ :: _ => throw (c.next.here .unexpectedEndOfEscape)
    | _ :: _ => throw (c.next.here .unexpectedEndOfEscape)
  else pure (Char.ofNat n, c)

/-- The character a one-letter escape stands for. -/
def simpleEscape : Char → Option Char
  | '"' => some '"'
  | '\\' => some '\\'
  | '/' => some '/'
  | 'b' => some (Char.ofNat 8)
  | 'f' => some (Char.ofNat 12)
  | 'n' => some '\n'
  | 'r' => some '\r'
  | 't' => some '\t'
  | _ => none

/-- Reads a string's body after its opening quote; `acc` holds the characters read, reversed. -/
def stringBody (c : Cursor) (acc : List Char) : Except JsonError (String × Cursor) :=
  match h : c.rest with
  | [] => .error (c.here .eofInString)
  | ch :: r =>
    if ch = '"' then .ok (String.ofList acc.reverse, c.step ch r)
    else if ch = '\\' then
      let c₁ := c.step ch r
      match r with
      | [] => .error (c₁.here .eofInString)
      | e :: r₁ =>
        let c₂ := c₁.step e r₁
        match simpleEscape e with
        | some s => stringBody c₂ (s :: acc)
        | none =>
          if e = 'u' then
            match readUnicodeEscape c₂ with
            | .ok (u, c₃) =>
              if c₃.rest.length < c.rest.length then stringBody c₃ (u :: acc)
              else .error (c₃.here .invalidEscape)
            | .error err => .error err
          else .error (c₁.ahead .invalidEscape)
    else if ch.toNat < 0x20 then .error ((c.step ch r).here .controlCharacter)
    else stringBody (c.step ch r) (ch :: acc)
termination_by c.rest.length
decreasing_by
  · simp only [Cursor.step_rest, h, List.length_cons]
    omega
  · assumption
  · simp only [Cursor.step_rest, h, List.length_cons]
    omega

/-- Reads the rest of a word after its first letter. -/
def readWord (word : List Char) (c : Cursor) : Except JsonError Cursor :=
  match word with
  | [] => .ok c
  | w :: ws =>
    match c.rest with
    | [] => .error (c.here .eofInValue)
    | ch :: r => if ch = w then readWord ws (c.step ch r) else .error (c.ahead .expectedIdent)

mutual

/-- Reads a value after blanks; `depth` limits brackets and `fuel` the recursion. -/
def readValue (fuel depth : Nat) (c : Cursor) : Except JsonError (Json × Cursor) :=
  match fuel with
  | 0 => .error (c.here .recursionLimit)
  | fuel + 1 =>
    let c := c.skipBlanks
    match c.rest with
    | [] => .error (c.ahead .eofInValue)
    | 'n' :: _ => (readWord ['u', 'l', 'l'] c.next).map fun c => (.null, c)
    | 't' :: _ => (readWord ['r', 'u', 'e'] c.next).map fun c => (.bool true, c)
    | 'f' :: _ => (readWord ['a', 'l', 's', 'e'] c.next).map fun c => (.bool false, c)
    | '-' :: _ => (readNumber false c.next).map fun (n, c) => (.number n, c)
    | '"' :: _ => (stringBody c.next []).map fun (s, c) => (.string s, c)
    | '[' :: _ =>
      if depth ≤ 1 then .error (c.ahead .recursionLimit)
      else readItems fuel (depth - 1) c.next [] true
    | '{' :: _ =>
      if depth ≤ 1 then .error (c.ahead .recursionLimit)
      else readMembers fuel (depth - 1) c.next [] true
    | ch :: _ =>
      if ch.isDigit then (readNumber true c).map fun (n, c) => (.number n, c)
      else .error (c.ahead .expectedValue)

/-- Reads array items up to the closing bracket; `acc` holds the items read, reversed. -/
def readItems (fuel depth : Nat) (c : Cursor) (acc : List Json) (first : Bool) :
    Except JsonError (Json × Cursor) :=
  match fuel with
  | 0 => .error (c.here .recursionLimit)
  | fuel + 1 =>
    let c := c.skipBlanks
    match c.rest with
    | [] => .error (c.ahead .eofInList)
    | ']' :: _ => .ok (.array acc.reverse, c.next)
    | ch :: _ =>
      if first then
        match readValue fuel depth c with
        | .ok (v, c) => readItems fuel depth c (v :: acc) false
        | .error e => .error e
      else if ch = ',' then
        let c := c.next.skipBlanks
        match c.rest with
        | [] => .error (c.ahead .eofInValue)
        | ']' :: _ => .error (c.ahead .trailingComma)
        | _ :: _ =>
          match readValue fuel depth c with
          | .ok (v, c) => readItems fuel depth c (v :: acc) false
          | .error e => .error e
      else .error (c.ahead .expectedListCommaOrEnd)

/-- Reads object members up to the closing brace into a key-sorted list. -/
def readMembers (fuel depth : Nat) (c : Cursor) (acc : List (String × Json)) (first : Bool) :
    Except JsonError (Json × Cursor) :=
  match fuel with
  | 0 => .error (c.here .recursionLimit)
  | fuel + 1 =>
    let c := c.skipBlanks
    match c.rest with
    | [] => .error (c.ahead .eofInObject)
    | '}' :: _ => .ok (.object acc, c.next)
    | ch :: _ =>
      let keyStart : Except JsonError Cursor :=
        if first then
          if ch = '"' then .ok c else .error (c.ahead .keyMustBeString)
        else if ch = ',' then
          let c := c.next.skipBlanks
          match c.rest with
          | '"' :: _ => .ok c
          | '}' :: _ => .error (c.ahead .trailingComma)
          | _ :: _ => .error (c.ahead .keyMustBeString)
          | [] => .error (c.ahead .eofInValue)
        else .error (c.ahead .expectedObjectCommaOrEnd)
      match keyStart with
      | .error e => .error e
      | .ok c =>
        match stringBody c.next [] with
        | .error e => .error e
        | .ok (key, c) =>
          let c := c.skipBlanks
          match c.rest with
          | ':' :: _ =>
            match readValue fuel depth c.next with
            | .ok (v, c) => readMembers fuel depth c (insertField key v acc) false
            | .error e => .error e
          | _ :: _ => .error (c.ahead .expectedColon)
          | [] => .error (c.ahead .eofInObject)

end

/-- Reads a whole JSON document: one value and nothing but blanks after it. -/
def parse (s : String) : Except JsonError Json :=
  let cs := s.toList
  let c : Cursor := ⟨cs, 1, 0⟩
  match readValue (2 * cs.length + 4) 128 c with
  | .error e => .error e
  | .ok (v, c) =>
    let c := c.skipBlanks
    match c.rest with
    | [] => .ok v
    | _ :: _ => .error (c.ahead .trailingCharacters)

end Json

end MudTestbed
