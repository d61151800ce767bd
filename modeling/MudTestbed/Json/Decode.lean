import MudTestbed.Json.Value
import MudTestbed.Binary64.Round
import MudTestbed.Binary64.Format
import MudTestbed.Text.Quoted

/-!
# Decoding typed values from documents

A `Decoder α` turns a document value into an `α` or a `DecodeError` worded as a typed
reader words it: `invalid type: integer `5`, expected a string`, `missing field `url``,
`unknown field `x`, expected one of `a`, `b``, and so on.

Documents come from JSON text, whose objects are key-sorted, or from TOML text, whose tables
keep their document order; decoders visit members in the order given, so the first fault in
that order is the one reported.

TOML errors point into the text. A decoder therefore knows the `Place` of its value, the
path from the document root, and an error it raises gets the spot of the innermost value
being decoded (`within`), or of a key for an unknown field. Content that was buffered first,
the members of a flattened record, has no path: its errors take the spot of the record
that holds it. The place also says which reader produced the document, because the two
name an unexpected float differently: JSON errors write its shortest document form (`1e20`),
TOML errors its plain digits with a point (`100000000000000000000.0`).
-/

namespace MudTestbed

/-- One step of a path into a document. -/
inductive PathStep where
  | key (k : String)
  | index (i : Nat)
  deriving DecidableEq, Repr

/-- What a decoding error points at: the key of a member, or a value. -/
inductive Spot where
  | key (path : List PathStep)
  | value (path : List PathStep)
  deriving DecidableEq, Repr

/-- A decoding error and, once known, where it points. -/
structure DecodeError where
  message : String
  spot : Option Spot := none
  deriving DecidableEq, Repr

/-- Where a decoded value sits: its reader and its path from the root, if known. -/
structure Place where
  /-- Whether the document is JSON text. -/
  json : Bool
  path : Option (List PathStep)
  deriving DecidableEq, Repr

def Place.ofJson : Place := ⟨true, none⟩

def Place.tomlRoot : Place := ⟨false, some []⟩

def Place.buffered (p : Place) : Place := { p with path := none }

abbrev Decoder (α : Type) := Place → Json → Except DecodeError α

namespace Decode

def child (place : Place) (step : PathStep) : Place :=
  { place with path := place.path.map (· ++ [step]) }

def fail {α : Type} (msg : String) : Except DecodeError α := .error ⟨msg, none⟩

def within {α : Type} (place : Place) (r : Except DecodeError α) : Except DecodeError α :=
  match r with
  | .error ⟨m, none⟩ => .error ⟨m, place.path.map .value⟩
  | r => r

def withPoint (x : Binary64) : String :=
  let t := x.toPlainString
  if x.isFinite && !t.toList.contains '.' then t ++ ".0" else t

/-- How an error names a value it did not expect, in a document of the kind `place` says. -/
def describe (place : Place) : Json → String
  | .null => "null"
  | .bool b => s!"boolean `{b}`"
  | .number (.nat n) => s!"integer `{n}`"
  | .number (.negInt n) => s!"integer `{n}`"
  | .number (.double x) =>
    let t := if place.json then x.format .document else withPoint x
    s!"floating point `{t}`"
  | .string s => "string " ++ Text.quoted s
  | .array _ => "sequence"
  | .object _ => "map"

def invalidType (place : Place) (j : Json) (expected : String) : String :=
  s!"invalid type: {describe place j}, expected {expected}"

def invalidValue (place : Place) (j : Json) (expected : String) : String :=
  s!"invalid value: {describe place j}, expected {expected}"

/-- A list of names as messages give it: one, two joined by `or`, or `one of` a list. -/
def oneOf (names : List String) : String :=
  match names with
  | [] => "nothing"
  | [a] => s!"`{a}`"
  | [a, b] => s!"`{a}` or `{b}`"
  | _ => "one of " ++ ", ".intercalate (names.map fun n => s!"`{n}`")

def missingField (k : String) : String := s!"missing field `{k}`"

def unknownField (k : String) (expected : List String) : String :=
  if expected.isEmpty then s!"unknown field `{k}`, there are no fields"
  else s!"unknown field `{k}`, expected {oneOf expected}"

def unknownVariant (v : String) (expected : List String) : String :=
  if expected.isEmpty then s!"unknown variant `{v}`, there are no variants"
  else s!"unknown variant `{v}`, expected {oneOf expected}"

def string : Decoder String := fun place j => within place <|
  match j with
  | .string s => .ok s
  | j => fail (invalidType place j "a string")

def bool : Decoder Bool := fun place j => within place <|
  match j with
  | .bool b => .ok b
  | j => fail (invalidType place j "a boolean")

def unsigned (bits : Nat) (name : String) : Decoder Nat := fun place j => within place <|
  match j with
  | .number (.nat n) => if n < Nat.pow 2 bits then .ok n else fail (invalidValue place j name)
  | .number (.negInt _) => fail (invalidValue place j name)
  | j => fail (invalidType place j name)

def signed (bits : Nat) (name : String) : Decoder Int := fun place j => within place <|
  match j with
  | .number (.nat n) => if n < Nat.pow 2 (bits - 1) then .ok n else fail (invalidValue place j name)
  | .number (.negInt n) => if -Int.pow 2 (bits - 1) ≤ n then .ok n else fail (invalidValue place j name)
  | j => fail (invalidType place j name)

/-- A double; integers are rounded to the nearest double. -/
def double : Decoder Binary64 := fun place j => within place <|
  match j with
  | .number (.nat n) => .ok (Binary64.ofNat n)
  | .number (.negInt n) => .ok (Binary64.ofInt n)
  | .number (.double x) => .ok x
  | j => fail (invalidType place j "f64")

def option {α : Type} (d : Decoder α) : Decoder (Option α) := fun place j =>
  match j with
  | .null => .ok none
  | j => (d place j).map some

def items {α : Type} (d : Decoder α) : Decoder (List α) := fun place j => within place <|
  match j with
  | .array xs =>
    (xs.zipIdx.mapM fun (x, i) => d (child place (.index i)) x)
  | j => fail (invalidType place j "a sequence")

def map {α : Type} (d : Decoder α) : Decoder (List (String × α)) := fun place j =>
  within place <|
  match j with
  | .object ms => ms.mapM fun (k, v) => (d (child place (.key k)) v).map (k, ·)
  | j => fail (invalidType place j "a map")

def parsed {α ε : Type} (f : String → Except ε α) (msg : ε → String) : Decoder α :=
  fun place j => within place <|
    match string place j with
    | .ok s => (f s).mapError fun e => ⟨msg e, none⟩
    | .error e => .error e

def members (place : Place) (what : String) (j : Json) :
    Except DecodeError (List (String × Json)) :=
  match j with
  | .object ms => .ok ms
  | j => fail (invalidType place j what)

abbrev Check := Place → Json → Except DecodeError Unit

def check {α : Type} (d : Decoder α) : Check := fun place j => (d place j).map fun _ => ()

/-- Visits members in order, checking named fields and refusing or skipping the others. -/
def visit (place : Place) (fields : List (String × Check)) (deny : Bool)
    (ms : List (String × Json)) : Except DecodeError Unit :=
  ms.forM fun (k, v) =>
    match fields.lookup k with
    | some c => c (child place (.key k)) v
    | none =>
      if deny then
        .error ⟨unknownField k (fields.map Prod.fst), (child place (.key k)).path.map .key⟩
      else .ok ()

def required {α : Type} (place : Place) (ms : List (String × Json)) (k : String)
    (d : Decoder α) : Except DecodeError α :=
  match ms.lookup k with
  | some v => d (child place (.key k)) v
  | none => fail (missingField k)

def optional {α : Type} (place : Place) (ms : List (String × Json)) (k : String)
    (d : Decoder α) (default : α) : Except DecodeError α :=
  match ms.lookup k with
  | some v => d (child place (.key k)) v
  | none => .ok default

def variantName (names : List String) : Decoder String := fun place j => within place <|
  match j with
  | .string s => if names.contains s then .ok s else fail (unknownVariant s names)
  | j => fail (invalidType place j "variant identifier")

def datetimeKey : String := "$__toml_private_datetime"

/-- The kind of a TOML value, as TOML errors name it. -/
def tomlTypeName : Json → String
  | .null => "none"
  | .bool _ => "boolean"
  | .number (.double _) => "float"
  | .number _ => "integer"
  | .string _ => "string"
  | .array _ => "array"
  | .object [(k, _)] => if k == datetimeKey then "datetime" else "table"
  | .object _ => "table"

/-- An externally tagged variant among `names`: its name, and its content if any. -/
def variant (names : List String) : Decoder (String × Option Json) := fun place j =>
  within place <|
  match j with
  | .string s => if names.contains s then .ok (s, none) else fail (unknownVariant s names)
  | .object [(k, v)] =>
    if !place.json && k == datetimeKey then fail "wanted string or table"
    else if names.contains k then .ok (k, some v)
    else if place.json then fail (unknownVariant k names)
    else .error ⟨unknownVariant k names, (child place (.key k)).path.map .key⟩
  | .object [] =>
    if place.json then fail (invalidValue place j "map with a single key")
    else fail "wanted exactly 1 element, found 0 elements"
  | .object _ =>
    if place.json then fail (invalidValue place j "map with a single key")
    else fail "wanted exactly 1 element, more than 1 element"
  | j => if place.json then fail (invalidType place j "string or map") else fail "wanted string or table"

/-- The content of a unit variant: none; in JSON `null`, in TOML an empty array or table. -/
def unitContent (place : Place) : Option Json → Except DecodeError Unit
  | none => .ok ()
  | some j => within place <|
    if place.json then
      match j with
      | .null => .ok ()
      | j => fail (invalidType place j "unit")
    else
      match j with
      | .array [] => .ok ()
      | .array _ => fail "expected empty array"
      | .object [] => .ok ()
      | .object [(k, _)] =>
        if k == datetimeKey then fail "expected table, found datetime" else fail "expected empty table"
      | .object _ => fail "expected empty table"
      | j => fail s!"expected table, found {tomlTypeName j}"

/-- The members of a struct variant's content, checked against `fields`. -/
def structContent (place : Place) (fields : List String) (expecting : String) :
    Option Json → Except DecodeError (List (String × Json))
  | some (.object ms) => within place <|
    if place.json then .ok ms
    else
      let extra := ms.filter fun (k, _) => !fields.contains k
      let extraText := ", ".intercalate (extra.map Prod.fst)
      let fieldsText := ", ".intercalate fields
      if extra.isEmpty then .ok ms
      else fail s!"unexpected keys in table: {extraText}, available keys: {fieldsText}"
  | some j => within place (fail (invalidType place j (if place.json then "struct variant" else expecting)))
  | none => within place (fail "invalid type: unit variant, expected struct variant")

def unitVariant (names : List String) : Decoder String := fun place j => do
  let (name, content) ← variant names place j
  unitContent (child place (.key name)) content
  pure name

end Decode

end MudTestbed
