import MudTestbed.Error
import MudTestbed.Json.Decode
import MudTestbed.Text.Numeral
import MudTestbed.Text.Split

/-!
# Datapath ids

A `Dpid` names an OpenFlow switch: a 64-bit number written as sixteen lowercase hex digits.

Reading removes every leading `0x`, as often as it repeats; what is left must be one to
sixteen bytes and an unsigned hex number (a `+` allowed). A failure reports the text as
given: `invalid datapath id '<text>'`.
-/

namespace MudTestbed

/-- An OpenFlow datapath identifier. -/
structure Dpid where
  value : Nat
  value_lt : value < 0x10000000000000000
  deriving DecidableEq, Repr

namespace Dpid

def toText (d : Dpid) : String :=
  let hex := String.ofList (Nat.toDigits 16 d.value)
  String.ofList (List.replicate (16 - hex.length) '0') ++ hex

def invalid (s : String) : Error := .invalidConfig s!"invalid datapath id '{s}'"

/-- Reads a datapath id, see the module comment. -/
def parse (s : String) : Except Error Dpid :=
  let digits := String.ofList (Text.stripPrefixes ['0', 'x'] s.toList)
  if digits.isEmpty ∨ 16 < digits.utf8ByteSize then .error (invalid s)
  else match h : Text.parseNat? 16 (0x10000000000000000 - 1) digits with
    | some v =>
      have : v < 0x10000000000000000 := by have := Text.parseNat?_le h; omega
      .ok ⟨v, this⟩
    | none => .error (invalid s)

def ofWord (n : UInt64) : Dpid := ⟨n.toNat, n.toNat_lt⟩

/-- The document form: a 64-bit number, or a text read with `parse`. -/
def decode : Decoder Dpid := fun place j => Decode.within place <|
  match j with
  | .number (.nat n) =>
    if h : n < 0x10000000000000000 then .ok ⟨n, h⟩
    else Decode.fail "data did not match any variant of untagged enum DpidRepr"
  | .string s => (parse s).mapError fun e => ⟨e.message, none⟩
  | _ => Decode.fail "data did not match any variant of untagged enum DpidRepr"

end Dpid

end MudTestbed
