import MudTestbed.Error
import MudTestbed.Json.Decode
import MudTestbed.Text.Numeral
import MudTestbed.Text.Split

/-!
# MAC addresses

A `MacAddr` is six bytes. It is written as six two-digit lowercase hex bytes joined by `:`.

Reading splits the text at every `:` and wants exactly six parts, each exactly two bytes
long and each an unsigned hex number of one byte: two hex digits in either case, or `+`
and one hex digit. Anything else is `invalid MAC address '<text>'`.

Host `i` of a topology (from 0) gets the address `sequential i`, the low 48 bits of `i + 1`.
-/

namespace MudTestbed

/-- An Ethernet MAC address. -/
structure MacAddr where
  bytes : List Nat
  length_bytes : bytes.length = 6 := by decide
  bytes_lt : ∀ b ∈ bytes, b < 256 := by decide
  deriving DecidableEq, Repr

namespace MacAddr

def hexByte (b : Nat) : String :=
  let digit (d : Nat) : Char := if d < 10 then Char.ofNat (48 + d) else Char.ofNat (87 + d)
  String.ofList [digit (b / 16 % 16), digit (b % 16)]

def toText (m : MacAddr) : String := ":".intercalate (m.bytes.map hexByte)

def ofNat (n : Nat) : MacAddr :=
  ⟨[5, 4, 3, 2, 1, 0].map fun k => n / Nat.pow 256 k % 256, by simp, by
    intro b hb
    obtain ⟨k, -, rfl⟩ := List.mem_map.mp hb
    exact Nat.mod_lt _ (by decide)⟩

def sequential (index : Nat) : MacAddr := ofNat ((index + 1) % 0x10000000000000000)

def invalid (s : String) : Error := .invalidConfig s!"invalid MAC address '{s}'"

def parseByte? (part : String) : Option Nat :=
  if part.utf8ByteSize = 2 then Text.parseNat? 16 255 part else none

theorem parseByte?_lt {part : String} {b : Nat} (h : parseByte? part = some b) : b < 256 := by
  unfold parseByte? at h
  split at h
  · exact Nat.lt_succ_of_le (Text.parseNat?_le h)
  · cases h

theorem mapM_parseByte?_lt {parts : List String} {bytes : List Nat}
    (h : parts.mapM parseByte? = some bytes) : ∀ b ∈ bytes, b < 256 := by
  induction parts generalizing bytes with
  | nil => cases h; simp
  | cons part rest ih =>
    rw [List.mapM_cons] at h
    cases hb : parseByte? part with
    | none => rw [hb] at h; cases h
    | some b =>
      cases hr : rest.mapM parseByte? with
      | none => rw [hb, hr] at h; cases h
      | some bs =>
        rw [hb, hr] at h
        cases h
        intro x hx
        rcases List.mem_cons.mp hx with rfl | hx
        · exact parseByte?_lt hb
        · exact ih hr x hx

/-- Reads a MAC address, see the module comment. -/
def parse (s : String) : Except Error MacAddr :=
  let parts := Text.split ':' s
  match h : parts.mapM parseByte? with
  | some bytes =>
    if hb : bytes.length = 6 then .ok ⟨bytes, hb, mapM_parseByte?_lt h⟩ else .error (invalid s)
  | none => .error (invalid s)

example : (parse "00:00:00:00:00:B1").map toText = .ok "00:00:00:00:00:b1" := by rfl

example : (sequential 255).toText = "00:00:00:00:01:00" := by decide

def decode : Decoder MacAddr := Decode.parsed parse Error.message

end MacAddr

end MudTestbed
