import MudTestbed.Binary64.Basic

/-!
# JSON values

A `Json` value is what a JSON document reads to. Numbers keep the three forms a reader
distinguishes: a non-negative integer below `2 ^ 64`, a negative integer not below `-2 ^ 63`,
and a double for everything else (fractions, exponents, and integers out of those ranges).
Objects keep their members in strictly increasing key order, the order in which every
consumer of a document visits them; `Json.insertField` keeps that order and lets a later
member replace an earlier one of the same key.
-/

namespace MudTestbed

/-- A JSON number as read from a document. -/
inductive JsonNumber where
  /-- A non-negative integer below `2 ^ 64`. -/
  | nat (n : Nat)
  /-- A negative integer not below `-2 ^ 63`. -/
  | negInt (n : Int)
  /-- Any other number, rounded to a double. -/
  | double (x : Binary64)
  deriving DecidableEq, Repr, Inhabited

/-- A JSON value. Object members are kept sorted by key, without repeated keys. -/
inductive Json where
  | null
  | bool (b : Bool)
  | number (n : JsonNumber)
  | string (s : String)
  | array (items : List Json)
  | object (fields : List (String × Json))
  deriving Repr, Inhabited

namespace Json

/-- Inserts a member into a key-sorted member list, replacing the value of an equal key. -/
def insertField (k : String) (v : Json) : List (String × Json) → List (String × Json)
  | [] => [(k, v)]
  | (k', v') :: rest =>
    if k < k' then (k, v) :: (k', v') :: rest
    else if k = k' then (k, v) :: rest
    else (k', v') :: insertField k v rest

def obj (fields : List (String × Json)) : Json :=
  .object (fields.foldl (fun acc (k, v) => insertField k v acc) [])

def field? : Json → String → Option Json
  | .object fields, k => fields.lookup k
  | _, _ => none

def ofNat (n : Nat) : Json := .number (.nat n)

def ofInt (n : Int) : Json := if n < 0 then .number (.negInt n) else .number (.nat n.toNat)

def ofOption {α : Type} (f : α → Json) : Option α → Json
  | some a => f a
  | none => .null

def ofStrings (xs : List String) : Json := .array (xs.map .string)

theorem insertField_lookup_self (k : String) (v : Json) (fs : List (String × Json)) :
    (insertField k v fs).lookup k = some v := by
  induction fs with
  | nil => simp [insertField]
  | cons kv rest ih =>
    obtain ⟨k', v'⟩ := kv
    unfold insertField
    by_cases h₁ : k < k'
    · simp [h₁]
    · by_cases h₂ : k = k'
      · simp [h₂]
      · have : (k == k') = false := by simpa using h₂
        simp [h₁, h₂, List.lookup_cons, this, ih]

end Json

end MudTestbed
