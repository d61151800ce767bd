import MudTestbed.Address.Mac

/-!
# The text of a MAC address reads back

Cutting a text at a separator undoes joining pieces that do not hold it
(`Text.split_intercalate`), and joining the pieces undoes the cut (`Text.intercalate_split`).
Each byte below 256 is written as two hex digits that read back as the byte, so reading the
text of an address gives the address (`MacAddr.parse_toText`), and two addresses with one text
are equal (`MacAddr.toText_inj`).
-/

namespace MudTestbed

set_option autoImplicit false

namespace Text

variable {sep : Char}

theorem splitAux_of_not_mem {p : List Char} (hp : sep ∉ p) (acc : List Char) :
    splitAux sep p acc = [String.ofList (acc.reverse ++ p)] := by
  induction p generalizing acc with
  | nil => rw [splitAux, List.append_nil]
  | cons c rest ih =>
    have hc : c ≠ sep := fun h => hp (h ▸ List.mem_cons_self)
    rw [splitAux, if_neg hc, ih (fun h => hp (List.mem_cons_of_mem c h)), List.reverse_cons,
      List.append_assoc, List.singleton_append]

theorem splitAux_append_sep {p : List Char} (hp : sep ∉ p) (rest acc : List Char) :
    splitAux sep (p ++ sep :: rest) acc = String.ofList (acc.reverse ++ p) :: splitAux sep rest [] := by
  induction p generalizing acc with
  | nil => rw [List.nil_append, splitAux, if_pos rfl, List.append_nil]
  | cons c more ih =>
    have hc : c ≠ sep := fun h => hp (h ▸ List.mem_cons_self)
    rw [List.cons_append, splitAux, if_neg hc, ih (fun h => hp (List.mem_cons_of_mem c h)),
      List.reverse_cons, List.append_assoc, List.singleton_append]

theorem split_intercalate {s : String} (hs : s.toList = [sep]) {parts : List String}
    (hne : parts ≠ []) (h : ∀ p ∈ parts, sep ∉ p.toList) :
    split sep (s.intercalate parts) = parts := by
  unfold split
  rw [String.toList_intercalate, hs]
  induction parts with
  | nil => exact absurd rfl hne
  | cons p rest ih =>
    have hp := h p List.mem_cons_self
    cases rest with
    | nil =>
      rw [List.map_cons, List.map_nil, List.intercalate_singleton, splitAux_of_not_mem hp,
        List.reverse_nil, List.nil_append, String.ofList_toList]
    | cons q more =>
      rw [List.map_cons, List.map_cons, List.intercalate_cons_cons, List.append_assoc,
        List.singleton_append, splitAux_append_sep hp, List.reverse_nil, List.nil_append,
        String.ofList_toList, ← List.map_cons, ih (List.cons_ne_nil q more)
          (fun p' hp' => h p' (List.mem_cons_of_mem p hp'))]

theorem splitAux_ne_nil (cs acc : List Char) : splitAux sep cs acc ≠ [] := by
  induction cs generalizing acc with
  | nil => exact List.cons_ne_nil _ _
  | cons c rest ih =>
    rw [splitAux]
    split
    · exact List.cons_ne_nil _ _
    · exact ih _

theorem intercalate_splitAux (cs acc : List Char) :
    [sep].intercalate ((splitAux sep cs acc).map String.toList) = acc.reverse ++ cs := by
  induction cs generalizing acc with
  | nil => simp [splitAux]
  | cons c rest ih =>
    rw [splitAux]
    split
    · rename_i hc
      rw [List.map_cons, List.intercalate_cons_of_ne_nil (by simpa using splitAux_ne_nil rest []),
        ih, String.toList_ofList, hc]
      simp
    · rw [ih, List.reverse_cons, List.append_assoc, List.singleton_append]

theorem intercalate_split {s : String} (hs : s.toList = [sep]) (t : String) :
    s.intercalate (split sep t) = t := by
  apply String.toList_inj.mp
  rw [String.toList_intercalate, hs, split, intercalate_splitAux, List.reverse_nil,
    List.nil_append]

end Text

namespace MacAddr

theorem hexByte_toList (b : Nat) :
    (hexByte b).toList = [Nat.digitChar (b / 16 % 16), Nat.digitChar (b % 16)] := by
  have hdigit : ∀ d < 16,
      (if d < 10 then Char.ofNat (48 + d) else Char.ofNat (87 + d)) = Nat.digitChar d := by
    decide
  simp only [hexByte, String.toList_ofList, hdigit _ (Nat.mod_lt _ (by decide))]

theorem forall_mem_hexByte {p : Char → Prop} (hdigit : ∀ d < 16, p (Nat.digitChar d)) (b : Nat) :
    ∀ c ∈ (hexByte b).toList, p c := by
  rw [hexByte_toList, List.forall_mem_cons, List.forall_mem_singleton]
  exact ⟨hdigit _ (Nat.mod_lt _ (by decide)), hdigit _ (Nat.mod_lt _ (by decide))⟩

theorem parseByte?_hexByte : ∀ b < 256, parseByte? (hexByte b) = some b := by
  decide +kernel

theorem colon_not_mem_hexByte (b : Nat) : ':' ∉ (hexByte b).toList :=
  fun hc => forall_mem_hexByte (p := (· ≠ ':')) (by decide) b ':' hc rfl

theorem mapM_parseByte?_hexByte {bytes : List Nat} (h : ∀ b ∈ bytes, b < 256) :
    (bytes.map hexByte).mapM parseByte? = some bytes := by
  induction bytes with
  | nil => rfl
  | cons b rest ih =>
    rw [List.map_cons, List.mapM_cons, parseByte?_hexByte b (h b List.mem_cons_self),
      ih (fun b' hb' => h b' (List.mem_cons_of_mem b hb'))]
    rfl

theorem split_toText (m : MacAddr) : Text.split ':' m.toText = m.bytes.map hexByte := by
  refine Text.split_intercalate (by decide) ?_ ?_
  · intro hnil
    have hlen := congrArg List.length hnil
    rw [List.length_map, m.length_bytes] at hlen
    cases hlen
  · intro p hp
    obtain ⟨b, -, rfl⟩ := List.mem_map.mp hp
    exact colon_not_mem_hexByte b

theorem parse_toText (m : MacAddr) : parse m.toText = .ok m := by
  have hparts := split_toText m
  unfold parse
  dsimp only
  split
  · rename_i bytes hbytes
    rw [hparts, mapM_parseByte?_hexByte m.bytes_lt, Option.some.injEq] at hbytes
    subst hbytes
    rw [dif_pos m.length_bytes]
  · rename_i hnone
    rw [hparts, mapM_parseByte?_hexByte m.bytes_lt] at hnone
    cases hnone

theorem toText_inj {m m' : MacAddr} : m.toText = m'.toText ↔ m = m' := by
  constructor
  · intro h
    have hparse := parse_toText m
    rw [h, parse_toText m'] at hparse
    exact (Except.ok.inj hparse).symm
  · rintro rfl
    rfl

end MacAddr

end MudTestbed
