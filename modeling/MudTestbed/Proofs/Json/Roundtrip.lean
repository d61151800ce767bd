import MudTestbed.Json.Read
import MudTestbed.Json.Write

/-!
# Reading back what the writer wrote

The reader gives back every value the writer writes without escapes and without numbers,
when the value's objects keep their keys in increasing order and the value nests fewer
brackets than the reader allows: `Json.parse_render`.

The proof follows the reader's three mutual functions. `ReadsValues F`, `ReadsItems F` and
`ReadsMembers F` say that with fuel `F` each of them reads back a written value, the rest of
an array, or the rest of an object, and stops right after it. Each holds at `F + 1` when
they hold at `F` (`readsValues_succ`, `readsItems_succ`, `readsMembers_succ`); the text
read is never shorter than the fuel it needs, so `parse`'s fuel suffices.
-/

namespace MudTestbed

set_option autoImplicit false

namespace Json

def PlainChar (c : Char) : Prop := c ≠ '"' ∧ c ≠ '\\' ∧ 0x20 ≤ c.toNat

instance (c : Char) : Decidable (PlainChar c) := inferInstanceAs (Decidable (_ ∧ _ ∧ _))

def PlainText (s : String) : Prop := ∀ c ∈ s.toList, PlainChar c

instance (s : String) : Decidable (PlainText s) := List.decidableBAll _ s.toList

mutual

/-- A value written without escapes or numbers, keys in order, nesting below `d`. -/
def Plain : Nat → Json → Prop
  | _, .null => True
  | _, .bool _ => True
  | _, .number _ => False
  | _, .string s => PlainText s
  | d, .array items => 1 < d ∧ PlainItems (d - 1) items
  | d, .object fields => 1 < d ∧ PlainFields (d - 1) fields ∧ fields.Pairwise (·.1 < ·.1)

def PlainItems (d : Nat) : List Json → Prop
  | [] => True
  | x :: xs => Plain d x ∧ PlainItems d xs

def PlainFields (d : Nat) : List (String × Json) → Prop
  | [] => True
  | (k, v) :: fs => PlainText k ∧ Plain d v ∧ PlainFields d fs

end

section Text

theorem colon_toList : ":".toList = [':'] := by decide
theorem comma_toList : ",".toList = [','] := by decide
theorem open_bracket_toList : "[".toList = ['['] := by decide
theorem open_brace_toList : "\x7b".toList = ['\x7b'] := by decide

theorem escapeChar_plain {c : Char} (h : PlainChar c) : escapeChar c = String.singleton c := by
  obtain ⟨hq, hb, hc⟩ := h
  unfold escapeChar
  split
  · exact absurd rfl hq
  · exact absurd rfl hb
  · exact absurd hc (by decide)
  · exact absurd hc (by decide)
  · exact absurd hc (by decide)
  · rw [if_neg (by omega), if_neg (by omega), if_neg (by omega)]

theorem flatMap_escapeChar {cs : List Char} (h : ∀ c ∈ cs, PlainChar c) :
    (cs.map escapeChar).flatMap String.toList = cs := by
  induction cs with
  | nil => rfl
  | cons c rest ih =>
    rw [List.map_cons, List.flatMap_cons, escapeChar_plain (h c List.mem_cons_self),
      String.toList_singleton, ih (fun c' hc' => h c' (List.mem_cons_of_mem c hc'))]
    rfl

theorem quote_toList {s : String} (h : PlainText s) :
    (quote s).toList = '"' :: s.toList ++ ['"'] := by
  unfold quote
  rw [String.toList_append, String.toList_append, String.toList_join, flatMap_escapeChar h]
  rfl

def moreItemsText (xs : List Json) : List Char := xs.flatMap fun x => ',' :: (render x).toList

def memberText (k : String) (v : Json) : List Char := (quote k).toList ++ ':' :: (render v).toList

def moreFieldsText (fs : List (String × Json)) : List Char :=
  fs.flatMap fun kv => ',' :: memberText kv.1 kv.2

def itemsText : Bool → List Json → List Char
  | true, items => (renderItems items).toList
  | false, items => moreItemsText items

def fieldsText : Bool → List (String × Json) → List Char
  | true, fields => (renderFields fields).toList
  | false, fields => moreFieldsText fields

theorem renderItems_cons (x : Json) (xs : List Json) :
    (renderItems (x :: xs)).toList = (render x).toList ++ moreItemsText xs := by
  induction xs generalizing x with
  | nil => simp only [renderItems, moreItemsText, List.flatMap_nil, List.append_nil]
  | cons y ys ih =>
    rw [renderItems.eq_3 x (y :: ys) (List.cons_ne_nil y ys), String.toList_append,
      String.toList_append, ih y, comma_toList]
    simp only [moreItemsText, List.flatMap_cons, List.append_assoc, List.cons_append,
      List.nil_append]

theorem renderFields_cons (k : String) (v : Json) (fs : List (String × Json)) :
    (renderFields ((k, v) :: fs)).toList = memberText k v ++ moreFieldsText fs := by
  induction fs generalizing k v with
  | nil =>
    simp only [renderFields, memberText, moreFieldsText, List.flatMap_nil, List.append_nil,
      String.toList_append, colon_toList, List.append_assoc, List.singleton_append]
  | cons kv rest ih =>
    obtain ⟨k', v'⟩ := kv
    rw [renderFields.eq_3 k v ((k', v') :: rest) (List.cons_ne_nil _ _), String.toList_append,
      String.toList_append, String.toList_append, String.toList_append, ih k' v']
    simp only [memberText, moreFieldsText, List.flatMap_cons, List.append_assoc, colon_toList,
      comma_toList, List.cons_append, List.nil_append]

theorem render_eq_cons {d : Nat} {v : Json} (hv : Plain d v) :
    ∃ ch t, (render v).toList = ch :: t ∧ ch ∈ ['n', 't', 'f', '"', '[', '\x7b'] := by
  cases v with
  | null => exact ⟨'n', _, rfl, by decide⟩
  | bool b => cases b <;> exact ⟨_, _, rfl, by decide⟩
  | number n => exact absurd hv (by simp [Plain])
  | string s =>
    rw [render, quote_toList hv]
    exact ⟨'"', _, rfl, by decide⟩
  | array items =>
    rw [render, String.toList_append, String.toList_append, open_bracket_toList]
    exact ⟨'[', _, rfl, by decide⟩
  | object fields =>
    rw [render, String.toList_append, String.toList_append, open_brace_toList]
    exact ⟨'\x7b', _, rfl, by decide⟩

end Text

namespace Cursor

variable {c : Cursor} {ch : Char} {r : List Char}

def Blank (ch : Char) : Prop := ch = ' ' ∨ ch = '\t' ∨ ch = '\n' ∨ ch = '\r'

instance : DecidablePred Blank := fun _ => inferInstanceAs (Decidable (_ ∨ _ ∨ _ ∨ _))

theorem skipBlanks_of_head (hc : c.rest = ch :: r) (hb : ¬Blank ch) : c.skipBlanks = c := by
  rw [skipBlanks]
  split
  · rename_i _ _ h
    rw [hc, List.cons.injEq] at h
    obtain ⟨rfl, rfl⟩ := h
    exact if_neg hb
  · rfl

theorem skipBlanks_of_nil (hc : c.rest = []) : c.skipBlanks = c := by
  rw [skipBlanks]
  split
  · rename_i h
    rw [hc] at h
    cases h
  · rfl

theorem next_rest (hc : c.rest = ch :: r) : c.next.rest = r := by
  simp only [next, hc, step_rest]

end Cursor

theorem readWord_prefix (w : List Char) {c : Cursor} {rest : List Char} (hc : c.rest = w ++ rest) :
    ∃ c', readWord w c = .ok c' ∧ c'.rest = rest := by
  induction w generalizing c with
  | nil => exact ⟨c, rfl, hc⟩
  | cons x xs ih =>
    rw [List.cons_append] at hc
    rw [readWord, hc]
    simp only [if_pos]
    exact ih (Cursor.step_rest _ _ _)

theorem stringBody_plain {cs : List Char} (hcs : ∀ ch ∈ cs, PlainChar ch) {c : Cursor}
    (acc : List Char) {rest : List Char} (hc : c.rest = cs ++ '"' :: rest) :
    ∃ c', stringBody c acc = .ok (String.ofList (acc.reverse ++ cs), c') ∧ c'.rest = rest := by
  induction cs generalizing c acc with
  | nil =>
    rw [stringBody]
    split
    · rename_i h
      rw [hc] at h
      cases h
    · rename_i ch r h
      rw [hc, List.nil_append, List.cons.injEq] at h
      obtain ⟨rfl, rfl⟩ := h
      rw [if_pos rfl, List.append_nil]
      exact ⟨_, rfl, Cursor.step_rest _ _ _⟩
  | cons x xs ih =>
    obtain ⟨hq, hb, hctl⟩ := hcs x List.mem_cons_self
    rw [stringBody]
    split
    · rename_i h
      rw [hc] at h
      cases h
    · rename_i ch r h
      rw [hc, List.cons_append, List.cons.injEq] at h
      obtain ⟨rfl, rfl⟩ := h
      rw [if_neg hq, if_neg hb, if_neg (by omega)]
      obtain ⟨c', hread, hrest⟩ := ih (fun ch' h' => hcs ch' (List.mem_cons_of_mem x h'))
        (x :: acc) (Cursor.step_rest _ _ _)
      refine ⟨c', ?_, hrest⟩
      rw [hread, List.reverse_cons, List.append_assoc, List.singleton_append]

theorem head_facts {ch : Char} (h : ch ∈ ['n', 't', 'f', '"', '[', '\x7b']) :
    ¬Cursor.Blank ch ∧ ch ≠ ']' ∧ ch ≠ '\x7d' := by
  simp only [List.mem_cons, List.not_mem_nil, or_false] at h
  rcases h with rfl | rfl | rfl | rfl | rfl | rfl <;> decide

section Fuel

def ReadsValues (F : Nat) : Prop :=
  ∀ (d : Nat) (v : Json) (c : Cursor) (rest : List Char), Plain d v →
    c.rest = (render v).toList ++ rest → (render v).toList.length ≤ F →
    ∃ c', readValue F d c = .ok (v, c') ∧ c'.rest = rest

def ReadsItems (F : Nat) : Prop :=
  ∀ (d : Nat) (items : List Json) (first : Bool) (acc : List Json) (c : Cursor)
    (rest : List Char), PlainItems d items →
    c.rest = itemsText first items ++ ']' :: rest → (itemsText first items).length < F →
    ∃ c', readItems F d c acc first = .ok (.array (acc.reverse ++ items), c') ∧ c'.rest = rest

/-- With fuel `F` the reader reads back every plain object written. -/
def ReadsMembers (F : Nat) : Prop :=
  ∀ (d : Nat) (fields : List (String × Json)) (first : Bool) (acc : List (String × Json))
    (c : Cursor) (rest : List Char), PlainFields d fields →
    (acc ++ fields).Pairwise (·.1 < ·.1) →
    c.rest = fieldsText first fields ++ '\x7d' :: rest → (fieldsText first fields).length < F →
    ∃ c', readMembers F d c acc first = .ok (.object (acc ++ fields), c') ∧ c'.rest = rest

theorem render_null_toList : (render .null).toList = ['n', 'u', 'l', 'l'] := by decide
theorem render_true_toList : (render (.bool true)).toList = ['t', 'r', 'u', 'e'] := by decide
theorem render_false_toList : (render (.bool false)).toList = ['f', 'a', 'l', 's', 'e'] := by
  decide

theorem render_array_toList (items : List Json) :
    (render (.array items)).toList = '[' :: (renderItems items).toList ++ [']'] := by
  rw [render, String.toList_append, String.toList_append, open_bracket_toList]
  rfl

theorem render_object_toList (fields : List (String × Json)) :
    (render (.object fields)).toList = '\x7b' :: (renderFields fields).toList ++ ['\x7d'] := by
  rw [render, String.toList_append, String.toList_append, open_brace_toList]
  rfl

theorem readsValues_succ {F : Nat} (hI : ReadsItems F) (hM : ReadsMembers F) :
    ReadsValues (F + 1) := by
  intro d v c rest hv hc hlen
  cases v with
  | null =>
    simp only [render_null_toList, List.cons_append, List.nil_append] at hc
    obtain ⟨c', hword, hrest⟩ := readWord_prefix ['u', 'l', 'l'] (Cursor.next_rest hc)
    refine ⟨c', ?_, hrest⟩
    rw [readValue]
    dsimp only
    rw [Cursor.skipBlanks_of_head hc (by decide), hc]
    simp only [hword, Except.map]
  | bool b =>
    cases b with
    | true =>
      simp only [render_true_toList, List.cons_append, List.nil_append] at hc
      obtain ⟨c', hword, hrest⟩ := readWord_prefix ['r', 'u', 'e'] (Cursor.next_rest hc)
      refine ⟨c', ?_, hrest⟩
      rw [readValue]
      dsimp only
      rw [Cursor.skipBlanks_of_head hc (by decide), hc]
      simp only [hword, Except.map]
    | false =>
      simp only [render_false_toList, List.cons_append, List.nil_append] at hc
      obtain ⟨c', hword, hrest⟩ := readWord_prefix ['a', 'l', 's', 'e'] (Cursor.next_rest hc)
      refine ⟨c', ?_, hrest⟩
      rw [readValue]
      dsimp only
      rw [Cursor.skipBlanks_of_head hc (by decide), hc]
      simp only [hword, Except.map]
  | number n => exact absurd hv (by simp [Plain])
  | string s =>
    have hs : PlainText s := hv
    simp only [render, quote_toList hs, List.cons_append, List.append_assoc] at hc
    obtain ⟨c', hbody, hrest⟩ := stringBody_plain hs [] (Cursor.next_rest hc)
    refine ⟨c', ?_, hrest⟩
    rw [readValue]
    dsimp only
    rw [Cursor.skipBlanks_of_head hc (by decide), hc]
    simp only [hbody, Except.map, List.reverse_nil, List.nil_append, String.ofList_toList]
  | array items =>
    obtain ⟨hd, hitems⟩ := hv
    simp only [render_array_toList, List.cons_append, List.append_assoc, List.nil_append] at hc
    simp only [render_array_toList, List.length_append, List.length_cons] at hlen
    obtain ⟨c', hread, hrest⟩ := hI (d - 1) items true [] c.next rest hitems
      (Cursor.next_rest hc) (by rw [itemsText]; omega)
    refine ⟨c', ?_, hrest⟩
    rw [readValue]
    dsimp only
    rw [Cursor.skipBlanks_of_head hc (by decide), hc]
    simp only [if_neg (show ¬d ≤ 1 by omega), hread, List.reverse_nil, List.nil_append]
  | object fields =>
    obtain ⟨hd, hfields, hsorted⟩ := hv
    simp only [render_object_toList, List.cons_append, List.append_assoc, List.nil_append] at hc
    simp only [render_object_toList, List.length_append, List.length_cons] at hlen
    obtain ⟨c', hread, hrest⟩ := hM (d - 1) fields true [] c.next rest hfields
      (by rwa [List.nil_append]) (Cursor.next_rest hc)
      (by rw [fieldsText]; omega)
    refine ⟨c', ?_, hrest⟩
    rw [readValue]
    dsimp only
    rw [Cursor.skipBlanks_of_head hc (by decide), hc]
    simp only [if_neg (show ¬d ≤ 1 by omega), hread, List.nil_append]

theorem read_item {F d : Nat} (hV : ReadsValues F) (hI : ReadsItems F) {x : Json}
    {xs acc : List Json} {c : Cursor} {rest : List Char} (hx : Plain d x)
    (hxs : PlainItems d xs) (hc : c.rest = (render x).toList ++ (moreItemsText xs ++ ']' :: rest))
    (hlen : (render x).toList.length + (moreItemsText xs).length ≤ F) :
    ∃ c1 c2, readValue F d c = .ok (x, c1) ∧
      readItems F d c1 (x :: acc) false = .ok (.array (acc.reverse ++ x :: xs), c2) ∧
      c2.rest = rest := by
  obtain ⟨ch, t, hrender, -⟩ := render_eq_cons hx
  have hpos : 0 < (render x).toList.length := by rw [hrender]; exact Nat.succ_pos _
  obtain ⟨c1, hread1, hrest1⟩ := hV d x c _ hx hc (by omega)
  obtain ⟨c2, hread2, hrest2⟩ := hI d xs false (x :: acc) c1 rest hxs hrest1 (by
    rw [itemsText]
    omega)
  refine ⟨c1, c2, hread1, ?_, hrest2⟩
  rw [hread2, List.reverse_cons, List.append_assoc, List.singleton_append]

theorem readsItems_succ {F : Nat} (hV : ReadsValues F) (hI : ReadsItems F) :
    ReadsItems (F + 1) := by
  intro d items first acc c rest hitems hc hlen
  cases items with
  | nil =>
    have hc' : c.rest = ']' :: rest := by
      cases first <;> simpa only [itemsText, renderItems, moreItemsText, List.flatMap_nil,
        String.toList_empty, List.nil_append] using hc
    refine ⟨c.next, ?_, Cursor.next_rest hc'⟩
    rw [readItems]
    dsimp only
    rw [Cursor.skipBlanks_of_head hc' (by decide), hc']
    simp only [List.append_nil]
  | cons x xs =>
    obtain ⟨hx, hxs⟩ := hitems
    obtain ⟨ch, t, hrender, hch⟩ := render_eq_cons hx
    obtain ⟨hblank, hbracket, -⟩ := head_facts hch
    cases first with
    | true =>
      rw [itemsText, renderItems_cons, List.append_assoc] at hc
      rw [itemsText, renderItems_cons, List.length_append] at hlen
      have hhead : c.rest = ch :: (t ++ (moreItemsText xs ++ ']' :: rest)) := by
        rw [hc, hrender, List.cons_append]
      obtain ⟨c1, c2, hread1, hread2, hrest2⟩ := read_item hV hI hx hxs hc (by omega)
      refine ⟨c2, ?_, hrest2⟩
      rw [readItems]
      dsimp only
      rw [Cursor.skipBlanks_of_head hhead hblank, hhead]
      split
      · rename_i h
        cases h
      · rename_i h
        exact absurd (List.cons.inj h).1 hbracket
      · rw [if_pos rfl, hread1]
        exact hread2
    | false =>
      have hc' : c.rest = ',' :: ((render x).toList ++ (moreItemsText xs ++ ']' :: rest)) := by
        rw [hc, itemsText]
        simp only [moreItemsText, List.flatMap_cons, List.cons_append, List.append_assoc]
      have hlen' : (render x).toList.length + (moreItemsText xs).length < F := by
        rw [itemsText] at hlen
        simp only [moreItemsText, List.flatMap_cons, List.length_append, List.length_cons]
          at hlen ⊢
        omega
      have hnext := Cursor.next_rest hc'
      have hhead : c.next.rest = ch :: (t ++ (moreItemsText xs ++ ']' :: rest)) := by
        rw [hnext, hrender, List.cons_append]
      obtain ⟨c1, c2, hread1, hread2, hrest2⟩ := read_item hV hI hx hxs hnext (by omega)
      refine ⟨c2, ?_, hrest2⟩
      rw [readItems]
      dsimp only
      rw [Cursor.skipBlanks_of_head hc' (by decide), hc']
      split
      · rename_i h
        cases h
      · rename_i h
        exact absurd (List.cons.inj h).1 (by decide)
      · rename_i h
        obtain ⟨rfl, -⟩ := List.cons.inj h
        rw [if_neg Bool.false_ne_true, if_pos rfl]
        rw [Cursor.skipBlanks_of_head hhead hblank, hhead]
        split
        · rename_i h
          cases h
        · rename_i h
          exact absurd (List.cons.inj h).1 hbracket
        · rw [hread1]
          exact hread2

theorem insertField_of_lt {k : String} (v : Json) {acc : List (String × Json)}
    (h : ∀ p ∈ acc, p.1 < k) : insertField k v acc = acc ++ [(k, v)] := by
  induction acc with
  | nil => rfl
  | cons p rest ih =>
    obtain ⟨k', v'⟩ := p
    have hlt : k' < k := h (k', v') List.mem_cons_self
    have hne : k ≠ k' := fun heq => by subst heq; exact String.lt_irrefl _ hlt
    rw [insertField, if_neg (String.lt_asymm hlt), if_neg hne,
      ih (fun p hp => h p (List.mem_cons_of_mem _ hp))]
    rfl

theorem memberText_eq {k : String} (hk : PlainText k) (v : Json) :
    memberText k v = '"' :: (k.toList ++ '"' :: ':' :: (render v).toList) := by
  simp only [memberText, quote_toList hk, List.cons_append, List.append_assoc, List.nil_append]

theorem read_member {F d : Nat} (hV : ReadsValues F) (hM : ReadsMembers F) {k : String}
    {v : Json} {fs acc : List (String × Json)} {c : Cursor} {rest : List Char}
    (hk : PlainText k) (hv : Plain d v) (hfs : PlainFields d fs)
    (hsorted : (acc ++ (k, v) :: fs).Pairwise (·.1 < ·.1))
    (hc : c.rest = memberText k v ++ (moreFieldsText fs ++ '\x7d' :: rest))
    (hlen : (memberText k v).length + (moreFieldsText fs).length ≤ F) :
    ∃ c1 c2 c3, stringBody c.next [] = .ok (k, c1) ∧
      c1.rest = ':' :: ((render v).toList ++ (moreFieldsText fs ++ '\x7d' :: rest)) ∧
      readValue F d c1.next = .ok (v, c2) ∧
      readMembers F d c2 (insertField k v acc) false = .ok (.object (acc ++ (k, v) :: fs), c3) ∧
      c3.rest = rest := by
  rw [memberText_eq hk] at hc hlen
  simp only [List.cons_append, List.append_assoc] at hc
  obtain ⟨c1, hbody, hrest1⟩ := stringBody_plain hk [] (Cursor.next_rest hc)
  rw [List.reverse_nil, List.nil_append, String.ofList_toList] at hbody
  obtain ⟨c2, hread2, hrest2⟩ := hV d v c1.next _ hv (Cursor.next_rest hrest1) (by
    simp only [List.length_cons, List.length_append] at hlen
    omega)
  have hbelow : ∀ p ∈ acc, p.1 < k :=
    fun p hp => (List.pairwise_append.mp hsorted).2.2 p hp (k, v) List.mem_cons_self
  obtain ⟨c3, hread3, hrest3⟩ := hM d fs false (acc ++ [(k, v)]) c2 rest hfs
    (by rwa [List.append_assoc, List.singleton_append]) hrest2 (by
      rw [fieldsText]
      simp only [List.length_cons, List.length_append] at hlen
      omega)
  refine ⟨c1, c2, c3, hbody, hrest1, hread2, ?_, hrest3⟩
  rw [insertField_of_lt v hbelow, hread3, List.append_assoc, List.singleton_append]

theorem readsMembers_succ {F : Nat} (hV : ReadsValues F) (hM : ReadsMembers F) :
    ReadsMembers (F + 1) := by
  intro d fields first acc c rest hfields hsorted hc hlen
  cases fields with
  | nil =>
    have hc' : c.rest = '\x7d' :: rest := by
      cases first <;> simpa only [fieldsText, renderFields, moreFieldsText, List.flatMap_nil,
        String.toList_empty, List.nil_append] using hc
    refine ⟨c.next, ?_, Cursor.next_rest hc'⟩
    rw [readMembers]
    dsimp only
    rw [Cursor.skipBlanks_of_head hc' (by decide), hc']
    simp only [List.append_nil]
  | cons kv fs =>
    obtain ⟨k, v⟩ := kv
    obtain ⟨hk, hv, hfs⟩ := hfields
    have hkey : memberText k v = '"' :: (k.toList ++ '"' :: ':' :: (render v).toList) :=
      memberText_eq hk v
    cases first with
    | true =>
      rw [fieldsText, renderFields_cons, List.append_assoc] at hc
      rw [fieldsText, renderFields_cons, List.length_append] at hlen
      obtain ⟨c1, c2, c3, hbody, hrest1, hread2, hread3, hrest3⟩ :=
        read_member hV hM hk hv hfs hsorted hc (by omega)
      have hhead : c.rest = '"' :: (k.toList ++ '"' :: ':' :: (render v).toList ++
          (moreFieldsText fs ++ '\x7d' :: rest)) := by
        rw [hc, hkey, List.cons_append]
      refine ⟨c3, ?_, hrest3⟩
      rw [readMembers]
      dsimp only
      rw [Cursor.skipBlanks_of_head hhead (by decide), hhead]
      split
      · rename_i h
        cases h
      · rename_i h
        exact absurd (List.cons.inj h).1 (by decide)
      · rename_i h
        obtain ⟨rfl, -⟩ := List.cons.inj h
        rw [if_pos rfl, if_pos rfl]
        dsimp only
        rw [hbody]
        dsimp only
        rw [Cursor.skipBlanks_of_head hrest1 (by decide), hrest1]
        simp only [hread2]
        exact hread3
    | false =>
      have hc' : c.rest = ',' :: (memberText k v ++ (moreFieldsText fs ++ '\x7d' :: rest)) := by
        rw [hc, fieldsText]
        simp only [moreFieldsText, List.flatMap_cons, List.cons_append, List.append_assoc]
      rw [fieldsText] at hlen
      simp only [moreFieldsText, List.flatMap_cons, List.length_append, List.length_cons] at hlen
      have hnext := Cursor.next_rest hc'
      obtain ⟨c1, c2, c3, hbody, hrest1, hread2, hread3, hrest3⟩ :=
        read_member hV hM hk hv hfs hsorted hnext (by simp only [moreFieldsText]; omega)
      have hhead : c.next.rest = '"' :: (k.toList ++ '"' :: ':' :: (render v).toList ++
          (moreFieldsText fs ++ '\x7d' :: rest)) := by
        rw [hnext, hkey, List.cons_append]
      refine ⟨c3, ?_, hrest3⟩
      rw [readMembers]
      dsimp only
      rw [Cursor.skipBlanks_of_head hc' (by decide), hc']
      split
      · rename_i h
        cases h
      · rename_i h
        exact absurd (List.cons.inj h).1 (by decide)
      · rename_i h
        obtain ⟨rfl, -⟩ := List.cons.inj h
        rw [if_neg Bool.false_ne_true, if_pos rfl]
        rw [Cursor.skipBlanks_of_head hhead (by decide), hhead]
        simp only
        rw [hbody]
        dsimp only
        rw [Cursor.skipBlanks_of_head hrest1 (by decide), hrest1]
        simp only [hread2]
        exact hread3

theorem reads_all (F : Nat) : ReadsValues F ∧ ReadsItems F ∧ ReadsMembers F := by
  induction F with
  | zero =>
    refine ⟨fun d v c rest hv _ hlen => ?_, fun _ _ _ _ _ _ _ _ hlen => absurd hlen (by omega),
      fun _ _ _ _ _ _ _ _ _ hlen => absurd hlen (by omega)⟩
    obtain ⟨ch, t, hrender, -⟩ := render_eq_cons hv
    rw [hrender, List.length_cons] at hlen
    omega
  | succ F ih =>
    obtain ⟨hV, hI, hM⟩ := ih
    exact ⟨readsValues_succ hI hM, readsItems_succ hV hI, readsMembers_succ hV hM⟩

end Fuel

theorem parse_render {v : Json} (hv : Plain 128 v) : parse (render v) = .ok v := by
  obtain ⟨c', hread, hrest⟩ := (reads_all (2 * (render v).toList.length + 4)).1 128 v
    ⟨(render v).toList, 1, 0⟩ [] hv (List.append_nil _).symm (by omega)
  unfold parse
  dsimp only
  rw [hread]
  dsimp only
  rw [Cursor.skipBlanks_of_nil hrest, hrest]

end Json

end MudTestbed
