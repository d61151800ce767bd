import Mathlib.Data.List.Basic
import MudTestbed.Net.Socket
import MudTestbed.Proofs.Net.DottedQuad

/-!
# The text of an IPv6 address reads back

The text of an address takes one of three forms: `::ffff:` and a dotted quad for the last two
groups, the groups in hex joined by `:` with the longest run of zero groups written as `::`,
or all eight groups joined by `:`. The reader takes groups greedily and tries a dotted quad
wherever two groups remain.

Each hex group reads back as itself, and the reader tries no quad before it, since the
character after its leading decimal digits is never a `.` (`readGroups_group`). So groups
joined by `:` read back as those groups up to whatever may end an address (`Stop`):
nothing, a scope, a closing bracket or a `::` (`readGroups_groupsText`). The run the text
compresses is a run of zeros (`zeroRun_longestZeroRun`), so each of the three forms, followed
by such an end, reads back as the address (`readPrefix_toText`). Conversely every group read
is at most `0xFFFF` (`readPrefix_le`), so every address that was read is one whose text reads
back.
-/

namespace MudTestbed
set_option autoImplicit false

namespace Ipv6Addr

def Stop (rest : List Char) : Prop :=
  rest = [] ∨ (∃ r, rest = '%' :: r) ∨ (∃ r, rest = ']' :: r) ∨ ∃ r, rest = ':' :: ':' :: r

def GroupEnd (rest : List Char) : Prop :=
  ∀ c, rest.head? = some c → c = ':' ∨ c = '%' ∨ c = ']'

theorem Stop.groupEnd {rest : List Char} (h : Stop rest) : GroupEnd rest := by
  rintro c hc
  rcases h with rfl | ⟨r, rfl⟩ | ⟨r, rfl⟩ | ⟨r, rfl⟩ <;> cases hc <;> simp

theorem groupEnd_colon (r : List Char) : GroupEnd (':' :: r) := by
  rintro c ⟨⟩
  exact .inl rfl

theorem GroupEnd.endsRun {rest : List Char} (h : GroupEnd rest) (radix : Nat) :
    Text.EndsRun radix rest := by
  intro c hc
  rcases h c hc with rfl | rfl | rfl <;> simp [Text.digitValue]

theorem GroupEnd.not_dot {rest : List Char} (h : GroupEnd rest) :
    ∀ c, rest.head? = some c → c.isDigit = false ∧ c ≠ '.' := by
  intro c hc
  rcases h c hc with rfl | rfl | rfl <;> decide

theorem head?_dropWhile_isDigit {l rest : List Char} (hl : ∀ c ∈ l, c ≠ '.')
    (hrest : GroupEnd rest) : ((l ++ rest).dropWhile Char.isDigit).head? ≠ some '.' := by
  induction l with
  | nil =>
    cases rest with
    | nil => simp
    | cons c r =>
      obtain ⟨hd, hdot⟩ := hrest.not_dot c rfl
      simp [hd, hdot]
  | cons c l ih =>
    have hc := hl c List.mem_cons_self
    have ih' := ih fun d hd => hl d (List.mem_cons_of_mem c hd)
    by_cases hd : c.isDigit
    · simpa [List.dropWhile_cons, hd] using ih'
    · simp [hd, hc]

end Ipv6Addr

namespace Net

theorem readNumber_toDigits {radix v bound : Nat} (h1 : 1 < radix) (h16 : radix ≤ 16)
    {maxDigits : Option Nat} (hmax : ∀ m ∈ maxDigits, (Nat.toDigits radix v).length ≤ m)
    (hv : v ≤ bound) {rest : List Char} (hrest : Text.EndsRun radix rest) :
    readNumber radix maxDigits true bound (Nat.toDigits radix v ++ rest) = some (v, rest) := by
  have hne : (Nat.toDigits radix v).length ≠ 0 := by simp [Nat.toDigits_ne_nil]
  have hfew : maxDigits.any (· < (Nat.toDigits radix v).length) = false := by
    cases maxDigits with
    | none => rfl
    | some m => simpa using hmax m rfl
  unfold readNumber
  rw [Text.digitRun_append radix
    (fun c hc => Text.isSome_digitValue_of_mem_toDigits h1 h16 hc) hrest,
    Text.digitsValue_toDigits h1 h16]
  simp only [hne, if_false, hfew, Bool.false_eq_true, Bool.not_true, Bool.false_and]
  rw [if_neg (by omega)]

theorem readNumber_le {radix bound v : Nat} {maxDigits : Option Nat} {zeroPrefix : Bool}
    {cs rest : List Char} (h : readNumber radix maxDigits zeroPrefix bound cs = some (v, rest)) :
    v ≤ bound := by
  unfold readNumber at h
  obtain ⟨w, n, r⟩ := Text.digitRun radix cs
  dsimp only at h
  split_ifs at h with h0 hmax hbound
  cases h
  omega

end Net

namespace Ipv4Addr

theorem readPrefix_eq_none {cs : List Char} (h : (cs.dropWhile Char.isDigit).head? ≠ some '.') :
    readPrefix cs = none := by
  cases hr : readPrefix cs with
  | none => rfl
  | some p =>
    obtain ⟨x, rest⟩ := p
    obtain ⟨o₁, o₂, o₃, o₄, v₁, v₂, v₃, v₄, rfl, h₁, -⟩ := readPrefix_eq_some_iff.mp hr
    rw [List.dropWhile_append_of_pos h₁.isDigit] at h
    simp at h

theorem readPrefix_toText_append (q : Ipv4Addr) {rest : List Char} (hrest : Text.EndsRun 10 rest) :
    readPrefix (q.toText.toList ++ rest) = some (q, rest) := by
  obtain ⟨o₁, o₂, o₃, o₄, v₁, v₂, v₃, v₄, hq, h₁, h₂, h₃, h₄, hx⟩ := dottedQuad_toText q
  rw [hq]
  exact readPrefix_eq_some_iff.mpr ⟨o₁, o₂, o₃, o₄, v₁, v₂, v₃, v₄, by simp, h₁, h₂, h₃, h₄, hrest, hx⟩

end Ipv4Addr

namespace Ipv6Addr

theorem ne_of_mem_toDigits {g : Nat} {c : Char} (hc : c ∈ Nat.toDigits 16 g) :
    c ≠ '.' ∧ c ≠ ':' := by
  obtain ⟨d, hd, rfl⟩ := Text.mem_toDigits (by decide) hc
  have key : ∀ d < 16, Nat.digitChar d ≠ '.' ∧ Nat.digitChar d ≠ ':' := by decide
  exact key d hd

theorem readNumber_group {g : Nat} (hg : g ≤ 0xFFFF) {rest : List Char} (hrest : GroupEnd rest) :
    Net.readNumber 16 (some 4) true 0xFFFF (Nat.toDigits 16 g ++ rest) = some (g, rest) :=
  Net.readNumber_toDigits (by decide) (by decide)
    (fun m hm => by
      cases hm
      exact (Nat.length_toDigits_le_iff (by decide) (by decide)).mpr (by omega))
    hg (hrest.endsRun 16)

theorem readNumber_of_groupEnd {rest : List Char} (hrest : GroupEnd rest) (radix : Nat)
    (maxDigits : Option Nat) (zeroPrefix : Bool) (bound : Nat) :
    Net.readNumber radix maxDigits zeroPrefix bound rest = none := by
  cases rest with
  | nil => rfl
  | cons c r =>
    unfold Net.readNumber
    simp [Text.digitRun, hrest.endsRun radix c rfl]

def groupsText : Bool → List Nat → List Char
  | _, [] => []
  | first, g :: gs => (if first then [] else [':']) ++ Nat.toDigits 16 g ++ groupsText false gs

theorem groupEnd_groupsText {rest : List Char} (hrest : GroupEnd rest) (gs : List Nat) :
    GroupEnd (groupsText false gs ++ rest) := by
  cases gs with
  | nil => exact hrest
  | cons g gs => exact groupEnd_colon _

theorem readGroups_stop {rest : List Char} (hstop : Stop rest) (r : Nat) (first : Bool) :
    readGroups r first rest = ([], false, rest) := by
  cases r with
  | zero => rfl
  | succ r =>
    have hsep : ∀ cs, (if first then some rest else Net.expectChar ':' rest) = some cs →
        GroupEnd cs := by
      intro cs hcs
      cases first
      · rcases hstop with rfl | ⟨r', rfl⟩ | ⟨r', rfl⟩ | ⟨r', rfl⟩ <;>
          simp [Net.expectChar] at hcs
        subst hcs
        exact groupEnd_colon r'
      · cases hcs
        exact hstop.groupEnd
    unfold readGroups
    cases hafter : (if first then some rest else Net.expectChar ':' rest) with
    | none => simp
    | some cs =>
      have hend := hsep cs hafter
      have hquad : Ipv4Addr.readPrefix cs = none :=
        Ipv4Addr.readPrefix_eq_none (head?_dropWhile_isDigit (l := []) (by simp) hend)
      simp [hquad, readNumber_of_groupEnd hend]

theorem readGroups_group {g : Nat} (hg : g ≤ 0xFFFF) {more : List Char} (hend : GroupEnd more)
    {r : Nat} (first : Bool) {gs : List Nat} {quadEnd : Bool} {rest : List Char}
    (h : readGroups r false more = (gs, quadEnd, rest)) :
    readGroups (r + 1) first ((if first then [] else [':']) ++ Nat.toDigits 16 g ++ more) =
      (g :: gs, quadEnd, rest) := by
  have hafter : (if first then some ((if first then [] else [':']) ++ Nat.toDigits 16 g ++ more)
      else Net.expectChar ':' ((if first then [] else [':']) ++ Nat.toDigits 16 g ++ more)) =
      some (Nat.toDigits 16 g ++ more) := by
    cases first <;> simp [Net.expectChar]
  have hquad : Ipv4Addr.readPrefix (Nat.toDigits 16 g ++ more) = none :=
    Ipv4Addr.readPrefix_eq_none
      (head?_dropWhile_isDigit (fun c hc => (ne_of_mem_toDigits hc).1) hend)
  unfold readGroups
  simp only [hafter, Option.bind_some, hquad, ite_self, readNumber_group hg hend, h]

theorem readGroups_groupsText {rest : List Char} (hstop : Stop rest) :
    ∀ (gs : List Nat) (r : Nat) (first : Bool), (∀ g ∈ gs, g ≤ 0xFFFF) → gs.length ≤ r →
      readGroups r first (groupsText first gs ++ rest) = (gs, false, rest)
  | [], r, first, _, _ => readGroups_stop hstop r first
  | g :: gs, r + 1, first, hg, hr => by
    have hg' : ∀ g' ∈ gs, g' ≤ 0xFFFF := fun g' h => hg g' (List.mem_cons_of_mem g h)
    have htext : groupsText first (g :: gs) ++ rest =
        (if first then [] else [':']) ++ Nat.toDigits 16 g ++ (groupsText false gs ++ rest) := by
      simp [groupsText]
    rw [htext]
    exact readGroups_group (hg g List.mem_cons_self) (groupEnd_groupsText hstop.groupEnd gs) first
      (readGroups_groupsText hstop gs r false hg' (by simpa using hr))

theorem groupsText_cons_true (g : Nat) (gs : List Nat) :
    groupsText true (g :: gs) = Nat.toDigits 16 g ++ groupsText false gs := by
  simp [groupsText]

theorem intercalate_toDigits (gs : List Nat) :
    [':'].intercalate (gs.map (Nat.toDigits 16)) = groupsText true gs := by
  induction gs with
  | nil => rfl
  | cons g gs ih =>
    cases gs with
    | nil => simp [groupsText]
    | cons g' gs =>
      rw [List.map_cons, List.map_cons, List.intercalate_cons_cons, ← List.map_cons, ih,
        groupsText_cons_true, groupsText_cons_true]
      simp [groupsText]

theorem join_toList (gs : List Nat) :
    (":".intercalate (gs.map hex)).toList = groupsText true gs := by
  have hdigits : String.toList ∘ hex = Nat.toDigits 16 := funext fun _ => String.toList_ofList
  rw [String.toList_intercalate, List.map_map, hdigits]
  exact intercalate_toDigits gs

/-! ### The longest run of zero groups -/

def ZeroRun (gs : List Nat) (start len : Nat) : Prop :=
  start + len ≤ gs.length ∧ ∀ j, start ≤ j → j < start + len → gs[j]? = some 0

theorem ZeroRun.append {pre : List Nat} {s l : Nat} (h : ZeroRun pre s l) (xs : List Nat) :
    ZeroRun (pre ++ xs) s l := by
  obtain ⟨hlen, hzero⟩ := h
  refine ⟨by simp; omega, fun j hj hjl => ?_⟩
  rw [List.getElem?_append_left (by omega)]
  exact hzero j hj hjl

theorem ZeroRun.snoc {pre : List Nat} {s l : Nat} (h : ZeroRun pre s l) (hend : s + l = pre.length) :
    ZeroRun (pre ++ [0]) s (l + 1) := by
  obtain ⟨hlen, hzero⟩ := h
  refine ⟨by simp; omega, fun j hj hjl => ?_⟩
  by_cases hj' : j < pre.length
  · rw [List.getElem?_append_left hj']
    exact hzero j hj (by omega)
  · rw [List.getElem?_append_right (by omega)]
    simp [show j - pre.length = 0 by omega]

theorem ZeroRun.eq_append {gs : List Nat} {s l : Nat} (h : ZeroRun gs s l) :
    gs = gs.take s ++ List.replicate l 0 ++ gs.drop (s + l) := by
  obtain ⟨hlen, hzero⟩ := h
  have hrun : (gs.drop s).take l = List.replicate l 0 := by
    refine List.eq_replicate_iff.mpr ⟨by simp; omega, fun b hb => ?_⟩
    obtain ⟨k, hk, hkb⟩ := List.getElem_of_mem hb
    have hk' : k < l := by simp at hk; omega
    have := hzero (s + k) (by omega) (by omega)
    rw [List.getElem_take, List.getElem_drop] at hkb
    rw [List.getElem?_eq_getElem (by omega), Option.some.injEq] at this
    rw [← hkb, this]
  rw [List.append_assoc, ← hrun, ← List.drop_drop, List.take_append_drop, List.take_append_drop]

theorem foldl_scan {β : Type} (f : β → Nat → β) (Inv : List Nat → β → Prop)
    (hstep : ∀ pre b g, Inv pre b → Inv (pre ++ [g]) (f b g)) :
    ∀ (gs pre : List Nat) (b : β), Inv pre b → Inv (pre ++ gs) (gs.foldl f b)
  | [], pre, b, h => by simpa using h
  | g :: gs, pre, b, h => by
    simpa using foldl_scan f Inv hstep gs (pre ++ [g]) (f b g) (hstep pre b g h)

def ScanState (pre : List Nat) (acc : (Nat × Nat) × (Nat × Nat) × Nat) : Prop :=
  acc.2.2 = pre.length ∧ ZeroRun pre acc.1.1 acc.1.2 ∧
    (acc.2.1.2 = 0 ∨ acc.2.1.1 + acc.2.1.2 = pre.length ∧ ZeroRun pre acc.2.1.1 acc.2.1.2)

theorem zeroRun_longestZeroRun (gs : List Nat) :
    ZeroRun gs (longestZeroRun gs).1 (longestZeroRun gs).2 := by
  unfold longestZeroRun
  refine (foldl_scan _ ScanState ?_ gs [] _ ⟨rfl, ⟨le_refl _, by simp⟩, .inl rfl⟩).2.1
  rintro pre ⟨⟨bs, bl⟩, ⟨cs, cl⟩, i⟩ g ⟨hi, hbest, hcur⟩
  dsimp only at hi hbest hcur ⊢
  split
  · subst g
    generalize hcur' : (if cl = 0 then (i, 1) else (cs, cl + 1)) = cur
    have hrun : cur.1 + cur.2 = (pre ++ [0]).length ∧ ZeroRun (pre ++ [0]) cur.1 cur.2 := by
      subst hcur'
      split
      · subst hi
        exact ⟨by simp, ZeroRun.snoc ⟨by simp, by omega⟩ rfl⟩
      · obtain ⟨hend, hzero⟩ := hcur.resolve_left ‹_›
        exact ⟨by simp; omega, hzero.snoc hend⟩
    refine ⟨by simp [hi], ?_, .inr hrun⟩
    split
    · exact hrun.2
    · exact hbest.append [0]
  · exact ⟨by simp [hi], hbest.append [g], .inl rfl⟩

/-! ### Reading the three written forms -/

theorem ext_groups {x y : Ipv6Addr} (h : x.groups = y.groups) : x = y := by
  cases x
  cases y
  cases h
  rfl

theorem ofGroups_groups_of_length {gs : List Nat} (h : gs.length = 8) : (ofGroups gs).groups = gs := by
  simp [ofGroups, List.take_append_of_le_length (Nat.le_of_eq h.symm), List.take_of_length_le (Nat.le_of_eq h)]

theorem readPrefix_groupsText {gs : List Nat} (hlen : gs.length = 8) (hg : ∀ g ∈ gs, g ≤ 0xFFFF)
    {rest : List Char} (hstop : Stop rest) :
    readPrefix (groupsText true gs ++ rest) = some (ofGroups gs, rest) := by
  unfold readPrefix
  rw [readGroups_groupsText hstop gs 8 true hg (by omega)]
  simp [hlen]

theorem readPrefix_compressed {hd tl : List Nat} (len : Nat) (hlen : hd.length + len + tl.length = 8)
    (hpos : 0 < len) (hg : ∀ g ∈ hd ++ tl, g ≤ 0xFFFF) {rest : List Char} (hstop : Stop rest) :
    readPrefix (groupsText true hd ++ ':' :: ':' :: (groupsText true tl ++ rest)) =
      some (ofGroups (hd ++ List.replicate len 0 ++ tl), rest) := by
  have hhd : ∀ g ∈ hd, g ≤ 0xFFFF := fun g h => hg g (List.mem_append_left tl h)
  have htl : ∀ g ∈ tl, g ≤ 0xFFFF := fun g h => hg g (List.mem_append_right hd h)
  have hsep : Stop (':' :: ':' :: (groupsText true tl ++ rest)) := .inr (.inr (.inr ⟨_, rfl⟩))
  unfold readPrefix
  rw [readGroups_groupsText hsep hd 8 true hhd (by omega)]
  simp only [show hd.length ≠ 8 by omega, if_false, Bool.false_eq_true, Net.expectChar,
    if_true, Option.bind_eq_bind, Option.bind_some]
  rw [readGroups_groupsText hstop tl (7 - hd.length) true htl (by omega)]
  simp only [show 8 - hd.length - tl.length = len by omega, Option.pure_def]

theorem readPrefix_mapped (q : Ipv4Addr) {rest : List Char} (hstop : Stop rest) :
    readPrefix (':' :: ':' :: (Nat.toDigits 16 0xFFFF ++ ':' :: (q.toText.toList ++ rest))) =
      some (ofGroups ([0, 0, 0, 0, 0, 0xFFFF] ++ groupsOfIpv4 q), rest) := by
  have hquad : readGroups 6 false (':' :: (q.toText.toList ++ rest)) = (groupsOfIpv4 q, true, rest) := by
    unfold readGroups
    simp [Net.expectChar, Ipv4Addr.readPrefix_toText_append q (hstop.groupEnd.endsRun 10)]
  have htail := readGroups_group (g := 0xFFFF) (by decide) (groupEnd_colon _) true hquad
  unfold readPrefix
  rw [readGroups_stop (.inr (.inr (.inr ⟨_, rfl⟩)))]
  simp only [List.length_nil, show (0 : Nat) ≠ 8 by decide, if_false, Bool.false_eq_true,
    Net.expectChar, if_true, Option.bind_eq_bind, Option.bind_some]
  rw [show Nat.toDigits 16 0xFFFF ++ ':' :: (q.toText.toList ++ rest) =
    (if true then [] else [':']) ++ Nat.toDigits 16 0xFFFF ++ ':' :: (q.toText.toList ++ rest) from rfl,
    htail]
  rfl

theorem ofGroups_self (x : Ipv6Addr) : ofGroups x.groups = x :=
  ext_groups (ofGroups_groups_of_length x.length_groups)

theorem groupsOfIpv4_ofOctets {a b : Nat} (ha : a ≤ 0xFFFF) (hb : b ≤ 0xFFFF) :
    groupsOfIpv4 (Ipv4Addr.ofOctets (a / 256) (a % 256) (b / 256) (b % 256)) = [a, b] := by
  have hn : ((a / 256 * 256 + a % 256) * 256 + b / 256) * 256 + b % 256 = a * 65536 + b := by omega
  simp only [groupsOfIpv4, Ipv4Addr.ofOctets, hn, UInt32.toNat_ofNat', List.cons.injEq, and_true]
  constructor <;> omega

theorem readPrefix_toText (x : Ipv6Addr) (hx : ∀ g ∈ x.groups, g ≤ 0xFFFF) {rest : List Char}
    (hstop : Stop rest) : readPrefix (x.toText.toList ++ rest) = some (x, rest) := by
  have hlen := x.length_groups
  unfold toText
  dsimp only
  split
  · rename_i hmapped
    obtain ⟨a, b, hab⟩ := List.length_eq_two.mp (show (x.groups.drop 6).length = 2 by simp [hlen])
    have hgroups : x.groups = [0, 0, 0, 0, 0, 0xFFFF, a, b] := by
      rw [← List.take_append_drop 6 x.groups, hmapped, hab]
      rfl
    have ha : x.groups.getD 6 0 = a := by rw [hgroups]; rfl
    have hb : x.groups.getD 7 0 = b := by rw [hgroups]; rfl
    have hbound : a ≤ 0xFFFF ∧ b ≤ 0xFFFF := ⟨hx a (by simp [hgroups]), hx b (by simp [hgroups])⟩
    rw [ha, hb, String.toList_append, List.append_assoc,
      show "::ffff:".toList = ':' :: ':' :: (Nat.toDigits 16 0xFFFF ++ [':']) by decide]
    simp only [List.cons_append, List.append_assoc, List.nil_append]
    rw [readPrefix_mapped _ hstop, groupsOfIpv4_ofOctets hbound.1 hbound.2]
    simp only [List.cons_append, List.nil_append, ← hgroups, ofGroups_self]
  · rcases hz : longestZeroRun x.groups with ⟨start, len⟩
    have hrun : ZeroRun x.groups start len := by simpa [hz] using zeroRun_longestZeroRun x.groups
    dsimp only
    split
    · rename_i hlong
      rw [String.toList_append, String.toList_append, join_toList, join_toList,
        show "::".toList = [':', ':'] from rfl, List.append_assoc, List.append_assoc,
        List.cons_append, List.cons_append, List.nil_append]
      have hend := hrun.1
      rw [readPrefix_compressed len (by simp; omega) (by omega) (fun g hg => hx g ?_) hstop,
        ← hrun.eq_append, ofGroups_self]
      rcases List.mem_append.mp hg with hg | hg
      · exact List.mem_of_mem_take hg
      · exact List.mem_of_mem_drop hg
    · rw [join_toList, readPrefix_groupsText hlen hx hstop, ofGroups_self]

/-! ### Groups read are 16-bit -/

theorem groupsOfIpv4_le (a : Ipv4Addr) : ∀ g ∈ groupsOfIpv4 a, g ≤ 0xFFFF := by
  have := a.bits.toNat_lt
  simp only [groupsOfIpv4, List.mem_cons, List.not_mem_nil, or_false]
  rintro g (rfl | rfl) <;> omega

theorem readGroups_le : ∀ (r : Nat) (first : Bool) (cs : List Char),
    ∀ g ∈ (readGroups r first cs).1, g ≤ 0xFFFF
  | 0, _, _ => by simp [readGroups]
  | r + 1, first, cs => by
    intro g hg
    unfold readGroups at hg
    dsimp only at hg
    generalize (if first then some cs else Net.expectChar ':' cs) = afterSep at hg
    generalize (if 2 ≤ r + 1 then afterSep.bind Ipv4Addr.readPrefix else none) = quad at hg
    rcases quad with _ | ⟨a, rest⟩
    · rcases hnum : afterSep.bind (Net.readNumber 16 (some 4) true 0xFFFF) with _ | ⟨g₁, more⟩
      · rw [hnum] at hg
        simp at hg
      · obtain ⟨_, -, hread⟩ := Option.bind_eq_some_iff.mp hnum
        rw [hnum] at hg
        rcases List.mem_cons.mp hg with rfl | hg
        · exact Net.readNumber_le hread
        · exact readGroups_le r false more g hg
    · exact groupsOfIpv4_le a g hg

theorem ofGroups_le {gs : List Nat} (h : ∀ g ∈ gs, g ≤ 0xFFFF) :
    ∀ g ∈ (ofGroups gs).groups, g ≤ 0xFFFF := by
  intro g hg
  rcases List.mem_append.mp (List.mem_of_mem_take hg) with hg | hg
  · exact h g hg
  · rw [(List.mem_replicate.mp hg).2]
    decide

theorem readPrefix_le {cs rest : List Char} {x : Ipv6Addr} (h : readPrefix cs = some (x, rest)) :
    ∀ g ∈ x.groups, g ≤ 0xFFFF := by
  unfold readPrefix at h
  rcases hhead : readGroups 8 true cs with ⟨head, headQuad, cs₁⟩
  have hle := readGroups_le 8 true cs
  rw [hhead] at h hle
  dsimp only at h hle
  split_ifs at h
  · cases h
    exact ofGroups_le hle
  · obtain ⟨cs₂, -, h⟩ := Option.bind_eq_some_iff.mp h
    obtain ⟨cs₃, -, h⟩ := Option.bind_eq_some_iff.mp h
    rcases htail : readGroups (7 - head.length) true cs₃ with ⟨tail, tq, rest₁⟩
    have hle₁ := readGroups_le (7 - head.length) true cs₃
    rw [htail] at h hle₁
    cases h
    refine ofGroups_le fun g hg => ?_
    simp only [List.mem_append, List.mem_replicate] at hg
    rcases hg with (hg | ⟨-, rfl⟩) | hg
    · exact hle g hg
    · decide
    · exact hle₁ g hg

end Ipv6Addr

end MudTestbed
