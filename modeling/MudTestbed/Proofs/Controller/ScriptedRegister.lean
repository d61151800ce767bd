import MudTestbed.Proofs.Controller.Register
import MudTestbed.Proofs.Json.Roundtrip

/-!
# The scripted controller keeps a register

With no override scripted, its listing not replaced, the default credentials expected and
texts of addresses in its list (`ScriptedController.KeepsRegister`), the scripted controller
keeps the quarantined devices as a register for the client with the default settings
(`ScriptedController.quarantineRegister`). Its answers are objects the writer writes
without escapes, so the client reads them back as they were written.
-/

namespace MudTestbed

set_option autoImplicit false

theorem Text.trim_eq_self {s : String} {a b : Char} {m : List Char} (h : s.toList = a :: m ++ [b])
    (ha : Text.isBlank a = false) (hb : Text.isBlank b = false) : Text.trim s = s := by
  unfold Text.trim Text.trimStart Text.trimEnd
  rw [h, List.reverse_append, List.reverse_singleton, List.singleton_append,
    List.dropWhile_cons_of_neg (by simp [hb]), List.reverse_cons, List.reverse_reverse,
    String.toList_ofList, List.cons_append, List.dropWhile_cons_of_neg (by simp [ha]),
    ← List.cons_append, ← h, String.ofList_toList]

theorem Reply.read_object {fields : List (String × Json)} (hv : Json.Plain 128 (.object fields))
    (url shown : String) :
    Reply.read url shown (.answer 200 (Json.render (.object fields))) = .ok (.object fields) := by
  have htext := Json.render_object_toList fields
  have htrim := Text.trim_eq_self htext (by decide) (by decide)
  have hne : (Json.render (.object fields)).isEmpty = false := by
    rw [Bool.eq_false_iff]
    intro h
    have hnil := congrArg String.toList (String.isEmpty_iff.mp h)
    rw [htext] at hnil
    cases hnil
  simp only [Reply.read, htrim, hne, Json.parse_render hv]
  rfl

theorem Reply.read_empty (url shown : String) : Reply.read url shown (.answer 200 "") = .ok .null :=
  rfl

theorem forall_mem_intercalate {α : Type} {p : α → Prop} {sep : List α} (hsep : ∀ c ∈ sep, p c) :
    ∀ {ls : List (List α)}, (∀ l ∈ ls, ∀ c ∈ l, p c) → ∀ c ∈ sep.intercalate ls, p c
  | [], _ => by simp
  | [l], h => by simpa using h l
  | l :: l' :: ls, h => by
    rw [List.intercalate_cons_cons]
    intro c hc
    rcases List.mem_append.mp hc with hc | hc
    · rcases List.mem_append.mp hc with hc | hc
      · exact h l List.mem_cons_self c hc
      · exact hsep c hc
    · exact forall_mem_intercalate hsep (fun l hl => h l (List.mem_cons_of_mem _ hl)) c hc

theorem MacAddr.forall_mem_toText {p : Char → Prop} (hsep : p ':')
    (hhex : ∀ b < 256, ∀ c ∈ (MacAddr.hexByte b).toList, p c) (m : MacAddr) :
    ∀ c ∈ m.toText.toList, p c := by
  unfold MacAddr.toText
  rw [String.toList_intercalate]
  refine forall_mem_intercalate (by simpa using hsep) fun l hl => ?_
  obtain ⟨t, ht, rfl⟩ := List.mem_map.mp hl
  obtain ⟨b, hb, rfl⟩ := List.mem_map.mp ht
  exact hhex b (m.bytes_lt b hb)

theorem MacAddr.hexByte_plain (b : Nat) : Json.PlainText (MacAddr.hexByte b) :=
  MacAddr.forall_mem_hexByte (by decide) b

theorem MacAddr.toText_plain (m : MacAddr) : Json.PlainText m.toText :=
  MacAddr.forall_mem_toText (by decide) (fun b _ => MacAddr.hexByte_plain b) m

theorem Json.plainItems_texts (d : Nat) (macs : List MacAddr) :
    Json.PlainItems d ((macs.map MacAddr.toText).map Json.string) := by
  induction macs with
  | nil => simp only [List.map_nil, Json.PlainItems]
  | cons m rest ih =>
    simp only [List.map_cons, Json.PlainItems, Json.Plain]
    exact ⟨m.toText_plain, ih⟩

namespace ScriptedController

/-- The scripted controller answers as a register of quarantined devices. -/
structure KeepsRegister (c : ScriptedController) : Prop where
  overrides_nil : c.overrides = []
  quarantineRaw_none : c.quarantineRaw = none
  credentials_eq : c.credentials = "admin:admin"
  listed : ∃ macs : List MacAddr, c.quarantined = (macs.map MacAddr.toText).map Json.string

def logged (c : ScriptedController) (method : Method) (path : String) (body : Json) :
    ScriptedController :=
  { c with requests := c.requests ++ [⟨method, path, body, true⟩] }

theorem default_credentials :
    (s!"{ControllerConfig.default.username}:{ControllerConfig.default.password}" ==
      "admin:admin") = true := by
  decide +kernel

section Answers

variable {c : ScriptedController} (hc : c.KeepsRegister) {method : Method} {path : String}
  {body : Json}
include hc

theorem handle_of_keepsRegister :
    c.handle ⟨method, path, body, ControllerConfig.default.username,
        ControllerConfig.default.password⟩ =
      (c.logged method (relativePath path) body).route method (relativePath path) body := by
  simp only [handle, logged, hc.overrides_nil, takeOverride, hc.credentials_eq,
    default_credentials, if_true]

end Answers

theorem quarantinedTexts_of_strings {c : ScriptedController} {ts : List String}
    (h : c.quarantined = ts.map Json.string) : c.quarantinedTexts = ts := by
  rw [quarantinedTexts, h, List.filterMap_map]
  exact List.filterMap_some

theorem listing_segments : segmentAfter "config/" listingPath = none ∧
    segmentAfter "operations/" listingPath = some Operation.getQuarantineMacs := by
  decide +kernel

theorem storing_segments : segmentAfter "config/" storingPath = some Resource.quarantineDevice ∧
    resourceName Resource.quarantineDevice = Resource.quarantineDevice := by
  decide +kernel

theorem releasing_segments : segmentAfter "config/" releasingPath = none ∧
    segmentAfter "operations/" releasingPath = some Operation.unquarantine := by
  decide +kernel

theorem quarantineEntries_document (macs : List MacAddr) :
    quarantineEntries (quarantineDocument macs) = (macs.map MacAddr.toText).map Json.string := by
  simp only [quarantineEntries, quarantineDocument, Json.obj, List.foldl, Json.insertField,
    Json.field?, List.lookup_cons_self, Option.bind_some, Json.ofStrings]
  rw [List.filter_eq_self]
  intro v hv
  obtain ⟨t, -, rfl⟩ := List.mem_map.mp hv
  rfl

theorem KeepsRegister.logged {c : ScriptedController} (hc : c.KeepsRegister) (method : Method)
    (path : String) (body : Json) : (c.logged method path body).KeepsRegister :=
  ⟨hc.overrides_nil, hc.quarantineRaw_none, hc.credentials_eq, hc.listed⟩

section Answers

variable {c : ScriptedController} (hc : c.KeepsRegister) {path : String}
include hc

theorem answer_listing (hpath : relativePath path = listingPath) (body : Json) :
    behavior.answer c ⟨.post, path, body, ControllerConfig.default.username,
        ControllerConfig.default.password⟩ =
      (.answer 200 (Json.render (Json.obj [("output",
        Json.obj [("device-mac-addresses", .array c.quarantined)])])),
        c.logged .post listingPath body) := by
  have hname : (Operation.getQuarantineMacs == Operation.clearMudRules) = false := by
    decide +kernel
  show c.handle _ = _
  rw [handle_of_keepsRegister hc, hpath]
  simp only [route, listing_segments, operate, hname, beq_self_eq_true, logged,
    hc.quarantineRaw_none, Option.getD_none, Bool.false_eq_true, if_false, if_true]

theorem answer_storing (hpath : relativePath path = storingPath) (macs : List MacAddr) :
    behavior.answer c ⟨.put, path, quarantineDocument macs, ControllerConfig.default.username,
        ControllerConfig.default.password⟩ =
      (.answer 200 "",
        { c.logged .put storingPath (quarantineDocument macs) with
          config := Json.insertField Resource.quarantineDevice (quarantineDocument macs) c.config,
          puts := c.puts + 1,
          quarantined := (macs.map MacAddr.toText).map Json.string }) := by
  show c.handle _ = _
  rw [handle_of_keepsRegister hc, hpath]
  simp only [route, storing_segments, store, beq_self_eq_true, if_true, logged,
    quarantineEntries_document]

theorem answer_releasing (hpath : relativePath path = releasingPath) {ts : List String}
    (hts : c.quarantined = ts.map Json.string) (mac : MacAddr) :
    behavior.answer c ⟨.post, path,
        Json.obj [("input", Json.obj [("device-mac-address", .string mac.toText)])],
        ControllerConfig.default.username, ControllerConfig.default.password⟩ =
      (.answer 200 (Json.render (Json.obj [("output", Json.obj [])])),
        { c.logged .post releasingPath
            (Json.obj [("input", Json.obj [("device-mac-address", .string mac.toText)])]) with
          quarantined := (ts.filter (· != mac.toText)).map Json.string }) := by
  have hnames : (Operation.unquarantine == Operation.clearMudRules) = false ∧
      (Operation.unquarantine == Operation.getQuarantineMacs) = false := by
    decide +kernel
  show c.handle _ = _
  rw [handle_of_keepsRegister hc, hpath]
  simp only [route, releasing_segments, operate, hnames, beq_self_eq_true, Bool.false_eq_true,
    if_false, if_true, Json.obj, List.foldl, Json.insertField, Json.field?, List.lookup_cons_self,
    Option.getD_some, logged, hts, List.filter_map]
  rfl

end Answers

theorem located {path : String} (hpath : path ∈ [listingPath, storingPath, releasingPath]) :
    (∃ loc, requestTarget ((ControllerClient.programs ControllerConfig.default).url path) = .ok loc) ∧
      ∀ loc, requestTarget ((ControllerClient.programs ControllerConfig.default).url path) = .ok loc →
        relativePath loc.path = path := by
  have hmap : ∀ path ∈ [listingPath, storingPath, releasingPath],
      (requestTarget ((ControllerClient.programs ControllerConfig.default).url path)).toOption.map
        (fun loc => relativePath loc.path) = some path := by
    decide +kernel
  have h := hmap path hpath
  constructor
  · cases hr : requestTarget ((ControllerClient.programs ControllerConfig.default).url path) with
    | ok loc => exact ⟨loc, rfl⟩
    | error e =>
      rw [hr] at h
      cases h
  · intro loc hloc
    rw [hloc] at h
    exact Option.some.inj h

theorem outputOf_output (o : List (String × Json)) :
    outputOf (Json.obj [("output", .object o)]) = .ok (.object o) := by
  simp only [outputOf, Json.obj, List.foldl, Json.insertField, List.lookup_cons_self]

theorem listing_plain (macs : List MacAddr) :
    Json.Plain 128 (Json.obj [("output", Json.obj [("device-mac-addresses",
      .array ((macs.map MacAddr.toText).map Json.string))])]) := by
  simp only [Json.obj, List.foldl, Json.insertField, Json.Plain, Json.PlainFields,
    List.pairwise_singleton, and_true]
  exact ⟨by decide, by decide, by decide, by decide, by decide, Json.plainItems_texts _ macs⟩

theorem empty_output_plain : Json.Plain 128 (Json.obj [("output", Json.obj [])]) := by
  simp only [Json.obj, List.foldl, Json.insertField, Json.Plain, Json.PlainFields,
    List.pairwise_singleton, List.Pairwise.nil, and_true]
  exact ⟨by decide, by decide, by decide⟩

theorem quarantineRegister :
    QuarantineRegister behavior ControllerConfig.default KeepsRegister where
  reaches _ hpath := (located hpath).1
  listing s loc hs hloc := by
    obtain ⟨macs, hmacs⟩ := hs.listed
    have hpath := (located (by simp)).2 loc hloc
    refine ⟨_, _, answer_listing hs hpath _, hs.logged _ _ _, rfl, _, _,
      fun u v => Reply.read_object ?_ u v, outputOf_output _, ?_⟩
    · rw [hmacs]
      exact listing_plain macs
    · show some (Json.array s.quarantined) = some (Json.ofStrings s.quarantinedTexts)
      rw [quarantinedTexts_of_strings hmacs, hmacs, Json.ofStrings]
  storing s loc macs hs hloc :=
    ⟨_, _, answer_storing hs ((located (by simp)).2 loc hloc) macs,
      ⟨hs.overrides_nil, hs.quarantineRaw_none, hs.credentials_eq, macs, rfl⟩,
      quarantinedTexts_of_strings rfl, _, Reply.read_empty⟩
  releasing s loc mac hs hloc := by
    obtain ⟨macs, hmacs⟩ := hs.listed
    refine ⟨_, _, answer_releasing hs ((located (by simp)).2 loc hloc) hmacs mac,
      ⟨hs.overrides_nil, hs.quarantineRaw_none, hs.credentials_eq, macs.filter (· != mac), ?_⟩,
      ?_, _, _, Reply.read_object empty_output_plain, outputOf_output _⟩
    · rw [← MacAddr.filter_map_toText]
    · show quarantinedTexts _ = (quarantinedTexts s).filter _
      rw [quarantinedTexts_of_strings hmacs]
      exact quarantinedTexts_of_strings rfl

end ScriptedController

end MudTestbed
