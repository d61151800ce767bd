import MudTestbed.Proofs.Controller.Program
import MudTestbed.Proofs.Address.MacText

/-!
# The quarantine against a register

A controller keeps the quarantined devices as a register when listing them reads it,
storing the quarantine document replaces it, and releasing a device removes that device,
each request answered with a success (`QuarantineRegister`). Against such a controller an
update made alone succeeds and changes the register as `QuarantineCall.apply` says: a
quarantine adds its device at the end unless it is there, a release removes it
(`QuarantineRegister.perform_run`).

The register holds device texts; the client reads them back as addresses with
`MacAddr.parse`, which gives back every address's text, so the register always holds the
texts of the devices `apply` computes.
-/

namespace MudTestbed

set_option autoImplicit false

def QuarantineCall.apply : QuarantineCall → List MacAddr → List MacAddr
  | .quarantine mac, macs => if macs.contains mac then macs else macs ++ [mac]
  | .unquarantine mac, macs => macs.filter (· != mac)

def QuarantineCall.applyAll (calls : List QuarantineCall) (macs : List MacAddr) : List MacAddr :=
  calls.foldl (fun macs call => call.apply macs) macs

@[simp] theorem QuarantineCall.applyAll_nil (macs : List MacAddr) :
    QuarantineCall.applyAll [] macs = macs := rfl

theorem QuarantineCall.applyAll_append_single (calls : List QuarantineCall) (call : QuarantineCall)
    (macs : List MacAddr) :
    QuarantineCall.applyAll (calls ++ [call]) macs = call.apply (QuarantineCall.applyAll calls macs) := by
  simp only [QuarantineCall.applyAll, List.foldl_append, List.foldl_cons, List.foldl_nil]

theorem QuarantineCall.mem_apply_quarantine {macs : List MacAddr} (m mac : MacAddr) :
    mac ∈ (QuarantineCall.quarantine m).apply macs ↔ mac ∈ macs ∨ mac = m := by
  rw [QuarantineCall.apply]
  split
  · rename_i hm
    have hm : m ∈ macs := List.contains_iff_mem.mp hm
    constructor
    · exact Or.inl
    · rintro (h | rfl)
      · exact h
      · exact hm
  · rw [List.mem_append, List.mem_singleton]

theorem QuarantineCall.mem_applyAll_quarantines :
    ∀ {calls : List QuarantineCall} {macs : List MacAddr},
      (∀ call ∈ calls, ∃ m, call = .quarantine m) →
        ∀ mac, (mac ∈ macs ∨ QuarantineCall.quarantine mac ∈ calls) →
          mac ∈ QuarantineCall.applyAll calls macs
  | [], _, _, _, h => by
    simpa only [QuarantineCall.applyAll_nil, List.not_mem_nil, or_false] using h
  | call :: rest, macs, hall, mac, h => by
    obtain ⟨m, rfl⟩ := hall call List.mem_cons_self
    refine mem_applyAll_quarantines (fun c hc => hall c (List.mem_cons_of_mem _ hc)) mac ?_
    rw [QuarantineCall.mem_apply_quarantine]
    rw [List.mem_cons, QuarantineCall.quarantine.injEq] at h
    rcases h with h | h | h
    · exact Or.inl (Or.inl h)
    · exact Or.inl (Or.inr h)
    · exact Or.inr h

def listingPath : String := s!"operations/{Operation.getQuarantineMacs}"

def storingPath : String := s!"config/{Resource.quarantineDevice}"

def releasingPath : String := s!"operations/{Operation.unquarantine}"

variable {σ : Type}

/-- The controller keeps the quarantined devices as a register, as `cfg` reaches it. -/
structure QuarantineRegister (ctl : ControllerBehavior σ) (cfg : ControllerConfig)
    (Inv : σ → Prop) : Prop where
  reaches : ∀ path ∈ [listingPath, storingPath, releasingPath],
    ∃ loc, requestTarget ((ControllerClient.programs cfg).url path) = .ok loc
  listing : ∀ s loc, Inv s → requestTarget ((ControllerClient.programs cfg).url listingPath) = .ok loc →
    ∃ reply s', ctl.answer s ⟨.post, loc.path, Json.obj [("input", Json.obj [])], cfg.username,
        cfg.password⟩ = (reply, s') ∧ Inv s' ∧ ctl.quarantined s' = ctl.quarantined s ∧
      ∃ j o, (∀ u v, reply.read u v = .ok j) ∧ outputOf j = .ok o ∧
        o.field? "device-mac-addresses" = some (Json.ofStrings (ctl.quarantined s))
  storing : ∀ s loc (macs : List MacAddr), Inv s →
    requestTarget ((ControllerClient.programs cfg).url storingPath) = .ok loc →
    ∃ reply s', ctl.answer s ⟨.put, loc.path, quarantineDocument macs, cfg.username,
        cfg.password⟩ = (reply, s') ∧ Inv s' ∧ ctl.quarantined s' = macs.map MacAddr.toText ∧
      ∃ j, ∀ u v, reply.read u v = .ok j
  releasing : ∀ s loc (mac : MacAddr), Inv s →
    requestTarget ((ControllerClient.programs cfg).url releasingPath) = .ok loc →
    ∃ reply s', ctl.answer s ⟨.post, loc.path,
        Json.obj [("input", Json.obj [("device-mac-address", .string mac.toText)])], cfg.username,
        cfg.password⟩ = (reply, s') ∧ Inv s' ∧
      ctl.quarantined s' = (ctl.quarantined s).filter (· != mac.toText) ∧
      ∃ j o, (∀ u v, reply.read u v = .ok j) ∧ outputOf j = .ok o

section Run

variable {ε τ α β : Type}

theorem run_bind_of_ok {x : ExceptT ε (StateM τ) α} {f : α → ExceptT ε (StateM τ) β}
    {s s' : τ} {a : α} (h : x.run.run s = (.ok a, s')) :
    (x >>= f).run.run s = (f a).run.run s' := by
  simp only [ExceptT.run_bind, StateT.run_bind, h]
  rfl

end Run

def Testbed.answered (ctl : ControllerBehavior σ) (tb : Testbed σ) (r : Request) (s' : σ) :
    Testbed σ :=
  { tb with controller := s', clock := tb.clock + ctl.delay tb.controller r }

@[simp] theorem Testbed.answered_controller (ctl : ControllerBehavior σ) (tb : Testbed σ)
    (r : Request) (s' : σ) : (tb.answered ctl r s').controller = s' := rfl

namespace ControllerClient

variable (ctl : ControllerBehavior σ) (cfg : ControllerConfig)

theorem url_eq {m : Type → Type} [Monad m] (w : Wire m) (path : String) :
    (⟨w, cfg⟩ : ControllerClient m).url path = (programs cfg).url path := rfl

theorem sendOnce_run {method : Method} {path : String} {body : Json} (tb : Testbed σ)
    {loc : Url.Location} (hloc : requestTarget ((programs cfg).url path) = .ok loc) :
    ((⟨Testbed.wire ctl, cfg⟩ : ControllerClient (TestbedStep σ)).sendOnce method path body).run.run tb =
      let r : Request := ⟨method, loc.path, body, cfg.username, cfg.password⟩
      ((ctl.answer tb.controller r).1.read ((programs cfg).url path) loc.text,
        tb.answered ctl r (ctl.answer tb.controller r).2) := by
  unfold sendOnce
  simp only [ExceptT.run_bind, ExceptT.run_mk, url_eq, hloc]
  rfl

theorem retrying_of_sendOnce {method : Method} {path : String} {body : Json} {tb tb' : Testbed σ}
    {v : Json} (left backoff : Nat)
    (h : ((⟨Testbed.wire ctl, cfg⟩ : ControllerClient (TestbedStep σ)).sendOnce method path body).run.run tb =
      (.ok v, tb')) :
    ((⟨Testbed.wire ctl, cfg⟩ : ControllerClient (TestbedStep σ)).retrying method path body left
      backoff).run.run tb = (.ok v, tb') := by
  cases left <;>
  · unfold retrying
    simp only [ExceptT.run_mk, StateT.run_bind, h]
    rfl

theorem send_run {method : Method} {path : String} {body : Json} (tb : Testbed σ)
    {loc : Url.Location} {reply : Reply} {s' : σ} {j : Json}
    (hloc : requestTarget ((programs cfg).url path) = .ok loc)
    (hanswer : ctl.answer tb.controller ⟨method, loc.path, body, cfg.username, cfg.password⟩ =
      (reply, s'))
    (hread : ∀ u v, reply.read u v = .ok j) :
    ((⟨Testbed.wire ctl, cfg⟩ : ControllerClient (TestbedStep σ)).send method path body).run.run tb =
      (.ok j, tb.answered ctl ⟨method, loc.path, body, cfg.username, cfg.password⟩ s') := by
  refine retrying_of_sendOnce ctl cfg _ _ ?_
  rw [sendOnce_run ctl cfg tb hloc]
  simp only [hanswer, hread]

theorem operation_run {name : String} {input : Json} (tb : Testbed σ) {loc : Url.Location}
    {reply : Reply} {s' : σ} {j o : Json}
    (hloc : requestTarget ((programs cfg).url s!"operations/{name}") = .ok loc)
    (hanswer : ctl.answer tb.controller ⟨.post, loc.path, Json.obj [("input", input)],
      cfg.username, cfg.password⟩ = (reply, s'))
    (hread : ∀ u v, reply.read u v = .ok j) (hout : outputOf j = .ok o) :
    ((⟨Testbed.wire ctl, cfg⟩ : ControllerClient (TestbedStep σ)).operation name input).run.run tb =
      (.ok o, tb.answered ctl ⟨.post, loc.path, Json.obj [("input", input)], cfg.username,
        cfg.password⟩ s') := by
  unfold operation
  rw [run_bind_of_ok (send_run ctl cfg tb hloc hanswer hread)]
  simp only [ExceptT.run_mk, hout]
  rfl

theorem mapM_listedMac (macs : List MacAddr) :
    ((macs.map MacAddr.toText).map Json.string).mapM listedMac = .ok macs := by
  induction macs with
  | nil => rfl
  | cons mac rest ih =>
    rw [List.map_cons, List.map_cons, List.mapM_cons, ih]
    simp only [listedMac, MacAddr.parse_toText]
    rfl

end ControllerClient

theorem MacAddr.filter_map_toText (macs : List MacAddr) (mac : MacAddr) :
    (macs.map MacAddr.toText).filter (· != mac.toText) =
      (macs.filter (· != mac)).map MacAddr.toText := by
  rw [List.filter_map]
  congr 2
  funext m
  rw [Function.comp_apply, Bool.eq_iff_iff, bne_iff_ne, bne_iff_ne, ne_eq, ne_eq, MacAddr.toText_inj]

namespace QuarantineRegister

open ControllerClient

variable {ctl : ControllerBehavior σ} {cfg : ControllerConfig} {Inv : σ → Prop}
  (hreg : QuarantineRegister ctl cfg Inv)
include hreg

theorem quarantineMacs_run (tb : Testbed σ) {macs : List MacAddr} (hinv : Inv tb.controller)
    (hview : ctl.quarantined tb.controller = macs.map MacAddr.toText) :
    ∃ tb', (⟨Testbed.wire ctl, cfg⟩ : ControllerClient (TestbedStep σ)).quarantineMacs.run.run tb =
        (.ok macs, tb') ∧ Inv tb'.controller ∧
      ctl.quarantined tb'.controller = ctl.quarantined tb.controller := by
  obtain ⟨loc, hloc⟩ := hreg.reaches listingPath (by simp)
  obtain ⟨reply, s', hanswer, hinv', hview', j, o, hread, hout, hfield⟩ :=
    hreg.listing _ loc hinv hloc
  refine ⟨tb.answered ctl ⟨.post, loc.path, Json.obj [("input", Json.obj [])], cfg.username,
    cfg.password⟩ s', ?_, hinv', hview'⟩
  unfold quarantineMacs
  rw [run_bind_of_ok (operation_run ctl cfg tb hloc hanswer hread hout)]
  simp only [hfield, hview, Json.ofStrings, ExceptT.run_mk, mapM_listedMac]
  rfl

theorem quarantine_run (tb : Testbed σ) {macs : List MacAddr} (mac : MacAddr)
    (hinv : Inv tb.controller) (hview : ctl.quarantined tb.controller = macs.map MacAddr.toText) :
    ∃ tb', ((⟨Testbed.wire ctl, cfg⟩ : ControllerClient (TestbedStep σ)).quarantine mac).run.run tb =
        (.ok (), tb') ∧ Inv tb'.controller ∧
      ctl.quarantined tb'.controller =
        ((QuarantineCall.quarantine mac).apply macs).map MacAddr.toText := by
  obtain ⟨tb₁, hlist, hinv₁, hview₁⟩ := hreg.quarantineMacs_run tb hinv hview
  unfold quarantine
  rw [run_bind_of_ok hlist]
  by_cases hmem : macs.contains mac
  · refine ⟨tb₁, ?_, hinv₁, ?_⟩
    · simp only [hmem, if_true]
      rfl
    · rw [hview₁, hview, QuarantineCall.apply, if_pos hmem]
  · obtain ⟨loc, hloc⟩ := hreg.reaches storingPath (by simp)
    obtain ⟨reply, s₂, hanswer, hinv₂, hview₂, j, hread⟩ :=
      hreg.storing tb₁.controller loc (macs ++ [mac]) hinv₁ hloc
    refine ⟨tb₁.answered ctl ⟨.put, loc.path, quarantineDocument (macs ++ [mac]), cfg.username,
      cfg.password⟩ s₂, ?_, hinv₂, ?_⟩
    · simp only [hmem, Bool.false_eq_true, if_false]
      unfold upload
      exact (run_bind_of_ok (send_run ctl cfg tb₁ hloc hanswer hread)).trans rfl
    · rw [Testbed.answered_controller, hview₂, QuarantineCall.apply, if_neg hmem]

theorem unquarantine_run (tb : Testbed σ) {macs : List MacAddr} (mac : MacAddr)
    (hinv : Inv tb.controller) (hview : ctl.quarantined tb.controller = macs.map MacAddr.toText) :
    ∃ tb', ((⟨Testbed.wire ctl, cfg⟩ : ControllerClient (TestbedStep σ)).unquarantine mac).run.run tb =
        (.ok (), tb') ∧ Inv tb'.controller ∧
      ctl.quarantined tb'.controller =
        ((QuarantineCall.unquarantine mac).apply macs).map MacAddr.toText := by
  obtain ⟨loc, hloc⟩ := hreg.reaches releasingPath (by simp)
  obtain ⟨reply, s', hanswer, hinv', hview', j, o, hread, hout⟩ := hreg.releasing _ loc mac hinv hloc
  refine ⟨tb.answered ctl ⟨.post, loc.path,
    Json.obj [("input", Json.obj [("device-mac-address", .string mac.toText)])], cfg.username,
    cfg.password⟩ s', ?_, hinv', ?_⟩
  · unfold unquarantine
    exact (run_bind_of_ok (operation_run ctl cfg tb hloc hanswer hread hout)).trans rfl
  · rw [Testbed.answered_controller, hview', hview, QuarantineCall.apply,
      MacAddr.filter_map_toText]

theorem perform_run (tb : Testbed σ) {macs : List MacAddr} (call : QuarantineCall)
    (hinv : Inv tb.controller) (hview : ctl.quarantined tb.controller = macs.map MacAddr.toText) :
    ∃ tb', ((⟨Testbed.wire ctl, cfg⟩ : ControllerClient (TestbedStep σ)).perform call).run.run tb =
        (.ok (), tb') ∧ Inv tb'.controller ∧
      ctl.quarantined tb'.controller = (call.apply macs).map MacAddr.toText := by
  cases call with
  | quarantine mac => exact hreg.quarantine_run tb mac hinv hview
  | unquarantine mac => exact hreg.unquarantine_run tb mac hinv hview

end QuarantineRegister

end MudTestbed
