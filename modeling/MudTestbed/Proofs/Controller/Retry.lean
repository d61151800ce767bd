import MudTestbed.Proofs.Controller.Quarantine

/-!
# Which failures a request retries

`send` makes an attempt, and another after each attempt lost in transport, until its retries
run out; no other failure is retried. Against a controller that answers from a script of
replies (`Replayed`), any script, the run of `send` is fixed by the outcomes the script's
replies are read as. When the first `t` outcomes are transport failures, `send` with `r`
retries sends its request `min t r + 1` times; it reports the controller unreachable, with the
message of the last transport failure, exactly when all `r + 1` attempts failed in transport,
and otherwise gives the first other outcome as it is (`Retried`,
`ControllerClient.retrying_retried`). A request whose URL cannot be requested fails every
attempt in transport before anything is sent (`ControllerClient.retrying_unbuilt`).

Every operation of the client sends through `send` and passes its errors on unchanged
(`ControllerClient.upload_of_send_error` and its siblings), so each inherits this; a status
outside `2xx` ends an operation after a single attempt.
-/

namespace MudTestbed

set_option autoImplicit false

/-- A controller answering from a script, keeping the requests it received. -/
structure Replayed where
  script : Nat → Reply
  received : List Request

def Replayed.timed (delays : Nat → Nat) : ControllerBehavior Replayed where
  answer c r := (c.script 0, ⟨fun k => c.script (k + 1), c.received ++ [r]⟩)
  delay c _ := delays c.received.length
  quarantined _ := []

abbrev Replayed.behavior : ControllerBehavior Replayed := Replayed.timed fun _ => 0

abbrev Replayed.client (cfg : ControllerConfig) : ControllerClient (TestbedStep Replayed) :=
  ⟨Testbed.wire Replayed.behavior, cfg⟩

abbrev Replayed.timedClient (cfg : ControllerConfig) (delays : Nat → Nat) :
    ControllerClient (TestbedStep Replayed) :=
  ⟨Testbed.wire (Replayed.timed delays), cfg⟩

def transportFailed {α : Type} : Except Error α → Bool
  | .error e => e.retryable
  | .ok _ => false

theorem transportFailed_iff {α : Type} (o : Except Error α) :
    transportFailed o = true ↔ ∃ d, o = .error (.transport d) := by
  cases o with
  | error e => simp [transportFailed, Error.retryable_iff]
  | ok a => simp [transportFailed]

theorem ne_transport_of_transportFailed {α : Type} {o : Except Error α}
    (h : transportFailed o = false) (d : String) : o ≠ .error (.transport d) := fun hd => by
  rw [hd] at h
  cases h

def leadingTransport {α : Type} (outcome : Nat → Except Error α) : Nat → Nat
  | 0 => 0
  | n + 1 =>
    if transportFailed (outcome 0) then leadingTransport (fun k => outcome (k + 1)) n + 1 else 0

section Leading

variable {α : Type} (outcome : Nat → Except Error α)

theorem leadingTransport_le (n : Nat) : leadingTransport outcome n ≤ n := by
  induction n generalizing outcome with
  | zero => exact Nat.le_refl 0
  | succ n ih =>
    unfold leadingTransport
    split
    · exact Nat.succ_le_succ (ih _)
    · exact Nat.zero_le _

theorem leadingTransport_succ_of_failed {n : Nat} (h : transportFailed (outcome 0) = true) :
    leadingTransport outcome (n + 1) = leadingTransport (fun k => outcome (k + 1)) n + 1 := by
  rw [leadingTransport, if_pos h]

theorem leadingTransport_succ_of_settled {n : Nat} (h : transportFailed (outcome 0) = false) :
    leadingTransport outcome (n + 1) = 0 := by
  rw [leadingTransport, if_neg (by simp [h])]

end Leading

/-! ### What sending comes to -/

/-- What sending `req` with `left` retries came to, for given attempt outcomes. -/
structure Retried (req : Request) (left : Nat) (outcome : Nat → Except Error Json)
    (sent : List Request) (result : Except Error Json) : Prop where
  attempts : sent = List.replicate (min (leadingTransport outcome (left + 1)) left + 1) req
  unreachable : leadingTransport outcome (left + 1) = left + 1 →
    ∃ d, outcome left = .error (.transport d) ∧ result = .error (.controllerUnreachable d)
  settled : leadingTransport outcome (left + 1) ≤ left →
    result = outcome (leadingTransport outcome (left + 1))

namespace Retried

variable {req : Request} {outcome : Nat → Except Error Json}

theorem first (left : Nat) (h : transportFailed (outcome 0) = false) :
    Retried req left outcome [req] (outcome 0) := by
  have ht : leadingTransport outcome (left + 1) = 0 := leadingTransport_succ_of_settled outcome h
  refine ⟨?_, fun hall => ?_, fun _ => ?_⟩
  · rw [ht, Nat.zero_min]
    rfl
  · rw [ht] at hall
    omega
  · rw [ht]

theorem exhausted {d : String} (h : outcome 0 = .error (.transport d)) :
    Retried req 0 outcome [req] (.error (.controllerUnreachable d)) := by
  have hf : transportFailed (outcome 0) = true := (transportFailed_iff _).mpr ⟨d, h⟩
  have ht : leadingTransport outcome 1 = 1 := leadingTransport_succ_of_failed outcome hf
  refine ⟨?_, fun _ => ⟨d, h, rfl⟩, fun hle => ?_⟩
  · rw [ht]
    rfl
  · rw [ht] at hle
    omega

theorem retry {left : Nat} {d : String} {sent : List Request} {result : Except Error Json}
    (h : outcome 0 = .error (.transport d))
    (hrest : Retried req left (fun k => outcome (k + 1)) sent result) :
    Retried req (left + 1) outcome (req :: sent) result := by
  have hf : transportFailed (outcome 0) = true := (transportFailed_iff _).mpr ⟨d, h⟩
  have ht : leadingTransport outcome (left + 1 + 1) =
      leadingTransport (fun k => outcome (k + 1)) (left + 1) + 1 :=
    leadingTransport_succ_of_failed outcome hf
  obtain ⟨hsent, hunreachable, hsettled⟩ := hrest
  refine ⟨?_, fun hall => ?_, fun hle => ?_⟩
  · rw [ht, hsent, Nat.add_min_add_right]
    rfl
  · rw [ht] at hall
    exact hunreachable (by omega)
  · rw [ht] at hle ⊢
    exact hsettled (by omega)

variable {left : Nat} {sent : List Request} {result : Except Error Json}

theorem unreachable_iff (hr : Retried req left outcome sent result)
    (hne : ∀ k d, outcome k ≠ .error (.controllerUnreachable d)) :
    (∃ d, result = .error (.controllerUnreachable d)) ↔
      leadingTransport outcome (left + 1) = left + 1 := by
  constructor
  · rintro ⟨d, hd⟩
    have hle := leadingTransport_le outcome (left + 1)
    by_cases hall : leadingTransport outcome (left + 1) = left + 1
    · exact hall
    · exact absurd ((hr.settled (by omega)).symm.trans hd) (hne _ d)
  · intro hall
    obtain ⟨d, -, hd⟩ := hr.unreachable hall
    exact ⟨d, hd⟩

theorem of_first_settled (hr : Retried req left outcome sent result)
    (h : transportFailed (outcome 0) = false) : result = outcome 0 ∧ sent = [req] := by
  have ht : leadingTransport outcome (left + 1) = 0 := leadingTransport_succ_of_settled outcome h
  refine ⟨?_, ?_⟩
  · rw [hr.settled (by omega), ht]
  · rw [hr.attempts, ht, Nat.zero_min]
    rfl

end Retried

/-! ### Replies as outcomes -/

theorem Reply.read_ne_unreachable (url shown : String) (reply : Reply) (d : String) :
    reply.read url shown ≠ .error (.controllerUnreachable d) := by
  cases reply with
  | unanswered => simp [Reply.read]
  | brokenBody => simp [Reply.read]
  | answer status text =>
    simp only [Reply.read]
    split
    · simp
    · split
      · simp
      · split <;> simp

theorem Reply.read_refused {status : Nat} (text url shown : String)
    (h : status < 200 ∨ 300 ≤ status) :
    (Reply.answer status text).read url shown = .error (.request status text) := by
  have hs : (decide (status < 200) || decide (status ≥ 300)) = true := by
    rcases h with h | h <;> simp [h]
  simp only [Reply.read, hs, if_true]

theorem requestTarget_error {url : String} {e : Error} (h : requestTarget url = .error e) :
    ∃ d, e = .transport d := by
  unfold requestTarget at h
  split at h
  · cases h
    exact ⟨_, rfl⟩
  · split at h
    · cases h
    · cases h
      exact ⟨_, rfl⟩

namespace ControllerClient

/-! ### Sending on a scripted controller -/

section Replaying

variable (cfg : ControllerConfig) {method : Method} {path : String} {body : Json}
  {loc : Url.Location}

theorem sendOnce_replayed (hloc : requestTarget ((programs cfg).url path) = .ok loc)
    (tb : Testbed Replayed) :
    ((Replayed.client cfg).sendOnce method path body).run.run tb =
      ((tb.controller.script 0).read ((programs cfg).url path) loc.text,
        { tb with controller := ⟨fun k => tb.controller.script (k + 1),
                                 tb.controller.received ++ [requestAt cfg method loc body]⟩ }) :=
  (sendOnce_run Replayed.behavior cfg tb hloc).trans rfl

theorem retrying_retried_of_settled (hloc : requestTarget ((programs cfg).url path) = .ok loc)
    (left backoff : Nat) (tb : Testbed Replayed)
    (h : transportFailed ((tb.controller.script 0).read ((programs cfg).url path) loc.text) = false) :
    ∃ sent, (((Replayed.client cfg).retrying method path body left backoff).run.run tb).2.controller.received =
        tb.controller.received ++ sent ∧
      Retried (requestAt cfg method loc body) left
        (fun k => (tb.controller.script k).read ((programs cfg).url path) loc.text) sent
        (((Replayed.client cfg).retrying method path body left backoff).run.run tb).1 := by
  rw [retrying_of_not_transport Replayed.behavior cfg (ne_transport_of_transportFailed h)
    (sendOnce_replayed cfg hloc tb)]
  exact ⟨[requestAt cfg method loc body], rfl, Retried.first left h⟩

theorem retrying_retried (hloc : requestTarget ((programs cfg).url path) = .ok loc) :
    ∀ (left backoff : Nat) (tb : Testbed Replayed),
      ∃ sent, (((Replayed.client cfg).retrying method path body left backoff).run.run tb
          ).2.controller.received = tb.controller.received ++ sent ∧
        Retried (requestAt cfg method loc body) left
          (fun k => (tb.controller.script k).read ((programs cfg).url path) loc.text) sent
          (((Replayed.client cfg).retrying method path body left backoff).run.run tb).1 := by
  intro left
  induction left with
  | zero =>
    intro backoff tb
    cases hf : transportFailed ((tb.controller.script 0).read ((programs cfg).url path) loc.text)
    · exact retrying_retried_of_settled cfg hloc 0 backoff tb hf
    · obtain ⟨d, hd⟩ := (transportFailed_iff _).mp hf
      have hsend := @sendOnce_replayed cfg method _ body _ hloc tb
      rw [hd] at hsend
      rw [retrying_zero_of_transport Replayed.behavior cfg hsend]
      exact ⟨[requestAt cfg method loc body], rfl, Retried.exhausted hd⟩
  | succ left ih =>
    intro backoff tb
    cases hf : transportFailed ((tb.controller.script 0).read ((programs cfg).url path) loc.text)
    · exact retrying_retried_of_settled cfg hloc (left + 1) backoff tb hf
    · obtain ⟨d, hd⟩ := (transportFailed_iff _).mp hf
      have hsend := @sendOnce_replayed cfg method _ body _ hloc tb
      rw [hd] at hsend
      rw [retrying_succ_of_transport Replayed.behavior cfg hsend]
      obtain ⟨sent, hreceived, hretried⟩ := ih (min (2 * backoff) maxBackoffMs)
        { tb with controller := ⟨fun k => tb.controller.script (k + 1),
                                 tb.controller.received ++ [requestAt cfg method loc body]⟩,
                  clock := max tb.clock (tb.clock + backoff) }
      refine ⟨requestAt cfg method loc body :: sent, ?_, Retried.retry hd hretried⟩
      rw [hreceived, List.append_assoc, List.singleton_append]

end Replaying

section Unbuilt

variable {σ : Type} (ctl : ControllerBehavior σ) (cfg : ControllerConfig) {method : Method}
  {path : String} {body : Json}

theorem sendOnce_unbuilt {e : Error} (h : requestTarget ((programs cfg).url path) = .error e)
    (tb : Testbed σ) :
    ((⟨Testbed.wire ctl, cfg⟩ : ControllerClient (TestbedStep σ)).sendOnce method path
      body).run.run tb = (.error e, tb) := by
  unfold sendOnce
  simp only [ExceptT.run_bind, ExceptT.run_mk, url_eq, h]
  rfl

theorem retrying_unbuilt {d : String}
    (h : requestTarget ((programs cfg).url path) = .error (.transport d)) :
    ∀ (left backoff : Nat) (tb : Testbed σ),
      (((⟨Testbed.wire ctl, cfg⟩ : ControllerClient (TestbedStep σ)).retrying method path body
          left backoff).run.run tb).1 = .error (.controllerUnreachable d) ∧
        (((⟨Testbed.wire ctl, cfg⟩ : ControllerClient (TestbedStep σ)).retrying method path body
          left backoff).run.run tb).2.controller = tb.controller := by
  intro left
  induction left with
  | zero =>
    intro backoff tb
    rw [retrying_zero_of_transport ctl cfg (sendOnce_unbuilt ctl cfg h tb)]
    exact ⟨rfl, rfl⟩
  | succ left ih =>
    intro backoff tb
    rw [retrying_succ_of_transport ctl cfg (sendOnce_unbuilt ctl cfg h tb)]
    exact ih _ _

end Unbuilt

/-! ### Operations pass the errors of `send` on -/

section Operations

variable {τ : Type} (c : ControllerClient (StateM τ)) {s s' : τ} {e : Error}

theorem operation_of_send_error {name : String} {input : Json}
    (h : (c.send .post s!"operations/{name}" (Json.obj [("input", input)])).run.run s =
      (.error e, s')) :
    (c.operation name input).run.run s = (.error e, s') :=
  run_bind_of_error h

theorem upload_of_send_error {resource : String} {doc : Json}
    (h : (c.send .put s!"config/{resource}" doc).run.run s = (.error e, s')) :
    (c.upload resource doc).run.run s = (.error e, s') :=
  run_bind_of_error h

theorem clearRules_of_send_error
    (h : (c.send .post s!"operations/{Operation.clearMudRules}"
      (Json.obj [("input", Json.obj [])])).run.run s = (.error e, s')) :
    c.clearRules.run.run s = (.error e, s') :=
  run_bind_of_error (c.operation_of_send_error h)

theorem quarantineMacs_of_send_error
    (h : (c.send .post listingPath (Json.obj [("input", Json.obj [])])).run.run s =
      (.error e, s')) :
    c.quarantineMacs.run.run s = (.error e, s') :=
  run_bind_of_error (c.operation_of_send_error h)

theorem quarantine_of_send_error (mac : MacAddr)
    (h : (c.send .post listingPath (Json.obj [("input", Json.obj [])])).run.run s =
      (.error e, s')) :
    (c.quarantine mac).run.run s = (.error e, s') :=
  run_bind_of_error (c.quarantineMacs_of_send_error h)

theorem unquarantine_of_send_error (mac : MacAddr)
    (h : (c.send .post releasingPath
      (Json.obj [("input", Json.obj [("device-mac-address", .string mac.toText)])])).run.run s =
      (.error e, s')) :
    (c.unquarantine mac).run.run s = (.error e, s') :=
  run_bind_of_error (c.operation_of_send_error h)

end Operations

/-- Only transport failures are retried, at most `retries` times. -/
theorem send_retries_transport_failures_only (cfg : ControllerConfig) (tb : Testbed Replayed) :
    (∀ (method : Method) (path : String) (body : Json),
      let run := ((Replayed.client cfg).send method path body).run.run tb
      (∀ e, requestTarget ((programs cfg).url path) = .error e →
        ∃ d, e = .transport d ∧ run.1 = .error (.controllerUnreachable d) ∧
          run.2.controller = tb.controller) ∧
      ∀ loc, requestTarget ((programs cfg).url path) = .ok loc →
        let outcome := fun k => (tb.controller.script k).read ((programs cfg).url path) loc.text
        let t := leadingTransport outcome (cfg.retries + 1)
        run.2.controller.received = tb.controller.received ++
            List.replicate (min t cfg.retries + 1) (requestAt cfg method loc body) ∧
          ((∃ d, run.1 = .error (.controllerUnreachable d)) ↔ t = cfg.retries + 1) ∧
          (t = cfg.retries + 1 → ∃ d, outcome cfg.retries = .error (.transport d) ∧
            run.1 = .error (.controllerUnreachable d)) ∧
          (t ≤ cfg.retries → run.1 = outcome t) ∧
          ∀ status text, tb.controller.script 0 = .answer status text →
            (status < 200 ∨ 300 ≤ status) → run.1 = .error (.request status text) ∧
              run.2.controller.received = tb.controller.received ++ [requestAt cfg method loc body]) ∧
    (∀ resource doc e tb',
      ((Replayed.client cfg).send .put s!"config/{resource}" doc).run.run tb = (.error e, tb') →
        ((Replayed.client cfg).upload resource doc).run.run tb = (.error e, tb')) ∧
    (∀ e tb', ((Replayed.client cfg).send .post s!"operations/{Operation.clearMudRules}"
        (Json.obj [("input", Json.obj [])])).run.run tb = (.error e, tb') →
      (Replayed.client cfg).clearRules.run.run tb = (.error e, tb')) ∧
    (∀ e tb', ((Replayed.client cfg).send .post listingPath
        (Json.obj [("input", Json.obj [])])).run.run tb = (.error e, tb') →
      (Replayed.client cfg).quarantineMacs.run.run tb = (.error e, tb') ∧
        ∀ mac, ((Replayed.client cfg).quarantine mac).run.run tb = (.error e, tb')) ∧
    (∀ mac e tb', ((Replayed.client cfg).send .post releasingPath
        (Json.obj [("input", Json.obj [("device-mac-address", .string mac.toText)])])).run.run tb =
          (.error e, tb') →
      ((Replayed.client cfg).unquarantine mac).run.run tb = (.error e, tb')) := by
  refine ⟨fun method path body => ⟨fun e he => ?_, fun loc hloc => ?_⟩,
    fun _ _ _ _ h => upload_of_send_error _ h, fun _ _ h => clearRules_of_send_error _ h,
    fun _ _ h => ⟨quarantineMacs_of_send_error _ h, fun mac => quarantine_of_send_error _ mac h⟩,
    fun mac _ _ h => unquarantine_of_send_error _ mac h⟩
  · obtain ⟨d, rfl⟩ := requestTarget_error he
    exact ⟨d, rfl, retrying_unbuilt Replayed.behavior cfg he _ _ tb⟩
  · obtain ⟨sent, hreceived, hr⟩ :=
      @retrying_retried cfg method _ body _ hloc cfg.retries cfg.backoffMs tb
    refine ⟨by rw [send, hreceived, hr.attempts], hr.unreachable_iff
      (fun k d => Reply.read_ne_unreachable _ _ _ d), hr.unreachable, hr.settled,
      fun status text h0 hs => ?_⟩
    have hread : (tb.controller.script 0).read ((programs cfg).url path) loc.text =
        .error (.request status text) := by
      rw [h0]
      exact Reply.read_refused text _ _ hs
    obtain ⟨hres, hsent⟩ := hr.of_first_settled (by rw [hread]; rfl)
    exact ⟨hres.trans hread, by rw [send, hreceived, hsent]⟩

end ControllerClient

end MudTestbed
