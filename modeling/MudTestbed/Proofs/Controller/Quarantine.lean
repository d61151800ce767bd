import MudTestbed.Proofs.Controller.ScriptedRegister

/-!
# What a quarantine sends

A controller's log of its exchanges (`ControllerBehavior.logged`) shows what a call of the
client sends, whatever the controller answers. `send` makes one attempt and one more after
each reply lost in transport, at most `retries + 1` in all, and its result is read from the
last reply (`ControllerClient.send_sends`).

A quarantine sends the listing of the quarantined devices that way and reads the list from
the last answer. Then it does exactly one of three things: when the list cannot be read it
fails with that error and sends nothing more; when the device is listed it succeeds and sends
nothing more; otherwise it sends the document of the list with the device added at the end,
with the retries of any request, and its result is that of the last of these attempts
(`ControllerClient.quarantine_reads_then_stores`); the addresses of the document are written in
lowercase (`MacAddr.toText_lower`). So a document lost in transport is sent again
(`dropped_document_is_sent_again`): the quarantine is one write only when no attempt is
lost.
-/

namespace MudTestbed

set_option autoImplicit false

variable {σ : Type}

def ControllerBehavior.logged (ctl : ControllerBehavior σ) :
    ControllerBehavior (σ × List (Request × Reply)) where
  answer s r := ((ctl.answer s.1 r).1, (ctl.answer s.1 r).2, s.2 ++ [(r, (ctl.answer s.1 r).1)])
  delay s r := ctl.delay s.1 r
  quarantined s := ctl.quarantined s.1

def Reply.Lost (reply : Reply) : Prop := reply = .unanswered ∨ reply = .brokenBody

def Reply.settle (url shown : String) (reply : Reply) : Except Error Json :=
  match reply.read url shown with
  | .error (.transport detail) => .error (.controllerUnreachable detail)
  | result => result

/-- `xs` are the exchanges of `req` sent with `left` retries, and `res` their result. -/
structure Sends (url shown : String) (req : Request) (left : Nat) (xs : List (Request × Reply))
    (res : Except Error Json) : Prop where
  length_pos : 0 < xs.length
  length_le : xs.length ≤ left + 1
  requests : ∀ x ∈ xs, x.1 = req
  lost : ∀ x ∈ xs.dropLast, x.2.Lost
  resent : ∀ i (x : Request × Reply), xs[i]? = some x → x.2.Lost → i < left → i + 1 < xs.length
  settles : ∃ x ∈ xs.getLast?, res = x.2.settle url shown

theorem Reply.lost_of_read {reply : Reply} {url shown detail : String}
    (h : reply.read url shown = .error (.transport detail)) : reply.Lost := by
  cases reply with
  | unanswered => exact Or.inl rfl
  | brokenBody => exact Or.inr rfl
  | answer status text =>
    simp only [Reply.read] at h
    split at h
    · cases h
    · split at h
      · cases h
      · split at h <;> cases h

theorem Reply.read_of_lost {reply : Reply} (h : reply.Lost) (url shown : String) :
    ∃ detail, reply.read url shown = .error (.transport detail) := by
  rcases h with rfl | rfl
  · exact ⟨_, rfl⟩
  · exact ⟨_, rfl⟩

theorem Reply.settle_of_not_transport {reply : Reply} {url shown : String}
    (h : ∀ detail, reply.read url shown ≠ .error (.transport detail)) :
    reply.settle url shown = reply.read url shown := by
  unfold settle
  split
  · rename_i detail hd
    exact absurd hd (h detail)
  · rfl

namespace Sends

variable {url shown : String} {req : Request} {reply : Reply}

theorem single {left : Nat} (hend : reply.Lost → left = 0) :
    Sends url shown req left [(req, reply)] (reply.settle url shown) := by
  refine ⟨by simp, by simp, by simp, by simp, fun i x hx hlost hi => ?_, ⟨_, rfl, rfl⟩⟩
  obtain rfl : i = 0 := by
    cases i with
    | zero => rfl
    | succ i => simp at hx
  obtain rfl : x = (req, reply) := by simpa using hx.symm
  exact absurd (hend hlost) (by omega)

theorem retry {left : Nat} {xs : List (Request × Reply)} {res : Except Error Json}
    (hlost : reply.Lost) (h : Sends url shown req left xs res) :
    Sends url shown req (left + 1) ((req, reply) :: xs) res := by
  obtain ⟨hpos, hle, hreq, hdrop, hresent, hlast⟩ := h
  obtain ⟨y, ys, rfl⟩ := List.exists_cons_of_length_pos hpos
  refine ⟨by simp, by simp at hle ⊢; omega, ?_, ?_, fun i x hx hx' hi => ?_, ?_⟩
  · simpa using hreq
  · rw [List.dropLast_cons_cons]
    simpa [hlost] using hdrop
  · cases i with
    | zero => simp
    | succ i =>
      have := hresent i x (by simpa using hx) hx' (by omega)
      simp only [List.length_cons] at this ⊢
      omega
  · rwa [List.getLast?_cons_cons]

end Sends

section Run

variable {ε τ α β : Type} {x : ExceptT ε (StateM τ) α} {s s' : τ}

theorem run_bind_of_error {f : α → ExceptT ε (StateM τ) β} {e : ε}
    (h : x.run.run s = (.error e, s')) : (x >>= f).run.run s = (.error e, s') := by
  simp only [ExceptT.run_bind, StateT.run_bind, h]
  rfl

theorem run_bind_mk_pure {g : α → Except ε β} {r : Except ε α} (h : x.run.run s = (r, s')) :
    (x >>= fun a => ExceptT.mk (pure (g a))).run.run s = (r >>= g, s') := by
  cases r with
  | ok a => exact (run_bind_of_ok h).trans rfl
  | error e => exact run_bind_of_error h

theorem run_bind_pure {f : α → β} {r : Except ε α} (h : x.run.run s = (r, s')) :
    (x >>= fun a => pure (f a)).run.run s = (r.map f, s') := by
  cases r with
  | ok a => exact (run_bind_of_ok h).trans rfl
  | error e => exact run_bind_of_error h

end Run

theorem MacAddr.hexByte_lower (b : Nat) :
    ∀ c ∈ (MacAddr.hexByte b).toList, c.isUpper = false :=
  MacAddr.forall_mem_hexByte (by decide) b

theorem MacAddr.toText_lower (m : MacAddr) : ∀ c ∈ m.toText.toList, c.isUpper = false :=
  MacAddr.forall_mem_toText (by decide) (fun b _ => MacAddr.hexByte_lower b) m

namespace ControllerClient

variable (ctl : ControllerBehavior σ) (cfg : ControllerConfig) {method : Method} {path : String}
  {body : Json} {loc : Url.Location}

def requestAt (cfg : ControllerConfig) (method : Method) (loc : Url.Location) (body : Json) :
    Request :=
  ⟨method, loc.path, body, cfg.username, cfg.password⟩

section Retry

variable {tb tb' : Testbed σ} {left backoff : Nat}

theorem retrying_of_error {e : Error} (he : ∀ detail, e ≠ .transport detail)
    (h : ((⟨Testbed.wire ctl, cfg⟩ : ControllerClient (TestbedStep σ)).sendOnce method path
      body).run.run tb = (.error e, tb')) :
    ((⟨Testbed.wire ctl, cfg⟩ : ControllerClient (TestbedStep σ)).retrying method path body left
      backoff).run.run tb = (.error e, tb') := by
  cases e
  case transport detail => exact absurd rfl (he detail)
  all_goals
    cases left <;>
    · unfold retrying
      simp only [ExceptT.run_mk, StateT.run_bind, h]
      rfl

theorem retrying_zero_of_transport {detail : String}
    (h : ((⟨Testbed.wire ctl, cfg⟩ : ControllerClient (TestbedStep σ)).sendOnce method path
      body).run.run tb = (.error (.transport detail), tb')) :
    ((⟨Testbed.wire ctl, cfg⟩ : ControllerClient (TestbedStep σ)).retrying method path body 0
      backoff).run.run tb = (.error (.controllerUnreachable detail), tb') := by
  unfold retrying
  simp only [ExceptT.run_mk, StateT.run_bind, h]
  rfl

theorem retrying_succ_of_transport {detail : String}
    (h : ((⟨Testbed.wire ctl, cfg⟩ : ControllerClient (TestbedStep σ)).sendOnce method path
      body).run.run tb = (.error (.transport detail), tb')) :
    ((⟨Testbed.wire ctl, cfg⟩ : ControllerClient (TestbedStep σ)).retrying method path body
      (left + 1) backoff).run.run tb =
      ((⟨Testbed.wire ctl, cfg⟩ : ControllerClient (TestbedStep σ)).retrying method path body left
        (min (2 * backoff) maxBackoffMs)).run.run
        { tb' with clock := max tb'.clock (tb'.clock + backoff) } := by
  conv => lhs; unfold retrying
  simp only [ExceptT.run_mk, StateT.run_bind, h]
  rfl

end Retry

theorem retrying_of_not_transport {tb tb' : Testbed σ} {left backoff : Nat} {r : Except Error Json}
    (hr : ∀ detail, r ≠ .error (.transport detail))
    (h : ((⟨Testbed.wire ctl, cfg⟩ : ControllerClient (TestbedStep σ)).sendOnce method path
      body).run.run tb = (r, tb')) :
    ((⟨Testbed.wire ctl, cfg⟩ : ControllerClient (TestbedStep σ)).retrying method path body left
      backoff).run.run tb = (r, tb') := by
  cases r with
  | ok v => exact retrying_of_sendOnce ctl cfg left backoff h
  | error e => exact retrying_of_error ctl cfg (fun detail he => hr detail (he ▸ rfl)) h

theorem sendOnce_logged (hloc : requestTarget ((programs cfg).url path) = .ok loc)
    (tb : Testbed (σ × List (Request × Reply))) {reply : Reply} {s' : σ}
    (hans : ctl.answer tb.controller.1 (requestAt cfg method loc body) = (reply, s')) :
    ∃ tb₁ : Testbed (σ × List (Request × Reply)),
      ((⟨Testbed.wire ctl.logged, cfg⟩ : ControllerClient (TestbedStep _)).sendOnce method path
        body).run.run tb = (reply.read ((programs cfg).url path) loc.text, tb₁) ∧
      tb₁.controller = (s', tb.controller.2 ++ [(requestAt cfg method loc body, reply)]) := by
  refine ⟨tb.answered ctl.logged (requestAt cfg method loc body)
    (s', tb.controller.2 ++ [(requestAt cfg method loc body, reply)]), ?_, rfl⟩
  rw [sendOnce_run ctl.logged cfg tb hloc]
  simp only [ControllerBehavior.logged]
  rw [show (⟨method, loc.path, body, cfg.username, cfg.password⟩ : Request) =
    requestAt cfg method loc body from rfl, hans]

theorem retrying_sends_of_answered (hloc : requestTarget ((programs cfg).url path) = .ok loc)
    (left backoff : Nat) (tb : Testbed (σ × List (Request × Reply))) {reply : Reply} {s' : σ}
    (hans : ctl.answer tb.controller.1 (requestAt cfg method loc body) = (reply, s'))
    (ht : ∀ detail, reply.read ((programs cfg).url path) loc.text ≠ .error (.transport detail)) :
    ∃ xs, (((⟨Testbed.wire ctl.logged, cfg⟩ : ControllerClient (TestbedStep _)).retrying
        method path body left backoff).run.run tb).2.controller.2 = tb.controller.2 ++ xs ∧
      Sends ((programs cfg).url path) loc.text (requestAt cfg method loc body) left xs
        (((⟨Testbed.wire ctl.logged, cfg⟩ : ControllerClient (TestbedStep _)).retrying
          method path body left backoff).run.run tb).1 := by
  obtain ⟨tb₁, hsend, hctl⟩ := sendOnce_logged ctl cfg hloc tb hans
  rw [retrying_of_not_transport ctl.logged cfg ht hsend, hctl]
  have hkept : ¬ reply.Lost := fun hlost => by
    obtain ⟨d, hd⟩ := Reply.read_of_lost hlost ((programs cfg).url path) loc.text
    exact ht d hd
  exact ⟨_, rfl, Reply.settle_of_not_transport ht ▸ Sends.single fun hlost => absurd hlost hkept⟩

theorem retrying_sends (hloc : requestTarget ((programs cfg).url path) = .ok loc) :
    ∀ (left backoff : Nat) (tb : Testbed (σ × List (Request × Reply))),
      ∃ xs, (((⟨Testbed.wire ctl.logged, cfg⟩ : ControllerClient (TestbedStep _)).retrying
          method path body left backoff).run.run tb).2.controller.2 = tb.controller.2 ++ xs ∧
        Sends ((programs cfg).url path) loc.text (requestAt cfg method loc body) left xs
          (((⟨Testbed.wire ctl.logged, cfg⟩ : ControllerClient (TestbedStep _)).retrying
            method path body left backoff).run.run tb).1 := by
  intro left
  induction left with
  | zero =>
    intro backoff tb
    obtain ⟨reply, s', hans⟩ : ∃ reply s', ctl.answer tb.controller.1
        (requestAt cfg method loc body) = (reply, s') := ⟨_, _, rfl⟩
    by_cases ht : ∃ detail, reply.read ((programs cfg).url path) loc.text =
        .error (.transport detail)
    · obtain ⟨detail, hd⟩ := ht
      obtain ⟨tb₁, hsend, hctl⟩ := sendOnce_logged ctl cfg hloc tb hans
      rw [hd] at hsend
      rw [retrying_zero_of_transport ctl.logged cfg hsend, hctl]
      have hs : reply.settle ((programs cfg).url path) loc.text =
          .error (.controllerUnreachable detail) := by
        unfold Reply.settle
        rw [hd]
      exact ⟨_, rfl, hs ▸ Sends.single fun _ => rfl⟩
    · exact retrying_sends_of_answered ctl cfg hloc 0 backoff tb hans fun d hd => ht ⟨d, hd⟩
  | succ left ih =>
    intro backoff tb
    obtain ⟨reply, s', hans⟩ : ∃ reply s', ctl.answer tb.controller.1
        (requestAt cfg method loc body) = (reply, s') := ⟨_, _, rfl⟩
    by_cases ht : ∃ detail, reply.read ((programs cfg).url path) loc.text =
        .error (.transport detail)
    · obtain ⟨detail, hd⟩ := ht
      obtain ⟨tb₁, hsend, hctl⟩ := sendOnce_logged ctl cfg hloc tb hans
      rw [hd] at hsend
      rw [retrying_succ_of_transport ctl.logged cfg hsend]
      obtain ⟨xs, hlog, hsends⟩ := ih (min (2 * backoff) maxBackoffMs)
        { tb₁ with clock := max tb₁.clock (tb₁.clock + backoff) }
      refine ⟨(requestAt cfg method loc body, reply) :: xs, ?_, hsends.retry (Reply.lost_of_read hd)⟩
      rw [hlog, hctl, List.append_assoc, List.singleton_append]
    · exact retrying_sends_of_answered ctl cfg hloc (left + 1) backoff tb hans
        fun d hd => ht ⟨d, hd⟩

theorem send_sends (method : Method) (body : Json)
    (hloc : requestTarget ((programs cfg).url path) = .ok loc)
    (tb : Testbed (σ × List (Request × Reply))) :
    ∃ xs, (((⟨Testbed.wire ctl.logged, cfg⟩ : ControllerClient (TestbedStep _)).send
        method path body).run.run tb).2.controller.2 = tb.controller.2 ++ xs ∧
      Sends ((programs cfg).url path) loc.text (requestAt cfg method loc body) cfg.retries xs
        (((⟨Testbed.wire ctl.logged, cfg⟩ : ControllerClient (TestbedStep _)).send
          method path body).run.run tb).1 :=
  retrying_sends ctl cfg hloc cfg.retries cfg.backoffMs tb

def listedIn (output : Json) : Except Error (List MacAddr) :=
  match output.field? "device-mac-addresses" with
  | none => .ok []
  | some (.array items) => items.mapM listedMac
  | some other => .error (.protocol s!"device-mac-addresses is not a list: {other.render}")

section Read

variable {m : Type → Type} [Monad m]

theorem quarantineMacs_eq (c : ControllerClient m) :
    c.quarantineMacs = c.operation Operation.getQuarantineMacs (Json.obj []) >>= fun output =>
      ExceptT.mk (pure (listedIn output)) := by
  unfold quarantineMacs listedIn
  congr 1
  funext output
  cases output.field? "device-mac-addresses" with
  | none => rfl
  | some v => cases v <;> rfl

end Read

theorem quarantineMacs_sends {listing : Url.Location}
    (hl : requestTarget ((programs cfg).url listingPath) = .ok listing)
    (tb : Testbed (σ × List (Request × Reply))) :
    ∃ reads read, (((⟨Testbed.wire ctl.logged, cfg⟩ : ControllerClient (TestbedStep _)).quarantineMacs
        ).run.run tb).2.controller.2 = tb.controller.2 ++ reads ∧
      Sends ((programs cfg).url listingPath) listing.text
        (requestAt cfg .post listing (Json.obj [("input", Json.obj [])])) cfg.retries reads read ∧
      (((⟨Testbed.wire ctl.logged, cfg⟩ : ControllerClient (TestbedStep _)).quarantineMacs
        ).run.run tb).1 = read >>= outputOf >>= listedIn := by
  obtain ⟨reads, hlog, hsends⟩ :=
    send_sends ctl cfg .post (Json.obj [("input", Json.obj [])]) hl tb
  generalize hsend : (((⟨Testbed.wire ctl.logged, cfg⟩ : ControllerClient (TestbedStep _)).send
    .post listingPath (Json.obj [("input", Json.obj [])])).run.run tb) = sent at hlog hsends
  obtain ⟨read, tb₁⟩ := sent
  have hrun : (((⟨Testbed.wire ctl.logged, cfg⟩ : ControllerClient (TestbedStep _)).quarantineMacs
      ).run.run tb) = (read >>= outputOf >>= listedIn, tb₁) := by
    rw [quarantineMacs_eq]
    exact run_bind_mk_pure (run_bind_mk_pure hsend)
  rw [hrun]
  exact ⟨reads, read, hlog, hsends, rfl⟩

theorem upload_sends (resource : String)
    (hloc : requestTarget ((programs cfg).url s!"config/{resource}") = .ok loc) (doc : Json)
    (tb : Testbed (σ × List (Request × Reply))) :
    ∃ xs res, (((⟨Testbed.wire ctl.logged, cfg⟩ : ControllerClient (TestbedStep _)).upload
        resource doc).run.run tb).2.controller.2 = tb.controller.2 ++ xs ∧
      Sends ((programs cfg).url s!"config/{resource}") loc.text (requestAt cfg .put loc doc)
        cfg.retries xs res ∧
      (((⟨Testbed.wire ctl.logged, cfg⟩ : ControllerClient (TestbedStep _)).upload
        resource doc).run.run tb).1 = res.map fun _ => () := by
  obtain ⟨xs, hlog, hsends⟩ := send_sends ctl cfg .put doc hloc tb
  generalize hsend : (((⟨Testbed.wire ctl.logged, cfg⟩ : ControllerClient (TestbedStep _)).send
    .put s!"config/{resource}" doc).run.run tb) = sent at hlog hsends
  obtain ⟨res, tb₁⟩ := sent
  unfold upload
  rw [run_bind_pure hsend]
  exact ⟨xs, res, hlog, hsends, rfl⟩

/-- What a quarantine of `mac` did: its read, then one of three outcomes. -/
structure QuarantineExchanges (cfg : ControllerConfig) (listing storing : Url.Location)
    (mac : MacAddr) (reads writes : List (Request × Reply)) (read : Except Error Json)
    (result : Except Error Unit) : Prop where
  /-- The listing is sent with the configured retries. -/
  listing_sent : Sends ((programs cfg).url listingPath) listing.text
    (requestAt cfg .post listing (Json.obj [("input", Json.obj [])])) cfg.retries reads read
  /-- A list that cannot be read fails the quarantine, and nothing more is sent. -/
  unread : ∀ e, read >>= outputOf >>= listedIn = .error e → result = .error e ∧ writes = []
  /-- A listed device: the quarantine succeeds, and nothing more is sent. -/
  listed : ∀ macs, read >>= outputOf >>= listedIn = .ok macs → mac ∈ macs →
    result = .ok () ∧ writes = []
  /-- Otherwise the list with the device added is sent with retries, and that is the result. -/
  stored : ∀ macs, read >>= outputOf >>= listedIn = .ok macs → mac ∉ macs →
    ∃ res, Sends ((programs cfg).url storingPath) storing.text
      (requestAt cfg .put storing (quarantineDocument (macs ++ [mac]))) cfg.retries writes res ∧
      result = res.map fun _ => ()

namespace QuarantineExchanges

variable {cfg} {listing storing : Url.Location} {mac : MacAddr}
  {reads : List (Request × Reply)} {read : Except Error Json}
  (hsends : Sends ((programs cfg).url listingPath) listing.text
    (requestAt cfg .post listing (Json.obj [("input", Json.obj [])])) cfg.retries reads read)

include hsends

theorem of_unread {e : Error} (he : read >>= outputOf >>= listedIn = .error e) :
    QuarantineExchanges cfg listing storing mac reads [] read (.error e) where
  listing_sent := hsends
  unread e' he' := by
    rw [he, Except.error.injEq] at he'
    exact ⟨he' ▸ rfl, rfl⟩
  listed macs hmacs := by
    rw [he] at hmacs
    cases hmacs
  stored macs hmacs := by
    rw [he] at hmacs
    cases hmacs

theorem of_listed {macs : List MacAddr} (hmacs : read >>= outputOf >>= listedIn = .ok macs)
    (hmem : mac ∈ macs) : QuarantineExchanges cfg listing storing mac reads [] read (.ok ()) where
  listing_sent := hsends
  unread e he := by
    rw [hmacs] at he
    cases he
  listed _ _ _ := ⟨rfl, rfl⟩
  stored macs' hmacs' hnot := by
    rw [hmacs, Except.ok.injEq] at hmacs'
    exact absurd (hmacs' ▸ hmem) hnot

theorem of_stored {macs : List MacAddr} (hmacs : read >>= outputOf >>= listedIn = .ok macs)
    (hmem : mac ∉ macs) {writes : List (Request × Reply)} {res : Except Error Json}
    (hwrites : Sends ((programs cfg).url storingPath) storing.text
      (requestAt cfg .put storing (quarantineDocument (macs ++ [mac]))) cfg.retries writes res) :
    QuarantineExchanges cfg listing storing mac reads writes read (res.map fun _ => ()) where
  listing_sent := hsends
  unread e he := by
    rw [hmacs] at he
    cases he
  listed macs' hmacs' hin := by
    rw [hmacs, Except.ok.injEq] at hmacs'
    exact absurd (hmacs' ▸ hin) hmem
  stored macs' hmacs' _ := by
    rw [hmacs, Except.ok.injEq] at hmacs'
    subst hmacs'
    exact ⟨res, hwrites, rfl⟩

end QuarantineExchanges

/-- A quarantine reads the list and then does what `QuarantineExchanges` says. -/
theorem quarantine_reads_then_stores {listing storing : Url.Location}
    (hl : requestTarget ((programs cfg).url listingPath) = .ok listing)
    (hs : requestTarget ((programs cfg).url storingPath) = .ok storing)
    (tb : Testbed (σ × List (Request × Reply))) (mac : MacAddr) :
    ∃ reads writes read,
      (((⟨Testbed.wire ctl.logged, cfg⟩ : ControllerClient (TestbedStep _)).quarantine mac
        ).run.run tb).2.controller.2 = tb.controller.2 ++ reads ++ writes ∧
      QuarantineExchanges cfg listing storing mac reads writes read
        (((⟨Testbed.wire ctl.logged, cfg⟩ : ControllerClient (TestbedStep _)).quarantine mac
          ).run.run tb).1 := by
  obtain ⟨reads, read, hlog, hsends, hres⟩ := quarantineMacs_sends ctl cfg hl tb
  generalize hq : (((⟨Testbed.wire ctl.logged, cfg⟩ : ControllerClient (TestbedStep _)
    ).quarantineMacs).run.run tb) = q at hlog hres
  obtain ⟨listed, tb₁⟩ := q
  dsimp only at hlog hres
  unfold quarantine
  cases listed with
  | error e =>
    rw [run_bind_of_error hq]
    exact ⟨reads, [], read, by rw [hlog, List.append_nil], .of_unread hsends hres.symm⟩
  | ok macs =>
    rw [run_bind_of_ok hq]
    by_cases hmem : mac ∈ macs
    · rw [if_pos (List.contains_iff_mem.mpr hmem)]
      exact ⟨reads, [], read, by rw [← hlog, List.append_nil]; rfl,
        .of_listed hsends hres.symm hmem⟩
    · rw [if_neg (mt List.contains_iff_mem.mp hmem)]
      obtain ⟨writes, res, hlogw, hsendsw, hresw⟩ := upload_sends ctl cfg Resource.quarantineDevice
        hs (quarantineDocument (macs ++ [mac])) tb₁
      rw [hresw]
      exact ⟨reads, writes, read, by rw [hlogw, hlog], .of_stored hsends hres.symm hmem hsendsw⟩

end ControllerClient

/-- A document the scripted controller drops is sent again, and the quarantine succeeds. -/
theorem dropped_document_is_sent_again :
    let ctl : ScriptedController :=
      { overrides := [{ path := storingPath, method := some .put, times := some 1,
                        action := .drop }] }
    let client : ControllerClient (TestbedStep ScriptedController) :=
      ⟨Testbed.wire ScriptedController.behavior, ControllerConfig.default⟩
    let run := (client.quarantine (MacAddr.ofNat 0xb1)).run.run { controller := ctl }
    run.1.isOk = true ∧ run.2.controller.requests.map (·.method) = [.post, .put, .put] := by
  intro ctl client run
  decide +kernel

/-- On the scripted controller, a quarantine does what `QuarantineExchanges` says. -/
theorem scripted_quarantine_reads_then_stores :
    ∃ listing storing,
      requestTarget ((ControllerClient.programs .default).url listingPath) = .ok listing ∧
      requestTarget ((ControllerClient.programs .default).url storingPath) = .ok storing ∧
      ∃ reads writes read,
        (((⟨Testbed.wire ScriptedController.behavior.logged, .default⟩ :
          ControllerClient (TestbedStep _)).quarantine (MacAddr.ofNat 1)).run.run
            { controller := ({}, []) }).2.controller.2 = [] ++ reads ++ writes ∧
        ControllerClient.QuarantineExchanges .default listing storing (MacAddr.ofNat 1) reads
          writes read (((⟨Testbed.wire ScriptedController.behavior.logged, .default⟩ :
            ControllerClient (TestbedStep _)).quarantine (MacAddr.ofNat 1)).run.run
              { controller := ({}, []) }).1 := by
  obtain ⟨listing, hl⟩ := ScriptedController.quarantineRegister.reaches listingPath (by simp)
  obtain ⟨storing, hs⟩ := ScriptedController.quarantineRegister.reaches storingPath (by simp)
  exact ⟨listing, storing, hl, hs, ControllerClient.quarantine_reads_then_stores
    ScriptedController.behavior .default hl hs { controller := ({}, []) } (MacAddr.ofNat 1)⟩

end MudTestbed
