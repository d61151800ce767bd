import MudTestbed.Proofs.Provision.Probes

/-!
# Probe verdicts

A result passes exactly when its probe ran and the expectation accepts what was observed:
`ProbeResult.observed` records the expectation's answer and the other results never pass
(`ProbeResult.Sound`), and every result of `Session.runProbe` is built so.

Before a protocol reads a client's output, `Probe.classify` checks that the client ran at
all. `CommandOutput.NeverRan` states that check on its own terms, `<:+:` standing for "the
text holds". Output of a client that never ran is a setup failure whatever else it says, so
a missing client that printed `timed out` or `Connection refused` never reads as blocked
traffic. Every error of `Probe.classify` is a setup error.
-/

namespace MudTestbed

set_option autoImplicit false

namespace Text

theorem contains_go_iff (n l : List Char) : contains.go n l = true ↔ n <:+: l := by
  induction l with
  | nil => simp [contains.go]
  | cons c rest ih => simp [contains.go, ih, List.infix_cons_iff, List.isPrefixOf_iff_prefix]

theorem contains_iff (s needle : String) :
    contains s needle = true ↔ needle.toList <:+: s.toList :=
  contains_go_iff _ _

end Text

def CommandOutput.NeverRan (o : CommandOutput) : Prop :=
  o.status = some 126 ∨ o.status = some 127 ∨
    (o.status = some 255 ∧ "exec of".toList <:+: o.combined.toList) ∨
    "command not found".toList <:+: o.combined.toList

namespace Probe

theorem notStarted_iff (o : CommandOutput) : notStarted o = true ↔ o.NeverRan := by
  unfold notStarted CommandOutput.NeverRan
  rw [Bool.or_eq_true, Text.contains_iff]
  rcases o with ⟨_ | n, out, err⟩
  · simp
  · by_cases h126 : n = 126
    · simp [h126]
    by_cases h127 : n = 127
    · simp [h127]
    by_cases h255 : n = 255
    · simp [h255, Text.contains_iff]
    · simp [h126, h127, h255]

theorem classify_of_neverRan (kind : ProbeKind) {o : CommandOutput} (h : o.NeverRan) :
    classify kind o = .error (.probeSetup s!"client did not run: {Text.firstLine o.combined}") := by
  unfold classify
  rw [if_pos ((notStarted_iff o).mpr h)]

theorem classifyHttp_error {o : CommandOutput} {e : Error} (h : classifyHttp o = .error e) :
    e = unrecognized o := by
  unfold classifyHttp at h
  dsimp only at h
  split_ifs at h
  cases h
  rfl

theorem classifyTcp_error {o : CommandOutput} {e : Error} (h : classifyTcp o = .error e) :
    e = unrecognized o := by
  unfold classifyTcp at h
  dsimp only at h
  split_ifs at h
  cases h
  rfl

theorem classifyUdp_error {o : CommandOutput} {e : Error} (h : classifyUdp o = .error e) :
    e = unrecognized o := by
  unfold classifyUdp at h
  split at h <;> cases h
  rfl

theorem classifyIcmp_error {o : CommandOutput} {e : Error} (h : classifyIcmp o = .error e) :
    e = unrecognized o := by
  unfold classifyIcmp at h
  dsimp only at h
  split at h
  · split_ifs at h
  · split_ifs at h
    cases h
    rfl

theorem classify_error {kind : ProbeKind} {o : CommandOutput} {e : Error}
    (h : classify kind o = .error e) : ∃ d, e = .probeSetup d := by
  unfold classify at h
  split_ifs at h
  · cases h
    exact ⟨_, rfl⟩
  · have he : e = unrecognized o := by
      split at h
      · exact classifyHttp_error h
      · exact classifyTcp_error h
      · exact classifyUdp_error h
      · exact classifyIcmp_error h
    exact ⟨_, he⟩

end Probe

namespace ProbeResult

def Sound (r : ProbeResult) : Prop :=
  r.passed = true ↔ ∃ o, r.observation = .observed o ∧ r.spec.expect.accepts o = true

theorem observed_sound (spec : ProbeSpec) (output : String) (o : ProbeOutcome) :
    (observed spec output o).Sound :=
  ⟨fun h => ⟨o, rfl, h⟩, fun ⟨_, ho, h⟩ => by cases ho; exact h⟩

theorem setupFailed_sound (spec : ProbeSpec) (reason : String) : (setupFailed spec reason).Sound :=
  ⟨(fun h => by cases h), fun ⟨_, ho, _⟩ => by cases ho⟩

theorem cancelled_sound (spec : ProbeSpec) : (cancelled spec).Sound :=
  ⟨(fun h => by cases h), fun ⟨_, ho, _⟩ => by cases ho⟩

theorem Sound.withOutput {r : ProbeResult} (h : r.Sound) (output : String) :
    ({ r with output := output } : ProbeResult).Sound := h

end ProbeResult

namespace Session

/-- The probe's client ran: the backend answered its command with `o`, leaving `b`. -/
structure Returned (s : Session) (spec : ProbeSpec) (o : CommandOutput) (b : MemoryBackend) :
    Prop where
  standing : s.network.tornDown = false
  known : (s.network.topology.host? spec.source).isSome = true
  inTime : s.backend.execDelay.any (probeLimit spec < ·) = false
  ran : s.backend.exec spec.source (s.tools.commandFor spec) = .ok (o, b)

theorem runProbe_sound (s : Session) (spec : ProbeSpec) : (s.runProbe spec).1.Sound := by
  unfold runProbe
  split_ifs
  · exact ProbeResult.cancelled_sound spec
  · exact ProbeResult.setupFailed_sound spec _
  · exact ProbeResult.observed_sound spec _ _
  · split
    · exact ProbeResult.cancelled_sound spec
    · exact ProbeResult.setupFailed_sound spec _
    · dsimp only
      split
      · exact ProbeResult.observed_sound spec _ _
      · exact (ProbeResult.setupFailed_sound spec _).withOutput _

theorem runProbe_of_returned {s : Session} {spec : ProbeSpec} {o : CommandOutput}
    {b : MemoryBackend} (h : s.Returned spec o b) :
    (s.runProbe spec).1 = match Probe.classify spec.kind o with
      | .ok outcome => ProbeResult.observed spec o.combined outcome
      | .error e => { ProbeResult.setupFailed spec e.message with output := o.combined } := by
  have hknown : (s.network.topology.host? spec.source).isNone = false := by
    obtain ⟨host, hhost⟩ := Option.isSome_iff_exists.mp h.known
    rw [hhost]
    rfl
  unfold runProbe
  rw [if_neg (by rw [h.standing]; exact Bool.false_ne_true),
    if_neg (by rw [hknown]; exact Bool.false_ne_true),
    if_neg (by rw [h.inTime]; exact Bool.false_ne_true), h.ran]
  dsimp only
  cases Probe.classify spec.kind o <;> rfl

theorem runProbe_of_neverRan {s : Session} {spec : ProbeSpec} {o : CommandOutput}
    {b : MemoryBackend} (h : s.Returned spec o b) (hn : o.NeverRan) :
    (s.runProbe spec).1 = ⟨spec, o.combined,
      .setupFailed ("probe could not be started: client did not run: " ++
        Text.firstLine o.combined), false⟩ := by
  rw [runProbe_of_returned h, Probe.classify_of_neverRan spec.kind hn]
  show (⟨spec, o.combined, .setupFailed ("probe could not be started: " ++
    ("client did not run: " ++ Text.firstLine o.combined)), false⟩ : ProbeResult) = _
  rw [← String.append_assoc]
  rfl

end Session

/-- A probe passes exactly when it was observed and its expectation accepts it. -/
theorem probe_verdict_sound (s : Session) (spec : ProbeSpec) :
    ((s.runProbe spec).1.passed = true ↔
      ∃ o, (s.runProbe spec).1.observation = .observed o ∧ spec.expect.accepts o = true) ∧
    (∀ o b, s.Returned spec o b → o.NeverRan →
      (s.runProbe spec).1 = ⟨spec, o.combined,
        .setupFailed ("probe could not be started: client did not run: " ++
          Text.firstLine o.combined), false⟩) ∧
    (∀ kind o e, Probe.classify kind o = .error e → ∃ d, e = .probeSetup d) := by
  refine ⟨?_, fun o b h hn => Session.runProbe_of_neverRan h hn,
    fun _ _ _ h => Probe.classify_error h⟩
  have hsound := s.runProbe_sound spec
  rwa [ProbeResult.Sound, Session.runProbe_spec] at hsound

/-- A probe expecting failure whose client is missing fails to start, not passes. -/
theorem missing_client_fails_to_start :
    let spec : ProbeSpec := ⟨"h1", .http "http://10.0.0.2/" 1, 20, .failure⟩
    let o : CommandOutput := ⟨some 127, "", "sh: wget: command not found"⟩
    let s : Session := ⟨{ topology := { hosts := [{ name := "h1" }] }, plan := ⟨[], []⟩ },
      { hosts := ["h1"], rules := [{ output := o }] }, {}⟩
    let b : MemoryBackend := { s.backend with commands := [("h1", s.tools.commandFor spec)] }
    s.Returned spec o b ∧ o.NeverRan ∧
      (s.runProbe spec).1 = ⟨spec, o.combined, .setupFailed
        "probe could not be started: client did not run: sh: wget: command not found", false⟩ := by
  intro spec o s b
  have hr : s.Returned spec o b := ⟨rfl, rfl, rfl, rfl⟩
  have hn : o.NeverRan := Or.inr (Or.inl rfl)
  refine ⟨hr, hn, ?_⟩
  rw [(probe_verdict_sound s spec).2.1 o b hr hn]
  decide

end MudTestbed
