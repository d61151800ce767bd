import MudTestbed.Proofs.Probe.Verdict
import MudTestbed.Proofs.Binary64.NonNeg

/-!
# What probe metrics mean

A range expectation judges an outcome by its metric, so what a metric is depends on the
protocol that read it (`Probe.OutcomeMeaning`). HTTP and TCP outcomes carry none, and no
range accepts them. A UDP outcome carries the reply count of the first `[rc=…]` marker, below
`2 ^ 32`, and times out exactly on zero replies.

An ICMP outcome carries the packet loss, which is whatever its loss token reads as: the
characters before `%` on the first line holding `% packet loss` (`Probe.lossToken`), read as
a double would be read from any text (`Probe.packetLoss_eq`). The outcome times out from 100
on and completes otherwise, so a token such as `nan` or `-5` completes with a NaN or a
negative loss. Ping itself prints an unsigned decimal there, and a loss read from one is a
non-negative number (`Probe.packetLoss_nonNeg`): a completed probe then carries a finite loss
of at least zero and below 100.
-/

namespace MudTestbed

set_option autoImplicit false

namespace Probe

def lossTokenOfLine (line : List Char) : Option (List Char) :=
  (lossOfLine.find "% packet loss".toList line []).map fun before =>
    (before.reverse.takeWhile fun c => c ≠ ' ' ∧ c ≠ ',').reverse

def lossToken (text : String) : Option (List Char) :=
  (Text.lines text).findSome? fun l => lossTokenOfLine l.toList

theorem lossOfLine_eq (line : List Char) :
    lossOfLine line = (lossTokenOfLine line).map fun t => Binary64.ofString? (String.ofList t) := by
  unfold lossOfLine lossTokenOfLine
  dsimp only
  cases lossOfLine.find "% packet loss".toList line [] <;> rfl

theorem packetLoss_eq (text : String) :
    packetLoss text = (lossToken text).bind fun t => Binary64.ofString? (String.ofList t) := by
  unfold packetLoss lossToken
  simp only [lossOfLine_eq, ← Function.comp_def, ← List.map_findSome?]
  cases List.findSome? (lossTokenOfLine ∘ String.toList) (Text.lines text) <;> rfl

theorem replyCount_lt {text : String} {n : Nat} (h : replyCount text = some n) : n < 2 ^ 32 := by
  unfold replyCount at h
  simp only [Option.bind_eq_bind, Option.bind_eq_some_iff] at h
  obtain ⟨_, _, _, _, h⟩ := h
  have := Text.parseNat?_le h
  omega

theorem classifyHttp_metric {o : CommandOutput} {out : ProbeOutcome}
    (h : classifyHttp o = .ok out) : out.metric = none := by
  unfold classifyHttp at h
  dsimp only at h
  split_ifs at h <;> cases h <;> rfl

theorem classifyTcp_metric {o : CommandOutput} {out : ProbeOutcome}
    (h : classifyTcp o = .ok out) : out.metric = none := by
  unfold classifyTcp at h
  dsimp only at h
  split_ifs at h <;> cases h <;> rfl

theorem classifyUdp_ok {o : CommandOutput} {out : ProbeOutcome} (h : classifyUdp o = .ok out) :
    ∃ n, replyCount o.combined = some n ∧
      out = ⟨if n = 0 then .timedOut else .completed, some (.ofNat n)⟩ := by
  unfold classifyUdp at h
  split at h
  · rename_i hn
    cases h
    exact ⟨0, hn, rfl⟩
  · rename_i n hne hn
    cases h
    exact ⟨n, hn, by rw [if_neg hne]⟩
  · cases h

theorem classifyIcmp_ok {o : CommandOutput} {out : ProbeOutcome} (h : classifyIcmp o = .ok out) :
    (∃ x, packetLoss o.combined = some x ∧
        out = ⟨if (Binary64.ofNat 100).le x then .timedOut else .completed, some x⟩) ∨
      (packetLoss o.combined = none ∧ "Network is unreachable".toList <:+: o.combined.toList ∧
        out = ⟨.error, some (.ofNat 100)⟩) := by
  unfold classifyIcmp at h
  dsimp only at h
  split at h
  · rename_i x hx
    refine .inl ⟨x, hx, ?_⟩
    split_ifs at h with h100 <;> cases h <;> simp [h100]
  · rename_i hnone
    split_ifs at h with hnet
    cases h
    exact .inr ⟨hnone, (Text.contains_iff _ _).mp hnet, rfl⟩

theorem completed_loss_bounds {x : Binary64} (hx : x.NonNeg)
    (h : (Binary64.ofNat 100).le x = false) :
    x.isFinite = true ∧ Binary64.zero.le x = true ∧ x.lt (.ofNat 100) = true :=
  ⟨hx.isFinite_of_le_eq_false (Binary64.ofNat_nonNeg 100) h, hx.zero_le,
    Binary64.lt_of_le_eq_false hx.isNaN (Binary64.ofNat_nonNeg 100).isNaN h⟩

theorem packetLoss_nonNeg {text : String} {t : List Char} {x : Binary64}
    (ht : lossToken text = some t) (hdec : (Binary64.readDecimal t).isSome)
    (hx : packetLoss text = some x) : x.NonNeg := by
  rw [packetLoss_eq, ht, Option.bind_some] at hx
  exact Binary64.ofString?_nonNeg (by rwa [String.toList_ofList]) hx

/-- What an outcome read from a client's output says, protocol by protocol. -/
def OutcomeMeaning (o : CommandOutput) (out : ProbeOutcome) : ProbeKind → Prop
  | .http .. | .tcp .. =>
    out.metric = none ∧ ∀ lo hi, (Expectation.range lo hi).accepts out = false
  | .udp .. =>
    ∃ n < 2 ^ 32, replyCount o.combined = some n ∧ out.metric = some (.ofNat n) ∧
      (out.status = .timedOut ↔ n = 0) ∧ out.status ≠ .error
  | .icmp .. =>
    (∃ x, packetLoss o.combined = some x ∧ out.metric = some x ∧
        (out.status = .timedOut ↔ (Binary64.ofNat 100).le x = true) ∧ out.status ≠ .error ∧
        ∀ t, lossToken o.combined = some t → (Binary64.readDecimal t).isSome →
          x.negative = false ∧ x.isNaN = false ∧
            (out.status = .completed →
              x.isFinite = true ∧ Binary64.zero.le x = true ∧ x.lt (.ofNat 100) = true)) ∨
      (packetLoss o.combined = none ∧ "Network is unreachable".toList <:+: o.combined.toList ∧
        out = ⟨.error, some (.ofNat 100)⟩)

end Probe

theorem Expectation.range_rejects_of_metric_none {out : ProbeOutcome} (hm : out.metric = none)
    (lo hi : Option Binary64) : (Expectation.range lo hi).accepts out = false := by
  simp [Expectation.accepts, hm]

namespace Probe

/-- Every outcome read from a client's output means what `OutcomeMeaning` says. -/
theorem outcome_metrics_by_protocol {kind : ProbeKind} {o : CommandOutput} {out : ProbeOutcome}
    (h : classify kind o = .ok out) : OutcomeMeaning o out kind := by
  unfold classify at h
  split_ifs at h
  cases kind with
  | http =>
    have hm := classifyHttp_metric h
    exact ⟨hm, Expectation.range_rejects_of_metric_none hm⟩
  | tcp =>
    have hm := classifyTcp_metric h
    exact ⟨hm, Expectation.range_rejects_of_metric_none hm⟩
  | udp =>
    obtain ⟨n, hn, rfl⟩ := classifyUdp_ok h
    refine ⟨n, replyCount_lt hn, hn, rfl, ?_, ?_⟩ <;> by_cases h0 : n = 0 <;> simp [h0]
  | icmp =>
    rcases classifyIcmp_ok h with ⟨x, hx, rfl⟩ | hnet
    · refine .inl ⟨x, hx, rfl, ?_, ?_, fun t ht hdec => ?_⟩
      · by_cases h100 : (Binary64.ofNat 100).le x <;> simp [h100]
      · by_cases h100 : (Binary64.ofNat 100).le x <;> simp [h100]
      · have hnn := packetLoss_nonNeg ht hdec hx
        refine ⟨hnn.negative, hnn.isNaN, fun hc => completed_loss_bounds hnn ?_⟩
        by_cases h100 : (Binary64.ofNat 100).le x <;> simp_all
    · exact .inr hnet

/-- Ping's report of a partial loss completes with a loss between 0 and 100. -/
theorem partial_loss_completes :
    let o : CommandOutput :=
      ⟨some 0, "3 packets transmitted, 2 received, 33.3333% packet loss, time 2003ms", ""⟩
    let out : ProbeOutcome := ⟨.completed, Binary64.ofString? "33.3333"⟩
    classify (.icmp "10.0.0.2" 3) o = .ok out ∧ OutcomeMeaning o out (.icmp "10.0.0.2" 3) := by
  intro o out
  have h : classify (.icmp "10.0.0.2" 3) o = .ok out := by decide +kernel
  exact ⟨h, outcome_metrics_by_protocol h⟩

/-- A loss token reading as NaN completes, carrying the NaN. -/
theorem nan_loss_completes :
    classify (.icmp "10.0.0.2" 3)
        ⟨some 0, "3 packets transmitted, 0 received, nan% packet loss", ""⟩ =
      .ok ⟨.completed, some Binary64.nan⟩ ∧ Binary64.nan.isNaN = true :=
  ⟨by decide +kernel, by decide⟩

end Probe

end MudTestbed
