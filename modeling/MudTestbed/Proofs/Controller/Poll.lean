import MudTestbed.Proofs.Controller.Retry
import MudTestbed.Proofs.Preserves

/-!
# Polling for a MUD report

A poll sends one request per attempt, cut at the deadline, and takes each reply in one of
three ways (`pollVerdict`, `PollReading`): a reply lost in transport or an empty report lets it
go on, a non-empty `output` object is the report, and anything else ends it with an error.
After a reply that lets it go on it waits until the deadline or the end of its interval,
whichever comes first, the interval doubling up to ten seconds; the attempts therefore start
at times fixed by how long the replies take (`attemptStarts`, `pollTimes` when they take no
time).

`Polled` says what a poll came to for the verdicts and delays of its attempts: it stops at the
first reply that does not let it go on and gives its report or its error. The deadline ends it
in one of three places, before an attempt, during one, or after a reply that lets it go on;
each names the attempts started. Every attempt starts before the deadline, and the clock never
passes it. A poll on a controller answering from any script, its replies taking any time,
comes to what `Polled` says and sends exactly one request per attempt
(`ControllerClient.pollReport_stops_at_first_answer`).
-/

namespace MudTestbed

set_option autoImplicit false

def pollPath : String := s!"operations/{Operation.getMudUrls}"

def attemptVerdict : Except Error Json → Except Error (Option Json)
  | .ok answer => (outputOf answer).map fun o => if emptyOutput o then none else some o
  | .error (.transport _) => .ok none
  | .error e => .error e

def pollVerdict (url shown : String) (reply : Reply) : Except Error (Option Json) :=
  attemptVerdict (reply.read url shown)

/-! ### How a poll reads a reply -/

def Json.NoReportYet (j : Json) : Prop :=
  j = .null ∨ j = .object [] ∨ ∃ fields, j = .object fields ∧ fields.lookup "output" = some (.object [])

def Json.HoldsReport (j o : Json) : Prop :=
  ∃ fields, j = .object fields ∧ fields.lookup "output" = some o ∧
    ∃ k v rest, o = .object ((k, v) :: rest)

theorem outputOf_noReportYet {j : Json} (h : j.NoReportYet) : outputOf j = .ok (.object []) := by
  rcases h with rfl | rfl | ⟨fields, rfl, hout⟩
  · rfl
  · rfl
  · simp only [outputOf, hout]

theorem outputOf_holdsReport {j o : Json} (h : j.HoldsReport o) : outputOf j = .ok o := by
  obtain ⟨fields, rfl, hout, k, v, rest, rfl⟩ := h
  simp only [outputOf, hout]

theorem outputOf_malformed {j : Json} (hnone : ¬ j.NoReportYet) (hreport : ∀ o, ¬ j.HoldsReport o) :
    ∃ d, outputOf j = .error (.protocol d) := by
  cases j with
  | null => exact absurd (Or.inl rfl) hnone
  | object fields =>
    cases hout : fields.lookup "output" with
    | none =>
      cases fields with
      | nil => exact absurd (Or.inr (Or.inl rfl)) hnone
      | cons kv rest => exact ⟨_, by simp only [outputOf, hout, List.isEmpty_cons]; rfl⟩
    | some o =>
      cases o with
      | object ofs =>
        cases ofs with
        | nil => exact absurd (Or.inr (Or.inr ⟨fields, rfl, hout⟩)) hnone
        | cons kv rest =>
          exact absurd ⟨fields, rfl, hout, kv.1, kv.2, rest, rfl⟩ (hreport (.object (kv :: rest)))
      | _ => exact ⟨_, by simp only [outputOf, hout]; rfl⟩
  | _ => exact ⟨_, rfl⟩

/-- How a poll takes each kind of reply: go on, a report, or an error that ends it. -/
structure PollReading (url shown : String) : Prop where
  lost : ∀ reply, reply.Lost → pollVerdict url shown reply = .ok none
  refused : ∀ status text, (status < 200 ∨ 300 ≤ status) →
    pollVerdict url shown (.answer status text) = .error (.request status text)
  blank : ∀ status text, 200 ≤ status → status < 300 → (Text.trim text).isEmpty = true →
    pollVerdict url shown (.answer status text) = .ok none
  no_report_yet : ∀ status text j, 200 ≤ status → status < 300 →
    (Text.trim text).isEmpty = false → Json.parse text = .ok j → j.NoReportYet →
    pollVerdict url shown (.answer status text) = .ok none
  report : ∀ status text j o, 200 ≤ status → status < 300 →
    (Text.trim text).isEmpty = false → Json.parse text = .ok j → j.HoldsReport o →
    pollVerdict url shown (.answer status text) = .ok (some o)
  malformed : ∀ status text, 200 ≤ status → status < 300 → (Text.trim text).isEmpty = false →
    (∀ j, Json.parse text = .ok j → ¬ j.NoReportYet ∧ ∀ o, ¬ j.HoldsReport o) →
    ∃ d, pollVerdict url shown (.answer status text) = .error (.protocol d)

theorem Reply.accepted_flags {status : Nat} (hlo : 200 ≤ status) (hhi : status < 300) :
    (decide (status < 200) || decide (status ≥ 300)) = false := by
  simp only [Bool.or_eq_false_iff, decide_eq_false_iff_not]
  omega

theorem Reply.read_accepted {status : Nat} {text : String} {j : Json} (url shown : String)
    (hlo : 200 ≤ status) (hhi : status < 300) (hbody : (Text.trim text).isEmpty = false)
    (hj : Json.parse text = .ok j) : (Reply.answer status text).read url shown = .ok j := by
  simp only [Reply.read, Reply.accepted_flags hlo hhi, hbody, Bool.false_eq_true, ↓reduceIte, hj]

theorem Reply.read_unparsed {status : Nat} {text : String} {e : JsonError} (url shown : String)
    (hlo : 200 ≤ status) (hhi : status < 300) (hbody : (Text.trim text).isEmpty = false)
    (he : Json.parse text = .error e) :
    (Reply.answer status text).read url shown = .error (.protocol s!"{url}: {e.message}: {text}") := by
  simp only [Reply.read, Reply.accepted_flags hlo hhi, hbody, Bool.false_eq_true, ↓reduceIte, he]

theorem pollVerdict_accepted {status : Nat} {text : String} {j : Json} (url shown : String)
    (hlo : 200 ≤ status) (hhi : status < 300) (hbody : (Text.trim text).isEmpty = false)
    (hj : Json.parse text = .ok j) :
    pollVerdict url shown (.answer status text) =
      (outputOf j).map fun o => if emptyOutput o then none else some o := by
  unfold pollVerdict
  rw [Reply.read_accepted url shown hlo hhi hbody hj]
  rfl

theorem pollReading (url shown : String) : PollReading url shown where
  lost reply h := by
    rcases h with rfl | rfl <;> rfl
  refused status text h := by
    unfold pollVerdict
    rw [Reply.read_refused text url shown h]
    rfl
  blank status text hlo hhi hblank := by
    simp only [pollVerdict, Reply.read, Reply.accepted_flags hlo hhi, hblank, Bool.false_eq_true,
      ↓reduceIte]
    rfl
  no_report_yet status text j hlo hhi hbody hj h := by
    rw [pollVerdict_accepted url shown hlo hhi hbody hj, outputOf_noReportYet h]
    rfl
  report status text j o hlo hhi hbody hj h := by
    rw [pollVerdict_accepted url shown hlo hhi hbody hj, outputOf_holdsReport h]
    obtain ⟨-, -, -, k, v, rest, rfl⟩ := h
    rfl
  malformed status text hlo hhi hbody h := by
    cases hj : Json.parse text with
    | error e =>
      exact ⟨_, by unfold pollVerdict; rw [Reply.read_unparsed url shown hlo hhi hbody hj]; rfl⟩
    | ok j =>
      obtain ⟨hnone, hreport⟩ := h j hj
      obtain ⟨d, hd⟩ := outputOf_malformed hnone hreport
      exact ⟨d, by rw [pollVerdict_accepted url shown hlo hhi hbody hj, hd]; rfl⟩


/-! ### When the attempts start, and what a poll comes to -/

def pollTimes (deadline : Nat) : (start interval k : Nat) → Nat
  | start, _, 0 => start
  | start, interval, k + 1 =>
    pollTimes deadline (min deadline (start + interval)) (min (2 * interval) maxBackoffMs) k

@[simp] theorem pollTimes_zero (deadline start interval : Nat) :
    pollTimes deadline start interval 0 = start := rfl

theorem pollTimes_succ (deadline start interval k : Nat) :
    pollTimes deadline start interval (k + 1) =
      pollTimes deadline (min deadline (start + interval)) (min (2 * interval) maxBackoffMs) k :=
  rfl

def attemptStarts (deadline : Nat) : (delay : Nat → Nat) → (start interval k : Nat) → Nat
  | _, start, _, 0 => start
  | delay, start, interval, k + 1 =>
    attemptStarts deadline (fun k => delay (k + 1)) (min deadline (start + delay 0 + interval))
      (min (2 * interval) maxBackoffMs) k

def attemptEnds (deadline : Nat) (delay : Nat → Nat) (start interval k : Nat) : Nat :=
  attemptStarts deadline delay start interval k + delay k

@[simp] theorem attemptStarts_zero (deadline : Nat) (delay : Nat → Nat) (start interval : Nat) :
    attemptStarts deadline delay start interval 0 = start := rfl

theorem attemptStarts_succ (deadline : Nat) (delay : Nat → Nat) (start interval k : Nat) :
    attemptStarts deadline delay start interval (k + 1) =
      attemptStarts deadline (fun k => delay (k + 1)) (min deadline (start + delay 0 + interval))
        (min (2 * interval) maxBackoffMs) k :=
  rfl

theorem attemptStarts_instant (deadline : Nat) :
    ∀ (start interval k : Nat),
      attemptStarts deadline (fun _ => 0) start interval k = pollTimes deadline start interval k := by
  intro start interval k
  induction k generalizing start interval with
  | zero => rfl
  | succ k ih =>
    rw [attemptStarts_succ, pollTimes_succ]
    exact ih _ _

theorem attemptStarts_le (deadline : Nat) :
    ∀ (delay : Nat → Nat) (start interval k : Nat),
      attemptStarts deadline delay start interval k ≤ max start deadline := by
  intro delay start interval k
  induction k generalizing delay start interval with
  | zero => exact Nat.le_max_left _ _
  | succ k ih =>
    have h := ih (fun k => delay (k + 1)) (min deadline (start + delay 0 + interval))
      (min (2 * interval) maxBackoffMs)
    rw [attemptStarts_succ]
    omega

/-- What a poll came to, attempt by attempt, for given verdicts and reply delays. -/
structure Polled (deadline : Nat) (delay : Nat → Nat) (start interval counted : Nat)
    (verdict : Nat → Except Error (Option Json)) (n : Nat) (result : Except Error MudReport)
    (clock : Nat) : Prop where
  started : ∀ k < n, attemptStarts deadline delay start interval k < deadline
  went_on : ∀ k, k + 1 < n →
    attemptEnds deadline delay start interval k < deadline ∧ verdict k = .ok none
  reported : ∀ o, 0 < n → attemptEnds deadline delay start interval (n - 1) ≤ deadline →
    verdict (n - 1) = .ok (some o) →
    result = .ok (MudReport.ofOutput o) ∧ clock = attemptEnds deadline delay start interval (n - 1)
  failed : ∀ e, 0 < n → attemptEnds deadline delay start interval (n - 1) ≤ deadline →
    verdict (n - 1) = .error e →
    result = .error e ∧ clock = attemptEnds deadline delay start interval (n - 1)
  cut_off : 0 < n → deadline < attemptEnds deadline delay start interval (n - 1) →
    result = .error (pollTimeout (counted + n)) ∧ clock = deadline
  answered_late : 0 < n → attemptEnds deadline delay start interval (n - 1) = deadline →
    verdict (n - 1) = .ok none → result = .error (pollTimeout (counted + n)) ∧ clock = deadline
  timed_out : (n = 0 ∨
      attemptEnds deadline delay start interval (n - 1) < deadline ∧ verdict (n - 1) = .ok none) →
    deadline ≤ attemptStarts deadline delay start interval n ∧
      result = .error (pollTimeout (counted + n)) ∧
      clock = attemptStarts deadline delay start interval n

namespace Polled

variable {deadline : Nat} {delay : Nat → Nat} {start interval counted : Nat}
  {verdict : Nat → Except Error (Option Json)}

theorem at_deadline (h : deadline ≤ start) :
    Polled deadline delay start interval counted verdict 0 (.error (pollTimeout counted)) start where
  started k hk := absurd hk (Nat.not_lt_zero k)
  went_on _ hk := absurd hk (Nat.not_lt_zero _)
  reported _ hn := absurd hn (Nat.lt_irrefl 0)
  failed _ hn := absurd hn (Nat.lt_irrefl 0)
  cut_off hn := absurd hn (Nat.lt_irrefl 0)
  answered_late hn := absurd hn (Nat.lt_irrefl 0)
  timed_out _ := ⟨h, rfl, rfl⟩

theorem cut (h : start < deadline) (hd : deadline < start + delay 0) :
    Polled deadline delay start interval counted verdict 1 (.error (pollTimeout (counted + 1)))
      deadline where
  started k hk := by
    obtain rfl : k = 0 := by omega
    exact h
  went_on _ hk := absurd hk (by omega)
  reported _ _ hd' := absurd hd' (Nat.not_le.mpr hd)
  failed _ _ hd' := absurd hd' (Nat.not_le.mpr hd)
  cut_off _ _ := ⟨rfl, rfl⟩
  answered_late _ hd' := absurd hd' (Nat.ne_of_gt hd)
  timed_out hn := by
    rcases hn with hn | ⟨hd', -⟩
    · cases hn
    · exact absurd hd' (Nat.lt_asymm hd)

theorem late (h : start < deadline) (hd : start + delay 0 = deadline) (hv : verdict 0 = .ok none) :
    Polled deadline delay start interval counted verdict 1 (.error (pollTimeout (counted + 1)))
      (start + delay 0) where
  started k hk := by
    obtain rfl : k = 0 := by omega
    exact h
  went_on _ hk := absurd hk (by omega)
  reported o _ _ hv' := by rw [hv] at hv'; cases hv'
  failed e _ _ hv' := by rw [hv] at hv'; cases hv'
  cut_off _ hd' := absurd hd (Nat.ne_of_gt hd')
  answered_late _ _ _ := ⟨rfl, hd⟩
  timed_out hn := by
    rcases hn with hn | ⟨hd', -⟩
    · cases hn
    · exact absurd hd (Nat.ne_of_lt hd')

theorem stop (h : start < deadline) (hd : start + delay 0 ≤ deadline) {result : Except Error MudReport}
    (hv : verdict 0 ≠ .ok none)
    (hreport : ∀ o, verdict 0 = .ok (some o) → result = .ok (MudReport.ofOutput o))
    (hfail : ∀ e, verdict 0 = .error e → result = .error e) :
    Polled deadline delay start interval counted verdict 1 result (start + delay 0) where
  started k hk := by
    obtain rfl : k = 0 := by omega
    exact h
  went_on _ hk := absurd hk (by omega)
  reported o _ _ hv' := ⟨hreport o hv', rfl⟩
  failed e _ _ hv' := ⟨hfail e hv', rfl⟩
  cut_off _ hd' := absurd hd (Nat.not_le.mpr hd')
  answered_late _ _ hv' := absurd hv' hv
  timed_out hn := by
    rcases hn with hn | ⟨-, hv'⟩
    · cases hn
    · exact absurd hv' hv

theorem fails (h : start < deadline) (hd : start + delay 0 ≤ deadline) {e : Error}
    (hv : verdict 0 = .error e) :
    Polled deadline delay start interval counted verdict 1 (.error e) (start + delay 0) :=
  stop h hd (by rw [hv]; exact fun h' => by cases h') (fun o ho => by rw [hv] at ho; cases ho)
    (fun e' he => by rw [hv] at he; cases he; rfl)

theorem reports (h : start < deadline) (hd : start + delay 0 ≤ deadline) {o : Json}
    (hv : verdict 0 = .ok (some o)) :
    Polled deadline delay start interval counted verdict 1 (.ok (MudReport.ofOutput o))
      (start + delay 0) :=
  stop h hd (by rw [hv]; exact fun h' => by cases h') (fun o' ho => by rw [hv] at ho; cases ho; rfl)
    (fun e he => by rw [hv] at he; cases he)

theorem next {n : Nat} {result : Except Error MudReport} {clock : Nat} (h : start < deadline)
    (hd : start + delay 0 < deadline) (hv : verdict 0 = .ok none)
    (hrest : Polled deadline (fun k => delay (k + 1)) (min deadline (start + delay 0 + interval))
      (min (2 * interval) maxBackoffMs) (counted + 1) (fun k => verdict (k + 1)) n result clock) :
    Polled deadline delay start interval counted verdict (n + 1) result clock where
  started k hk := by
    cases k with
    | zero => exact h
    | succ k => exact hrest.started k (by omega)
  went_on k hk := by
    cases k with
    | zero => exact ⟨hd, hv⟩
    | succ k => exact hrest.went_on k (by omega)
  reported o _ hd' hv' := by
    cases n with
    | zero => rw [hv] at hv'; cases hv'
    | succ n => exact hrest.reported o (by omega) hd' hv'
  failed e _ hd' hv' := by
    cases n with
    | zero => rw [hv] at hv'; cases hv'
    | succ n => exact hrest.failed e (by omega) hd' hv'
  cut_off _ hd' := by
    cases n with
    | zero => exact absurd hd' (Nat.lt_asymm hd)
    | succ n =>
      rw [← Nat.add_assoc, Nat.add_right_comm counted]
      exact hrest.cut_off (by omega) hd'
  answered_late _ hd' hv' := by
    cases n with
    | zero => exact absurd hd' (Nat.ne_of_lt hd)
    | succ n =>
      rw [← Nat.add_assoc, Nat.add_right_comm counted]
      exact hrest.answered_late (by omega) hd' hv'
  timed_out hn := by
    have hlast : n = 0 ∨ attemptEnds deadline (fun k => delay (k + 1))
        (min deadline (start + delay 0 + interval)) (min (2 * interval) maxBackoffMs) (n - 1) <
          deadline ∧ (fun k => verdict (k + 1)) (n - 1) = .ok none := by
      rcases hn with hn | hn
      · cases hn
      · cases n with
        | zero => exact Or.inl rfl
        | succ n => exact Or.inr hn
    obtain ⟨hd', hres, hclock⟩ := hrest.timed_out hlast
    refine ⟨hd', ?_, hclock⟩
    rw [hres, Nat.add_assoc, Nat.add_comm 1 n]

theorem clock_le {n : Nat} {result : Except Error MudReport} {clock : Nat}
    (h : Polled deadline delay start interval counted verdict n result clock) :
    clock ≤ max start deadline := by
  have hle := attemptStarts_le deadline delay start interval
  cases n with
  | zero => rw [(h.timed_out (Or.inl rfl)).2.2]; exact hle 0
  | succ n =>
    by_cases hend : attemptEnds deadline delay start interval n ≤ deadline
    case neg =>
      rw [(h.cut_off (Nat.succ_pos n) (Nat.lt_of_not_le hend)).2]
      omega
    case pos =>
      cases hv : verdict n with
      | error e =>
        rw [(h.failed e (Nat.succ_pos n) hend hv).2, Nat.add_sub_cancel]
        omega
      | ok r =>
        cases r with
        | some o =>
          rw [(h.reported o (Nat.succ_pos n) hend hv).2, Nat.add_sub_cancel]
          omega
        | none =>
          rcases Nat.lt_or_eq_of_le hend with hlt | heq
          · rw [(h.timed_out (Or.inr ⟨hlt, hv⟩)).2.2]
            exact hle _
          · rw [(h.answered_late (Nat.succ_pos n) heq hv).2]
            omega

end Polled

/-! ### One attempt, cut at the deadline -/

namespace ControllerClient

theorem pollAttempt_eq {m : Type → Type} [Monad m] [LawfulMonad m] (c : ControllerClient m)
    (body : Json) :
    (c.pollAttempt body).run =
      (fun r => (attemptVerdict r).map (Option.map MudReport.ofOutput)) <$>
        (c.sendOnce .post pollPath body).run := by
  unfold pollAttempt
  simp only [ExceptT.run_bind, ExceptT.run_lift, bind_assoc, pure_bind, map_eq_pure_bind]
  congr 1
  funext r
  rcases r with e | answer
  · cases e <;> rfl
  · simp only [ExceptT.run_bind, ExceptT.run_mk, pure_bind]
    cases h : outputOf answer with
    | error e => simp only [attemptVerdict, h]; rfl
    | ok o =>
      simp only [attemptVerdict, h]
      by_cases he : emptyOutput o = true <;> simp [he, Except.map]

variable {σ : Type} (ctl : ControllerBehavior σ) (cfg : ControllerConfig)

theorem cutAt_exchange_run (deadline : Nat) (r : Request) (tb : Testbed σ) :
    (((Testbed.wire ctl).cutAt deadline).exchange r).run.run tb =
      if deadline ≤ tb.clock then (none, tb)
      else if tb.clock + ctl.delay tb.controller r ≤ deadline then
        (some (ctl.answer tb.controller r).1, tb.answered ctl r (ctl.answer tb.controller r).2)
      else (none, { tb with controller := (ctl.answer tb.controller r).2, clock := deadline }) := by
  have hstep : (((Testbed.wire ctl).cutAt deadline).exchange r).run.run tb =
      (if deadline ≤ tb.clock then (failure : OptionT (TestbedStep σ) Reply)
        else OptionT.mk ((Testbed.wire ctl).exchangeUntil deadline r)).run.run tb := rfl
  rw [hstep]
  by_cases hd : deadline ≤ tb.clock
  · rw [if_pos hd, if_pos hd]
    rfl
  · rw [if_neg hd, if_neg hd]
    by_cases ha : tb.clock + ctl.delay tb.controller r ≤ deadline
    · rw [if_pos ha]
      show (if tb.clock + ctl.delay tb.controller r ≤ deadline then _ else _) = _
      rw [if_pos ha]
      rfl
    · rw [if_neg ha]
      show (if tb.clock + ctl.delay tb.controller r ≤ deadline then _ else _) = _
      rw [if_neg ha, Nat.max_eq_right (by omega)]

theorem sendOnce_within (method : Method) {path : String} (body : Json) (deadline : Nat)
    (tb : Testbed σ) {loc : Url.Location}
    (hloc : requestTarget ((programs cfg).url path) = .ok loc) :
    (((⟨Testbed.wire ctl, cfg⟩ : ControllerClient (TestbedStep σ)).within deadline).sendOnce
      method path body).run.run.run tb =
      if deadline ≤ tb.clock then (none, tb)
      else if tb.clock + ctl.delay tb.controller (requestAt cfg method loc body) ≤ deadline then
        (some ((ctl.answer tb.controller (requestAt cfg method loc body)).1.read
            ((programs cfg).url path) loc.text),
          tb.answered ctl (requestAt cfg method loc body)
            (ctl.answer tb.controller (requestAt cfg method loc body)).2)
      else (none, { tb with controller := (ctl.answer tb.controller (requestAt cfg method loc body)).2,
                            clock := deadline }) := by
  unfold sendOnce within
  rw [CutRun.bind_eq, url_eq, hloc, CutRun.mk_pure_eq]
  dsimp only
  rw [show (⟨method, loc.path, body, cfg.username, cfg.password⟩ : Request) =
    requestAt cfg method loc body from rfl, CutRun.bind_eq]
  erw [CutRun.lift_eq]
  rw [monadLift_self, cutAt_exchange_run]
  by_cases hd : deadline ≤ tb.clock
  · rw [if_pos hd, if_pos hd]
    rfl
  · rw [if_neg hd, if_neg hd]
    by_cases ha : tb.clock + ctl.delay tb.controller (requestAt cfg method loc body) ≤ deadline
    · rw [if_pos ha, if_pos ha]
      rfl
    · rw [if_neg ha, if_neg ha]
      rfl

theorem sendOnce_within_unbuilt (method : Method) {path : String} (body : Json) {e : Error}
    (h : requestTarget ((programs cfg).url path) = .error e) (deadline : Nat) (tb : Testbed σ) :
    ∃ d, (((⟨Testbed.wire ctl, cfg⟩ : ControllerClient (TestbedStep σ)).within deadline).sendOnce
      method path body).run.run.run tb = (some (.error (.transport d)), tb) := by
  obtain ⟨d, rfl⟩ := requestTarget_error h
  refine ⟨d, ?_⟩
  unfold sendOnce within
  rw [CutRun.bind_eq, url_eq, h, CutRun.mk_pure_eq]

variable {body : Json} {loc : Url.Location}

theorem pollAttempt_within_run (deadline : Nat)
    (hloc : requestTarget ((programs cfg).url pollPath) = .ok loc) (tb : Testbed σ)
    (hclock : tb.clock < deadline) :
    (((⟨Testbed.wire ctl, cfg⟩ : ControllerClient (TestbedStep σ)).within deadline).pollAttempt
      body).run.run.run tb =
      if tb.clock + ctl.delay tb.controller (requestAt cfg .post loc body) ≤ deadline then
        (some ((pollVerdict ((programs cfg).url pollPath) loc.text
            (ctl.answer tb.controller (requestAt cfg .post loc body)).1).map
              (Option.map MudReport.ofOutput)),
          tb.answered ctl (requestAt cfg .post loc body)
            (ctl.answer tb.controller (requestAt cfg .post loc body)).2)
      else (none, { tb with controller := (ctl.answer tb.controller (requestAt cfg .post loc body)).2,
                            clock := deadline }) := by
  have hsend := sendOnce_within ctl cfg .post body deadline tb hloc
  rw [if_neg (Nat.not_le.mpr hclock)] at hsend
  rw [pollAttempt_eq, OptionT.run_map, StateT.run_map, hsend]
  split <;> rfl

theorem pollAttempt_within_unbuilt {e : Error}
    (h : requestTarget ((programs cfg).url pollPath) = .error e) (deadline : Nat) (tb : Testbed σ) :
    (((⟨Testbed.wire ctl, cfg⟩ : ControllerClient (TestbedStep σ)).within deadline).pollAttempt
      body).run.run.run tb = (some (.ok none), tb) := by
  obtain ⟨d, hd⟩ := sendOnce_within_unbuilt ctl cfg .post body h deadline tb
  rw [pollAttempt_eq, OptionT.run_map, StateT.run_map, hd]
  rfl

/-! ### The attempts of a poll -/

section Loop

variable {σ : Type} (ctl : ControllerBehavior σ) (cfg : ControllerConfig)

theorem wire_now_run (tb : Testbed σ) :
    (liftM (Testbed.wire ctl).now : ExceptT Error (TestbedStep σ) Nat).run.run tb =
      (.ok tb.clock, tb) := rfl

theorem wire_sleepUntil_run (t : Nat) (tb : Testbed σ) :
    (liftM ((Testbed.wire ctl).sleepUntil t) : ExceptT Error (TestbedStep σ) Unit).run.run tb =
      (.ok (), { tb with clock := max tb.clock t }) := rfl

theorem shift_succ {α : Type} (f : Nat → α) (j : Nat) :
    (fun k => f (j + 1 + k)) = fun k => (fun k => f (j + k)) (k + 1) :=
  funext fun k => congrArg f (by omega)

variable (deadline : Nat) (body : Json) (S : Nat → σ) (V : Nat → Except Error (Option Json))
  (D : Nat → Nat)
  (hattempt : ∀ j (tb : Testbed σ), tb.controller = S j → tb.clock < deadline →
    (((⟨Testbed.wire ctl, cfg⟩ : ControllerClient (TestbedStep σ)).within deadline).pollAttempt
      body).run.run.run tb =
      if tb.clock + D j ≤ deadline then
        (some ((V j).map (Option.map MudReport.ofOutput)),
          { tb with controller := S (j + 1), clock := tb.clock + D j })
      else (none, { tb with controller := S (j + 1), clock := deadline }))
include hattempt

theorem polling_polled : ∀ (fuel attempts interval j : Nat) (tb : Testbed σ),
    tb.controller = S j → 0 < interval → deadline - tb.clock < fuel →
    ∃ n, Polled deadline (fun k => D (j + k)) tb.clock interval attempts (fun k => V (j + k)) n
        (((⟨Testbed.wire ctl, cfg⟩ : ControllerClient (TestbedStep σ)).polling deadline body fuel
          attempts interval).run.run tb).1
        (((⟨Testbed.wire ctl, cfg⟩ : ControllerClient (TestbedStep σ)).polling deadline body fuel
          attempts interval).run.run tb).2.clock ∧
      (((⟨Testbed.wire ctl, cfg⟩ : ControllerClient (TestbedStep σ)).polling deadline body fuel
          attempts interval).run.run tb).2.controller = S (j + n) := by
  intro fuel
  induction fuel with
  | zero => exact fun _ _ _ tb _ _ hfuel => absurd hfuel (Nat.not_lt_zero _)
  | succ fuel ih =>
    intro attempts interval j tb hS hi hfuel
    unfold polling
    rw [StepRun.bind_eq, wire_now_run]
    dsimp only
    split
    · rename_i hd
      exact ⟨0, Polled.at_deadline hd, hS⟩
    · rename_i hd
      have hlt : tb.clock < deadline := by omega
      rw [StepRun.bind_eq, StepRun.liftM_eq, hattempt j tb hS hlt]
      by_cases ha : tb.clock + D j ≤ deadline
      case neg =>
        rw [if_neg ha]
        exact ⟨1, Polled.cut hlt (by simp only [Nat.add_zero]; omega), rfl⟩
      case pos =>
        rw [if_pos ha]
        dsimp only
        cases hv : V j with
        | error e => exact ⟨1, Polled.fails hlt ha hv, rfl⟩
        | ok r =>
          cases r with
          | some o => exact ⟨1, Polled.reports hlt ha hv, rfl⟩
          | none =>
            dsimp only [Except.map, Option.map]
            rw [StepRun.bind_eq, wire_now_run]
            dsimp only
            split
            · exact ⟨1, Polled.late hlt (by simp only [Nat.add_zero]; omega) hv, rfl⟩
            · rename_i hon
              rw [StepRun.bind_eq, wire_sleepUntil_run]
              dsimp only
              have hclock : max (tb.clock + D j) (min deadline (tb.clock + D j + interval)) =
                  min deadline (tb.clock + D j + interval) := by omega
              obtain ⟨n, hpolled, hcontroller⟩ := ih (attempts + 1)
                (min (2 * interval) maxBackoffMs) (j + 1)
                { tb with controller := S (j + 1),
                          clock := max (tb.clock + D j) (min deadline (tb.clock + D j + interval)) }
                rfl (by unfold maxBackoffMs; omega) (by dsimp only; omega)
              dsimp only at hpolled hcontroller
              rw [hclock] at hpolled hcontroller ⊢
              rw [shift_succ V, shift_succ D] at hpolled
              refine ⟨n + 1, Polled.next hlt (by simp only [Nat.add_zero]; omega) (by rw [Nat.add_zero, hv])
                hpolled, ?_⟩
              rw [hcontroller, Nat.add_right_comm, Nat.add_assoc]

end Loop

/-! ### A poll on a scripted controller -/

section Report

theorem pollReport_run {σ : Type} (ctl : ControllerBehavior σ) (cfg : ControllerConfig)
    (mudUrls : List String) (intervalMs deadline : Nat) (tb : Testbed σ) :
    ((⟨Testbed.wire ctl, cfg⟩ : ControllerClient (TestbedStep σ)).pollReport mudUrls intervalMs
      deadline).run.run tb =
    ((⟨Testbed.wire ctl, cfg⟩ : ControllerClient (TestbedStep σ)).polling deadline
      (pollBody mudUrls) (deadline - tb.clock + 1) 0 intervalMs).run.run tb := by
  unfold pollReport
  rw [StepRun.bind_eq, wire_now_run]

variable (cfg : ControllerConfig) (delays : Nat → Nat) {body : Json} {loc : Url.Location}

theorem pollAttempt_timed (deadline : Nat)
    (hloc : requestTarget ((programs cfg).url pollPath) = .ok loc)
    (s : Replayed) (j : Nat) (tb : Testbed Replayed)
    (hS : tb.controller = ⟨fun i => s.script (j + i),
      s.received ++ List.replicate j (requestAt cfg .post loc body)⟩)
    (hclock : tb.clock < deadline) :
    (((Replayed.timedClient cfg delays).within deadline).pollAttempt body).run.run.run tb =
      if tb.clock + delays (s.received.length + j) ≤ deadline then
        (some ((pollVerdict ((programs cfg).url pollPath) loc.text (s.script j)).map
            (Option.map MudReport.ofOutput)),
          { tb with
            controller := ⟨fun i => s.script (j + 1 + i),
              s.received ++ List.replicate (j + 1) (requestAt cfg .post loc body)⟩
            clock := tb.clock + delays (s.received.length + j) })
      else
        (none, { tb with
          controller := ⟨fun i => s.script (j + 1 + i),
            s.received ++ List.replicate (j + 1) (requestAt cfg .post loc body)⟩
          clock := deadline }) := by
  rw [pollAttempt_within_run (Replayed.timed delays) cfg deadline hloc tb hclock]
  unfold Testbed.answered
  rw [hS]
  have hnext : ((Replayed.timed delays).answer ⟨fun i => s.script (j + i),
      s.received ++ List.replicate j (requestAt cfg .post loc body)⟩
      (requestAt cfg .post loc body)).2 = ⟨fun i => s.script (j + 1 + i),
        s.received ++ List.replicate (j + 1) (requestAt cfg .post loc body)⟩ := by
    simp only [Replayed.timed, Replayed.mk.injEq]
    constructor
    · funext i
      exact congrArg s.script (by omega)
    · rw [List.replicate_succ', List.append_assoc]
  have hdelay : (Replayed.timed delays).delay ⟨fun i => s.script (j + i),
      s.received ++ List.replicate j (requestAt cfg .post loc body)⟩
      (requestAt cfg .post loc body) = delays (s.received.length + j) := by
    simp only [Replayed.timed, List.length_append, List.length_replicate]
  rw [hnext, hdelay]
  rfl

variable {intervalMs : Nat} (mudUrls : List String) (deadline : Nat) (tb : Testbed Replayed)
  (hp : 0 < intervalMs)
include hp

theorem pollReport_answered (hloc : requestTarget ((programs cfg).url pollPath) = .ok loc) :
    ∃ n, Polled deadline (fun k => delays (tb.controller.received.length + k)) tb.clock intervalMs 0
        (fun k => pollVerdict ((programs cfg).url pollPath) loc.text (tb.controller.script k)) n
        (((Replayed.timedClient cfg delays).pollReport mudUrls intervalMs deadline).run.run tb).1
        (((Replayed.timedClient cfg delays).pollReport mudUrls intervalMs deadline).run.run
          tb).2.clock ∧
      (((Replayed.timedClient cfg delays).pollReport mudUrls intervalMs deadline).run.run tb
        ).2.controller.received = tb.controller.received ++
          List.replicate n (requestAt cfg .post loc (pollBody mudUrls)) := by
  rw [pollReport_run]
  have hstart : tb.controller = ⟨fun i => tb.controller.script (0 + i),
      tb.controller.received ++ List.replicate 0 (requestAt cfg .post loc (pollBody mudUrls))⟩ := by
    simp only [Nat.zero_add, List.replicate_zero, List.append_nil]
  obtain ⟨n, hpolled, hcontroller⟩ := polling_polled (Replayed.timed delays) cfg deadline
    (pollBody mudUrls) (fun j => ⟨fun i => tb.controller.script (j + i),
      tb.controller.received ++ List.replicate j (requestAt cfg .post loc (pollBody mudUrls))⟩)
    (fun j => pollVerdict ((programs cfg).url pollPath) loc.text (tb.controller.script j))
    (fun j => delays (tb.controller.received.length + j))
    (pollAttempt_timed cfg delays deadline hloc tb.controller)
    (deadline - tb.clock + 1) 0 intervalMs 0 tb hstart hp (Nat.lt_succ_self _)
  simp only [Nat.zero_add] at hpolled hcontroller
  exact ⟨n, hpolled, by rw [hcontroller]⟩

theorem pollReport_unbuilt {e : Error}
    (he : requestTarget ((programs cfg).url pollPath) = .error e) :
    ∃ n, Polled deadline (fun _ => 0) tb.clock intervalMs 0 (fun _ => .ok none) n
        (((Replayed.timedClient cfg delays).pollReport mudUrls intervalMs deadline).run.run tb).1
        (((Replayed.timedClient cfg delays).pollReport mudUrls intervalMs deadline).run.run
          tb).2.clock ∧
      (((Replayed.timedClient cfg delays).pollReport mudUrls intervalMs deadline).run.run
        tb).2.controller = tb.controller := by
  rw [pollReport_run]
  exact polling_polled (Replayed.timed delays) cfg deadline (pollBody mudUrls)
    (fun _ => tb.controller) (fun _ => .ok none) (fun _ => 0) (fun j tb' hS hclock => by
      rw [pollAttempt_within_unbuilt (Replayed.timed delays) cfg he deadline tb', ← hS,
        if_pos (show tb'.clock + 0 ≤ deadline by omega)]
      rfl)
    (deadline - tb.clock + 1) 0 intervalMs 0 tb rfl hp (Nat.lt_succ_self _)

end Report

end ControllerClient

/-- What a poll for a MUD report promises on a scripted controller with reply delays. -/
structure PollOutcome (cfg : ControllerConfig) (mudUrls : List String) (intervalMs deadline : Nat)
    (delays : Nat → Nat) (tb : Testbed Replayed) (run : Except Error MudReport × Testbed Replayed) :
    Prop where
  within : run.2.clock ≤ max tb.clock deadline
  answered : ∀ loc, requestTarget ((ControllerClient.programs cfg).url pollPath) = .ok loc →
    PollReading ((ControllerClient.programs cfg).url pollPath) loc.text ∧
    ∃ n, Polled deadline (fun k => delays (tb.controller.received.length + k)) tb.clock intervalMs 0
        (fun k => pollVerdict ((ControllerClient.programs cfg).url pollPath) loc.text
          (tb.controller.script k)) n run.1 run.2.clock ∧
      run.2.controller.received = tb.controller.received ++
        List.replicate n (ControllerClient.requestAt cfg .post loc (pollBody mudUrls))
  unbuilt : ∀ e, requestTarget ((ControllerClient.programs cfg).url pollPath) = .error e →
    ∃ n, Polled deadline (fun _ => 0) tb.clock intervalMs 0 (fun _ => .ok none) n run.1
        run.2.clock ∧
      run.2.controller = tb.controller

/-- A poll for a MUD report on any script and delays does what `PollOutcome` says. -/
theorem ControllerClient.pollReport_stops_at_first_answer (cfg : ControllerConfig)
    (mudUrls : List String) {intervalMs : Nat} (deadline : Nat) (delays : Nat → Nat)
    (tb : Testbed Replayed) (hp : 0 < intervalMs) :
    PollOutcome cfg mudUrls intervalMs deadline delays tb
      (((Replayed.timedClient cfg delays).pollReport mudUrls intervalMs deadline).run.run tb) := by
  cases ht : requestTarget ((ControllerClient.programs cfg).url pollPath) with
  | ok loc =>
    obtain ⟨n, hpolled, hreceived⟩ := pollReport_answered cfg delays mudUrls deadline tb hp ht
    refine ⟨hpolled.clock_le, fun loc' hloc' => ?_, fun e he => by rw [ht] at he; cases he⟩
    rw [ht, Except.ok.injEq] at hloc'
    subst hloc'
    exact ⟨pollReading _ _, n, hpolled, hreceived⟩
  | error e =>
    obtain ⟨n, hpolled, hcontroller⟩ := pollReport_unbuilt cfg delays mudUrls deadline tb hp ht
    exact ⟨hpolled.clock_le, fun loc hloc => (by rw [ht] at hloc; cases hloc),
      fun _ _ => ⟨n, hpolled, hcontroller⟩⟩

/-- Replies that take three seconds and are lost, polled every half second for five. -/
theorem slow_controller_poll_outcome :
    0 < 500 ∧
      PollOutcome .default [] 500 5000 (fun _ => 3000) { controller := ⟨fun _ => .unanswered, []⟩ }
        (((Replayed.timedClient .default fun _ => 3000).pollReport [] 500 5000).run.run
          { controller := ⟨fun _ => .unanswered, []⟩ }) :=
  ⟨by decide, ControllerClient.pollReport_stops_at_first_answer .default [] 5000 _ _ (by decide)⟩

/-- Replies taking three seconds: the second attempt is cut at the deadline. -/
example :
    let run := ((Replayed.timedClient .default fun _ => 3000).pollReport [] 500 5000).run.run
      { controller := ⟨fun _ => .unanswered, []⟩ }
    (match run.1 with | .error e => some e | .ok _ => none) = some (pollTimeout 2) ∧
      run.2.clock = 5000 := by
  decide +kernel

/-- Replies taking 2.5 s: the second reply comes at the deadline, and the poll ends. -/
example :
    let run := ((Replayed.timedClient .default fun _ => 2500).pollReport [] 500 5500).run.run
      { controller := ⟨fun _ => .unanswered, []⟩ }
    (match run.1 with | .error e => some e | .ok _ => none) = some (pollTimeout 2) ∧
      run.2.clock = 5500 := by
  decide +kernel

end MudTestbed
