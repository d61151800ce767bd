import MudTestbed.Proofs.Preserves
import MudTestbed.Provision.Basic

/-!
# Waiting for a switch to connect

`SwitchWatch.waitConnected` asks a switch whether it is connected, every `pollMs`
milliseconds from its start, until the switch is or until the deadline `spanMs` later has
come. On a switch that answers by a schedule its `k`-th question is at
`waitTime start spanMs pollMs k`: on the grid of the interval, the last held back to the
deadline. The wait ends at the first question answered "connected" or failed, and
otherwise at question `lastQuestion spanMs pollMs`, the first at the deadline, which times
out.

`Waited` states that outcome, `poll_waited` proves it of the loop by induction on its fuel
from one lemma per way a question can go, and `waitConnected_outcome` of the whole wait,
for every schedule of answers and every interval above zero. The deadline and each next
question's time are instants: a deadline the clock cannot hold stops the program with an
overflow, and one that leaves room for a further interval never does (`poll_halted`).
The wait on the provisioning bench asks a switch whose answer does not change:
`waitConnected_of_connected` and `waitConnected_of_disconnected` are the two cases it takes.
-/

namespace MudTestbed

/-! ### The grid of questions -/

section Grid

variable {start spanMs pollMs k : Nat}

def waitTime (start spanMs pollMs k : Nat) : Nat := min (start + k * pollMs) (start + spanMs)

def lastQuestion (spanMs pollMs : Nat) : Nat := (spanMs + pollMs - 1) / pollMs

theorem lt_lastQuestion_iff (hp : 0 < pollMs) :
    k < lastQuestion spanMs pollMs ↔ k * pollMs < spanMs := by
  rw [lastQuestion, Nat.lt_iff_add_one_le, Nat.le_div_iff_mul_le hp, Nat.add_one_mul]
  omega

theorem lastQuestion_le (hp : 0 < pollMs) : lastQuestion spanMs pollMs ≤ spanMs :=
  Nat.not_lt.mp fun h =>
    Nat.not_lt.mpr (Nat.le_mul_of_pos_right spanMs hp) ((lt_lastQuestion_iff hp).mp h)

@[simp] theorem waitTime_zero : waitTime start spanMs pollMs 0 = start := by
  simp [waitTime]

theorem waitTime_le : waitTime start spanMs pollMs k ≤ start + spanMs :=
  Nat.min_le_right _ _

theorem deadline_le_waitTime_iff (hp : 0 < pollMs) :
    start + spanMs ≤ waitTime start spanMs pollMs k ↔ lastQuestion spanMs pollMs ≤ k := by
  have hlast : k < lastQuestion spanMs pollMs ↔ k * pollMs < spanMs := lt_lastQuestion_iff hp
  rw [waitTime, Nat.le_min]
  omega

theorem waitTime_lastQuestion (hp : 0 < pollMs) :
    waitTime start spanMs pollMs (lastQuestion spanMs pollMs) = start + spanMs :=
  Nat.le_antisymm waitTime_le ((deadline_le_waitTime_iff hp).mpr (Nat.le_refl _))

theorem waitTime_succ (hp : 0 < pollMs) (hk : k < lastQuestion spanMs pollMs) :
    max (waitTime start spanMs pollMs k)
        (min (start + spanMs) (waitTime start spanMs pollMs k + pollMs)) =
      waitTime start spanMs pollMs (k + 1) := by
  have hkp := (lt_lastQuestion_iff hp).mp hk
  simp only [waitTime, Nat.add_one_mul]
  omega

end Grid

/-! ### The outcome of a wait -/

/-- The outcome of a wait: the questions it asked, its end time and its result. -/
structure Waited (start spanMs pollMs : Nat) (answer : Nat → Except Error Bool)
    (failure : Error) (final : Nat) (result : Except Error Unit) (clock : Nat) : Prop where
  /-- No question comes after the one at the deadline. -/
  within : final ≤ lastQuestion spanMs pollMs
  /-- Every earlier question was answered "not connected". -/
  not_yet : ∀ k < final, answer k = .ok false
  at_time : clock = waitTime start spanMs pollMs final
  /-- "Connected" ends the wait at once. -/
  connected : answer final = .ok true → result = .ok ()
  /-- A failed question ends it with that failure, unchanged. -/
  failed : ∀ e, answer final = .error e → result = .error e
  /-- "Not connected" ends it only at the last question, the deadline, with the timeout. -/
  timed_out : answer final = .ok false →
    final = lastQuestion spanMs pollMs ∧ clock = start + spanMs ∧ result = .error failure

namespace Waited

variable {start spanMs pollMs : Nat} {answer : Nat → Except Error Bool} {failure : Error}
  {final : Nat} {result : Except Error Unit} {clock : Nat}

theorem of_connected (hk : final ≤ lastQuestion spanMs pollMs)
    (hnot : ∀ k < final, answer k = .ok false) (h : answer final = .ok true) :
    Waited start spanMs pollMs answer failure final (.ok ())
      (waitTime start spanMs pollMs final) where
  within := hk
  not_yet := hnot
  at_time := rfl
  connected _ := rfl
  failed e he := by rw [h] at he; cases he
  timed_out hf := by rw [h] at hf; cases hf

theorem of_failed (hk : final ≤ lastQuestion spanMs pollMs)
    (hnot : ∀ k < final, answer k = .ok false) {e : Error} (h : answer final = .error e) :
    Waited start spanMs pollMs answer failure final (.error e)
      (waitTime start spanMs pollMs final) where
  within := hk
  not_yet := hnot
  at_time := rfl
  connected hc := by rw [h] at hc; cases hc
  failed e' he := by rw [h] at he; cases he; rfl
  timed_out hf := by rw [h] at hf; cases hf

theorem of_timeout (hp : 0 < pollMs)
    (hnot : ∀ k < lastQuestion spanMs pollMs, answer k = .ok false)
    (h : answer (lastQuestion spanMs pollMs) = .ok false) :
    Waited start spanMs pollMs answer failure (lastQuestion spanMs pollMs) (.error failure)
      (start + spanMs) where
  within := Nat.le_refl _
  not_yet := hnot
  at_time := (waitTime_lastQuestion hp).symm
  connected hc := by rw [h] at hc; cases hc
  failed e he := by rw [h] at he; cases he
  timed_out _ := ⟨rfl, rfl, rfl⟩

theorem of_always_connected (hw : Waited start spanMs pollMs (fun _ => .ok true) failure final
    result clock) : final = 0 ∧ result = .ok () ∧ clock = start := by
  have hfinal : final = 0 := by
    cases final with
    | zero => rfl
    | succ n => cases hw.not_yet 0 (Nat.succ_pos n)
  subst hfinal
  exact ⟨rfl, hw.connected rfl, hw.at_time.trans waitTime_zero⟩

theorem of_never_connected (hw : Waited start spanMs pollMs (fun _ => .ok false) failure final
    result clock) : result = .error failure ∧ clock = start + spanMs :=
  let ⟨_, hclock, hresult⟩ := hw.timed_out rfl
  ⟨hresult, hclock⟩

end Waited

/-! ### The wait on a scheduled switch -/

namespace SwitchSchedule

section Steps

variable (name : String) (pollMs deadline : Nat) (failure : Error) (fuel : Nat)
  (st : SwitchSchedule)

theorem watch_connected_run :
    (ExceptT.mk (watch.connected name) : ExceptT Error (StateM SwitchSchedule) Bool).run.run st =
      (st.answers st.asked.length, { st with asked := st.asked ++ [st.clock] }) := rfl

theorem watch_now_run :
    (liftM watch.now : ExceptT Error (StateM SwitchSchedule) Nat).run.run st =
      (.ok st.clock, st) := rfl

theorem watch_sleepUntil_run (t : Nat) :
    (liftM (watch.sleepUntil t) : ExceptT Error (StateM SwitchSchedule) Unit).run.run st =
      (.ok (), { st with clock := max st.clock t }) := rfl

theorem watch_after_run (t d : Nat) :
    (liftM (Instant.after watch.halt t d) : ExceptT Error (StateM SwitchSchedule) Nat).run.run st =
      (.ok (t + d), { st with halted := st.halted <|> Instant.overflowAt (t + d) }) := by
  cases h : Instant.fits (t + d)
  · rw [Instant.after_of_not_fits _ h, Instant.overflowAt_of_not_fits h]
    rfl
  · rw [Instant.after_of_fits _ h, Instant.overflowAt_of_fits h]
    cases st
    rename_i halted
    cases halted <;> rfl

theorem poll_connected (h : st.answers st.asked.length = .ok true) :
    (watch.poll name pollMs deadline failure (fuel + 1)).run.run st =
      (.ok (), { st with asked := st.asked ++ [st.clock] }) := by
  rw [SwitchWatch.poll, StepRun.bind_eq, watch_connected_run, h]
  rfl

theorem poll_failed {e : Error} (h : st.answers st.asked.length = .error e) :
    (watch.poll name pollMs deadline failure (fuel + 1)).run.run st =
      (.error e, { st with asked := st.asked ++ [st.clock] }) := by
  rw [SwitchWatch.poll, StepRun.bind_eq, watch_connected_run, h]

theorem poll_deadline (h : st.answers st.asked.length = .ok false) (hd : deadline ≤ st.clock) :
    (watch.poll name pollMs deadline failure (fuel + 1)).run.run st =
      (.error failure, { st with asked := st.asked ++ [st.clock] }) := by
  rw [SwitchWatch.poll, StepRun.bind_eq, watch_connected_run, h]
  dsimp only
  rw [if_neg Bool.false_ne_true, StepRun.bind_eq, watch_now_run]
  dsimp only
  rw [if_pos hd, StepRun.bind_eq, StepRun.throw_eq]

theorem poll_sleeps (h : st.answers st.asked.length = .ok false) (hd : st.clock < deadline) :
    (watch.poll name pollMs deadline failure (fuel + 1)).run.run st =
      (watch.poll name pollMs deadline failure fuel).run.run
        { st with asked := st.asked ++ [st.clock],
                  clock := max st.clock (min deadline (st.clock + pollMs)),
                  halted := st.halted <|> Instant.overflowAt (st.clock + pollMs) } := by
  rw [SwitchWatch.poll, StepRun.bind_eq, watch_connected_run, h]
  dsimp only
  rw [if_neg Bool.false_ne_true, StepRun.bind_eq, watch_now_run]
  dsimp only
  rw [if_neg (Nat.not_le.mpr hd), StepRun.bind_eq, watch_after_run]
  dsimp only
  rw [StepRun.bind_eq, watch_sleepUntil_run]

theorem waitConnected_run (timeoutSecs : Nat) :
    (watch.waitConnected name timeoutSecs pollMs).run.run st =
      (watch.poll name pollMs (st.clock + timeoutSecs * 1000)
        (.controllerUnreachable s!"switch {name} did not connect within {secondsText timeoutSecs}")
        (timeoutSecs * 1000 + 1)).run.run
        { st with halted := st.halted <|> Instant.overflowAt (st.clock + timeoutSecs * 1000) } := by
  rw [SwitchWatch.waitConnected, StepRun.bind_eq, watch_now_run]
  dsimp only
  rw [StepRun.bind_eq, watch_after_run]

end Steps

section Loop

variable (name : String) {pollMs : Nat} (hp : 0 < pollMs) (start spanMs : Nat)
  (failure : Error) (A : Nat → Except Error Bool) (base : List Nat)
include hp

theorem poll_waited : ∀ (fuel k : Nat) (st : SwitchSchedule), st.answers = A →
    st.clock = waitTime start spanMs pollMs k →
    st.asked = base ++ (List.range k).map (waitTime start spanMs pollMs) →
    k ≤ lastQuestion spanMs pollMs → lastQuestion spanMs pollMs < k + fuel →
    (∀ j < k, A (base.length + j) = .ok false) →
    ∃ final, Waited start spanMs pollMs (fun j => A (base.length + j)) failure final
        ((watch.poll name pollMs (start + spanMs) failure fuel).run.run st).1
        ((watch.poll name pollMs (start + spanMs) failure fuel).run.run st).2.clock ∧
      ((watch.poll name pollMs (start + spanMs) failure fuel).run.run st).2.asked =
        base ++ (List.range (final + 1)).map (waitTime start spanMs pollMs) := by
  intro fuel
  induction fuel with
  | zero => intro k _ _ _ _ hk hfuel _; omega
  | succ fuel ih =>
    intro k st hA hclock hasked hk hfuel hnot
    have hlen : st.asked.length = base.length + k := by simp [hasked]
    have hasked' : st.asked ++ [st.clock] =
        base ++ (List.range (k + 1)).map (waitTime start spanMs pollMs) := by
      rw [hasked, hclock, List.range_succ, List.map_append, List.append_assoc]
      rfl
    have hans : st.answers st.asked.length = A (base.length + k) := by rw [hA, hlen]
    cases hk' : A (base.length + k) with
    | error e =>
      rw [poll_failed name pollMs _ failure fuel st (hans.trans hk')]
      exact ⟨k, hclock ▸ Waited.of_failed hk hnot hk', hasked'⟩
    | ok c =>
      cases c with
      | true =>
        rw [poll_connected name pollMs _ failure fuel st (hans.trans hk')]
        exact ⟨k, hclock ▸ Waited.of_connected hk hnot hk', hasked'⟩
      | false =>
        by_cases hlast : k = lastQuestion spanMs pollMs
        · subst hlast
          have hdl : st.clock = start + spanMs := hclock.trans (waitTime_lastQuestion hp)
          rw [poll_deadline name pollMs _ failure fuel st (hans.trans hk') (Nat.le_of_eq hdl.symm)]
          refine ⟨_, ?_, hasked'⟩
          show Waited _ _ _ _ _ _ (.error failure) st.clock
          rw [hdl]
          exact Waited.of_timeout hp hnot hk'
        · have hlt : k < lastQuestion spanMs pollMs := Nat.lt_of_le_of_ne hk hlast
          have hd : st.clock < start + spanMs := by
            rw [hclock]
            exact Nat.lt_of_not_le fun h => Nat.not_le.mpr hlt ((deadline_le_waitTime_iff hp).mp h)
          rw [poll_sleeps name pollMs _ failure fuel st (hans.trans hk') hd]
          refine ih (k + 1) _ hA ?_ hasked' hlt (by omega) fun j hj => ?_
          · show max st.clock (min (start + spanMs) (st.clock + pollMs)) = _
            rw [hclock]
            exact waitTime_succ hp hlt
          · rcases Nat.lt_succ_iff_lt_or_eq.mp hj with hj | rfl
            · exact hnot j hj
            · exact hk'

end Loop

section Halt

variable (name : String) (pollMs deadline : Nat) (failure : Error)

theorem poll_halted : ∀ (fuel : Nat) (st : SwitchSchedule), ∃ later,
    ((watch.poll name pollMs deadline failure fuel).run.run st).2.halted = (st.halted <|> later) ∧
      (Instant.fits (deadline + pollMs) = true → later = none) := by
  intro fuel
  induction fuel with
  | zero =>
    intro st
    exact ⟨none, by simp only [Option.orElse_eq_orElse, Option.orElse_eq_or, Option.or_none]; rfl,
      fun _ => rfl⟩
  | succ fuel ih =>
    intro st
    have hsame : (st.halted <|> none) = st.halted := by
      simp only [Option.orElse_eq_orElse, Option.orElse_eq_or, Option.or_none]
    cases ha : st.answers st.asked.length with
    | error e =>
      rw [poll_failed name pollMs deadline failure fuel st ha]
      exact ⟨none, hsame.symm, fun _ => rfl⟩
    | ok c =>
      cases c with
      | true =>
        rw [poll_connected name pollMs deadline failure fuel st ha]
        exact ⟨none, hsame.symm, fun _ => rfl⟩
      | false =>
        by_cases hd : deadline ≤ st.clock
        · rw [poll_deadline name pollMs deadline failure fuel st ha hd]
          exact ⟨none, hsame.symm, fun _ => rfl⟩
        · rw [poll_sleeps name pollMs deadline failure fuel st ha (Nat.lt_of_not_le hd)]
          obtain ⟨later, hlater, hnone⟩ := ih _
          refine ⟨Instant.overflowAt (st.clock + pollMs) <|> later, ?_, fun hfits => ?_⟩
          · rw [hlater]
            simp only [Option.orElse_eq_orElse, Option.orElse_eq_or, Option.or_assoc]
          · rw [Instant.overflowAt_of_fits (Instant.fits_of_le (by omega) hfits), hnone hfits]
            rfl

end Halt

end SwitchSchedule

/-- The whole of a wait from schedule `s` that ended in `run`. -/
structure WaitOutcome (name : String) (timeoutSecs pollMs : Nat) (s : SwitchSchedule)
    (run : Except Error Unit × SwitchSchedule) : Prop where
  /-- It asked on the grid from its start and ended as `Waited` says. -/
  waited : ∃ final, Waited s.clock (timeoutSecs * 1000) pollMs
      (fun k => s.answers (s.asked.length + k))
      (.controllerUnreachable s!"switch {name} did not connect within {secondsText timeoutSecs}")
      final run.1 run.2.clock ∧
    run.2.asked =
      s.asked ++ (List.range (final + 1)).map (waitTime s.clock (timeoutSecs * 1000) pollMs)
  /-- It never slept past its deadline. -/
  within : run.2.clock ≤ s.clock + timeoutSecs * 1000
  /-- With room for an interval past its deadline, it does not stop the program. -/
  kept : Instant.fits (s.clock + timeoutSecs * 1000 + pollMs) = true → run.2.halted = s.halted
  /-- A deadline the clock cannot hold stops the program, unless it was stopped before. -/
  overflowed : Instant.fits (s.clock + timeoutSecs * 1000) = false →
    run.2.halted = (s.halted <|> some .instantOverflow)

namespace SwitchSchedule

variable (name : String) {pollMs : Nat} (hp : 0 < pollMs) (timeoutSecs : Nat)
  (s : SwitchSchedule)
include hp

theorem waitConnected_outcome :
    WaitOutcome name timeoutSecs pollMs s
      ((watch.waitConnected name timeoutSecs pollMs).run.run s) := by
  have hfuel : lastQuestion (timeoutSecs * 1000) pollMs < 0 + (timeoutSecs * 1000 + 1) := by
    have : lastQuestion (timeoutSecs * 1000) pollMs ≤ timeoutSecs * 1000 := lastQuestion_le hp
    omega
  rw [waitConnected_run]
  obtain ⟨final, hw, hasked⟩ := poll_waited name hp s.clock (timeoutSecs * 1000) _ s.answers
    s.asked (timeoutSecs * 1000 + 1) 0
    { s with halted := s.halted <|> Instant.overflowAt (s.clock + timeoutSecs * 1000) } rfl
    waitTime_zero.symm (by simp) (Nat.zero_le _) hfuel fun _ h => absurd h (Nat.not_lt_zero _)
  obtain ⟨later, hlater, hnone⟩ := poll_halted name pollMs (s.clock + timeoutSecs * 1000) _
    (timeoutSecs * 1000 + 1)
    { s with halted := s.halted <|> Instant.overflowAt (s.clock + timeoutSecs * 1000) }
  refine ⟨⟨final, hw, hasked⟩, hw.at_time ▸ waitTime_le, fun hfits => ?_, fun hover => ?_⟩
  · rw [hlater, hnone hfits, Instant.overflowAt_of_fits (Instant.fits_of_le (by omega) hfits)]
    simp only [Option.orElse_eq_orElse, Option.orElse_eq_or, Option.or_none]
  · rw [hlater, Instant.overflowAt_of_not_fits hover]
    cases s.halted <;> rfl

theorem waitConnected_of_connected (h : ∀ k, s.answers k = .ok true) :
    ((watch.waitConnected name timeoutSecs pollMs).run.run s).1 = .ok () ∧
      ((watch.waitConnected name timeoutSecs pollMs).run.run s).2.clock = s.clock := by
  obtain ⟨⟨final, hw, -⟩, -⟩ := waitConnected_outcome name hp timeoutSecs s
  have hans : (fun k => s.answers (s.asked.length + k)) = fun _ => .ok true := funext fun _ => h _
  rw [hans] at hw
  obtain ⟨-, hresult, hclock⟩ := hw.of_always_connected
  exact ⟨hresult, hclock⟩

theorem waitConnected_of_disconnected (h : ∀ k, s.answers k = .ok false) :
    ((watch.waitConnected name timeoutSecs pollMs).run.run s).1 = .error (.controllerUnreachable
        s!"switch {name} did not connect within {secondsText timeoutSecs}") ∧
      ((watch.waitConnected name timeoutSecs pollMs).run.run s).2.clock =
        s.clock + timeoutSecs * 1000 := by
  obtain ⟨⟨final, hw, -⟩, -⟩ := waitConnected_outcome name hp timeoutSecs s
  have hans : (fun k => s.answers (s.asked.length + k)) = fun _ => .ok false := funext fun _ => h _
  rw [hans] at hw
  exact hw.of_never_connected

end SwitchSchedule

end MudTestbed
