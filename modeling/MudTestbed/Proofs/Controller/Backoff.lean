import Mathlib.Data.Nat.Bitwise
import MudTestbed.Proofs.Controller.Poll

/-!
# The waits between attempts

Both loops of the client that try again, `send` after a transport failure and a poll after an
attempt that goes on, wait before the next attempt and then double the wait, up to ten
seconds (`nextBackoff`). Wait `k` of a loop started with `base` is therefore
`backoffAt base k`: the first wait is the base itself, as given, and only the waits after it
are capped. From the second on they are `min (base * 2 ^ k) maxBackoffMs`, never more than ten
seconds and never shorter than the one before (`backoffAt_succ`, `backoffAt_succ_le`,
`backoffAt_succ_le_succ`). The capped doubling describes every wait exactly when the base is
at most ten seconds (`backoffAt_eq_iff`).

The next attempt of a poll starts after the wait, cut at the deadline
(`pollTimes_succ_eq`). On a scripted controller, `send` waits out exactly the first waits, one
per attempt lost in transport before the last attempt (`ControllerClient.retrying_clock`).
-/

namespace MudTestbed

set_option autoImplicit false

def nextBackoff (interval : Nat) : Nat := min (2 * interval) maxBackoffMs

def backoffAt (base : Nat) : Nat → Nat
  | 0 => base
  | k + 1 => nextBackoff (backoffAt base k)

def waited (base n : Nat) : Nat := ((List.range n).map (backoffAt base)).sum

section Schedule

variable (base : Nat)

@[simp] theorem backoffAt_zero : backoffAt base 0 = base := rfl

theorem backoffAt_succ_eq_next (k : Nat) :
    backoffAt base (k + 1) = nextBackoff (backoffAt base k) := rfl

theorem backoffAt_succ' (k : Nat) : backoffAt base (k + 1) = backoffAt (nextBackoff base) k := by
  induction k with
  | zero => rfl
  | succ k ih => rw [backoffAt_succ_eq_next, ih, backoffAt_succ_eq_next]

theorem backoffAt_succ (k : Nat) : backoffAt base (k + 1) = min (base * 2 ^ (k + 1)) maxBackoffMs := by
  induction k with
  | zero =>
    rw [backoffAt_succ_eq_next, backoffAt_zero, nextBackoff, Nat.zero_add, Nat.pow_one,
      Nat.mul_comm]
  | succ k ih =>
    have hdouble : base * 2 ^ (k + 1 + 1) = 2 * (base * 2 ^ (k + 1)) := by
      rw [Nat.pow_succ 2 (k + 1), ← Nat.mul_assoc, Nat.mul_comm]
    rw [backoffAt_succ_eq_next, ih, nextBackoff, hdouble]
    omega

theorem backoffAt_succ_le (k : Nat) : backoffAt base (k + 1) ≤ maxBackoffMs := by
  rw [backoffAt_succ]
  exact Nat.min_le_right _ _

theorem backoffAt_succ_le_succ (k : Nat) : backoffAt base (k + 1) ≤ backoffAt base (k + 2) := by
  rw [backoffAt_succ, backoffAt_succ, Nat.pow_succ 2 (k + 1), ← Nat.mul_assoc]
  omega

theorem backoffAt_eq_iff :
    (∀ k, backoffAt base k = min (base * 2 ^ k) maxBackoffMs) ↔ base ≤ maxBackoffMs := by
  constructor
  · intro h
    have h0 := h 0
    rw [backoffAt_zero, Nat.pow_zero, Nat.mul_one] at h0
    omega
  · intro hb k
    cases k with
    | zero => rw [backoffAt_zero, Nat.pow_zero, Nat.mul_one, Nat.min_eq_left hb]
    | succ k => exact backoffAt_succ base k

theorem backoffAt_le_succ_iff :
    (∀ k, backoffAt base k ≤ backoffAt base (k + 1)) ↔ base ≤ maxBackoffMs := by
  constructor
  · intro h
    have h0 := h 0
    rw [backoffAt_zero] at h0
    exact Nat.le_trans h0 (backoffAt_succ_le base 0)
  · intro hb k
    cases k with
    | zero =>
      rw [backoffAt_zero, backoffAt_succ, Nat.pow_one]
      omega
    | succ k => exact backoffAt_succ_le_succ base k

@[simp] theorem waited_zero : waited base 0 = 0 := rfl

theorem waited_succ (n : Nat) : waited base (n + 1) = base + waited (nextBackoff base) n := by
  simp only [waited, List.range_succ_eq_map, List.map_cons, List.sum_cons, List.map_map,
    Function.comp_def, backoffAt_succ', backoffAt_zero]

end Schedule

theorem pollTimes_succ_eq (deadline : Nat) :
    ∀ (start interval k : Nat), pollTimes deadline start interval (k + 1) =
      min deadline (pollTimes deadline start interval k + backoffAt interval k) := by
  intro start interval k
  induction k generalizing start interval with
  | zero => rw [pollTimes_succ, pollTimes_zero, pollTimes_zero, backoffAt_zero]
  | succ k ih =>
    rw [pollTimes_succ deadline start interval (k + 1), ih, backoffAt_succ']
    rfl

namespace ControllerClient

variable (cfg : ControllerConfig) {method : Method} {path : String} {body : Json}
  {loc : Url.Location}

theorem retrying_clock_of_settled (hloc : requestTarget ((programs cfg).url path) = .ok loc)
    (left backoff : Nat) (tb : Testbed Replayed)
    (h : transportFailed ((tb.controller.script 0).read ((programs cfg).url path) loc.text) = false) :
    (((Replayed.client cfg).retrying method path body left backoff).run.run tb).2.clock = tb.clock := by
  rw [retrying_of_not_transport Replayed.behavior cfg (ne_transport_of_transportFailed h)
    (sendOnce_replayed cfg hloc tb)]

theorem retrying_clock (hloc : requestTarget ((programs cfg).url path) = .ok loc) :
    ∀ (left backoff : Nat) (tb : Testbed Replayed),
      (((Replayed.client cfg).retrying method path body left backoff).run.run tb).2.clock =
        tb.clock + waited backoff (min (leadingTransport
          (fun k => (tb.controller.script k).read ((programs cfg).url path) loc.text) (left + 1)) left) := by
  intro left
  induction left with
  | zero =>
    intro backoff tb
    cases hf : transportFailed ((tb.controller.script 0).read ((programs cfg).url path) loc.text)
    · rw [leadingTransport_succ_of_settled _ hf, retrying_clock_of_settled cfg hloc 0 backoff tb hf]
      rfl
    · obtain ⟨d, hd⟩ := (transportFailed_iff _).mp hf
      have hsend := @sendOnce_replayed cfg method _ body _ hloc tb
      rw [hd] at hsend
      rw [retrying_zero_of_transport Replayed.behavior cfg hsend, Nat.min_zero]
      rfl
  | succ left ih =>
    intro backoff tb
    cases hf : transportFailed ((tb.controller.script 0).read ((programs cfg).url path) loc.text)
    · rw [leadingTransport_succ_of_settled _ hf,
        retrying_clock_of_settled cfg hloc (left + 1) backoff tb hf]
      rfl
    · obtain ⟨d, hd⟩ := (transportFailed_iff _).mp hf
      have hsend := @sendOnce_replayed cfg method _ body _ hloc tb
      rw [hd] at hsend
      rw [retrying_succ_of_transport Replayed.behavior cfg hsend, leadingTransport_succ_of_failed _ hf,
        Nat.add_min_add_right, waited_succ]
      rw [ih (min (2 * backoff) maxBackoffMs), nextBackoff]
      dsimp only
      omega

/-- The waits of the loops that retry: only the first escapes the cap of ten seconds. -/
theorem backoff_caps_every_wait_but_the_first (b : Nat) :
    backoffAt b 0 = b ∧
    (∀ k, backoffAt b (k + 1) = min (b * 2 ^ (k + 1)) maxBackoffMs) ∧
    (∀ k, backoffAt b (k + 1) ≤ backoffAt b (k + 2)) ∧
    ((∀ k, backoffAt b k = min (b * 2 ^ k) maxBackoffMs) ↔ b ≤ maxBackoffMs) ∧
    ((∀ k, backoffAt b k ≤ maxBackoffMs) ↔ b ≤ maxBackoffMs) ∧
    ((∀ k, backoffAt b k ≤ backoffAt b (k + 1)) ↔ b ≤ maxBackoffMs) ∧
    (∀ deadline start k, pollTimes deadline start b (k + 1) =
      min deadline (pollTimes deadline start b k + backoffAt b k)) ∧
    ∀ (cfg : ControllerConfig) method path body (loc : Url.Location),
      requestTarget ((programs cfg).url path) = .ok loc →
      ∀ left (tb : Testbed Replayed),
        (((Replayed.client cfg).retrying method path body left b).run.run tb).2.clock =
          tb.clock + waited b (min (leadingTransport
            (fun k => (tb.controller.script k).read ((programs cfg).url path) loc.text) (left + 1))
            left) := by
  refine ⟨backoffAt_zero b, backoffAt_succ b, backoffAt_succ_le_succ b, backoffAt_eq_iff b,
    ⟨fun h => h 0, fun hb k => ?_⟩, backoffAt_le_succ_iff b,
    fun deadline start k => pollTimes_succ_eq deadline start b k,
    fun cfg _ _ _ _ hloc left => retrying_clock cfg hloc left b⟩
  cases k with
  | zero => exact hb
  | succ k => exact backoffAt_succ_le b k

/-- A poll every 20 s with a 12 s deadline and no report times out after one attempt. -/
theorem slow_poll_times_out_after_one_attempt :
    (((Replayed.client .default).pollReport [] 20000 12000).run.run
        { controller := ⟨fun _ => .answer 200 "", []⟩ }).1 = .error (pollTimeout 1) ∧
      pollTimes 12000 0 (min 20000 maxBackoffMs) 1 = 10000 := by
  refine ⟨?_, rfl⟩
  have hpolled : ∃ n, Polled 12000 (fun _ => 0) 0 20000 0 (fun _ => .ok none) n
      (((Replayed.client .default).pollReport [] 20000 12000).run.run
        { controller := ⟨fun _ => .answer 200 "", []⟩ }).1
      (((Replayed.client .default).pollReport [] 20000 12000).run.run
        { controller := ⟨fun _ => .answer 200 "", []⟩ }).2.clock := by
    cases ht : requestTarget ((programs .default).url pollPath) with
    | ok loc =>
      obtain ⟨n, hpolled, -⟩ := pollReport_answered .default (fun _ => 0) [] 12000
        { controller := ⟨fun _ => .answer 200 "", []⟩ } (show 0 < 20000 by decide) ht
      have hblank := (pollReading ((programs .default).url pollPath) loc.text).blank 200 ""
        (by decide) (by decide) (by decide)
      exact ⟨n, by simpa only [hblank] using hpolled⟩
    | error e =>
      obtain ⟨n, hpolled, -⟩ := pollReport_unbuilt .default (fun _ => 0) [] 12000
        { controller := ⟨fun _ => .answer 200 "", []⟩ } (show 0 < 20000 by decide) ht
      exact ⟨n, hpolled⟩
  obtain ⟨n, hpolled⟩ := hpolled
  have hn : n = 1 := by
    cases n with
    | zero => exact absurd (hpolled.timed_out (Or.inl rfl)).1 (by decide)
    | succ n =>
      cases n with
      | zero => rfl
      | succ n => exact absurd (hpolled.started 1 (by omega)) (by decide)
  subst hn
  exact (hpolled.timed_out (Or.inr ⟨by decide, rfl⟩)).2.1

end ControllerClient

end MudTestbed
