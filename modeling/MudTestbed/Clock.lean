/-!
# The limits of the program's clock

The program keeps durations and instants in whole seconds and nanoseconds, and stops with a
`Panic` when a sum leaves their range: a duration holds at most `2^64 - 1` seconds, an
instant of the monotonic clock a signed 64-bit count of seconds. Time is counted here in
milliseconds from the program's start, when the monotonic clock shows `Instant.startSecs`
seconds.
-/

namespace MudTestbed

/-- Why the program stopped: a sum of time that its clock cannot hold. -/
inductive Panic where
  | durationOverflow
  | instantOverflow
  deriving DecidableEq, Repr

def Panic.message : Panic → String
  | .durationOverflow => "overflow when adding durations"
  | .instantOverflow => "overflow when adding duration to instant"

namespace Duration

def maxSecs : Nat := 0xFFFFFFFFFFFFFFFF

def addSecs (a b : Nat) : Except Panic Nat :=
  if a + b ≤ maxSecs then .ok (a + b) else .error .durationOverflow

theorem addSecs_of_le {a b : Nat} (h : a + b ≤ maxSecs) : addSecs a b = .ok (a + b) :=
  if_pos h

theorem addSecs_of_lt {a b : Nat} (h : maxSecs < a + b) :
    addSecs a b = .error .durationOverflow :=
  if_neg (Nat.not_le.mpr h)

end Duration

namespace Instant

def startSecs : Nat := 1

def maxSecs : Nat := 0x7FFFFFFFFFFFFFFF

def endMs : Nat := (maxSecs + 1 - startSecs) * 1000

def fits (t : Nat) : Bool := decide (t < endMs)

def add (t d : Nat) : Except Panic Nat :=
  if fits (t + d) then .ok (t + d) else .error .instantOverflow

def after {m : Type → Type} [Monad m] (halt : Panic → m Unit) (t d : Nat) : m Nat := do
  if let .error p := add t d then halt p
  pure (t + d)

theorem fits_iff (t : Nat) : fits t = true ↔ startSecs + t / 1000 ≤ maxSecs := by
  have hmax : maxSecs = 9223372036854775807 := by decide
  have hend : endMs = 9223372036854775807000 := by decide
  rw [fits, decide_eq_true_eq, hend, hmax, startSecs]
  omega

theorem fits_of_le {s t : Nat} (h : s ≤ t) (ht : fits t = true) : fits s = true := by
  simp only [fits, decide_eq_true_eq] at ht ⊢
  omega

theorem add_of_fits {t d : Nat} (h : fits (t + d) = true) : add t d = .ok (t + d) :=
  if_pos h

theorem add_of_not_fits {t d : Nat} (h : fits (t + d) = false) :
    add t d = .error .instantOverflow :=
  if_neg (by rw [h]; exact Bool.false_ne_true)

def overflowAt (t : Nat) : Option Panic := if fits t then none else some .instantOverflow

theorem overflowAt_of_fits {t : Nat} (h : fits t = true) : overflowAt t = none := if_pos h

theorem overflowAt_of_not_fits {t : Nat} (h : fits t = false) :
    overflowAt t = some .instantOverflow :=
  if_neg (by rw [h]; exact Bool.false_ne_true)

section After

variable {m : Type → Type} [Monad m] (halt : Panic → m Unit)

theorem after_of_fits {t d : Nat} (h : fits (t + d) = true) : after halt t d = pure (t + d) := by
  simp [after, add_of_fits h]

theorem after_of_not_fits {t d : Nat} (h : fits (t + d) = false) :
    after halt t d = (do halt .instantOverflow; pure (t + d)) := by
  simp [after, add_of_not_fits h]

end After

end Instant

end MudTestbed
