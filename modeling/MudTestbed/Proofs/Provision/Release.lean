import MudTestbed.Proofs.Provision.Cleanup
import MudTestbed.Provision.Session

/-!
# Teardown releases each recorded object once

Teardown calls of a network (`Teardowns`) release what its record holds exactly once in
all: the call that takes the record makes every release, in the order of
`Resources.releases`, and every other call makes none and reports nothing. Whatever the
backend answers, the taker's report and the backend it leaves are those of the releases
made one after another (`releaseAll`), so running calls at once changes nothing.

The invariant `Teardowns.Once` says how far the releases are: either no call has taken
the record (`Untaken`), or one call took it and has made a prefix of its releases
(`TakenBy`); and any call that has begun has cancelled the network, so commands through it
are refused. Each step keeps it (`Teardowns.Once.step`), so every schedule does
(`Teardowns.Once.run`). No call ever waits, so some schedule finishes them all: each turn of
an unfinished call lowers the turns left (`Teardowns.work_step_lt`).

On the in-memory backend no release fails, and one call given every turn is the teardown
of `LiveNetwork.teardown` (`Teardowns.alone_memory`).
-/

namespace MudTestbed

set_option autoImplicit false

namespace Resources

theorem isEmpty_iff (r : Resources) : r.isEmpty = true ↔ r = {} := by
  constructor
  · intro h
    simp only [isEmpty, Bool.and_eq_true, List.isEmpty_iff] at h
    obtain ⟨⟨⟨⟨hh, hs⟩, hst⟩, hl⟩, hv⟩ := h
    cases r
    simp_all
  · rintro rfl
    rfl

end Resources

/-! ### Releases made one after another -/

section Sequential

variable {β : Type} (release : β → Release → Except Error Unit × β)

def releaseNext (acc : List String × β) (x : Release) : List String × β :=
  (acc.1 ++ x.note (release acc.2 x).1, (release acc.2 x).2)

def releaseAll (b : β) (xs : List Release) : List String × β :=
  xs.foldl (releaseNext release) ([], b)

theorem releaseAll_append_single (b : β) (xs : List Release) (x : Release) :
    releaseAll release b (xs ++ [x]) = releaseNext release (releaseAll release b xs) x := by
  simp [releaseAll, List.foldl_append]

end Sequential

theorem MemoryBackend.release_fst (b : MemoryBackend) (x : Release) : (b.release x).1 = .ok () := by
  cases x <;> rfl

theorem MemoryBackend.foldl_releaseNext (xs : List Release) :
    ∀ (errors : List String) (b : MemoryBackend),
      xs.foldl (releaseNext MemoryBackend.release) (errors, b) =
        (errors, xs.foldl (fun b x => (b.release x).2) b) := by
  induction xs with
  | nil => intro errors b; rfl
  | cons x xs ih =>
    intro errors b
    simp only [List.foldl_cons, releaseNext, MemoryBackend.release_fst, Release.note,
      List.append_nil]
    exact ih errors _

theorem Resources.releaseAll_memory (r : Resources) (b : MemoryBackend) :
    releaseAll MemoryBackend.release b r.releases = ([], r.release b) := by
  rw [releaseAll, MemoryBackend.foldl_releaseNext]
  simp only [Resources.releases, List.foldl_append, List.foldl_map]
  rfl

/-! ### One step of a call -/

def TeardownCall.isFinished : TeardownCall → Bool
  | .finished _ => true
  | _ => false

def TeardownCall.turnsLeft (size : Nat) : TeardownCall → Nat
  | .idle => size + 3
  | .taking => size + 2
  | .releasing todo _ => todo.length + 1
  | .finished _ => 0

namespace Teardowns

variable {β : Type} (release : β → Release → Except Error Unit × β)

def allFinished (t : Teardowns β) : Bool := t.calls.all TeardownCall.isFinished

section Step

variable {t : Teardowns β} {i : Nat}

theorem step_idle (h : t.calls[i]? = some .idle) :
    step release t i =
      { t with network := { t.network with tornDown := true },
               calls := t.calls.set i .taking } := by
  rw [step, h]

theorem step_taking (h : t.calls[i]? = some .taking) :
    step release t i =
      { t with network := { t.network with resources := {} },
               calls := t.calls.set i (if t.network.resources.isEmpty then .finished []
                 else .releasing t.network.resources.releases []) } := by
  rw [step, h]

theorem step_report {errors : List String} (h : t.calls[i]? = some (.releasing [] errors)) :
    step release t i = { t with calls := t.calls.set i (.finished errors) } := by
  rw [step, h]

theorem step_release {x : Release} {todo : List Release} {errors : List String}
    (h : t.calls[i]? = some (.releasing (x :: todo) errors)) :
    step release t i =
      { t with backend := (release t.backend x).2,
               calls := t.calls.set i (.releasing todo (errors ++ x.note (release t.backend x).1)),
               issued := t.issued ++ [(i, x)] } := by
  rw [step, h]

theorem step_finished {errors : List String} (h : t.calls[i]? = some (.finished errors)) :
    step release t i = t := by
  rw [step, h]

theorem step_none (h : t.calls[i]? = none) : step release t i = t := by
  rw [step, h]

theorem length_step : (step release t i).calls.length = t.calls.length := by
  cases h : t.calls[i]? with
  | none => rw [step_none release h]
  | some c =>
    cases c with
    | idle => simp [step_idle release h]
    | taking => simp [step_taking release h]
    | releasing todo errors =>
      cases todo with
      | nil => simp [step_report release h]
      | cons x todo => simp [step_release release h]
    | finished errors => rw [step_finished release h]

end Step

theorem getElem?_set_eq_some {l : List TeardownCall} {i j : Nat} {a c : TeardownCall}
    (h : (l.set i a)[j]? = some c) : (j = i ∧ c = a) ∨ (j ≠ i ∧ l[j]? = some c) := by
  by_cases hj : j = i
  · subst hj
    have hlt : j < l.length := by
      have := (List.getElem?_eq_some_iff.mp h).1
      rwa [List.length_set] at this
    rw [List.getElem?_set_self hlt] at h
    exact Or.inl ⟨rfl, (Option.some.inj h).symm⟩
  · rw [List.getElem?_set_ne (Ne.symm hj)] at h
    exact Or.inr ⟨hj, h⟩

theorem getElem?_set_of_getElem? {l : List TeardownCall} {i : Nat} {c : TeardownCall}
    (h : l[i]? = some c) (a : TeardownCall) : (l.set i a)[i]? = some a :=
  List.getElem?_set_self (List.getElem?_eq_some_iff.mp h).1

/-! ### The invariant -/

section Invariant

variable (r₀ : Resources) (b₀ : β) (n : Nat)

/-- No call has taken the record: nothing was released, and nothing changed. -/
structure Untaken (t : Teardowns β) : Prop where
  record : t.network.resources = r₀
  backend : t.backend = b₀
  issued : t.issued = []
  calls : ∀ (j : Nat) (c : TeardownCall), t.calls[j]? = some c →
    c = .idle ∨ c = .taking ∨ (c = .finished [] ∧ r₀ = {})

/-- Call `i` took the record and has made the releases `done`, in order. -/
structure TakenBy (t : Teardowns β) (i : Nat) (done : List Release) : Prop where
  record : t.network.resources = {}
  split : ∃ todo, r₀.releases = done ++ todo ∧
    (t.calls[i]? = some (.releasing todo (releaseAll release b₀ done).1) ∨
      todo = [] ∧ t.calls[i]? = some (.finished (releaseAll release b₀ done).1))
  backend : t.backend = (releaseAll release b₀ done).2
  issued : t.issued = done.map (i, ·)
  others : ∀ (j : Nat) (c : TeardownCall), j ≠ i → t.calls[j]? = some c →
    c = .idle ∨ c = .taking ∨ c = .finished []

/-- What holds after any schedule of teardown calls of one network. -/
structure Once (t : Teardowns β) : Prop where
  length : t.calls.length = n
  /-- A call that has begun has cancelled the network. -/
  cancelled : ∀ (j : Nat) (c : TeardownCall), t.calls[j]? = some c → c ≠ .idle →
    t.network.tornDown = true
  phase : Untaken r₀ b₀ t ∨ ∃ i done, TakenBy release r₀ b₀ t i done

end Invariant

section Keep

variable {r₀ : Resources} {b₀ : β} {n : Nat} {t : Teardowns β} {i : Nat}

theorem once_start (live : LiveNetwork) (b : β) (n : Nat) :
    Once release live.resources b n (start live b n) where
  length := List.length_replicate
  cancelled j c h hc := by
    rw [start, List.getElem?_replicate] at h
    split at h
    · cases h
      exact absurd rfl hc
    · cases h
  phase := Or.inl
    { record := rfl
      backend := rfl
      issued := rfl
      calls := fun j c h => by
        rw [start, List.getElem?_replicate] at h
        split at h
        · cases h
          exact Or.inl rfl
        · cases h }

namespace Untaken

theorem set (hu : Untaken r₀ b₀ t) (network : LiveNetwork) (hrecord : network.resources = r₀)
    {a : TeardownCall} (ha : a = .idle ∨ a = .taking ∨ (a = .finished [] ∧ r₀ = {})) :
    Untaken r₀ b₀ { t with network, calls := t.calls.set i a } := by
  refine ⟨hrecord, hu.backend, hu.issued, fun j c hj => ?_⟩
  rcases getElem?_set_eq_some hj with ⟨-, rfl⟩ | ⟨-, hj⟩
  · exact ha
  · exact hu.calls j c hj

theorem cancel (hu : Untaken r₀ b₀ t) (h : t.calls[i]? = some .idle) :
    Untaken r₀ b₀ (step release t i) := by
  rw [step_idle release h]
  exact hu.set { t.network with tornDown := true } hu.record (Or.inr (Or.inl rfl))

theorem take (hu : Untaken r₀ b₀ t) (h : t.calls[i]? = some .taking) :
    Untaken r₀ b₀ (step release t i) ∨ TakenBy release r₀ b₀ (step release t i) i [] := by
  rw [step_taking release h, hu.record]
  by_cases hr : r₀.isEmpty = true
  · have hr₀ := (Resources.isEmpty_iff r₀).mp hr
    rw [if_pos hr]
    exact Or.inl (hu.set _ hr₀.symm (Or.inr (Or.inr ⟨rfl, hr₀⟩)))
  · rw [if_neg hr]
    refine Or.inr ⟨rfl, ⟨r₀.releases, rfl, Or.inl (getElem?_set_of_getElem? h _)⟩, hu.backend,
      hu.issued, fun j c hji hj => ?_⟩
    rw [List.getElem?_set_ne (Ne.symm hji)] at hj
    rcases hu.calls j c hj with hc | hc | ⟨hc, -⟩
    · exact Or.inl hc
    · exact Or.inr (Or.inl hc)
    · exact Or.inr (Or.inr hc)

theorem not_releasing (hu : Untaken r₀ b₀ t) {todo : List Release} {errors : List String}
    (h : t.calls[i]? = some (.releasing todo errors)) : False := by
  rcases hu.calls i _ h with hc | hc | ⟨hc, -⟩ <;> cases hc

end Untaken

namespace TakenBy

variable {k : Nat} {done : List Release}

theorem taker_of_releasing (ht : TakenBy release r₀ b₀ t k done) {todo : List Release}
    {errors : List String} (h : t.calls[i]? = some (.releasing todo errors)) : i = k := by
  by_cases hik : i = k
  · exact hik
  · rcases ht.others i _ hik h with hc | hc | hc <;> cases hc

theorem ne_taker (ht : TakenBy release r₀ b₀ t k done) {c : TeardownCall}
    (h : t.calls[i]? = some c) (hc : c = .idle ∨ c = .taking) : i ≠ k := by
  rintro rfl
  obtain ⟨todo, -, hk | ⟨-, hk⟩⟩ := ht.split <;> rw [h] at hk <;> cases hk <;>
    rcases hc with hc | hc <;> cases hc

theorem releasing_eq (ht : TakenBy release r₀ b₀ t k done) {todo : List Release}
    {errors : List String} (h : t.calls[k]? = some (.releasing todo errors)) :
    r₀.releases = done ++ todo ∧ errors = (releaseAll release b₀ done).1 := by
  obtain ⟨todo', hsplit, hk | ⟨-, hk⟩⟩ := ht.split <;> rw [h] at hk <;> cases hk
  exact ⟨hsplit, rfl⟩

theorem set_other (ht : TakenBy release r₀ b₀ t k done) (hik : i ≠ k) (network : LiveNetwork)
    (hrecord : network.resources = {}) {a : TeardownCall}
    (ha : a = .idle ∨ a = .taking ∨ a = .finished []) :
    TakenBy release r₀ b₀ { t with network, calls := t.calls.set i a } k done := by
  refine ⟨hrecord, ?_, ht.backend, ht.issued, fun j c hjk hj => ?_⟩
  · rw [List.getElem?_set_ne hik]
    exact ht.split
  · rcases getElem?_set_eq_some hj with ⟨-, rfl⟩ | ⟨-, hj⟩
    · exact ha
    · exact ht.others j c hjk hj

theorem others_set (ht : TakenBy release r₀ b₀ t k done) (a : TeardownCall) :
    ∀ (j : Nat) (c : TeardownCall), j ≠ k → (t.calls.set k a)[j]? = some c →
      c = .idle ∨ c = .taking ∨ c = .finished [] := fun j c hjk hj =>
  ht.others j c hjk (by rwa [List.getElem?_set_ne (Ne.symm hjk)] at hj)

theorem cancel (ht : TakenBy release r₀ b₀ t k done) (h : t.calls[i]? = some .idle) :
    TakenBy release r₀ b₀ (step release t i) k done := by
  rw [step_idle release h]
  exact ht.set_other release (ht.ne_taker release h (Or.inl rfl))
    { t.network with tornDown := true } ht.record (Or.inr (Or.inl rfl))

theorem take (ht : TakenBy release r₀ b₀ t k done) (h : t.calls[i]? = some .taking) :
    TakenBy release r₀ b₀ (step release t i) k done := by
  rw [step_taking release h, ht.record, if_pos (show ({} : Resources).isEmpty = true from rfl)]
  exact ht.set_other release (ht.ne_taker release h (Or.inr rfl))
    { t.network with resources := {} } rfl (Or.inr (Or.inr rfl))

theorem next (ht : TakenBy release r₀ b₀ t k done) {x : Release} {todo : List Release}
    {errors : List String} (h : t.calls[k]? = some (.releasing (x :: todo) errors)) :
    TakenBy release r₀ b₀ (step release t k) k (done ++ [x]) := by
  obtain ⟨hsplit, rfl⟩ := ht.releasing_eq release h
  have hnext : releaseAll release b₀ (done ++ [x]) =
      ((releaseAll release b₀ done).1 ++ x.note (release t.backend x).1,
        (release t.backend x).2) := by
    rw [releaseAll_append_single, ht.backend]
    rfl
  rw [step_release release h]
  refine ⟨ht.record, ⟨todo, by rw [hsplit, List.append_assoc]; rfl, Or.inl ?_⟩, by rw [hnext],
    by rw [ht.issued, List.map_append]; rfl, ht.others_set release _⟩
  rw [getElem?_set_of_getElem? h, hnext]

theorem report (ht : TakenBy release r₀ b₀ t k done) {errors : List String}
    (h : t.calls[k]? = some (.releasing [] errors)) :
    TakenBy release r₀ b₀ (step release t k) k done := by
  obtain ⟨hsplit, rfl⟩ := ht.releasing_eq release h
  rw [step_report release h]
  exact ⟨ht.record, ⟨[], hsplit, Or.inr ⟨rfl, getElem?_set_of_getElem? h _⟩⟩, ht.backend,
    ht.issued, ht.others_set release _⟩

end TakenBy

theorem cancelled_step
    (hc : ∀ (j : Nat) (c : TeardownCall), t.calls[j]? = some c → c ≠ .idle →
      t.network.tornDown = true) :
    ∀ (j : Nat) (c : TeardownCall), (step release t i).calls[j]? = some c → c ≠ .idle →
      (step release t i).network.tornDown = true := by
  intro j c hj hne
  cases h : t.calls[i]? with
  | none => rw [step_none release h] at hj ⊢; exact hc j c hj hne
  | some c' =>
    have hbegun : c' ≠ .idle → t.network.tornDown = true := hc i c' h
    cases c' with
    | idle => rw [step_idle release h]
    | taking => rw [step_taking release h]; exact hbegun nofun
    | releasing todo errors =>
      cases todo with
      | nil => rw [step_report release h]; exact hbegun nofun
      | cons x todo => rw [step_release release h]; exact hbegun nofun
    | finished errors => rw [step_finished release h] at hj ⊢; exact hc j c hj hne

theorem Once.step (ho : Once release r₀ b₀ n t) (i : Nat) :
    Once release r₀ b₀ n (Teardowns.step release t i) := by
  refine ⟨(length_step release).trans ho.length, cancelled_step release ho.cancelled, ?_⟩
  cases h : t.calls[i]? with
  | none => rw [step_none release h]; exact ho.phase
  | some c =>
    cases c with
    | idle =>
      rcases ho.phase with hu | ⟨k, done, ht⟩
      · exact Or.inl (hu.cancel release h)
      · exact Or.inr ⟨k, done, ht.cancel release h⟩
    | taking =>
      rcases ho.phase with hu | ⟨k, done, ht⟩
      · rcases hu.take release h with hu' | ht'
        · exact Or.inl hu'
        · exact Or.inr ⟨i, [], ht'⟩
      · exact Or.inr ⟨k, done, ht.take release h⟩
    | releasing todo errors =>
      rcases ho.phase with hu | ⟨k, done, ht⟩
      · exact (hu.not_releasing h).elim
      · obtain rfl := ht.taker_of_releasing release h
        cases todo with
        | nil => exact Or.inr ⟨i, done, ht.report release h⟩
        | cons x todo => exact Or.inr ⟨i, done ++ [x], ht.next release h⟩
    | finished errors => rw [step_finished release h]; exact ho.phase

theorem Once.run (ho : Once release r₀ b₀ n t) (schedule : List Nat) :
    Once release r₀ b₀ n (Teardowns.run release t schedule) := by
  induction schedule generalizing t with
  | nil => exact ho
  | cons i schedule ih => exact ih (ho.step release i)

end Keep

/-! ### What the invariant gives -/

section Consequences

variable {r₀ : Resources} {b₀ : β} {n : Nat} {t : Teardowns β}

theorem Once.issued_prefix (ho : Once release r₀ b₀ n t) :
    ∃ i done, t.issued = done.map (i, ·) ∧ done <+: r₀.releases ∧
      ∀ j errors, j ≠ i → t.calls[j]? = some (.finished errors) → errors = [] := by
  rcases ho.phase with hu | ⟨k, done, ht⟩
  · refine ⟨0, [], hu.issued, List.nil_prefix, fun j errors _ hj => ?_⟩
    rcases hu.calls j _ hj with hc | hc | ⟨hc, -⟩ <;> cases hc
    rfl
  · obtain ⟨todo, hsplit, -⟩ := ht.split
    refine ⟨k, done, ht.issued, ⟨todo, hsplit.symm⟩, fun j errors hjk hj => ?_⟩
    rcases ht.others j _ hjk hj with hc | hc | hc <;> cases hc
    rfl

theorem Once.of_allFinished (ho : Once release r₀ b₀ n t) (hn : 0 < n)
    (hdone : t.allFinished = true) :
    ∃ i < n, t.issued = r₀.releases.map (i, ·) ∧
      t.calls[i]? = some (.finished (releaseAll release b₀ r₀.releases).1) ∧
      t.backend = (releaseAll release b₀ r₀.releases).2 ∧ t.network.resources = {} := by
  have hfin : ∀ (j : Nat) (c : TeardownCall), t.calls[j]? = some c → c.isFinished = true :=
    fun j c hj => List.all_eq_true.mp hdone c (List.mem_of_getElem? hj)
  rcases ho.phase with hu | ⟨k, done, ht⟩
  · have h0 : 0 < t.calls.length := ho.length ▸ hn
    obtain ⟨c, hc⟩ : ∃ c, t.calls[0]? = some c := ⟨_, List.getElem?_eq_getElem h0⟩
    rcases hu.calls 0 c hc with rfl | rfl | ⟨rfl, rfl⟩
    · cases hfin 0 _ hc
    · cases hfin 0 _ hc
    · exact ⟨0, hn, hu.issued, hc, hu.backend, hu.record⟩
  · obtain ⟨todo, hsplit, hk⟩ := ht.split
    have hlt : k < n := by
      rcases hk with hk | ⟨-, hk⟩ <;> exact ho.length ▸ (List.getElem?_eq_some_iff.mp hk).1
    rcases hk with hk | ⟨rfl, hk⟩
    · cases hfin k _ hk
    · rw [List.append_nil] at hsplit
      rw [hsplit]
      exact ⟨k, hlt, ht.issued, hk, ht.backend, ht.record⟩

end Consequences


/-! ### Every schedule can be finished -/

section Progress

variable {r₀ : Resources} {b₀ : β} {n : Nat} {t : Teardowns β} {i : Nat}

def work (size : Nat) (t : Teardowns β) : Nat :=
  (t.calls.map (TeardownCall.turnsLeft size)).foldr (· + ·) 0

theorem sum_map_set (f : TeardownCall → Nat) {l : List TeardownCall} {c : TeardownCall}
    (h : l[i]? = some c) (a : TeardownCall) :
    ((l.set i a).map f).foldr (· + ·) 0 + f c = (l.map f).foldr (· + ·) 0 + f a := by
  induction l generalizing i with
  | nil => cases h
  | cons d l ih =>
    cases i with
    | zero =>
      cases h
      simp only [List.set_cons_zero, List.map_cons, List.foldr_cons]
      omega
    | succ i =>
      have := ih (by simpa using h)
      simp only [List.set_cons_succ, List.map_cons, List.foldr_cons]
      omega

theorem Once.record_size (ho : Once release r₀ b₀ n t) :
    t.network.resources.releases.length ≤ r₀.releases.length := by
  rcases ho.phase with hu | ⟨k, done, ht⟩
  · exact Nat.le_of_eq (by rw [hu.record])
  · rw [ht.record]
    exact Nat.zero_le _

theorem work_step_lt (ho : Once release r₀ b₀ n t) {c : TeardownCall} (h : t.calls[i]? = some c)
    (hc : c.isFinished = false) :
    work r₀.releases.length (step release t i) < work r₀.releases.length t := by
  suffices hnext : ∃ a, (step release t i).calls = t.calls.set i a ∧
      a.turnsLeft r₀.releases.length < c.turnsLeft r₀.releases.length by
    obtain ⟨a, hcalls, hlt⟩ := hnext
    have hsum := sum_map_set (TeardownCall.turnsLeft r₀.releases.length) h a
    rw [work, work, hcalls]
    omega
  cases c with
  | idle => exact ⟨.taking, by rw [step_idle release h], by simp [TeardownCall.turnsLeft]⟩
  | taking =>
    refine ⟨_, by rw [step_taking release h], ?_⟩
    have hsize := ho.record_size
    split <;> simp only [TeardownCall.turnsLeft] <;> omega
  | releasing todo errors =>
    cases todo with
    | nil => exact ⟨_, by rw [step_report release h], by simp [TeardownCall.turnsLeft]⟩
    | cons x todo => exact ⟨_, by rw [step_release release h], by simp [TeardownCall.turnsLeft]⟩
  | finished errors => cases hc

theorem run_cons (t : Teardowns β) (i : Nat) (schedule : List Nat) :
    run release t (i :: schedule) = run release (step release t i) schedule :=
  rfl

theorem Once.finishes : ∀ (w : Nat) (t : Teardowns β), Once release r₀ b₀ n t →
    work r₀.releases.length t = w →
      ∃ schedule, (Teardowns.run release t schedule).allFinished = true := by
  intro w
  induction w using Nat.strongRecOn with
  | ind w ih =>
    intro t ho hw
    by_cases hall : t.allFinished = true
    · exact ⟨[], hall⟩
    · obtain ⟨c, hmem, hc⟩ : ∃ c ∈ t.calls, c.isFinished = false := by
        simpa [allFinished] using hall
      obtain ⟨i, hi⟩ := List.mem_iff_getElem?.mp hmem
      obtain ⟨schedule, hs⟩ :=
        ih _ (hw ▸ work_step_lt release ho hi hc) _ (ho.step release i) rfl
      exact ⟨i :: schedule, hs⟩

end Progress

/-! ### One call alone -/

section Alone

theorem run_finished_alone {t : Teardowns β} {errors : List String}
    (ht : t.calls = [.finished errors]) (k : Nat) : run release t (List.replicate k 0) = t := by
  induction k with
  | zero => rfl
  | succ k ih =>
    rw [List.replicate_succ, run_cons, step_finished release (by rw [ht]; rfl), ih]

theorem run_releasing_alone (todo : List Release) :
    ∀ (errors : List String) (t : Teardowns β), t.calls = [.releasing todo errors] →
      run release t (List.replicate (todo.length + 1) 0) =
        { t with backend := (todo.foldl (releaseNext release) (errors, t.backend)).2,
                 calls := [.finished (todo.foldl (releaseNext release) (errors, t.backend)).1],
                 issued := t.issued ++ todo.map (0, ·) } := by
  induction todo with
  | nil =>
    intro errors t ht
    rw [List.length_nil, List.replicate_succ, run_cons, step_report release (by rw [ht]; rfl), ht]
    simp only [List.replicate_zero, List.foldl_nil, List.map_nil, List.append_nil]
    rfl
  | cons x todo ih =>
    intro errors t ht
    rw [List.length_cons, List.replicate_succ, run_cons, step_release release (by rw [ht]; rfl),
      ih _ _ (by rw [ht]; rfl)]
    simp only [List.foldl_cons, List.map_cons, List.append_assoc, List.cons_append, List.nil_append]
    rfl

theorem alone_eq (live : LiveNetwork) (b : β) :
    alone release live b =
      { network := { live with resources := {}, tornDown := true },
        backend := (releaseAll release b live.resources.releases).2,
        calls := [.finished (releaseAll release b live.resources.releases).1],
        issued := live.resources.releases.map (0, ·) } := by
  obtain ⟨topology, plan, resources, tornDown⟩ := live
  rw [alone, List.replicate_succ, List.replicate_succ, run_cons, step_idle release rfl, run_cons,
    step_taking release rfl]
  split
  · rename_i hr
    obtain rfl := (Resources.isEmpty_iff resources).mp hr
    rw [run_finished_alone release rfl]
    rfl
  · rw [run_releasing_alone release _ [] _ rfl]
    rfl

theorem alone_memory (live : LiveNetwork) (b : MemoryBackend) :
    alone MemoryBackend.release live b =
      { network := (live.teardown b).1, backend := (live.teardown b).2, calls := [.finished []],
        issued := live.resources.releases.map (0, ·) } := by
  rw [alone_eq, Resources.releaseAll_memory]
  rfl

end Alone

end Teardowns

theorem Session.exec_of_tornDown {s : Session} (h : s.network.tornDown = true) (host : String)
    (argv : List String) : s.exec host argv = .error .cancelled := by
  rw [Session.exec, if_pos h]
  rfl

/-- What holds in a state that a schedule of teardown calls reaches. -/
structure TeardownOutcome {β : Type} (release : β → Release → Except Error Unit × β)
    (live : LiveNetwork) (b : β) (t : Teardowns β) : Prop where
  /-- A call that has begun has cancelled the network, so commands through it are refused. -/
  cancelled : ∀ (j : Nat) (c : TeardownCall), t.calls[j]? = some c → c ≠ .idle →
    t.network.tornDown = true ∧
      ∀ (mb : MemoryBackend) (tools : ToolConfig) (host : String) (argv : List String),
        Session.exec ⟨t.network, mb, tools⟩ host argv = .error .cancelled
  /-- The releases so far are the record's first ones in order, all made by one call. -/
  once : ∃ i done, t.issued = done.map (i, ·) ∧ done <+: live.resources.releases ∧
    ∀ j errors, j ≠ i → t.calls[j]? = some (.finished errors) → errors = []
  /-- Once all have finished, one call has made every release and reports their errors. -/
  complete : t.allFinished = true → 0 < t.calls.length → ∃ i < t.calls.length,
    t.issued = live.resources.releases.map (i, ·) ∧
    t.calls[i]? = some (.finished (releaseAll release b live.resources.releases).1) ∧
    t.backend = (releaseAll release b live.resources.releases).2 ∧ t.network.resources = {}

theorem Teardowns.Once.outcome {β : Type} {release : β → Release → Except Error Unit × β}
    {live : LiveNetwork} {b : β} {n : Nat} {t : Teardowns β}
    (ho : Teardowns.Once release live.resources b n t) : TeardownOutcome release live b t where
  cancelled j c hj hc :=
    ⟨ho.cancelled j c hj hc, fun _ _ host argv =>
      Session.exec_of_tornDown (ho.cancelled j c hj hc) host argv⟩
  once := ho.issued_prefix release
  complete hdone hlen := by
    obtain ⟨i, hi, h⟩ := ho.of_allFinished release (ho.length ▸ hlen) hdone
    exact ⟨i, by rw [ho.length]; exact hi, h⟩

/-- Concurrent teardowns release each object at most once, and all can finish. -/
theorem teardown_releases_each_object_once {β : Type}
    (release : β → Release → Except Error Unit × β) (live : LiveNetwork) (b : β) (n : Nat) :
    (∃ schedule, ((Teardowns.start live b n).run release schedule).allFinished = true) ∧
    (∀ schedule,
      TeardownOutcome release live b ((Teardowns.start live b n).run release schedule)) ∧
    ∀ mb : MemoryBackend, Teardowns.alone MemoryBackend.release live mb =
      { network := (live.teardown mb).1, backend := (live.teardown mb).2,
        calls := [.finished []], issued := live.resources.releases.map (0, ·) } :=
  ⟨Teardowns.Once.finishes release _ _ (Teardowns.once_start release live b n) rfl,
    fun schedule => ((Teardowns.once_start release live b n).run release schedule).outcome,
    Teardowns.alone_memory live⟩

end MudTestbed
