import MudTestbed.Proofs.Controller.ScriptedRegister

/-!
# Concurrent quarantine calls are serialized by the lock

Calls made at once through one client (`Calls`) update a register of quarantined devices as
if they were made one after another, in the order they took the lock.

A call's program played on the testbed's wire is the call itself
(`ControllerClient.perform_plays`), so the holder of the lock runs its program one node at a
time, exactly as the program would run alone, while every other call waits or has finished.
The invariant `Calls.Serialized` says so: at most one call holds the lock; the holder's rest,
run alone from the current controller, succeeds and leaves the register as the calls that
took the lock so far, applied in that order; with no holder the register already is so.
Every step keeps it (`Calls.step_serialized`), so every schedule does
(`Calls.run_serialized`). Once every call has finished, each took the lock exactly once
(`Calls.Serialized.order_perm`) and the register is what the calls make in that order
(`Calls.Serialized.register_of_finished`). Progress needs no invariant: with the lock free,
some schedule finishes every call (`Calls.finishes`).
-/

namespace MudTestbed

set_option autoImplicit false

namespace WireProgram

variable {σ α : Type} (ctl : ControllerBehavior σ) (tb : Testbed σ)

theorem interpret_done_run (a : α) : (interpret (Testbed.wire ctl) (done a)).run tb = (a, tb) :=
  rfl

theorem interpret_exchange_run (r : Request) (k : Reply → WireProgram α) :
    (interpret (Testbed.wire ctl) (exchange r k)).run tb =
      (interpret (Testbed.wire ctl) (k (ctl.answer tb.controller r).1)).run
        (tb.answered ctl r (ctl.answer tb.controller r).2) :=
  rfl

theorem interpret_now_run (k : Nat → WireProgram α) :
    (interpret (Testbed.wire ctl) (now k)).run tb = (interpret (Testbed.wire ctl) (k tb.clock)).run tb :=
  rfl

theorem interpret_sleepUntil_run (u : Nat) (k : WireProgram α) :
    (interpret (Testbed.wire ctl) (sleepUntil u k)).run tb =
      (interpret (Testbed.wire ctl) k).run { tb with clock := max tb.clock u } :=
  rfl

end WireProgram

def CallState.waits : CallState → Bool
  | .waiting _ => true
  | _ => false

namespace Calls

variable {σ : Type} (ctl : ControllerBehavior σ) {t : Calls σ} {i : Nat}

def testbed (t : Calls σ) : Testbed σ := { controller := t.controller, clock := t.clock }

def acquired (calls : List QuarantineCall) (t : Calls σ) : List QuarantineCall :=
  t.order.filterMap (calls[·]?)

theorem locked_iff :
    t.locked = true ↔ ∃ (j : Nat) (rest : WireProgram (Except Error Unit)),
      t.states[j]? = some (.holding rest) := by
  rw [locked, List.any_eq_true]
  constructor
  · rintro ⟨s, hs, hholds⟩
    obtain ⟨j, hj⟩ := List.mem_iff_getElem?.mp hs
    cases s with
    | holding rest => exact ⟨j, rest, hj⟩
    | waiting _ => cases hholds
    | finished _ => cases hholds
  · rintro ⟨j, rest, hj⟩
    exact ⟨_, List.mem_of_getElem? hj, rfl⟩

theorem locked_eq_false_iff :
    t.locked = false ↔ ∀ (j : Nat) (rest : WireProgram (Except Error Unit)),
      t.states[j]? ≠ some (.holding rest) := by
  rw [Bool.eq_false_iff, Ne, locked_iff]
  constructor
  · intro h j rest hj
    exact h ⟨j, rest, hj⟩
  · rintro h ⟨j, rest, hj⟩
    exact h j rest hj

theorem allFinished_iff :
    t.allFinished = true ↔ ∀ (j : Nat) (s : CallState), t.states[j]? = some s → s.isFinished = true := by
  rw [allFinished, List.all_eq_true]
  constructor
  · intro h j s hj
    exact h s (List.mem_of_getElem? hj)
  · intro h s hs
    obtain ⟨j, hj⟩ := List.mem_iff_getElem?.mp hs
    exact h j s hj

section Step

variable {body : WireProgram (Except Error Unit)}

theorem step_waiting (h : t.states[i]? = some (.waiting body)) :
    step ctl t i =
      if t.locked then t else { t with states := t.states.set i (.holding body), order := t.order ++ [i] } := by
  rw [step, h]

theorem step_done {r : Except Error Unit} (h : t.states[i]? = some (.holding (.done r))) :
    step ctl t i = { t with states := t.states.set i (.finished r) } := by
  rw [step, h]

theorem step_exchange {r : Request} {k : Reply → WireProgram (Except Error Unit)}
    (h : t.states[i]? = some (.holding (.exchange r k))) :
    step ctl t i = { t with states := t.states.set i (.holding (k (ctl.answer t.controller r).1)),
                            controller := (ctl.answer t.controller r).2,
                            clock := t.clock + ctl.delay t.controller r } := by
  rw [step, h]

theorem step_now {k : Nat → WireProgram (Except Error Unit)}
    (h : t.states[i]? = some (.holding (.now k))) :
    step ctl t i = { t with states := t.states.set i (.holding (k t.clock)) } := by
  rw [step, h]

theorem step_sleepUntil {u : Nat} {k : WireProgram (Except Error Unit)}
    (h : t.states[i]? = some (.holding (.sleepUntil u k))) :
    step ctl t i = { t with states := t.states.set i (.holding k), clock := max t.clock u } := by
  rw [step, h]

theorem step_of_idle (h : ∀ s : CallState, t.states[i]? = some s → s.isFinished = true) :
    step ctl t i = t := by
  cases hi : t.states[i]? with
  | none => rw [step, hi]
  | some s =>
    cases s with
    | finished r => rw [step, hi]
    | waiting _ => cases h _ hi
    | holding _ => cases h _ hi

end Step

theorem getElem?_set_eq_some {l : List CallState} {j : Nat} {a s : CallState}
    (h : (l.set i a)[j]? = some s) : (j = i ∧ s = a) ∨ (j ≠ i ∧ l[j]? = some s) := by
  rw [List.getElem?_set] at h
  by_cases hij : i = j
  · subst hij
    rw [if_pos rfl] at h
    split at h
    · exact Or.inl ⟨rfl, (Option.some.inj h).symm⟩
    · cases h
  · rw [if_neg hij] at h
    exact Or.inr ⟨Ne.symm hij, h⟩

theorem lt_length_of_getElem? {l : List CallState} {s : CallState} (h : l[i]? = some s) :
    i < l.length :=
  (List.getElem?_eq_some_iff.mp h).1

section Serialized

variable (cfg : ControllerConfig) (Inv : σ → Prop) (calls : List QuarantineCall)
  (macs₀ : List MacAddr)

/-- What the state of `call` keeps while the lock's holders so far make the register `macs`. -/
def CallKeeps (call : QuarantineCall) (macs : List MacAddr) (tb : Testbed σ) : CallState → Prop
  | .waiting body => body = ((ControllerClient.programs cfg).perform call).run
  | .holding rest => ∃ tb' : Testbed σ,
      (WireProgram.interpret (Testbed.wire ctl) rest).run tb = (.ok (), tb') ∧ Inv tb'.controller ∧
        ctl.quarantined tb'.controller = macs.map MacAddr.toText
  | .finished result => result = .ok ()

/-- The invariant of calls made at once on a register, see the module comment. -/
structure Serialized (t : Calls σ) : Prop where
  length_eq : t.states.length = calls.length
  order_nodup : t.order.Nodup
  mem_order : ∀ j, j ∈ t.order ↔ ∃ s, t.states[j]? = some s ∧ s.waits = false
  keeps : ∀ (j : Nat) s call, t.states[j]? = some s → calls[j]? = some call →
    CallKeeps ctl cfg Inv call (QuarantineCall.applyAll (t.acquired calls) macs₀) t.testbed s
  single : ∀ (j j' : Nat) (rest rest' : WireProgram (Except Error Unit)),
    t.states[j]? = some (.holding rest) → t.states[j']? = some (.holding rest') → j = j'
  idle : t.locked = false → Inv t.controller ∧
    ctl.quarantined t.controller =
      (QuarantineCall.applyAll (t.acquired calls) macs₀).map MacAddr.toText

variable {ctl cfg Inv calls macs₀}

theorem CallKeeps.of_not_holds {call : QuarantineCall} {macs macs' : List MacAddr}
    {tb tb' : Testbed σ} {s : CallState} (hs : s.holds = false)
    (h : CallKeeps ctl cfg Inv call macs tb s) : CallKeeps ctl cfg Inv call macs' tb' s := by
  cases s with
  | waiting body => exact h
  | holding rest => cases hs
  | finished r => exact h

theorem Serialized.holds_eq_false (hS : Serialized ctl cfg Inv calls macs₀ t)
    {rest : WireProgram (Except Error Unit)} (hi : t.states[i]? = some (.holding rest)) {j : Nat}
    {s : CallState} (hji : j ≠ i) (hj : t.states[j]? = some s) : s.holds = false := by
  cases s with
  | holding r => exact absurd (hS.single j i r rest hj hi) hji
  | waiting _ => rfl
  | finished _ => rfl

theorem Serialized.call_of_state (hS : Serialized ctl cfg Inv calls macs₀ t) {s : CallState}
    (hi : t.states[i]? = some s) : ∃ call, calls[i]? = some call := by
  have hlen : i < calls.length := hS.length_eq ▸ lt_length_of_getElem? hi
  exact ⟨calls[i], List.getElem?_eq_getElem hlen⟩

theorem Serialized.replace_holder (hS : Serialized ctl cfg Inv calls macs₀ t)
    {rest : WireProgram (Except Error Unit)} (hi : t.states[i]? = some (.holding rest))
    {s' : CallState} (hs' : s'.waits = false) {controller : σ} {clock : Nat}
    (hkeeps : ∀ call, calls[i]? = some call → CallKeeps ctl cfg Inv call
      (QuarantineCall.applyAll (t.acquired calls) macs₀) { controller := controller, clock := clock } s')
    (hidle : (⟨t.states.set i s', controller, clock, t.order⟩ : Calls σ).locked = false →
      Inv controller ∧ ctl.quarantined controller =
        (QuarantineCall.applyAll (t.acquired calls) macs₀).map MacAddr.toText) :
    Serialized ctl cfg Inv calls macs₀ ⟨t.states.set i s', controller, clock, t.order⟩ := by
  have hlen := lt_length_of_getElem? hi
  refine ⟨by rw [List.length_set, hS.length_eq], hS.order_nodup, ?_, ?_, ?_, hidle⟩
  · intro j
    by_cases hji : j = i
    · subst hji
      rw [List.getElem?_set_self hlen, hS.mem_order]
      exact ⟨fun _ => ⟨_, rfl, hs'⟩, fun _ => ⟨_, hi, rfl⟩⟩
    · rw [List.getElem?_set_ne (Ne.symm hji), hS.mem_order]
  · intro j s call hj hcall
    rcases getElem?_set_eq_some hj with ⟨rfl, rfl⟩ | ⟨hji, hj⟩
    · exact hkeeps call hcall
    · exact (hS.keeps j s call hj hcall).of_not_holds (hS.holds_eq_false hi hji hj)
  · have hheld : ∀ (j : Nat) (r : WireProgram (Except Error Unit)),
        (t.states.set i s')[j]? = some (.holding r) → j = i := by
      intro j r hj
      rcases getElem?_set_eq_some hj with ⟨h, -⟩ | ⟨-, h⟩
      · exact h
      · exact hS.single j i r rest h hi
    intro j j' r r' hj hj'
    rw [hheld j r hj, hheld j' r' hj']

theorem Serialized.move (hS : Serialized ctl cfg Inv calls macs₀ t)
    {rest rest' : WireProgram (Except Error Unit)} (hi : t.states[i]? = some (.holding rest))
    {controller : σ} {clock : Nat}
    (hrun : (WireProgram.interpret (Testbed.wire ctl) rest).run t.testbed =
      (WireProgram.interpret (Testbed.wire ctl) rest').run { controller := controller, clock := clock }) :
    Serialized ctl cfg Inv calls macs₀ ⟨t.states.set i (.holding rest'), controller, clock, t.order⟩ := by
  refine hS.replace_holder hi rfl (fun call hcall => ?_) fun hlock => ?_
  · obtain ⟨tb', hrest, hinv, hview⟩ := hS.keeps i _ call hi hcall
    exact ⟨tb', hrun ▸ hrest, hinv, hview⟩
  · exact absurd (List.getElem?_set_self (lt_length_of_getElem? hi))
      (locked_eq_false_iff.mp hlock i rest')

theorem Serialized.finish (hS : Serialized ctl cfg Inv calls macs₀ t) {r : Except Error Unit}
    (hi : t.states[i]? = some (.holding (.done r))) :
    Serialized ctl cfg Inv calls macs₀ ⟨t.states.set i (.finished r), t.controller, t.clock, t.order⟩ := by
  obtain ⟨call, hcall⟩ := hS.call_of_state hi
  obtain ⟨tb', hdone, hinv, hview⟩ := hS.keeps i _ call hi hcall
  rw [WireProgram.interpret_done_run, Prod.mk.injEq] at hdone
  obtain ⟨rfl, rfl⟩ := hdone
  refine hS.replace_holder hi rfl (fun _ _ => rfl) fun _ => ⟨hinv, hview⟩

theorem program_keeps (hreg : QuarantineRegister ctl cfg Inv) (call : QuarantineCall)
    {tb : Testbed σ} {macs : List MacAddr} (hinv : Inv tb.controller)
    (hview : ctl.quarantined tb.controller = macs.map MacAddr.toText) :
    CallKeeps ctl cfg Inv call (call.apply macs) tb
      (.holding ((ControllerClient.programs cfg).perform call).run) := by
  obtain ⟨tb', hrun, hinv', hview'⟩ := hreg.perform_run tb call hinv hview
  refine ⟨tb', ?_, hinv', hview'⟩
  rw [ControllerClient.perform_plays (Testbed.wire ctl) cfg call]
  exact hrun

theorem Serialized.acquire (hreg : QuarantineRegister ctl cfg Inv)
    (hS : Serialized ctl cfg Inv calls macs₀ t) {body : WireProgram (Except Error Unit)}
    (hi : t.states[i]? = some (.waiting body)) (hlock : t.locked = false) :
    Serialized ctl cfg Inv calls macs₀
      ⟨t.states.set i (.holding body), t.controller, t.clock, t.order ++ [i]⟩ := by
  have hlen := lt_length_of_getElem? hi
  obtain ⟨call, hcall⟩ := hS.call_of_state hi
  have hbody : body = ((ControllerClient.programs cfg).perform call).run := hS.keeps i _ call hi hcall
  have hfree := locked_eq_false_iff.mp hlock
  have hnew : i ∉ t.order := by
    rw [hS.mem_order]
    rintro ⟨s, hs, hw⟩
    rw [hi, Option.some.injEq] at hs
    subst hs
    cases hw
  have hacquired : acquired calls ⟨t.states.set i (.holding body), t.controller, t.clock, t.order ++ [i]⟩ =
      acquired calls t ++ [call] := by
    simp only [acquired, List.filterMap_append, List.filterMap_cons, List.filterMap_nil, hcall]
  refine ⟨by rw [List.length_set, hS.length_eq], ?_, ?_, ?_, ?_, ?_⟩
  · refine List.nodup_append.mpr ⟨hS.order_nodup, List.nodup_cons.mpr ⟨List.not_mem_nil, List.nodup_nil⟩, ?_⟩
    rintro a ha b hb rfl
    rw [List.mem_singleton] at hb
    exact hnew (hb ▸ ha)
  · intro j
    by_cases hji : j = i
    · subst hji
      rw [List.getElem?_set_self hlen]
      exact ⟨fun _ => ⟨_, rfl, rfl⟩, fun _ => List.mem_append_right _ (List.mem_singleton_self j)⟩
    · rw [List.getElem?_set_ne (Ne.symm hji), List.mem_append, List.mem_singleton, hS.mem_order,
        or_iff_left hji]
  · intro j s call' hj hcall'
    rcases getElem?_set_eq_some hj with ⟨rfl, rfl⟩ | ⟨hji, hj⟩
    · rw [hcall, Option.some.injEq] at hcall'
      subst hcall'
      obtain ⟨hinv, hview⟩ := hS.idle hlock
      rw [hacquired, QuarantineCall.applyAll_append_single, hbody]
      exact program_keeps hreg call hinv hview
    · have hs : s.holds = false := by
        cases s with
        | holding r => exact absurd hj (hfree j r)
        | waiting _ => rfl
        | finished _ => rfl
      exact (hS.keeps j s call' hj hcall').of_not_holds hs
  · intro j j' r r' hj hj'
    have hheld : ∀ (j : Nat) (r : WireProgram (Except Error Unit)),
        (t.states.set i (.holding body))[j]? = some (.holding r) → j = i := by
      intro j r hj
      rcases getElem?_set_eq_some hj with ⟨h, -⟩ | ⟨-, h⟩
      · exact h
      · exact absurd h (hfree j r)
    rw [hheld j r hj, hheld j' r' hj']
  · intro hlock'
    exact absurd (List.getElem?_set_self hlen) (locked_eq_false_iff.mp hlock' i body)

theorem step_serialized (hreg : QuarantineRegister ctl cfg Inv)
    (hS : Serialized ctl cfg Inv calls macs₀ t) (i : Nat) :
    Serialized ctl cfg Inv calls macs₀ (step ctl t i) := by
  cases hi : t.states[i]? with
  | none =>
    rw [step_of_idle ctl fun s h => by rw [hi] at h; cases h]
    exact hS
  | some s =>
    cases s with
    | waiting body =>
      rw [step_waiting ctl hi]
      by_cases hlock : t.locked = true
      · rw [if_pos hlock]
        exact hS
      · rw [if_neg hlock]
        exact hS.acquire hreg hi (Bool.eq_false_iff.mpr hlock)
    | holding rest =>
      cases rest with
      | done r =>
        rw [step_done ctl hi]
        exact hS.finish hi
      | exchange r k =>
        rw [step_exchange ctl hi]
        exact hS.move hi (WireProgram.interpret_exchange_run ctl t.testbed r k)
      | now k =>
        rw [step_now ctl hi]
        exact hS.move hi (WireProgram.interpret_now_run ctl t.testbed k)
      | sleepUntil u k =>
        rw [step_sleepUntil ctl hi]
        exact hS.move hi (WireProgram.interpret_sleepUntil_run ctl t.testbed u k)
    | finished r =>
      rw [step_of_idle ctl fun s h => by rw [hi, Option.some.injEq] at h; subst h; rfl]
      exact hS

theorem run_serialized (hreg : QuarantineRegister ctl cfg Inv)
    (hS : Serialized ctl cfg Inv calls macs₀ t) (schedule : List Nat) :
    Serialized ctl cfg Inv calls macs₀ (run ctl t schedule) := by
  induction schedule generalizing t with
  | nil => exact hS
  | cons i rest ih => exact ih (step_serialized hreg hS i)

theorem start_serialized {s₀ : σ} (hinv : Inv s₀)
    (hview : ctl.quarantined s₀ = macs₀.map MacAddr.toText) (clock : Nat) :
    Serialized ctl cfg Inv calls macs₀ (start cfg calls s₀ clock) := by
  have hstate : ∀ (j : Nat) (s : CallState), (start cfg calls s₀ clock).states[j]? = some s →
      ∃ call, calls[j]? = some call ∧
        s = .waiting ((ControllerClient.programs cfg).perform call).run := by
    intro j s h
    rw [start, List.getElem?_map, Option.map_eq_some_iff] at h
    obtain ⟨call, hcall, rfl⟩ := h
    exact ⟨call, hcall, rfl⟩
  refine ⟨List.length_map _, List.nodup_nil, ?_, ?_, ?_, fun _ => ⟨hinv, hview⟩⟩
  · intro j
    refine ⟨fun h => absurd h List.not_mem_nil, ?_⟩
    rintro ⟨s, hs, hw⟩
    obtain ⟨call, -, rfl⟩ := hstate j s hs
    cases hw
  · intro j s call hs hcall
    obtain ⟨call', hcall', rfl⟩ := hstate j s hs
    rw [hcall, Option.some.injEq] at hcall'
    rw [hcall']
    rfl
  · intro j j' r r' hj
    obtain ⟨_, _, h⟩ := hstate j _ hj
    cases h

end Serialized

section Progress

theorem run_cons (t : Calls σ) (i : Nat) (schedule : List Nat) :
    run ctl t (i :: schedule) = run ctl (step ctl t i) schedule :=
  rfl

theorem run_append (t : Calls σ) (first rest : List Nat) :
    run ctl t (first ++ rest) = run ctl (run ctl t first) rest :=
  List.foldl_append

theorem holder_runs (rest : WireProgram (Except Error Unit)) :
    ∀ t : Calls σ, t.states[i]? = some (.holding rest) → ∃ schedule,
      run ctl t schedule =
        ⟨t.states.set i (.finished ((WireProgram.interpret (Testbed.wire ctl) rest).run t.testbed).1),
          ((WireProgram.interpret (Testbed.wire ctl) rest).run t.testbed).2.controller,
          ((WireProgram.interpret (Testbed.wire ctl) rest).run t.testbed).2.clock, t.order⟩ := by
  induction rest with
  | done r =>
    intro t hi
    exact ⟨[i], by rw [run_cons, step_done ctl hi]; rfl⟩
  | exchange r k ih =>
    intro t hi
    obtain ⟨schedule, hrun⟩ := ih (ctl.answer t.controller r).1
      ⟨t.states.set i (.holding (k (ctl.answer t.controller r).1)), (ctl.answer t.controller r).2,
        t.clock + ctl.delay t.controller r, t.order⟩
      (List.getElem?_set_self (lt_length_of_getElem? hi))
    refine ⟨i :: schedule, ?_⟩
    rw [run_cons, step_exchange ctl hi]
    refine hrun.trans ?_
    rw [List.set_set]
    rfl
  | now k ih =>
    intro t hi
    obtain ⟨schedule, hrun⟩ := ih t.clock
      ⟨t.states.set i (.holding (k t.clock)), t.controller, t.clock, t.order⟩
      (List.getElem?_set_self (lt_length_of_getElem? hi))
    refine ⟨i :: schedule, ?_⟩
    rw [run_cons, step_now ctl hi]
    refine hrun.trans ?_
    rw [List.set_set]
    rfl
  | sleepUntil u k ih =>
    intro t hi
    obtain ⟨schedule, hrun⟩ := ih
      ⟨t.states.set i (.holding k), t.controller, max t.clock u, t.order⟩
      (List.getElem?_set_self (lt_length_of_getElem? hi))
    refine ⟨i :: schedule, ?_⟩
    rw [run_cons, step_sleepUntil ctl hi]
    refine hrun.trans ?_
    rw [List.set_set]
    rfl

theorem finishes : ∀ (n : Nat) (t : Calls σ), t.states.countP CallState.waits = n →
    t.locked = false → ∃ schedule, (run ctl t schedule).allFinished = true := by
  intro n
  induction n with
  | zero =>
    intro t hcount hlock
    refine ⟨[], allFinished_iff.mpr fun j s hj => ?_⟩
    cases s with
    | finished _ => rfl
    | waiting body =>
      have hpos : 0 < t.states.countP CallState.waits :=
        List.countP_pos_iff.mpr ⟨_, List.mem_of_getElem? hj, rfl⟩
      omega
    | holding rest => exact absurd hj (locked_eq_false_iff.mp hlock j rest)
  | succ n ih =>
    intro t hcount hlock
    obtain ⟨s, hs, hw⟩ := List.countP_pos_iff.mp (by omega : 0 < t.states.countP CallState.waits)
    obtain ⟨i, hi⟩ := List.mem_iff_getElem?.mp hs
    cases s with
    | holding _ => cases hw
    | finished _ => cases hw
    | waiting body =>
      have hlen := lt_length_of_getElem? hi
      have hstep : step ctl t i = ⟨t.states.set i (.holding body), t.controller, t.clock, t.order ++ [i]⟩ := by
        rw [step_waiting ctl hi, if_neg (by rw [hlock]; decide)]
      obtain ⟨schedule, hrun⟩ := holder_runs ctl body
        ⟨t.states.set i (.holding body), t.controller, t.clock, t.order ++ [i]⟩
        (List.getElem?_set_self hlen)
      rw [List.set_set] at hrun
      have hcount' : (run ctl (step ctl t i) schedule).states.countP CallState.waits = n := by
        rw [hstep, hrun]
        dsimp only
        rw [List.countP_set hlen, (List.getElem?_eq_some_iff.mp hi).2]
        simp only [CallState.waits, if_true, Bool.false_eq_true, if_false]
        omega
      have hfree : (run ctl (step ctl t i) schedule).locked = false := by
        rw [hstep, hrun, locked_eq_false_iff]
        intro j r hj
        rcases getElem?_set_eq_some hj with ⟨-, h⟩ | ⟨-, h⟩
        · cases h
        · exact locked_eq_false_iff.mp hlock j r h
      obtain ⟨later, hlater⟩ := ih _ hcount' hfree
      refine ⟨i :: schedule ++ later, ?_⟩
      rw [List.cons_append, run_cons, run_append]
      exact hlater

end Progress

section Outcome

variable {ctl} {cfg : ControllerConfig} {Inv : σ → Prop} {calls : List QuarantineCall}
  {macs₀ : List MacAddr}

theorem start_unlocked {s₀ : σ} {clock : Nat} : (start cfg calls s₀ clock).locked = false := by
  rw [locked_eq_false_iff]
  intro j r hj
  rw [start, List.getElem?_map, Option.map_eq_some_iff] at hj
  obtain ⟨_, _, h⟩ := hj
  cases h

theorem mem_of_mem_acquired {call : QuarantineCall} (h : call ∈ t.acquired calls) : call ∈ calls := by
  obtain ⟨j, -, hj⟩ := List.mem_filterMap.mp h
  exact List.mem_of_getElem? hj

theorem mem_acquired (hperm : t.order.Perm (List.range calls.length)) {call : QuarantineCall}
    (h : call ∈ calls) : call ∈ t.acquired calls := by
  obtain ⟨j, hj⟩ := List.mem_iff_getElem?.mp h
  have hlt : j < calls.length := (List.getElem?_eq_some_iff.mp hj).1
  exact List.mem_filterMap.mpr ⟨j, hperm.mem_iff.mpr (List.mem_range.mpr hlt), hj⟩

variable (hS : Serialized ctl cfg Inv calls macs₀ t) (hdone : t.allFinished = true)
include hS hdone

theorem Serialized.finished_ok {j : Nat} {s : CallState} (hj : t.states[j]? = some s) :
    s = .finished (.ok ()) := by
  obtain ⟨call, hcall⟩ := hS.call_of_state hj
  have hkeeps := hS.keeps j s call hj hcall
  cases s with
  | finished r => rw [show r = .ok () from hkeeps]
  | waiting _ => cases allFinished_iff.mp hdone j _ hj
  | holding _ => cases allFinished_iff.mp hdone j _ hj

theorem Serialized.order_perm : t.order.Perm (List.range calls.length) := by
  rw [List.perm_ext_iff_of_nodup hS.order_nodup List.nodup_range]
  intro j
  rw [hS.mem_order, List.mem_range]
  constructor
  · rintro ⟨s, hs, -⟩
    exact hS.length_eq ▸ lt_length_of_getElem? hs
  · intro hj
    have hj' := List.getElem?_eq_getElem (hS.length_eq ▸ hj)
    refine ⟨_, hj', ?_⟩
    rw [hS.finished_ok hdone hj']
    rfl

theorem Serialized.register_of_finished :
    ctl.quarantined t.controller =
      (QuarantineCall.applyAll (t.acquired calls) macs₀).map MacAddr.toText :=
  (hS.idle (locked_eq_false_iff.mpr fun j _ hj => by cases allFinished_iff.mp hdone j _ hj)).2

end Outcome

end Calls

variable {σ : Type} {ctl : ControllerBehavior σ} {cfg : ControllerConfig} {Inv : σ → Prop}

/-- Quarantine updates made at once finish, as if made one after another in lock order. -/
theorem concurrent_quarantine_updates_serialize (hreg : QuarantineRegister ctl cfg Inv)
    (calls : List QuarantineCall) {s₀ : σ} {macs₀ : List MacAddr} (hinv : Inv s₀)
    (hview : ctl.quarantined s₀ = macs₀.map MacAddr.toText) (clock : Nat) :
    (∃ schedule, (Calls.run ctl (Calls.start cfg calls s₀ clock) schedule).allFinished = true) ∧
    ∀ schedule t, t = Calls.run ctl (Calls.start cfg calls s₀ clock) schedule →
      t.allFinished = true →
        (∀ s ∈ t.states, s = .finished (.ok ())) ∧
        t.order.Perm (List.range calls.length) ∧
        ctl.quarantined t.controller =
          (QuarantineCall.applyAll (t.acquired calls) macs₀).map MacAddr.toText ∧
        ((∀ call ∈ calls, ∃ mac, call = .quarantine mac) →
          ∀ mac, .quarantine mac ∈ calls → mac.toText ∈ ctl.quarantined t.controller) := by
  have hstart : Calls.Serialized ctl cfg Inv calls macs₀ (Calls.start cfg calls s₀ clock) :=
    Calls.start_serialized hinv hview clock
  refine ⟨Calls.finishes ctl _ _ rfl Calls.start_unlocked, ?_⟩
  intro schedule t ht hdone
  have hS : Calls.Serialized ctl cfg Inv calls macs₀ t := ht ▸ Calls.run_serialized hreg hstart schedule
  have hperm := hS.order_perm hdone
  have hregister := hS.register_of_finished hdone
  refine ⟨fun s hs => ?_, hperm, hregister, fun hall mac hmac => ?_⟩
  · obtain ⟨j, hj⟩ := List.mem_iff_getElem?.mp hs
    exact hS.finished_ok hdone hj
  · rw [hregister]
    exact List.mem_map_of_mem (QuarantineCall.mem_applyAll_quarantines
      (fun call hcall => hall call (Calls.mem_of_mem_acquired hcall)) mac
      (Or.inr (Calls.mem_acquired hperm hmac)))

/-- Two devices quarantined at once through the scripted controller both stay quarantined. -/
theorem scripted_concurrent_quarantines_keep_both :
    QuarantineRegister ScriptedController.behavior ControllerConfig.default
      ScriptedController.KeepsRegister ∧
    (∃ schedule, (Calls.run ScriptedController.behavior (Calls.start ControllerConfig.default
      [.quarantine (MacAddr.ofNat 1), .quarantine (MacAddr.ofNat 2)] {} 0) schedule).allFinished = true) ∧
    ∀ schedule t, t = Calls.run ScriptedController.behavior (Calls.start ControllerConfig.default
      [.quarantine (MacAddr.ofNat 1), .quarantine (MacAddr.ofNat 2)] {} 0) schedule →
      t.allFinished = true →
        (MacAddr.ofNat 1).toText ∈ ScriptedController.behavior.quarantined t.controller ∧
        (MacAddr.ofNat 2).toText ∈ ScriptedController.behavior.quarantined t.controller := by
  have hinit : ({} : ScriptedController).KeepsRegister := ⟨rfl, rfl, rfl, [], rfl⟩
  have h := concurrent_quarantine_updates_serialize ScriptedController.quarantineRegister
    [.quarantine (MacAddr.ofNat 1), .quarantine (MacAddr.ofNat 2)] hinit
    (show ScriptedController.behavior.quarantined {} = ([] : List MacAddr).map MacAddr.toText
      from rfl) 0
  refine ⟨ScriptedController.quarantineRegister, h.1, fun schedule t ht hdone => ?_⟩
  have hkept := (h.2 schedule t ht hdone).2.2.2 fun call hcall => by
    rcases List.mem_cons.mp hcall with rfl | hcall
    · exact ⟨_, rfl⟩
    · rw [List.mem_singleton.mp hcall]
      exact ⟨_, rfl⟩
  exact ⟨hkept _ List.mem_cons_self, hkept _ (List.mem_cons_of_mem _ List.mem_cons_self)⟩

end MudTestbed
