/-!
# Invariants of stateful steps

The testbed's steps are programs over a state that may fail: provisioning runs in
`ExceptT Error (StateM Bench)`, a controller call in `ExceptT Error (StateM (Testbed σ))`.
A failed step keeps the state it reached, so what a run leaves behind is decided by every
step it took, the failing one included.

`Preserves P x` says that running `x` from a state satisfying `P` ends in one satisfying
`P`, whatever `x` answers. It is closed under `pure`, `bind`, `throw` and list traversals,
so an invariant of a whole run follows from one lemma per primitive step. The `StepRun`
lemmas evaluate programs of `ExceptT ε (StateM σ)` one step at a time, and the `CutRun`
lemmas those that a deadline may cut off.
-/

namespace MudTestbed

set_option autoImplicit false

def Preserves {σ α : Type} (P : σ → Prop) (x : StateM σ α) : Prop :=
  ∀ s, P s → P (x.run s).2

namespace StepRun

variable {ε σ α β : Type}

theorem bind_eq (x : ExceptT ε (StateM σ) α) (f : α → ExceptT ε (StateM σ) β) (s : σ) :
    (x >>= f).run.run s = match x.run.run s with
      | (.ok a, s') => (f a).run.run s'
      | (.error e, s') => (.error e, s') := by
  simp only [ExceptT.run_bind, StateT.run_bind]
  rcases x.run.run s with ⟨_ | _, _⟩ <;> rfl

theorem pure_eq (a : α) (s : σ) : (pure a : ExceptT ε (StateM σ) α).run.run s = (.ok a, s) :=
  rfl

theorem throw_eq (e : ε) (s : σ) : (throw e : ExceptT ε (StateM σ) α).run.run s = (.error e, s) :=
  rfl

theorem get_eq (s : σ) : (get : ExceptT ε (StateM σ) σ).run.run s = (.ok s, s) := rfl

theorem set_eq (s s' : σ) : (set s' : ExceptT ε (StateM σ) PUnit).run.run s = (.ok ⟨⟩, s') := rfl

theorem modify_eq (f : σ → σ) (s : σ) :
    (modify f : ExceptT ε (StateM σ) PUnit).run.run s = (.ok ⟨⟩, f s) := rfl

theorem lift_eq (x : StateM σ α) (s : σ) :
    (ExceptT.lift x : ExceptT ε (StateM σ) α).run.run s = (.ok (x.run s).1, (x.run s).2) := rfl

theorem liftM_eq (x : StateM σ α) (s : σ) :
    (liftM x : ExceptT ε (StateM σ) α).run.run s = (.ok (x.run s).1, (x.run s).2) := rfl

theorem mk_eq (x : StateM σ (Except ε α)) (s : σ) : (ExceptT.mk x).run.run s = x.run s := rfl

theorem forM_cons_eq (a : α) (as : List α) (f : α → ExceptT ε (StateM σ) PUnit) (s : σ) :
    ((a :: as).forM f).run.run s = match (f a).run.run s with
      | (.ok _, s') => (as.forM f).run.run s'
      | (.error e, s') => (.error e, s') := by
  show (f a >>= fun _ => as.forM f).run.run s = _
  rw [bind_eq]
  rcases (f a).run.run s with ⟨_ | _, _⟩ <;> rfl

end StepRun

/-! ### Programs on a wire that a deadline cuts

A call on such a wire runs in `ExceptT ε (OptionT (StateM σ))`: `none` when the deadline
cut it. The `CutRun` lemmas evaluate these programs one step at a time, as the
`StepRun` lemmas do without a deadline. -/

namespace CutRun

variable {ε τ α β : Type}

theorem bind_eq (x : ExceptT ε (OptionT (StateM τ)) α) (f : α → ExceptT ε (OptionT (StateM τ)) β)
    (s : τ) :
    (x >>= f).run.run.run s = match x.run.run.run s with
      | (some (.ok a), s') => (f a).run.run.run s'
      | (some (.error e), s') => (some (.error e), s')
      | (none, s') => (none, s') := by
  simp only [ExceptT.run_bind, OptionT.run_bind, Option.elimM, StateT.run_bind]
  rcases x.run.run.run s with ⟨_ | _ | _, _⟩ <;> rfl

theorem mk_pure_eq (r : Except ε α) (s : τ) :
    (ExceptT.mk (pure r) : ExceptT ε (OptionT (StateM τ)) α).run.run.run s = (some r, s) := rfl

theorem lift_eq (x : OptionT (StateM τ) α) (s : τ) :
    (ExceptT.lift x : ExceptT ε (OptionT (StateM τ)) α).run.run.run s =
      ((x.run.run s).1.map .ok, (x.run.run s).2) := by
  simp only [ExceptT.lift, ExceptT.run_mk, OptionT.run_map, StateT.run_map]
  rcases x.run.run s with ⟨_ | _, _⟩ <;> rfl

theorem optionT_bind_eq (x : OptionT (StateM τ) α) (f : α → OptionT (StateM τ) β) (s : τ) :
    (x >>= f).run.run s = match x.run.run s with
      | (some a, s') => (f a).run.run s'
      | (none, s') => (none, s') := by
  simp only [OptionT.run_bind, Option.elimM, StateT.run_bind]
  rcases x.run.run s with ⟨_ | _, _⟩ <;> rfl

end CutRun

namespace Preserves

variable {ε σ α β : Type} {P : σ → Prop}

theorem of_pure (a : α) : Preserves P (pure a : StateM σ α) := fun _ h => h

theorem bind {x : StateM σ α} {f : α → StateM σ β} (hx : Preserves P x)
    (hf : ∀ a, Preserves P (f a)) : Preserves P (x >>= f) :=
  fun s hs => hf _ _ (hx s hs)

theorem of_get : Preserves P (get : StateM σ σ) := fun _ h => h

theorem of_modify {f : σ → σ} (h : ∀ s, P s → P (f s)) : Preserves P (modify f) := h

theorem of_modifyGet {γ : Type} {f : σ → γ × σ} (h : ∀ s, P s → P (f s).2) :
    Preserves P (modifyGet f) := h

/-! Steps that may fail: `x.run` is the program over the state alone. -/

theorem except_pure (a : α) : Preserves P (pure a : ExceptT ε (StateM σ) α).run :=
  fun _ h => h

theorem except_throw (e : ε) : Preserves P (throw e : ExceptT ε (StateM σ) α).run :=
  fun _ h => h

theorem except_get : Preserves P (get : ExceptT ε (StateM σ) σ).run := fun _ h => h

theorem except_modify {f : σ → σ} (h : ∀ s, P s → P (f s)) :
    Preserves P (modify f : ExceptT ε (StateM σ) PUnit).run := h

theorem except_throw_bind (e : ε) (f : α → ExceptT ε (StateM σ) β) :
    Preserves P (throw e >>= f).run :=
  fun _ h => h

theorem except_mk {x : StateM σ (Except ε α)} (hx : Preserves P x) :
    Preserves P (ExceptT.mk x).run := hx

theorem except_lift {x : StateM σ α} (hx : Preserves P x) :
    Preserves P (ExceptT.lift x : ExceptT ε (StateM σ) α).run := hx

theorem except_bind {x : ExceptT ε (StateM σ) α} {f : α → ExceptT ε (StateM σ) β}
    (hx : Preserves P x.run) (hf : ∀ a, Preserves P (f a).run) : Preserves P (x >>= f).run := by
  intro s hs
  have hmid := hx s hs
  show P ((x >>= f).run.run s).2
  rw [StepRun.bind_eq]
  rcases hres : x.run.run s with ⟨_ | a, s'⟩
  · rw [hres] at hmid
    exact hmid
  · rw [hres] at hmid
    exact hf a s' hmid

theorem except_forM {xs : List α} {f : α → ExceptT ε (StateM σ) PUnit}
    (h : ∀ a ∈ xs, Preserves P (f a).run) : Preserves P (xs.forM f).run := by
  induction xs with
  | nil => exact fun _ h => h
  | cons a as ih =>
    show Preserves P (f a >>= fun _ => as.forM f).run
    exact except_bind (h a List.mem_cons_self)
      fun _ => ih fun b hb => h b (List.mem_cons_of_mem a hb)

/-! Steps that a deadline may cut off: `x.run.run` is the program over the state alone. -/

theorem option_lift {x : StateM σ α} (hx : Preserves P x) : Preserves P (OptionT.lift x).run :=
  fun s hs => hx s hs

theorem option_bind {x : OptionT (StateM σ) α} {f : α → OptionT (StateM σ) β}
    (hx : Preserves P x.run) (hf : ∀ a, Preserves P (f a).run) : Preserves P (x >>= f).run := by
  intro s hs
  have hmid := hx s hs
  show P ((x >>= f).run.run s).2
  rw [CutRun.optionT_bind_eq]
  rcases hres : x.run.run s with ⟨_ | a, s'⟩ <;> rw [hres] at hmid
  · exact hmid
  · exact hf a s' hmid

theorem cut_mk_pure (r : Except ε α) :
    Preserves P (ExceptT.mk (pure r) : ExceptT ε (OptionT (StateM σ)) α).run.run :=
  fun _ h => h

theorem cut_lift {x : OptionT (StateM σ) α} (hx : Preserves P x.run) :
    Preserves P (ExceptT.lift x : ExceptT ε (OptionT (StateM σ)) α).run.run := by
  intro s hs
  show P ((ExceptT.lift x : ExceptT ε (OptionT (StateM σ)) α).run.run.run s).2
  rw [CutRun.lift_eq]
  exact hx s hs

theorem cut_bind {x : ExceptT ε (OptionT (StateM σ)) α} {f : α → ExceptT ε (OptionT (StateM σ)) β}
    (hx : Preserves P x.run.run) (hf : ∀ a, Preserves P (f a).run.run) :
    Preserves P (x >>= f).run.run := by
  intro s hs
  have hmid := hx s hs
  show P ((x >>= f).run.run.run s).2
  rw [CutRun.bind_eq]
  rcases hres : x.run.run.run s with ⟨_ | _ | a, s'⟩ <;> rw [hres] at hmid
  · exact hmid
  · exact hmid
  · exact hf a s' hmid

end Preserves

end MudTestbed
