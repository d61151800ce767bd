import MudTestbed.Controller.Concurrent

/-!
# Playing a call's program on a wire

`WireProgram.interpret` respects `pure` and `>>=`, so a call made on programs and played on
a wire is the same call made on that wire. `WireProgram.Plays` states this for calls that
can fail, with one lemma per way the client's code is put together; each client function
then plays as itself (`ControllerClient.perform_plays`): the program of a call says all the
call does, in the order it does it.
-/

namespace MudTestbed

set_option autoImplicit false

namespace WireProgram

variable {m : Type → Type} [Monad m] (w : Wire m) {α β ε : Type}

@[simp] theorem interpret_done (a : α) : interpret w (done a) = pure a := by
  rw [interpret]

@[simp] theorem interpret_pure (a : α) : interpret w (pure a : WireProgram α) = pure a :=
  interpret_done w a

section Lawful

variable [LawfulMonad m]

theorem interpret_bind (p : WireProgram α) (f : α → WireProgram β) :
    interpret w (p >>= f) = interpret w p >>= fun a => interpret w (f a) := by
  show interpret w (p.bind f) = _
  induction p with
  | done a => rw [WireProgram.bind, interpret, pure_bind]
  | exchange r k ih => simp only [WireProgram.bind, interpret, bind_assoc, ih]
  | now k ih => simp only [WireProgram.bind, interpret, bind_assoc, ih]
  | sleepUntil t k ih => simp only [WireProgram.bind, interpret, bind_assoc, ih]

@[simp] theorem interpret_exchange (r : Request) : interpret w (wire.exchange r) = w.exchange r := by
  simp only [wire, interpret, bind_pure]

@[simp] theorem interpret_now : interpret w wire.now = w.now := by
  simp only [wire, interpret, bind_pure]

@[simp] theorem interpret_sleepUntil (t : Nat) :
    interpret w (wire.sleepUntil t) = w.sleepUntil t := by
  simp only [wire, interpret, bind_pure_unit]

end Lawful

def Plays (x : ExceptT ε WireProgram α) (x' : ExceptT ε m α) : Prop :=
  interpret w x.run = x'.run

namespace Plays

variable {w}

theorem mk {x : WireProgram (Except ε α)} {x' : m (Except ε α)} (h : interpret w x = x') :
    Plays w (ExceptT.mk x) (ExceptT.mk x') := by
  rw [Plays, ExceptT.run_mk, ExceptT.run_mk, h]

theorem pure (a : α) : Plays w (Pure.pure a : ExceptT ε WireProgram α) (Pure.pure a) := by
  rw [Plays, ExceptT.run_pure, ExceptT.run_pure, interpret_pure]

variable [LawfulMonad m]

theorem lift {x : WireProgram α} {x' : m α} (h : interpret w x = x') :
    Plays w (ExceptT.lift x : ExceptT ε WireProgram α) (ExceptT.lift x') := by
  rw [Plays, ExceptT.run_lift, ExceptT.run_lift, ← h]
  show interpret w (x >>= fun a => Pure.pure (Except.ok a)) = _
  rw [interpret_bind, map_eq_pure_bind]
  simp only [interpret_pure]

theorem bind {x : ExceptT ε WireProgram α} {x' : ExceptT ε m α}
    {f : α → ExceptT ε WireProgram β} {f' : α → ExceptT ε m β}
    (hx : Plays w x x') (hf : ∀ a, Plays w (f a) (f' a)) : Plays w (x >>= f) (x' >>= f') := by
  rw [Plays, ExceptT.run_bind, ExceptT.run_bind, interpret_bind, hx]
  congr 1
  funext r
  cases r with
  | ok a => exact hf a
  | error e => exact interpret_pure w _

end Plays

end WireProgram

namespace ControllerClient

open WireProgram

@[simp] theorem programs_wire (cfg : ControllerConfig) : (programs cfg).wire = WireProgram.wire :=
  rfl

variable {m : Type → Type} [Monad m] [LawfulMonad m] (w : Wire m) (cfg : ControllerConfig)

theorem sendOnce_plays (method : Method) (path : String) (body : Json) :
    Plays w ((programs cfg).sendOnce method path body)
      ((⟨w, cfg⟩ : ControllerClient m).sendOnce method path body) :=
  .bind (.mk (interpret_pure w _)) fun _ =>
    .bind (.lift (interpret_exchange w _)) fun _ => .mk (interpret_pure w _)

theorem retrying_plays (method : Method) (path : String) (body : Json) (left backoff : Nat) :
    Plays w ((programs cfg).retrying method path body left backoff)
      ((⟨w, cfg⟩ : ControllerClient m).retrying method path body left backoff) := by
  induction left generalizing backoff with
  | zero =>
    unfold retrying
    refine Plays.mk ?_
    rw [interpret_bind, sendOnce_plays w cfg method path body]
    congr 1
    funext r
    split <;> simp only [interpret_pure]
  | succ left ih =>
    unfold retrying
    refine Plays.mk ?_
    rw [interpret_bind, sendOnce_plays w cfg method path body]
    congr 1
    funext r
    split
    · exact interpret_pure w _
    · simp only [programs_wire, interpret_bind, interpret_now, interpret_sleepUntil]
      congr 1
      funext now
      congr 1
      funext u
      exact ih _
    · exact interpret_pure w _

theorem send_plays (method : Method) (path : String) (body : Json) :
    Plays w ((programs cfg).send method path body)
      ((⟨w, cfg⟩ : ControllerClient m).send method path body) :=
  retrying_plays w cfg method path body _ _

theorem operation_plays (name : String) (input : Json) :
    Plays w ((programs cfg).operation name input)
      ((⟨w, cfg⟩ : ControllerClient m).operation name input) :=
  .bind (send_plays w cfg _ _ _) fun _ => .mk (interpret_pure w _)

theorem upload_plays (resource : String) (doc : Json) :
    Plays w ((programs cfg).upload resource doc)
      ((⟨w, cfg⟩ : ControllerClient m).upload resource doc) :=
  .bind (send_plays w cfg _ _ _) fun _ => .pure ()

theorem quarantineMacs_plays :
    Plays w (programs cfg).quarantineMacs
      (⟨w, cfg⟩ : ControllerClient m).quarantineMacs := by
  refine .bind (operation_plays w cfg _ _) fun output => ?_
  split
  · exact .pure _
  · exact .mk (interpret_pure w _)
  · exact .mk (interpret_pure w _)

theorem perform_plays (call : QuarantineCall) :
    Plays w ((programs cfg).perform call)
      ((⟨w, cfg⟩ : ControllerClient m).perform call) := by
  cases call with
  | quarantine mac =>
    refine .bind (quarantineMacs_plays w cfg) fun macs => ?_
    split
    · exact .pure ()
    · exact upload_plays w cfg _ _
  | unquarantine mac => exact .bind (operation_plays w cfg _ _) fun _ => .pure ()

end ControllerClient

end MudTestbed
