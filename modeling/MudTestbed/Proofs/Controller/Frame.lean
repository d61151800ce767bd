import MudTestbed.Proofs.Preserves
import MudTestbed.Controller.Client

/-!
# What a controller call can change

The client reaches its state only through its `Wire`: exchanging a request, reading the
clock and waiting. So whatever every operation of the wire keeps, every call of the client
keeps, retries, polls, attempts cut at a deadline and failures included (`Wire.Keeps`). On a
testbed the wire moves only the controller and the clock, so a controller call never
touches the network backend.
-/

namespace MudTestbed

set_option autoImplicit false

/-- Every operation of the wire keeps `P`. -/
structure Wire.Keeps {σ : Type} (P : σ → Prop) (w : Wire (StateM σ)) : Prop where
  exchange : ∀ r, Preserves P (w.exchange r)
  exchangeUntil : ∀ limit r, Preserves P (w.exchangeUntil limit r)
  now : Preserves P w.now
  sleepUntil : ∀ t, Preserves P (w.sleepUntil t)

namespace ControllerClient

variable {σ : Type} {P : σ → Prop} (c : ControllerClient (StateM σ)) (hw : c.wire.Keeps P)
include hw

theorem sendOnce_preserves (method : Method) (path : String) (body : Json) :
    Preserves P (c.sendOnce method path body).run := by
  unfold sendOnce
  exact Preserves.except_bind (Preserves.except_mk (Preserves.of_pure _)) fun _ =>
    Preserves.except_bind (Preserves.except_lift (hw.exchange _)) fun _ =>
      Preserves.except_mk (Preserves.of_pure _)

theorem retrying_preserves (method : Method) (path : String) (body : Json) (left backoff : Nat) :
    Preserves P (c.retrying method path body left backoff).run := by
  induction left generalizing backoff with
  | zero =>
    unfold retrying
    refine Preserves.bind (c.sendOnce_preserves hw method path body) fun r => ?_
    split <;> exact Preserves.of_pure _
  | succ left ih =>
    unfold retrying
    refine Preserves.bind (c.sendOnce_preserves hw method path body) fun r => ?_
    split
    · exact Preserves.of_pure _
    · exact Preserves.bind hw.now fun _ => Preserves.bind (hw.sleepUntil _) fun _ => ih _
    · exact Preserves.of_pure _

theorem send_preserves (method : Method) (path : String) (body : Json) :
    Preserves P (c.send method path body).run :=
  c.retrying_preserves hw method path body _ _

theorem operation_preserves (name : String) (input : Json) :
    Preserves P (c.operation name input).run :=
  Preserves.except_bind (c.send_preserves hw _ _ _) fun _ =>
    Preserves.except_mk (Preserves.of_pure _)

theorem upload_preserves (resource : String) (doc : Json) : Preserves P (c.upload resource doc).run :=
  Preserves.except_bind (c.send_preserves hw _ _ _) fun _ => Preserves.except_pure _

theorem clearRules_preserves : Preserves P c.clearRules.run :=
  Preserves.except_bind (c.operation_preserves hw _ _) fun _ => Preserves.except_pure _

theorem quarantineMacs_preserves : Preserves P c.quarantineMacs.run := by
  unfold quarantineMacs
  refine Preserves.except_bind (c.operation_preserves hw _ _) fun _ => ?_
  split
  · exact Preserves.except_pure _
  · exact Preserves.except_mk (Preserves.of_pure _)
  · exact Preserves.except_throw _

theorem quarantine_preserves (mac : MacAddr) : Preserves P (c.quarantine mac).run := by
  unfold quarantine
  refine Preserves.except_bind (c.quarantineMacs_preserves hw) fun _ => ?_
  split
  · exact Preserves.except_pure _
  · exact c.upload_preserves hw _ _

theorem unquarantine_preserves (mac : MacAddr) : Preserves P (c.unquarantine mac).run :=
  Preserves.except_bind (c.operation_preserves hw _ _) fun _ => Preserves.except_pure _

theorem cutAt_exchange_preserves (deadline : Nat) (r : Request) :
    Preserves P ((c.wire.cutAt deadline).exchange r).run := by
  refine Preserves.option_bind (Preserves.option_lift hw.now) fun now => ?_
  split
  · exact fun _ h => h
  · exact hw.exchangeUntil _ _

theorem sendOnce_within_preserves (deadline : Nat) (method : Method) (path : String)
    (body : Json) : Preserves P ((c.within deadline).sendOnce method path body).run.run :=
  Preserves.cut_bind (Preserves.cut_mk_pure _) fun _ =>
    Preserves.cut_bind (Preserves.cut_lift (c.cutAt_exchange_preserves hw deadline _)) fun _ =>
      Preserves.cut_mk_pure _

theorem pollAttempt_within_preserves (deadline : Nat) (body : Json) :
    Preserves P ((c.within deadline).pollAttempt body).run.run := by
  unfold pollAttempt
  refine Preserves.cut_bind (Preserves.cut_lift (c.sendOnce_within_preserves hw deadline _ _ _))
    fun r => ?_
  split
  · exact Preserves.cut_bind (Preserves.cut_mk_pure _) fun _ => fun _ h => h
  · exact fun _ h => h
  · exact fun _ h => h

theorem polling_preserves (deadline : Nat) (body : Json) (fuel attempts interval : Nat) :
    Preserves P (c.polling deadline body fuel attempts interval).run := by
  induction fuel generalizing attempts interval with
  | zero => exact Preserves.except_throw _
  | succ fuel ih =>
    unfold polling
    refine Preserves.except_bind (Preserves.except_lift hw.now) fun now0 => ?_
    dsimp only
    split
    · exact Preserves.except_throw_bind _ _
    · refine Preserves.except_bind
        (Preserves.except_lift (c.pollAttempt_within_preserves hw deadline body)) fun r => ?_
      split
      · exact Preserves.except_throw _
      · exact Preserves.except_throw _
      · exact Preserves.except_pure _
      · refine Preserves.except_bind (Preserves.except_lift hw.now) fun now => ?_
        split
        · exact Preserves.except_throw_bind _ _
        · exact Preserves.except_bind (Preserves.except_lift (hw.sleepUntil _)) fun _ => ih _ _

theorem pollReport_preserves (mudUrls : List String) (intervalMs deadline : Nat) :
    Preserves P (c.pollReport mudUrls intervalMs deadline).run :=
  Preserves.except_bind (Preserves.except_lift hw.now) fun _ => c.polling_preserves hw _ _ _ _ _

end ControllerClient

end MudTestbed
