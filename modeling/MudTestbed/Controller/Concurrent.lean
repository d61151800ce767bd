import MudTestbed.Scenario.Run

/-!
# Concurrent quarantine calls

A client serializes its updates of the quarantined devices with a lock: `quarantine` holds
it from its read of the list to its write, and `unquarantine` for its one request. This
module runs several such calls at once through one client.

A call's effects on the wire form a `WireProgram`: a tree whose nodes make an exchange, read
the clock or wait, each going on from what the wire gives back. The client's code, written
for any wire, runs unchanged on `WireProgram.wire`, and `WireProgram.interpret` plays a tree
on any wire.

`Calls` holds concurrent calls on one controller: each call waits for the lock with the
program it will run, holds the lock with the rest of its program, or has finished with its
result; `order` lists the calls by when they took the lock. `Calls.step` moves the call the
scheduler picks: a waiting call takes the lock when no call holds it; the holder makes its
next exchange, reads the clock or waits, and once its program is done gives the lock back
with its result. A call that cannot move lets its turn pass. `Calls.run` follows a
schedule, which may pick the calls in any order.
-/

namespace MudTestbed

/-- A call's effects on the wire, see the module comment. -/
inductive WireProgram (α : Type) where
  | done (a : α)
  | exchange (r : Request) (k : Reply → WireProgram α)
  | now (k : Nat → WireProgram α)
  | sleepUntil (t : Nat) (k : WireProgram α)

namespace WireProgram

variable {α β : Type}

def bind : WireProgram α → (α → WireProgram β) → WireProgram β
  | done a, f => f a
  | exchange r k, f => exchange r fun reply => (k reply).bind f
  | now k, f => now fun t => (k t).bind f
  | sleepUntil t k, f => sleepUntil t (k.bind f)

instance : Monad WireProgram where
  pure := done
  bind := bind

def wire : Wire WireProgram where
  exchange r := exchange r done
  exchangeUntil _ r := exchange r fun reply => done (some reply)
  now := now done
  sleepUntil t := sleepUntil t (done ())

def interpret {m : Type → Type} [Monad m] (w : Wire m) : WireProgram α → m α
  | done a => pure a
  | exchange r k => do interpret w (k (← w.exchange r))
  | now k => do interpret w (k (← w.now))
  | sleepUntil t k => do w.sleepUntil t; interpret w k

end WireProgram

/-- An update of the quarantined devices: putting a device in quarantine or releasing it. -/
inductive QuarantineCall where
  | quarantine (mac : MacAddr)
  | unquarantine (mac : MacAddr)
  deriving DecidableEq, Repr

def QuarantineCall.mac : QuarantineCall → MacAddr
  | .quarantine mac => mac
  | .unquarantine mac => mac

def ControllerClient.programs (cfg : ControllerConfig) : ControllerClient WireProgram :=
  ⟨WireProgram.wire, cfg⟩

def ControllerClient.perform {m : Type → Type} [Monad m] (c : ControllerClient m) :
    QuarantineCall → ExceptT Error m Unit
  | .quarantine mac => c.quarantine mac
  | .unquarantine mac => c.unquarantine mac

/-- Where a call stands, see the module comment. -/
inductive CallState where
  | waiting (body : WireProgram (Except Error Unit))
  | holding (rest : WireProgram (Except Error Unit))
  | finished (result : Except Error Unit)

def CallState.holds : CallState → Bool
  | .holding _ => true
  | _ => false

def CallState.isFinished : CallState → Bool
  | .finished _ => true
  | _ => false

/-- Concurrent calls on a controller of state `σ`, see the module comment. -/
structure Calls (σ : Type) where
  states : List CallState
  controller : σ
  clock : Nat
  /-- The calls by when they took the lock. -/
  order : List Nat

namespace Calls

variable {σ : Type}

def start (cfg : ControllerConfig) (calls : List QuarantineCall) (controller : σ)
    (clock : Nat) : Calls σ :=
  ⟨calls.map fun call => .waiting ((ControllerClient.programs cfg).perform call).run, controller,
    clock, []⟩

def locked (t : Calls σ) : Bool := t.states.any CallState.holds

def allFinished (t : Calls σ) : Bool := t.states.all CallState.isFinished

/-- Gives call `i` its turn, see the module comment. -/
def step (ctl : ControllerBehavior σ) (t : Calls σ) (i : Nat) : Calls σ :=
  match t.states[i]? with
  | some (.waiting body) =>
    if t.locked then t
    else { t with states := t.states.set i (.holding body), order := t.order ++ [i] }
  | some (.holding (.done result)) => { t with states := t.states.set i (.finished result) }
  | some (.holding (.exchange r k)) =>
    let (reply, controller) := ctl.answer t.controller r
    { t with states := t.states.set i (.holding (k reply)), controller := controller,
             clock := t.clock + ctl.delay t.controller r }
  | some (.holding (.now k)) => { t with states := t.states.set i (.holding (k t.clock)) }
  | some (.holding (.sleepUntil u k)) =>
    { t with states := t.states.set i (.holding k), clock := max t.clock u }
  | _ => t

def run (ctl : ControllerBehavior σ) (t : Calls σ) (schedule : List Nat) : Calls σ :=
  schedule.foldl (step ctl) t

end Calls

end MudTestbed
