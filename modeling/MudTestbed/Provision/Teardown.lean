import MudTestbed.Provision.Basic

/-!
# Tearing a network down

A teardown first cancels the network, so that from then on a command through it is
refused. It then takes the network's record of what was created, leaving the record empty,
and releases each object it took: services, switch controls, links, switches, then hosts,
each kind newest first (`Resources.releases`). A release that fails is noted in the
teardown's report as `what: error`, and the releases after it go on.

Teardowns may run at once. Each is a `TeardownCall` that moves one step at a time: it
cancels, it takes the record, it makes one release, it reports. A schedule says whose step
comes next (`Teardowns.run`). The record is taken in one step, as it is taken under its
lock, so at most one call finds anything in it; a call that finds it empty reports nothing.
The backend is any state with a release that may fail. On the in-memory backend releases
never fail, and a session's teardown is one call given every turn (`Teardowns.alone`).
-/

namespace MudTestbed

/-- The release of one recorded object. -/
inductive Release where
  | stopService (id : String)
  | stopSwitch (name : String)
  | destroyLink (link : Link)
  | destroySwitch (name : String)
  | destroyHost (name : String)
  deriving DecidableEq, Repr

namespace Release

/-- What a release does, as a teardown report names it. -/
def what : Release → String
  | .stopService id => s!"stopping service {id}"
  | .stopSwitch name => s!"stopping switch {name}"
  | .destroyLink l => s!"removing link {l.a.node}-{l.b.node}"
  | .destroySwitch name => s!"removing switch {name}"
  | .destroyHost name => s!"removing host {name}"

def note (x : Release) : Except Error Unit → List String
  | .ok () => []
  | .error e => [s!"{x.what}: {e.message}"]

end Release

/-- Releases one object on the in-memory backend, which never fails. -/
def MemoryBackend.release (b : MemoryBackend) : Release → Except Error Unit × MemoryBackend
  | .stopService id => (.ok (), b.stopService id)
  | .stopSwitch name => (.ok (), b.stopSwitch name)
  | .destroyLink l => (.ok (), b.destroyLink l)
  | .destroySwitch name => (.ok (), b.destroySwitch name)
  | .destroyHost name => (.ok (), b.destroyHost name)

namespace Resources

def isEmpty (r : Resources) : Bool :=
  r.hosts.isEmpty && r.switches.isEmpty && r.startedSwitches.isEmpty && r.links.isEmpty &&
    r.services.isEmpty

def releases (r : Resources) : List Release :=
  r.services.reverse.map .stopService ++ r.startedSwitches.reverse.map .stopSwitch ++
    r.links.reverse.map .destroyLink ++ r.switches.reverse.map .destroySwitch ++
    r.hosts.reverse.map .destroyHost

end Resources

/-- Where a teardown call stands. -/
inductive TeardownCall where
  /-- Not begun. -/
  | idle
  /-- The network is cancelled; the call takes the record next. -/
  | taking
  /-- Releasing what it took: `todo` is left, and `errors` were noted so far. -/
  | releasing (todo : List Release) (errors : List String)
  /-- Done, with its report. -/
  | finished (errors : List String)
  deriving DecidableEq, Repr

/-- Teardown calls of one network on a backend of state `β`. -/
structure Teardowns (β : Type) where
  network : LiveNetwork
  backend : β
  calls : List TeardownCall
  /-- Every release made on the backend, with the call that made it, in order. -/
  issued : List (Nat × Release) := []

namespace Teardowns

variable {β : Type} (release : β → Release → Except Error Unit × β)

def start (network : LiveNetwork) (backend : β) (n : Nat) : Teardowns β :=
  { network, backend, calls := List.replicate n .idle }

/-- Gives call `i` its turn, see the module comment. -/
def step (t : Teardowns β) (i : Nat) : Teardowns β :=
  match t.calls[i]? with
  | some .idle =>
    { t with network := { t.network with tornDown := true }, calls := t.calls.set i .taking }
  | some .taking =>
    let r := t.network.resources
    { t with network := { t.network with resources := {} },
             calls := t.calls.set i (if r.isEmpty then .finished [] else .releasing r.releases []) }
  | some (.releasing [] errors) => { t with calls := t.calls.set i (.finished errors) }
  | some (.releasing (x :: todo) errors) =>
    let (result, backend) := release t.backend x
    { t with backend, calls := t.calls.set i (.releasing todo (errors ++ x.note result)),
             issued := t.issued ++ [(i, x)] }
  | _ => t

def run (t : Teardowns β) (schedule : List Nat) : Teardowns β :=
  schedule.foldl (step release) t

def alone (network : LiveNetwork) (backend : β) : Teardowns β :=
  (start network backend 1).run release
    (List.replicate (network.resources.releases.length + 3) 0)

def errors (t : Teardowns β) : List String :=
  t.calls.flatMap fun
    | .finished errors => errors
    | _ => []

end Teardowns

end MudTestbed
