import MudTestbed.Provision.Teardown
import MudTestbed.Probe.Tools
import MudTestbed.Report.Basic

/-!
# Working with a provisioned network

A `Session` is a live network on its backend, with the probe clients to use. Probes run
on the virtual clock of the backend's command delay:

* on a torn-down network a probe is cancelled, and from an unknown source host it cannot
  be started;
* otherwise the client gets the probe's timeout plus five seconds; a command delay past
  that limit times the probe out before the command runs, so it is not recorded;
* the limit is a sum of durations, which stops the program when it passes the largest
  duration: `probe`, `probeAll` and `probeRacingTeardown` are the runs of the program,
  equal to `runProbe`, `runSequence` and `probeThenTeardown` unless a probe that starts
  has such a limit;
* a client that ran is classified by its protocol; output that cannot be classified makes
  a setup failure that keeps the output.

Probes of a sequence run in declared order per source host and different hosts
independently; as every host keeps its own command record and the results keep the
declared order, this is the same as running them one after another.

`probeThenTeardown` races a probe against a teardown after some seconds. The probe
finishes at its delay (or at its limit when it times out); a teardown strictly before
that cancels it, a teardown at the same moment or later comes after it.
-/

namespace MudTestbed

/-- A provisioned network on its backend, with the probe clients to use. -/
structure Session where
  network : LiveNetwork
  backend : MemoryBackend
  tools : ToolConfig := {}
  deriving DecidableEq, Repr

namespace Session

def probeLimit (spec : ProbeSpec) : Nat := spec.timeoutSecs + 5

def execLimit (spec : ProbeSpec) : Except Panic Nat := Duration.addSecs spec.timeoutSecs 5

def canStart (s : Session) (spec : ProbeSpec) : Bool :=
  !s.network.tornDown && (s.network.topology.host? spec.source).isSome

def probeEnd (s : Session) (spec : ProbeSpec) : Nat :=
  match s.backend.execDelay with
  | some d => min d (probeLimit spec)
  | none => 0

/-- Runs one probe, see the module comment. -/
def runProbe (s : Session) (spec : ProbeSpec) : ProbeResult × Session :=
  if s.network.tornDown then (ProbeResult.cancelled spec, s)
  else if (s.network.topology.host? spec.source).isNone then
    (ProbeResult.setupFailed spec s!"unknown source host {spec.source}", s)
  else if s.backend.execDelay.any (probeLimit spec < ·) then
    (ProbeResult.observed spec s!"probe client did not exit within {secondsText (probeLimit spec)}"
      ⟨.timedOut, none⟩, s)
  else
    match s.backend.exec spec.source (s.tools.commandFor spec) with
    | .error .cancelled => (ProbeResult.cancelled spec, s)
    | .error e => (ProbeResult.setupFailed spec e.message, s)
    | .ok (o, b) =>
      let s := { s with backend := b }
      match Probe.classify spec.kind o with
      | .ok outcome => (ProbeResult.observed spec o.combined outcome, s)
      | .error e => ({ ProbeResult.setupFailed spec e.message with output := o.combined }, s)

/-- Runs probes in declared order, see the module comment. -/
def runSequence (s : Session) : List ProbeSpec → List ProbeResult × Session
  | [] => ([], s)
  | spec :: rest =>
    let (r, s) := s.runProbe spec
    let (rs, s) := runSequence s rest
    (r :: rs, s)

def checkLimit {α : Type} (s : Session) (spec : ProbeSpec) (x : α) : Except Panic α :=
  if s.canStart spec then (fun _ => x) <$> execLimit spec else pure x

def probe (s : Session) (spec : ProbeSpec) : Except Panic (ProbeResult × Session) :=
  s.checkLimit spec (s.runProbe spec)

/-- Runs probes in declared order as the program does, stopping at a panic. -/
def probeAll (s : Session) : List ProbeSpec → Except Panic (List ProbeResult × Session)
  | [] => pure ([], s)
  | spec :: rest => do
    let (r, s) ← s.probe spec
    let (rs, s) ← probeAll s rest
    pure (r :: rs, s)

def sequencePanic (s : Session) (specs : List ProbeSpec) : Option Panic :=
  match s.probeAll specs with
  | .error p => some p
  | .ok _ => none

def teardown (s : Session) : Session :=
  let t := Teardowns.alone MemoryBackend.release s.network s.backend
  { s with network := t.network, backend := t.backend }

def teardownErrors (s : Session) : List String :=
  (Teardowns.alone MemoryBackend.release s.network s.backend).errors

/-- Runs a probe while a teardown comes after `afterSecs`, see the module comment. -/
def probeThenTeardown (s : Session) (spec : ProbeSpec) (afterSecs : Nat) : ProbeResult × Session :=
  if s.canStart spec && afterSecs < s.probeEnd spec then
    (ProbeResult.cancelled spec, s.teardown)
  else
    let (r, s) := s.runProbe spec
    (r, s.teardown)

def probeRacingTeardown (s : Session) (spec : ProbeSpec) (afterSecs : Nat) :
    Except Panic (ProbeResult × Session) :=
  s.checkLimit spec (s.probeThenTeardown spec afterSecs)

/-- Runs a command in a host of the network. -/
def exec (s : Session) (host : String) (argv : List String) : Except Error (CommandOutput × Session) :=
  if s.network.tornDown then throw .cancelled
  else if (s.network.topology.host? host).isNone then throw (.unknownEndpoint host)
  else do
    let (o, b) ← s.backend.exec host argv
    pure (o, { s with backend := b })

def addressOf (s : Session) (host : String) : Option Ipv4Addr :=
  (s.network.plan.host? host).bind HostConfig.primaryAddress

theorem runProbe_tornDown (s : Session) (spec : ProbeSpec) (h : s.network.tornDown = true) :
    s.runProbe spec = (ProbeResult.cancelled spec, s) := by
  simp [runProbe, h]

end Session

end MudTestbed
