import MudTestbed.Controller.Exchange
import MudTestbed.Controller.Config
import MudTestbed.Net.Location
import MudTestbed.Json.Read
import MudTestbed.Json.Write
import MudTestbed.Address.Mac
import MudTestbed.Text.Blank

/-!
# The controller client

A `ControllerClient` talks to the controller's RESTCONF interface over a `Wire`, with the
credentials and retry settings of a `ControllerConfig`. A request goes to the URL of its
path below the root. What comes back is read by `Reply.read`:

* no answer, or a body that breaks off, is a transport error naming the URL;
* a status outside 200–299 is a request error with the status and the body text;
* a blank body is `null`, any other body must be JSON (else a protocol error that quotes
  the body).

`send` retries transport errors `retries` times, waiting `backoff_ms` before the first
retry and twice as long before each next one, never more than ten seconds; when the
retries are spent the controller is unreachable. Other errors are never retried.

An operation posts `{"input": ...}` and takes the `output` object of the answer
(`outputOf`). On top of these: storing a document, clearing the rules, listing the
quarantined devices, quarantining a device (a read of the list and, when the device is
not in it, one write of the list with the device added) and releasing one.

`pollReport` polls for a MUD report until the deadline: an answer with a non-empty output
is the report; transport errors and empty outputs poll again after a wait that starts at
the poll interval and doubles up to ten seconds, cut at the deadline; other errors end
the poll. The deadline ends a poll in three places: before an attempt is sent, while its
reply is awaited, and after its reply when that came at the deadline. `collectReports`
follows a report's MUD URL through the controller's log, one report after another, until a
report names no URL, an answer has no report, or the deadline cuts a request off.

The loops carry fuel: one more than the milliseconds left, which every wait of an interval
above zero outlasts. With a zero interval the program asks again at once; the poll ends
with its fuel, and the follow waits at least a millisecond between pulls.
-/

namespace MudTestbed

def maxBackoffMs : Nat := 10000

/-- Where a request for a URL goes, or the transport error that stops it before sending. -/
def requestTarget (url : String) : Except Error Url.Location :=
  match Url.locate? url with
  | none => .error (.transport s!"{url}: builder error")
  | some loc =>
    if loc.text.startsWith "http://" || loc.text.startsWith "https://" then .ok loc
    else .error (.transport s!"{url}: builder error for url ({loc.text})")

/-- Reads the reply to a request for a URL, `shown` in normal form; see the module comment. -/
def Reply.read (url shown : String) : Reply → Except Error Json
  | .unanswered => .error (.transport s!"{url}: error sending request for url ({shown})")
  | .brokenBody => .error (.transport s!"{url}: error decoding response body")
  | .answer status text =>
    if status < 200 || status ≥ 300 then .error (.request status text)
    else if (Text.trim text).isEmpty then .ok .null
    else match Json.parse text with
      | .ok v => .ok v
      | .error e => .error (.protocol s!"{url}: {e.message}: {text}")

/-- The `output` of an operation's answer: `null` and the empty object stand for none. -/
def outputOf : Json → Except Error Json
  | .null => .ok (Json.obj [])
  | .object fields =>
    match fields.lookup "output" with
    | some (.object o) => .ok (.object o)
    | some other => .error (.protocol s!"output is not an object: {other.render}")
    | none =>
      if fields.isEmpty then .ok (Json.obj [])
      else .error (.protocol s!"response has no output: {(Json.object fields).render}")
  | other => .error (.protocol s!"unexpected response: {other.render}")

def emptyOutput : Json → Bool
  | .object fields => fields.isEmpty
  | _ => true

/-- A non-empty answer to a poll: its output, and its report's MUD URL when it has one. -/
structure MudReport where
  mudUrl : Option String
  output : Json
  deriving Repr

namespace MudReport

def ofOutput (output : Json) : MudReport :=
  let url := match (output.field? "report").bind (·.field? "mud-url") with
    | some (.string s) => some s
    | _ => none
  ⟨url, output⟩

def hasReport (r : MudReport) : Bool := (r.output.field? "report").isSome

end MudReport

def pollTimeout (attempts : Nat) : Error :=
  .propagationTimeout s!"no MUD report after {attempts} poll attempt(s)"

def pollBody (mudUrls : List String) : Json :=
  let input := if mudUrls.isEmpty then Json.obj [] else Json.obj [("mud-url", Json.ofStrings mudUrls)]
  Json.obj [("input", input)]

def quarantineDocument (macs : List MacAddr) : Json :=
  Json.obj [("quarantine-device", Json.obj [("device-mac-addresses",
    Json.ofStrings (macs.map MacAddr.toText))])]

section Cut

variable {m : Type → Type} [Monad m]

/-- The wire of a request that a deadline cuts off: what would pass the deadline fails. -/
def Wire.cutAt (w : Wire m) (deadline : Nat) : Wire (OptionT m) where
  exchange r := do
    if (← w.now) ≥ deadline then failure else OptionT.mk (w.exchangeUntil deadline r)
  exchangeUntil limit r := do
    if (← w.now) ≥ deadline then failure
    match ← OptionT.lift (w.exchangeUntil (min limit deadline) r) with
    | some reply => pure (some reply)
    | none => if deadline ≤ limit then failure else pure none
  now := w.now
  sleepUntil t := do
    if t > deadline then
      w.sleepUntil deadline
      failure
    else w.sleepUntil t

end Cut

/-- A client of the controller: the wire it talks over and its settings. -/
structure ControllerClient (m : Type → Type) where
  wire : Wire m
  config : ControllerConfig

namespace ControllerClient

variable {m : Type → Type} [Monad m] (c : ControllerClient m)

def url (path : String) : String :=
  s!"{ControllerConfig.trimSlashes c.config.baseUrl}/{path}"

def within (deadline : Nat) : ControllerClient (OptionT m) := ⟨c.wire.cutAt deadline, c.config⟩

def sendOnce (method : Method) (path : String) (body : Json) : ExceptT Error m Json := do
  let url := c.url path
  let loc ← ExceptT.mk (pure (requestTarget url))
  let reply ← c.wire.exchange ⟨method, loc.path, body, c.config.username, c.config.password⟩
  ExceptT.mk (pure (reply.read url loc.text))

/-- Sends a request, retrying transport errors `left` more times after `backoff` ms. -/
def retrying (method : Method) (path : String) (body : Json) :
    Nat → Nat → ExceptT Error m Json
  | left, backoff => ExceptT.mk do
    match ← (c.sendOnce method path body).run with
    | .ok v => pure (.ok v)
    | .error (.transport detail) =>
      match left with
      | 0 => pure (.error (.controllerUnreachable detail))
      | left + 1 => do
        let now ← c.wire.now
        c.wire.sleepUntil (now + backoff)
        (retrying method path body left (min (2 * backoff) maxBackoffMs)).run
    | .error e => pure (.error e)

def send (method : Method) (path : String) (body : Json) : ExceptT Error m Json :=
  c.retrying method path body c.config.retries c.config.backoffMs

def operation (name : String) (input : Json) : ExceptT Error m Json := do
  let answer ← c.send .post s!"operations/{name}" (Json.obj [("input", input)])
  ExceptT.mk (pure (outputOf answer))

def upload (resource : String) (doc : Json) : ExceptT Error m Unit := do
  let _ ← c.send .put s!"config/{resource}" doc

def clearRules : ExceptT Error m Unit := do
  let _ ← c.operation Operation.clearMudRules (Json.obj [])

def listedMac : Json → Except Error MacAddr
  | .string s => match MacAddr.parse s with
    | .ok mac => .ok mac
    | .error e => .error (.protocol e.message)
  | other => .error (.protocol s!"not a MAC address: {other.render}")

/-- The devices the controller holds in quarantine; a missing list is empty. -/
def quarantineMacs : ExceptT Error m (List MacAddr) := do
  let output ← c.operation Operation.getQuarantineMacs (Json.obj [])
  match output.field? "device-mac-addresses" with
  | none => pure []
  | some (.array items) => ExceptT.mk (pure (items.mapM listedMac))
  | some other => throw (.protocol s!"device-mac-addresses is not a list: {other.render}")

def quarantine (mac : MacAddr) : ExceptT Error m Unit := do
  let macs ← c.quarantineMacs
  if macs.contains mac then pure ()
  else c.upload Resource.quarantineDevice (quarantineDocument (macs ++ [mac]))

def unquarantine (mac : MacAddr) : ExceptT Error m Unit := do
  let _ ← c.operation Operation.unquarantine (Json.obj [("device-mac-address", .string mac.toText)])

/-- One attempt of a poll: a report, or `none` to go on after a lost or empty reply. -/
def pollAttempt (body : Json) : ExceptT Error m (Option MudReport) := do
  match ← ExceptT.lift (c.sendOnce .post s!"operations/{Operation.getMudUrls}" body).run with
  | .ok answer =>
    let output ← ExceptT.mk (pure (outputOf answer))
    pure (if emptyOutput output then none else some (MudReport.ofOutput output))
  | .error (.transport _) => pure none
  | .error e => throw e

/-- The attempts of a poll until a deadline, each cut at it; see the module comment. -/
def polling (deadline : Nat) (body : Json) : Nat → Nat → Nat → ExceptT Error m MudReport
  | 0, attempts, _ => throw (pollTimeout attempts)
  | fuel + 1, attempts, interval => do
    if (← c.wire.now) ≥ deadline then throw (pollTimeout attempts)
    match ← ((c.within deadline).pollAttempt body).run.run with
    | none => throw (pollTimeout (attempts + 1))
    | some (.error e) => throw e
    | some (.ok (some report)) => return report
    | some (.ok none) =>
      let now ← c.wire.now
      if now ≥ deadline then throw (pollTimeout (attempts + 1))
      c.wire.sleepUntil (min deadline (now + interval))
      polling deadline body fuel (attempts + 1) (min (2 * interval) maxBackoffMs)

def pollReport (mudUrls : List String) (intervalMs deadline : Nat) : ExceptT Error m MudReport := do
  let start ← c.wire.now
  c.polling deadline (pollBody mudUrls) (deadline - start + 1) 0 intervalMs

/-- Follows the MUD URL of the last report through the log, adding each report found. -/
def following (intervalMs deadline : Nat) : Nat → MudReport → List MudReport →
    ExceptT Error m (List MudReport)
  | 0, _, found => pure found
  | fuel + 1, last, found =>
    match last.mudUrl with
    | none => pure found
    | some url => do
      let now ← c.wire.now
      c.wire.sleepUntil (min deadline (now + intervalMs))
      let pull := (c.within deadline).operation Operation.getMudUrls
        (Json.obj [("mud-url", Json.ofStrings [url])])
      match ← ExceptT.lift pull.run.run with
      | none => pure found
      | some (.error e) => throw e
      | some (.ok output) =>
        let report := MudReport.ofOutput output
        if report.hasReport then following intervalMs deadline fuel report (found ++ [report])
        else pure found

def collectReports (intervalMs deadline : Nat) : ExceptT Error m (List MudReport) := do
  let first ← c.pollReport [] intervalMs deadline
  let start ← c.wire.now
  c.following (max intervalMs 1) deadline (deadline - start + 1) first [first]

end ControllerClient

end MudTestbed
