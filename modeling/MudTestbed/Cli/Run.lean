import MudTestbed.Cli.Parse
import MudTestbed.Cli.Program
import MudTestbed.Scenario.Basic
import MudTestbed.Controller.Config
import MudTestbed.Toml.Load
import MudTestbed.Net.Url
import MudTestbed.Plan.Commands
import MudTestbed.Report.Basic
import MudTestbed.Json.Write
import MudTestbed.Controller.Client

/-!
# Running the testbed's commands

`Cli.run` reads a command line with `Cli.parse` and runs its subcommand; the `Outcome` is the
exit status and the texts written to the output and error streams.

* `run SCENARIO --dry-run` loads the scenario, picks the OpenFlow host and prints the plan:
  the scenario's name, each switch's controller targets, each host's MAC address, commands
  (`$` required, `?` best effort) and services (`&`), then each group's probes with their
  expectations. Without `--dry-run` a network backend is needed, and there is none.
* The OpenFlow host is `--openflow-host`, else the host of the controller URL: the URL of
  the settings file of `--controller-config`, replaced by the one `--controller` gives.
  A host name is looked up as on a machine without a name server.
* `version` prints the program's name and version; `backends` describes the network
  backends.
* The commands that talk to the controller run the controller client on a wire where no
  controller answers: a request fails once its retries are spent, and a poll for reports
  runs out its time. What they print on success is written all the same.

A failure is written as `Error: MESSAGE`, with its cause indented under `Caused by:`, and
the program exits with status 2.
-/

namespace MudTestbed

namespace Cli

/-- What a run of the program gives: its exit status and the texts of its two streams. -/
structure Outcome where
  status : Nat
  out : String
  err : String
  deriving DecidableEq, Repr

abbrev Written := String × String

/-- A failure of a command: its message and the causes under it, outermost first. -/
structure Failure where
  message : String
  causes : List String := []
  deriving DecidableEq, Repr

namespace Failure

def ofError (e : Error) : Failure := ⟨e.message, []⟩

def continueLines (lead : String) (text : String) : String :=
  ("\n" ++ lead).intercalate (Text.split '\n' text)

def numbered (i : Nat) (cause : String) : String :=
  let n := toString i
  blanks (5 - n.length) ++ n ++ ": " ++ continueLines "       " cause

/-- The text of a failure, see the module comment. -/
def render (f : Failure) : String :=
  let causes := match f.causes with
    | [] => ""
    | [c] => "\n\nCaused by:\n    " ++ continueLines "    " c
    | cs => "\n\nCaused by:" ++ String.join (cs.zipIdx.map fun (c, i) => "\n" ++ numbered i c)
  "Error: " ++ f.message ++ causes ++ "\n"

end Failure

def lookupHost (name : String) : Except String (List IpAddr) :=
  if name == "localhost" then .ok [.v4 ⟨0x7F000001⟩]
  else .error "failed to lookup address information: Name or service not known"

def parentPath (path : String) : String :=
  let cs := path.toList.reverse.dropWhile (· == '/')
  let rest := (cs.dropWhile (· != '/')).dropWhile (· == '/')
  if rest.isEmpty then (if path.startsWith "/" then "/" else "")
  else String.ofList rest.reverse

/-- The text of a scenario's plan, see the module comment. -/
def planText (sc : Scenario) : Except Error String := do
  let plan ← sc.plan.resolve sc.topology
  let switches := plan.switches.map fun (s, eps) =>
    let targets := ", ".intercalate (eps.map ControllerEndpoint.ovsTarget)
    s!"  {s} -> {targets}\n"
  let hosts := plan.hosts.map fun h =>
    let mac := h.mac.toText
    let commands := (hostCommands h).map fun c =>
      let marker := if c.bestEffort then "?" else "$"
      let line := " ".intercalate c.argv
      s!"  {marker} {line}\n"
    let services := h.services.map fun svc =>
      let line := " ".intercalate svc.command
      s!"  & {line}\n"
    s!"\n[{h.name}] {mac}\n" ++ String.join commands ++ String.join services
  let groups := sc.groups.map fun g =>
    let probes := g.probes.map fun p =>
      let spec := p.toText
      let expect := p.expect.title
      s!"  {spec} (expect {expect})\n"
    s!"\ngroup {g.name}\n" ++ String.join probes
  pure (s!"scenario: {sc.name}\n" ++ String.join switches ++ String.join hosts ++ String.join groups)

/-- The text of the network backends: the namespace backend, not available here. -/
def backendsText (json : Bool) : String :=
  if json then
    let caps := Json.obj [("openflow", .bool true), ("background_services", .bool true),
      ("requires_root", .bool true), ("max_hosts", .null)]
    let info := Json.obj [("name", .string "netns"), ("available", .bool false), ("capabilities", caps)]
    Json.renderPretty 0 (Json.obj [("backends", .array [info])]) ++ "\n"
  else
    "Available backends:\n\n  netns\n    Status: Not available\n    OpenFlow switches: yes\n" ++
      "    Background services: yes\n    Requires root: yes\n\n"

def silentWire : Wire (StateM Nat) where
  exchange _ := pure .unanswered
  exchangeUntil _ _ := pure (some .unanswered)
  now := get
  sleepUntil t := modify (max · t)

section Commands

variable {m : Type → Type} [Monad m]

def orFail {α : Type} (r : Except Error α) : ExceptT Failure m α :=
  match r with
  | .ok a => pure a
  | .error e => throw (Failure.ofError e)

/-- Loads a scenario file and the documents it names, which are found beside it. -/
def loadScenario (env : Environment m) (path : String) : ExceptT Failure m Scenario := do
  let text ← match ← env.read path with
    | .ok t => pure t
    | .error e => throw (Failure.ofError (.invalidConfig s!"{path}: {e}"))
  let file ← match Toml.decodeText ScenarioFile.decode text with
    | .ok f => pure f
    | .error msg =>
      let inner := (Error.invalidConfig msg).message
      throw (Failure.ofError (.invalidConfig s!"{path}: {inner}"))
  match ← (file.build env.read (parentPath path)).run with
  | .ok sc => pure sc
  | .error e => throw (Failure.ofError e)

/-- The controller settings of a command line, see the module comment. -/
def controllerSettings (env : Environment m) (inv : Invocation) : ExceptT Failure m ControllerConfig := do
  let cfg ← match inv.value? "controller_config" with
    | none => pure ControllerConfig.default
    | some path =>
      let text ← match ← env.read path with
        | .ok t => pure t
        | .error e => throw ⟨s!"reading {path}", [e]⟩
      match Toml.decodeText ControllerConfig.decode text with
      | .ok c => pure c
      | .error msg => throw ⟨s!"parsing {path}", [msg]⟩
  match inv.value? "controller" with
  | some addr => pure { cfg with baseUrl := (ControllerConfig.forAddress addr).baseUrl }
  | none => pure cfg

/-- The host switches dial when none is named: the controller URL's host, looked up. -/
def controllerHost (env : Environment m) (inv : Invocation) : ExceptT Failure m IpAddr := do
  let url := (← controllerSettings env inv).baseUrl
  match Url.host? url with
  | .error e => throw ⟨s!"invalid controller URL {url}", [e.message]⟩
  | .ok none => throw ⟨s!"no host in controller URL {url}", []⟩
  | .ok (some h) =>
    let host := Url.hostText h
    match IpAddr.parse? host with
    | some ip => pure ip
    | none =>
      match lookupHost host with
      | .error e => throw ⟨s!"resolving {host}", [e]⟩
      | .ok addrs =>
        match addrs.find? fun a => match a with | .v4 _ => true | .v6 _ => false with
        | some a => pure a
        | none => throw ⟨s!"{host} has no IPv4 address", []⟩

/-- The `run` command, see the module comment. -/
def runScenario (env : Environment m) (inv : Invocation) : ExceptT Failure m String := do
  let sc ← loadScenario env ((inv.value? "scenario").getD "")
  let host ← match (inv.value? "openflow_host").bind IpAddr.parse? with
    | some ip => pure ip
    | none => controllerHost env inv
  let sc := sc.defaultControllerHost host
  orFail sc.validate
  if inv.flag "dry_run" then orFail (planText sc)
  else orFail (.error (.backend "no network backend available (need `ip` and `ovs-vsctl` in PATH)"))

def callController {α : Type} (env : Environment m) (inv : Invocation)
    (call : ControllerClient (StateM Nat) → ExceptT Error (StateM Nat) α) : ExceptT Failure m α := do
  let config ← controllerSettings env inv
  orFail ((call ⟨silentWire, config⟩).run.run 0).1

/-- The `upload` command: the document is read and parsed before it is sent. -/
def upload (env : Environment m) (inv : Invocation) : ExceptT Failure m Written := do
  let file := (inv.value? "file").getD ""
  let text ← match ← env.read file with
    | .ok t => pure t
    | .error e => throw ⟨s!"reading {file}", [e]⟩
  match Json.parse text with
  | .error e => throw ⟨s!"parsing {file}", [e.message]⟩
  | .ok doc =>
    let name := (inv.value? "resource").getD ""
    let resource := ((DocumentKind.ofName? name).map DocumentKind.resource).getD name
    callController env inv (·.upload resource doc)
    pure ("", s!"Uploaded {file} to {resource}.\n")

def namedMac (inv : Invocation) : ExceptT Failure m MacAddr :=
  orFail (MacAddr.parse ((inv.value? "mac").getD ""))

def quarantinedText (json : Bool) (macs : List MacAddr) : String :=
  if json then Json.renderPretty 0 (Json.ofStrings (macs.map MacAddr.toText)) ++ "\n"
  else if macs.isEmpty then "No quarantined devices.\n"
  else String.join (macs.map fun mac => mac.toText ++ "\n")

def reportText (r : MudReport) : String := Json.renderPretty 0 r.output ++ "\n"

def pollTiming (inv : Invocation) : Nat × Nat :=
  let timeout := ((inv.value? "timeout").bind String.toNat?).getD 120
  let interval := ((inv.value? "interval_ms").bind String.toNat?).getD 1000
  (interval, timeout * 1000)

/-- Runs a subcommand, giving what it writes to the output and error streams. -/
def perform (env : Environment m) (inv : Invocation) : ExceptT Failure m Written :=
  match inv.command with
  | "run" => (·, "") <$> runScenario env inv
  | "version" => pure (s!"{program.name} {program.version}\n", "")
  | "backends" => pure (backendsText (inv.flag "json"), "")
  | "upload" => upload env inv
  | "clear-rules" => do
    callController env inv (·.clearRules)
    pure ("", "MUD rules cleared.\n")
  | "quarantine" => do
    let mac ← namedMac inv
    callController env inv (·.quarantine mac)
    pure ("", s!"{mac.toText} quarantined.\n")
  | "unquarantine" => do
    let mac ← namedMac inv
    callController env inv (·.unquarantine mac)
    pure ("", s!"{mac.toText} released.\n")
  | "quarantined" => do
    let macs ← callController env inv (·.quarantineMacs)
    pure (quarantinedText (inv.flag "json") macs, "")
  | "poll-report" => do
    let (interval, deadline) := pollTiming inv
    let report ← callController env inv (·.pollReport (inv.values "mud_urls") interval deadline)
    pure (reportText report, "")
  | "collect-reports" => do
    let (interval, deadline) := pollTiming inv
    let reports ← callController env inv (·.collectReports interval deadline)
    pure (String.join (reports.map reportText), "")
  | _ => pure ("", "")

/-- Runs a command line, see the module comment. -/
def run (env : Environment m) (words : List String) : m Outcome := do
  match ← (parse env program words).run with
  | .error (.inform text) => pure ⟨0, text, ""⟩
  | .error (.reject text) => pure ⟨2, "", text⟩
  | .ok inv =>
    match ← (perform env inv).run with
    | .ok (out, err) => pure ⟨0, out, err⟩
    | .error f => pure ⟨2, "", f.render⟩

end Commands

end Cli

end MudTestbed
