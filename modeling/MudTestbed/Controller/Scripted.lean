import MudTestbed.Controller.Exchange
import MudTestbed.Controller.Config
import MudTestbed.Json.Write
import MudTestbed.Net.Url

/-!
# A scripted controller

`ScriptedController` answers RESTCONF requests the way a MUD controller does, with a script
that bends its answers, so that a client and a scenario can be run without a real one. It
keeps the configuration documents stored under their resources, the quarantined devices,
counters of cleared rules, stored documents and report polls, and a log of every request.

A request is first logged, with whether its credentials are the expected ones. Then:

* the first scripted override that matches its path (below the RESTCONF root) and method,
  and has uses left, decides the reply: no answer, a broken body, or a given answer;
* a request with the wrong credentials is refused with 401;
* `PUT config/R` stores the document under `R` (percent-decoded); a document for the
  quarantine resource also replaces the quarantined list with the text entries of its
  `quarantine-device.device-mac-addresses`;
* `POST operations/O` runs an operation and answers `{"output": ...}`: clearing the rules,
  listing the quarantined devices, releasing one, or polling for a MUD report;
* anything else is not found (404).

A poll for the report of given MUD URLs answers the next of `logReports` log reports, then
nothing; a plain poll answers nothing while polls are scripted to be empty, and the report
after that. An overridden poll still counts as a poll.
-/

namespace MudTestbed

/-- What a scripted override does to a request. -/
inductive OverrideAction where
  /-- Close the connection without answering. -/
  | drop
  /-- Answer 200 with a body cut short of its announced length. -/
  | brokenBody
  /-- Answer with a status and a body text. -/
  | respond (status : Nat) (body : String)
  deriving DecidableEq, Repr

/-- A scripted override of a path and maybe a method, applied `times` times or always. -/
structure Override where
  path : String
  method : Option Method := none
  times : Option Nat := none
  action : OverrideAction
  deriving DecidableEq, Repr

namespace Override

def appliesTo (o : Override) (path : String) (method : Method) : Bool :=
  o.path == path && o.method.all (· == method) && o.times != some 0

def use (o : Override) : Override := { o with times := o.times.map (· - 1) }

def reply (o : Override) : Reply :=
  match o.action with
  | .drop => .unanswered
  | .brokenBody => .brokenBody
  | .respond status body => .answer status body

end Override

/-- A request as the controller logged it: the path is below the RESTCONF root. -/
structure LoggedRequest where
  method : Method
  path : String
  body : Json
  authorized : Bool
  deriving Repr

def sampleMudUrl : String := "https://mudfiles.example.com/toaster.json"

def sampleReport (dropped : Nat) : Json :=
  Json.obj [("report", Json.obj [("mud-url", .string sampleMudUrl),
    ("dropped-packets", Json.ofNat dropped)])]

/-- The state and script of a scripted controller, see the module comment. -/
structure ScriptedController where
  /-- The expected credentials, `user:password`. -/
  credentials : String := "admin:admin"
  /-- The quarantined devices, as JSON values. -/
  quarantined : List Json := []
  /-- A value listed instead of the quarantined devices. -/
  quarantineRaw : Option Json := none
  /-- How many more plain polls answer nothing. -/
  emptyPolls : Nat := 0
  /-- Whether plain polls never answer a report. -/
  neverReport : Bool := false
  report : Json := sampleReport 0
  /-- How many more polls for given MUD URLs answer `logReport`. -/
  logReports : Nat := 0
  logReport : Json := sampleReport 3
  overrides : List Override := []
  /-- The stored documents by resource, in key order. -/
  config : List (String × Json) := []
  clears : Nat := 0
  puts : Nat := 0
  polls : Nat := 0
  /-- Every request, oldest first. -/
  requests : List LoggedRequest := []
  deriving Repr

namespace ScriptedController

def root : String := "/restconf/"

def relativePath (path : String) : String :=
  if path.startsWith root then String.ofList (path.toList.drop root.length) else path

/-- Takes the first override that applies, using it once. -/
def takeOverride (path : String) (method : Method) :
    List Override → Option (Override × List Override)
  | [] => none
  | o :: rest =>
    if o.appliesTo path method then some (o, o.use :: rest)
    else (takeOverride path method rest).map fun (found, rest') => (found, o :: rest')

/-- The device entries of a quarantine document that are texts. -/
def quarantineEntries (doc : Json) : List Json :=
  match (doc.field? "quarantine-device").bind (·.field? "device-mac-addresses") with
  | some (.array items) => items.filter fun v => match v with
    | .string _ => true
    | _ => false
  | _ => []

def resourceName (raw : String) : String :=
  (String.fromUTF8? ⟨(Url.percentDecode raw.toUTF8.toList).toArray⟩).getD raw

def segmentAfter (pfx path : String) : Option String :=
  if path.startsWith pfx then
    let rest := String.ofList (path.toList.drop pfx.length)
    if rest.isEmpty || rest.toList.contains '/' then none else some rest
  else none

def store (c : ScriptedController) (resource : String) (doc : Json) : ScriptedController :=
  let c := { c with config := Json.insertField resource doc c.config, puts := c.puts + 1 }
  if resource == Resource.quarantineDevice then { c with quarantined := quarantineEntries doc }
  else c

/-- The output of a poll for MUD reports, and the controller after it. -/
def poll (c : ScriptedController) (input : Json) : Json × ScriptedController :=
  let c := { c with polls := c.polls + 1 }
  if (input.field? "mud-url").isSome then
    if c.logReports > 0 then (c.logReport, { c with logReports := c.logReports - 1 })
    else (Json.obj [], c)
  else if c.neverReport then (Json.obj [], c)
  else if c.emptyPolls > 0 then (Json.obj [], { c with emptyPolls := c.emptyPolls - 1 })
  else (c.report, c)

/-- Runs an operation on its input, giving its output, if the operation exists. -/
def operate (c : ScriptedController) (name : String) (input : Json) :
    Option (Json × ScriptedController) :=
  if name == Operation.clearMudRules then some (Json.obj [], { c with clears := c.clears + 1 })
  else if name == Operation.getQuarantineMacs then
    let listed := c.quarantineRaw.getD (.array c.quarantined)
    some (Json.obj [("device-mac-addresses", listed)], c)
  else if name == Operation.unquarantine then
    let released := match input.field? "device-mac-address" with
      | some (.string mac) => c.quarantined.filter fun v => match v with
        | .string s => s != mac
        | _ => true
      | _ => c.quarantined
    some (Json.obj [], { c with quarantined := released })
  else if name == Operation.getMudUrls then some (c.poll input)
  else none

/-- The default handling of an authorized request. -/
def route (c : ScriptedController) (method : Method) (path : String) (body : Json) :
    Reply × ScriptedController :=
  match method, segmentAfter "config/" path, segmentAfter "operations/" path with
  | .put, some resource, _ => (.answer 200 "", c.store (resourceName resource) body)
  | .post, _, some name =>
    match c.operate name ((body.field? "input").getD .null) with
    | some (output, c) => (.answer 200 (Json.render (Json.obj [("output", output)])), c)
    | none => (.answer 404 "", c)
  | _, _, _ => (.answer 404 "", c)

/-- Handles a request, see the module comment. -/
def handle (c : ScriptedController) (r : Request) : Reply × ScriptedController :=
  let path := relativePath r.path
  let authorized := s!"{r.user}:{r.password}" == c.credentials
  let c := { c with requests := c.requests ++ [⟨r.method, path, r.body, authorized⟩] }
  match takeOverride path r.method c.overrides with
  | some (o, rest) =>
    let polled := path == "operations/" ++ Operation.getMudUrls
    (o.reply, { c with overrides := rest, polls := if polled then c.polls + 1 else c.polls })
  | none =>
    if authorized then c.route r.method path r.body
    else (.answer 401 "", c)

def quarantinedTexts (c : ScriptedController) : List String :=
  c.quarantined.filterMap fun v => match v with
    | .string s => some s
    | _ => none

end ScriptedController

end MudTestbed
