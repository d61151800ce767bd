import MudTestbed.Json.Decode

/-!
# Controller settings and documents

A `ControllerConfig` says how to reach the controller's RESTCONF interface: its root URL,
the credentials, how often to retry a request that failed in transport, the first backoff
between retries, and the timeout of one request.

`ControllerConfig.forAddress` builds the settings for an address given by a user: a URL
(`http://` or `https://`) is kept without its trailing slashes; an address with a port
(it holds a `:`) gets the `/restconf` root; a bare host gets port 8181 as well.

A policy document is stored under a resource of the controller's datastore; a
`DocumentKind` names one of the three standard documents and so its resource.
-/

namespace MudTestbed

namespace Resource

def deviceAssociation : String := "nist-mud-device-association:mapping"
def controllerClass : String := "nist-mud-controllerclass-mapping:controllerclass-mapping"
def sdnmudConfig : String := "sdnmud:sdnmud-config"
def quarantineDevice : String := "nist-mud-device-association:quarantine-device"

end Resource

/-- One of the standard policy documents. -/
inductive DocumentKind where
  | deviceAssociation
  | controllerClass
  | sdnmudConfig
  deriving DecidableEq, Repr

namespace DocumentKind

def names : List String := ["device-association", "controller-class", "sdnmud-config"]

def ofName? : String → Option DocumentKind
  | "device-association" => some .deviceAssociation
  | "controller-class" => some .controllerClass
  | "sdnmud-config" => some .sdnmudConfig
  | _ => none

def resource : DocumentKind → String
  | deviceAssociation => Resource.deviceAssociation
  | controllerClass => Resource.controllerClass
  | sdnmudConfig => Resource.sdnmudConfig

def decode : Decoder DocumentKind := fun place j => do
  let name ← Decode.unitVariant names place j
  match ofName? name with
  | some k => pure k
  | none => Decode.within place (Decode.fail (Decode.unknownVariant name names))

end DocumentKind

/-- How to reach the controller. -/
structure ControllerConfig where
  /-- The RESTCONF root, such as `http://127.0.0.1:8181/restconf`. -/
  baseUrl : String
  username : String
  password : String
  /-- Extra attempts after a transport failure. -/
  retries : Nat
  backoffMs : Nat
  requestTimeoutSecs : Nat
  deriving DecidableEq, Repr

namespace ControllerConfig

def restconfPort : Nat := 8181

def trimSlashes (s : String) : String :=
  String.ofList (s.toList.reverse.dropWhile (· = '/')).reverse

/-- The settings for an address, see the module comment. -/
def forAddress (addr : String) : ControllerConfig :=
  let baseUrl :=
    if addr.startsWith "http://" || addr.startsWith "https://" then trimSlashes addr
    else if addr.toList.contains ':' then s!"http://{addr}/restconf"
    else s!"http://{addr}:{restconfPort}/restconf"
  ⟨baseUrl, "admin", "admin", 3, 500, 30⟩

def default : ControllerConfig := forAddress "127.0.0.1"

def fieldNames : List String :=
  ["base_url", "username", "password", "retries", "backoff_ms", "request_timeout_secs"]

/-- Reads settings: each member optional with the default's value, unknown ones refused. -/
def decode : Decoder ControllerConfig := fun place j => Decode.within place do
  let ms ← Decode.members place "struct ControllerConfig" j
  let str := Decode.string
  let u32 := Decode.unsigned 32 "u32"
  let u64 := Decode.unsigned 64 "u64"
  Decode.visit place [("base_url", Decode.check str), ("username", Decode.check str),
    ("password", Decode.check str), ("retries", Decode.check u32),
    ("backoff_ms", Decode.check u64), ("request_timeout_secs", Decode.check u64)] true ms
  let d := default
  pure ⟨← Decode.optional place ms "base_url" str d.baseUrl,
    ← Decode.optional place ms "username" str d.username,
    ← Decode.optional place ms "password" str d.password,
    ← Decode.optional place ms "retries" u32 d.retries,
    ← Decode.optional place ms "backoff_ms" u64 d.backoffMs,
    ← Decode.optional place ms "request_timeout_secs" u64 d.requestTimeoutSecs⟩

def toJson (c : ControllerConfig) : Json :=
  Json.obj [("base_url", .string c.baseUrl), ("username", .string c.username),
    ("password", .string c.password), ("retries", Json.ofNat c.retries),
    ("backoff_ms", Json.ofNat c.backoffMs),
    ("request_timeout_secs", Json.ofNat c.requestTimeoutSecs)]

end ControllerConfig

end MudTestbed
