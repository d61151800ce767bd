import MudTestbed.Probe.Tools
import MudTestbed.Json.Decode
import MudTestbed.Binary64.Format

/-!
# Probes as documents

Reading probe specifications, expectations and tool configurations from documents, and
writing them back.

* An expectation is an externally tagged enum: `"success"`, `"failure"`, or
  `{"range": {"min"?: f, "max"?: f}}`; unknown members of the range are ignored.
* A probe kind is internally tagged by its `protocol` member, which names the variant or,
  in JSON, gives its index (`0` to `3`). Its other members are the variant's fields; unknown
  ones are ignored.
* A probe specification holds `source`, `timeout_secs` (default 20) and `expect`, with the
  kind's members flattened beside them. Its own members are read first, in document order;
  everything else is buffered. A missing `source` or `expect` is reported before anything
  about the kind.
* A tool configuration has the four argument vector prefixes, each optional; an unknown
  member is refused.

Written documents carry every double as its plain decimal text, so that no digit and no
special value is lost.
-/

namespace MudTestbed

namespace Expectation

def variantNames : List String := ["success", "failure", "range"]

/-- Reads an expectation. -/
def decode : Decoder Expectation := fun place j => do
  let (name, content) ← Decode.variant variantNames place j
  let inner := Decode.child place (.key name)
  match name with
  | "success" => Decode.unitContent inner content *> pure .success
  | "failure" => Decode.unitContent inner content *> pure .failure
  | _ =>
    let ms ← Decode.structContent inner ["min", "max"] "struct variant ExpectedOutcome::Range" content
    let bound := Decode.option Decode.double
    Decode.within inner do
      Decode.visit inner [("min", Decode.check bound), ("max", Decode.check bound)] false ms
      let lo ← Decode.optional inner ms "min" bound none
      let hi ← Decode.optional inner ms "max" bound none
      pure (.range lo hi)

def boundJson (x : Option Binary64) : Json := Json.ofOption (fun x => .string x.toPlainString) x

def toJson : Expectation → Json
  | success => .string "success"
  | failure => .string "failure"
  | range lo hi => Json.obj [("range", Json.obj [("min", boundJson lo), ("max", boundJson hi)])]

end Expectation

namespace ProbeKind

def protocolNames : List String := ["http", "tcp", "udp", "icmp"]

/-- Reads the `protocol` tag: a name, or in JSON an index. -/
def decodeTag : Decoder String := fun place j => Decode.within place <|
  match j with
  | .string s =>
    if protocolNames.contains s then .ok s else Decode.fail (Decode.unknownVariant s protocolNames)
  | .number (.nat n) =>
    if place.json then
      match protocolNames[n]? with
      | some s => .ok s
      | none => Decode.fail (Decode.invalidValue place j "variant index 0 <= i < 4")
    else Decode.fail (Decode.invalidType place j "variant identifier")
  | j => Decode.fail (Decode.invalidType place j "variant identifier")

/-- Reads the fields of the variant named `protocol` from the members `ms`. -/
def decodeFields (place : Place) (protocol : String) (ms : List (String × Json)) :
    Except DecodeError ProbeKind := Decode.within place do
  let str := Decode.string
  let u16 := Decode.unsigned 16 "u16"
  let u32 := Decode.unsigned 32 "u32"
  match protocol with
  | "http" =>
    Decode.visit place [("url", Decode.check str), ("tries", Decode.check u32)] false ms
    pure (.http (← Decode.required place ms "url" str) (← Decode.optional place ms "tries" u32 1))
  | "tcp" =>
    Decode.visit place [("target", Decode.check str), ("port", Decode.check u16)] false ms
    pure (.tcp (← Decode.required place ms "target" str) (← Decode.required place ms "port" u16))
  | "udp" =>
    Decode.visit place
      [("target", Decode.check str), ("port", Decode.check u16), ("count", Decode.check u32)]
      false ms
    pure (.udp (← Decode.required place ms "target" str) (← Decode.required place ms "port" u16)
      (← Decode.optional place ms "count" u32 5))
  | _ =>
    Decode.visit place [("target", Decode.check str), ("count", Decode.check u32)] false ms
    pure (.icmp (← Decode.required place ms "target" str)
      (← Decode.optional place ms "count" u32 10))

/-- Reads a probe kind from buffered members: the tag, then the variant's fields. -/
def decodeFlat (place : Place) (ms : List (String × Json)) : Except DecodeError ProbeKind :=
  Decode.within place do
  match ms.lookup "protocol" with
  | none => Decode.fail (Decode.missingField "protocol")
  | some t =>
    let protocol ← decodeTag (Decode.child place (.key "protocol")) t
    decodeFields place protocol (ms.filter fun (k, _) => k != "protocol")

/-- The fields of a probe kind as a document, with its protocol. -/
def toJson : ProbeKind → Json
  | http url tries => Json.obj [("protocol", .string "http"), ("url", .string url),
      ("tries", Json.ofNat tries)]
  | tcp target port => Json.obj [("protocol", .string "tcp"), ("target", .string target),
      ("port", Json.ofNat port)]
  | udp target port count => Json.obj [("protocol", .string "udp"), ("target", .string target),
      ("port", Json.ofNat port), ("count", Json.ofNat count)]
  | icmp target count => Json.obj [("protocol", .string "icmp"), ("target", .string target),
      ("count", Json.ofNat count)]

end ProbeKind

namespace ProbeSpec

def ownFields : List String := ["source", "timeout_secs", "expect"]

/-- Reads a probe specification, see the module comment. -/
def decode : Decoder ProbeSpec := fun place j => Decode.within place do
  let ms ← Decode.members place "struct ProbeSpec" j
  let own := ms.filter fun (k, _) => ownFields.contains k
  let rest := ms.filter fun (k, _) => !ownFields.contains k
  let u64 := Decode.unsigned 64 "u64"
  Decode.visit place [("source", Decode.check Decode.string), ("timeout_secs", Decode.check u64),
    ("expect", Decode.check Expectation.decode)] false own
  let source ← Decode.required place own "source" Decode.string
  let timeoutSecs ← Decode.optional place own "timeout_secs" u64 defaultTimeoutSecs
  let expect ← Decode.required place own "expect" Expectation.decode
  let kind ← ProbeKind.decodeFlat place.buffered rest
  pure ⟨source, kind, timeoutSecs, expect⟩

def toJson (p : ProbeSpec) : Json :=
  Json.obj [("source", .string p.source), ("protocol", .string p.kind.protocol),
    ("kind", p.kind.toJson), ("timeout_secs", Json.ofNat p.timeoutSecs),
    ("expect", p.expect.toJson), ("display", .string p.toText)]

end ProbeSpec

namespace ToolConfig

/-- Reads a tool configuration: each member optional, unknown members refused. -/
def decode : Decoder ToolConfig := fun place j => Decode.within place do
  let ms ← Decode.members place "struct ToolConfig" j
  let argv := Decode.items Decode.string
  Decode.visit place (fieldNames.map fun k => (k, Decode.check argv)) true ms
  let d : ToolConfig := {}
  pure ⟨← Decode.optional place ms "wget" argv d.wget,
    ← Decode.optional place ms "ping" argv d.ping,
    ← Decode.optional place ms "tcp_client" argv d.tcpClient,
    ← Decode.optional place ms "udp_client" argv d.udpClient⟩

def toJson (t : ToolConfig) : Json :=
  Json.obj [("wget", Json.ofStrings t.wget), ("ping", Json.ofStrings t.ping),
    ("tcp_client", Json.ofStrings t.tcpClient), ("udp_client", Json.ofStrings t.udpClient)]

end ToolConfig

namespace ProbeOutcome

def toJson (o : ProbeOutcome) : Json :=
  Json.obj [("status", .string o.status.name), ("metric", Expectation.boundJson o.metric)]

end ProbeOutcome

end MudTestbed
