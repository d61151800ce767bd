import MudTestbed.Probe.Spec
import MudTestbed.Error
import MudTestbed.Binary64.Read
import MudTestbed.Text.Blank
import MudTestbed.Text.Case
import MudTestbed.Text.Numeral

/-!
# Classifying probe client output

A `CommandOutput` is what a command run in a host left behind: its exit status (`none` when
a signal ended it) and its two streams. Its `combined` text is stdout when stderr is empty,
stderr when stdout is empty, and otherwise stdout without trailing blanks, a line feed and
stderr.

`classify` first checks that the client ran at all: status 126 or 127, status 255 with
`exec of` in the text, or `command not found` anywhere mean it did not, and that is a
`probeSetup` error quoting the first nonblank line. Then each protocol reads its outcome:

* http: completed on status 0 or when the text has both `100%` and `saved`; then timed out
  on `timed out` or `Read error`; then an error on status 4 or 8 or on one of the network
  error phrases.
* tcp: completed when a line trims to `OK`; then, in the lowercased text, timed out on
  `timed out` or `timeout`, and an error on `refused`, `unreachable`, `no route to host` or
  `reset by peer`.
* udp: the reply count between the first `[rc=` and the next `]`; zero replies time out,
  others complete; the count is the metric.
* icmp: the packet loss percentage of the first line holding `% packet loss`; 100 or more
  times out, anything else that reads as a number completes; without a readable
  percentage, `Network is unreachable` is an error with metric 100.

Output no protocol recognises is a `probeSetup` error naming the status and the first
nonblank line.
-/

namespace MudTestbed

/-- What a command run in a host left behind. -/
structure CommandOutput where
  /-- The exit status, `none` when a signal ended the command. -/
  status : Option Int
  stdout : String
  stderr : String
  deriving DecidableEq, Repr

namespace CommandOutput

def ok (stdout : String) : CommandOutput := ⟨some 0, stdout, ""⟩

def failed (status : Int) (stderr : String) : CommandOutput := ⟨some status, "", stderr⟩

def success (o : CommandOutput) : Bool := o.status == some 0

def combined (o : CommandOutput) : String :=
  if o.stderr.isEmpty then o.stdout
  else if o.stdout.isEmpty then o.stderr
  else Text.trimEnd o.stdout ++ "\n" ++ o.stderr

def statusText (o : CommandOutput) : String :=
  match o.status with
  | some n => s!"Some({n})"
  | none => "None"

end CommandOutput

namespace Text

/-- Whether `needle` occurs in `s`. -/
def contains (s needle : String) : Bool :=
  let n := needle.toList
  let rec go : List Char → Bool
    | [] => n.isEmpty
    | c :: rest => n.isPrefixOf (c :: rest) || go rest
  go s.toList

def firstLine (s : String) : String :=
  ((lines s).map trim |>.find? (!·.isEmpty)).getD "<no output>"

end Text

namespace Probe

/-- Whether the output shows that the client never started. -/
def notStarted (o : CommandOutput) : Bool :=
  let text := o.combined
  (match o.status with
    | some 126 | some 127 => true
    | some 255 => Text.contains text "exec of"
    | _ => false) || Text.contains text "command not found"

def unrecognized (o : CommandOutput) : Error :=
  .probeSetup s!"unrecognized client output (status {o.statusText}): {Text.firstLine o.combined}"

def httpNetworkErrors : List String :=
  ["Connection refused", "No route to host", "Network is unreachable",
    "unable to resolve host address", "Connection reset"]

/-- Classifies the output of the HTTP client. -/
def classifyHttp (o : CommandOutput) : Except Error ProbeOutcome :=
  let text := o.combined
  if o.success || (Text.contains text "100%" && Text.contains text "saved") then
    .ok ⟨.completed, none⟩
  else if Text.contains text "timed out" || Text.contains text "Read error" then
    .ok ⟨.timedOut, none⟩
  else if o.status == some 4 || o.status == some 8 ||
      httpNetworkErrors.any (Text.contains text) then
    .ok ⟨.error, none⟩
  else .error (unrecognized o)

/-- Classifies the output of the TCP client. -/
def classifyTcp (o : CommandOutput) : Except Error ProbeOutcome :=
  let text := o.combined
  if (Text.lines text).any (Text.trim · == "OK") then .ok ⟨.completed, none⟩
  else
    let lower := Text.lower text
    if Text.contains lower "timed out" || Text.contains lower "timeout" then
      .ok ⟨.timedOut, none⟩
    else if ["refused", "unreachable", "no route to host", "reset by peer"].any
        (Text.contains lower) then
      .ok ⟨.error, none⟩
    else .error (unrecognized o)

/-- The text after the first occurrence of `needle`. -/
def after (s needle : String) : Option (List Char) :=
  let n := needle.toList
  let rec go : List Char → Option (List Char)
    | [] => none
    | c :: rest => if n.isPrefixOf (c :: rest) then some ((c :: rest).drop n.length) else go rest
  go s.toList

def replyCount (text : String) : Option Nat := do
  let rest ← after text "[rc="
  let i ← rest.idxOf? ']'
  Text.parseNat? 10 (0x100000000 - 1) (Text.trim (String.ofList (rest.take i)))

def classifyUdp (o : CommandOutput) : Except Error ProbeOutcome :=
  match replyCount o.combined with
  | some 0 => .ok ⟨.timedOut, some (Binary64.ofNat 0)⟩
  | some n => .ok ⟨.completed, some (Binary64.ofNat n)⟩
  | none => .error (unrecognized o)

/-- The number before `%` in a line holding `% packet loss`. -/
def lossOfLine (line : List Char) : Option (Option Binary64) :=
  let marker := "% packet loss".toList
  let rec find : List Char → List Char → Option (List Char)
    | [], _ => none
    | c :: rest, before =>
      if marker.isPrefixOf (c :: rest) then some before.reverse else find rest (c :: before)
  match find line [] with
  | none => none
  | some before =>
    let number := (before.reverse.takeWhile fun c => c ≠ ' ' ∧ c ≠ ',').reverse
    some (Binary64.ofString? (String.ofList number))

def packetLoss (text : String) : Option Binary64 :=
  match (Text.lines text).findSome? fun l => lossOfLine l.toList with
  | some loss => loss
  | none => none

/-- Classifies the output of the ICMP client. -/
def classifyIcmp (o : CommandOutput) : Except Error ProbeOutcome :=
  let text := o.combined
  match packetLoss text with
  | some loss =>
    if (Binary64.ofNat 100).le loss then .ok ⟨.timedOut, some loss⟩
    else .ok ⟨.completed, some loss⟩
  | none =>
    if Text.contains text "Network is unreachable" then .ok ⟨.error, some (Binary64.ofNat 100)⟩
    else .error (unrecognized o)

/-- Classifies a probe client's output, see the module comment. -/
def classify (kind : ProbeKind) (o : CommandOutput) : Except Error ProbeOutcome :=
  if notStarted o then
    .error (.probeSetup s!"client did not run: {Text.firstLine o.combined}")
  else match kind with
    | .http .. => classifyHttp o
    | .tcp .. => classifyTcp o
    | .udp .. => classifyUdp o
    | .icmp .. => classifyIcmp o

end Probe

end MudTestbed
