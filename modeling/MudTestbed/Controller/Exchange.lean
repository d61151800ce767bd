import MudTestbed.Json.Value

/-!
# Requests to the controller and what comes back

The controller is reached over HTTP at its RESTCONF root. A `Request` is what the client
sends: the method, the path of the URL in normal form, the JSON body and the credentials. A
`Reply` is what comes back: an answer with a status and a body text, no answer at all (the
connection failed or was closed first), or an answer whose body broke off.

A `Wire` is how a client reaches the controller and keeps time: `exchange` sends a request
and waits for the reply, however long it takes; `exchangeUntil` waits for it until the clock
shows a limit and gives up there; `now` reads a clock in milliseconds and `sleepUntil` waits
until the clock shows a time. The client is written against any wire, so that it runs the
same against a scripted controller on a virtual clock as against a real one.
-/

namespace MudTestbed

/-- The HTTP methods the client uses. -/
inductive Method where
  | put
  | post
  deriving DecidableEq, Repr

def Method.name : Method → String
  | .put => "PUT"
  | .post => "POST"

/-- A request to the controller. -/
structure Request where
  method : Method
  /-- The URL's path in normal form, percent-encoded. -/
  path : String
  body : Json
  user : String
  password : String
  deriving Repr

/-- What came back for a request. -/
inductive Reply where
  /-- An answer with a status and a body text. -/
  | answer (status : Nat) (body : String)
  /-- No answer: nothing listened, or the connection was closed first. -/
  | unanswered
  /-- An answer whose body broke off before its announced length. -/
  | brokenBody
  deriving DecidableEq, Repr

/-- How a client reaches the controller and keeps time, see the module comment. -/
structure Wire (m : Type → Type) where
  exchange : Request → m Reply
  exchangeUntil : Nat → Request → m (Option Reply)
  now : m Nat
  sleepUntil : Nat → m Unit

/-! The operations the controller offers, by their RESTCONF names. -/
namespace Operation

def clearMudRules : String := "sdnmud:clear-mud-rules"
def getQuarantineMacs : String := "sdnmud:get-quarantine-macs"
def unquarantine : String := "sdnmud:unquarantine"
def getMudUrls : String := "sdnmud:get-mud-urls"

end Operation

end MudTestbed
