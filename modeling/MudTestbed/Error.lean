/-!
# Errors of the testbed

`Error` names why an operation failed; `Error.message` holds all the wording. Only a
transport failure is worth retrying locally (`Error.retryable`).
-/

namespace MudTestbed

/-- Why an operation of the testbed failed. -/
inductive Error where
  /-- Building the network failed; the detail says at which step. -/
  | provision (detail : String)
  /-- Two nodes are already linked. -/
  | duplicateLink (a b : String)
  /-- A name that is no node of the right kind. -/
  | unknownEndpoint (name : String)
  /-- A node name used twice. -/
  | duplicateNode (name : String)
  /-- A datapath id pinned by two switches, in its 16-digit form. -/
  | duplicateDatapathId (dpid : String)
  /-- A MAC address given to two hosts. -/
  | duplicateMac (mac : String)
  /-- A link that cannot exist. -/
  | invalidLink (detail : String)
  /-- A configuration that cannot be used. -/
  | invalidConfig (detail : String)
  /-- The controller, or a switch's connection to it, could not be reached. -/
  | controllerUnreachable (detail : String)
  /-- The controller answered with a status outside `2xx`. -/
  | request (status : Nat) (body : String)
  /-- A connection or body-read failure. -/
  | transport (detail : String)
  /-- An answer of the controller that does not have the expected shape. -/
  | protocol (detail : String)
  /-- A probe client that could not be run or whose output is not understood. -/
  | probeSetup (detail : String)
  /-- A policy that did not take effect before its deadline. -/
  | propagationTimeout (detail : String)
  /-- The network backend refused an operation. -/
  | backend (detail : String)
  /-- The network was torn down. -/
  | cancelled
  /-- Reading or writing a file failed. -/
  | io (detail : String)
  deriving DecidableEq, Repr, Inhabited

namespace Error

/-- The text of an error. -/
def message : Error → String
  | provision d => s!"provisioning failed: {d}"
  | duplicateLink a b => s!"link between '{a}' and '{b}' already exists"
  | unknownEndpoint n => s!"unknown endpoint: {n}"
  | duplicateNode n => s!"node '{n}' already exists"
  | duplicateDatapathId d => s!"datapath id {d} is already in use"
  | duplicateMac m => s!"MAC address {m} is assigned to more than one host"
  | invalidLink d => s!"invalid link: {d}"
  | invalidConfig d => s!"invalid configuration: {d}"
  | controllerUnreachable d => s!"controller unreachable: {d}"
  | request s b => s!"controller request failed with status {s}: {b}"
  | transport d => s!"transport error: {d}"
  | protocol d => s!"malformed controller response: {d}"
  | probeSetup d => s!"probe could not be started: {d}"
  | propagationTimeout d => s!"policy did not propagate before the deadline: {d}"
  | backend d => s!"backend error: {d}"
  | cancelled => "operation cancelled"
  | io d => s!"IO error: {d}"

def retryable : Error → Bool
  | transport _ => true
  | _ => false

theorem retryable_iff (e : Error) : e.retryable = true ↔ ∃ d, e = transport d := by
  cases e <;> simp [retryable]

end Error

end MudTestbed
