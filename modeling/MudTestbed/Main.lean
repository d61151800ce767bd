import MudTestbed.Cli.Run

/-!
# The `mudnet` command

Runs the testbed's command line against the files and environment variables of the
process, and writes the outcome's texts to the output and error streams.
-/

namespace MudTestbed

namespace Cli

def errorNumber (code : UInt32) : Nat :=
  if code.toNat ≥ 0x80000000 then 0x100000000 - code.toNat else code.toNat

/-- The description of an error number as the C library words it. -/
def describeError (number : Nat) (details : String) : String :=
  match number with
  | 2 => "No such file or directory"
  | 13 => "Permission denied"
  | 20 => "Not a directory"
  | 21 => "Is a directory"
  | _ => String.ofList (match details.toList with
    | c :: cs => c.toUpper :: cs
    | [] => [])

/-- The code and words of a failed file operation, if the system gave them. -/
def systemError? (e : IO.Error) : Option (UInt32 × String) :=
  match e with
  | .alreadyExists _ code details => some (code, details)
  | .otherError code details => some (code, details)
  | .resourceBusy code details => some (code, details)
  | .resourceVanished code details => some (code, details)
  | .unsupportedOperation code details => some (code, details)
  | .hardwareFault code details => some (code, details)
  | .unsatisfiedConstraints code details => some (code, details)
  | .illegalOperation code details => some (code, details)
  | .protocolError code details => some (code, details)
  | .timeExpired code details => some (code, details)
  | .interrupted _ code details => some (code, details)
  | .noFileOrDirectory _ code details => some (code, details)
  | .invalidArgument _ code details => some (code, details)
  | .permissionDenied _ code details => some (code, details)
  | .resourceExhausted _ code details => some (code, details)
  | .inappropriateType _ code details => some (code, details)
  | .noSuchThing _ code details => some (code, details)
  | _ => none

/-- The text of a failed file operation: its description and error number. -/
def systemErrorText (e : IO.Error) : String :=
  match systemError? e with
  | some (code, details) =>
    let number := errorNumber code
    let text := describeError number details
    s!"{text} (os error {number})"
  | none => toString e

def readDirectory (e : IO.Error) : Bool :=
  match systemError? e with
  | some (code, _) => errorNumber code == 21
  | none => false

/-- The files and environment variables of the running process. -/
def processEnvironment : Environment IO where
  kind path := do
    match ← (IO.FS.readFile path).toBaseIO with
    | .ok _ => pure .file
    | .error e => pure (if readDirectory e then .directory else .missing)
  read path := do
    match ← (IO.FS.readFile path).toBaseIO with
    | .ok text => pure (.ok text)
    | .error e => pure (.error (systemErrorText e))
  setting name := IO.getEnv name

end Cli

end MudTestbed

/-- Runs the command line and exits with its status. -/
def main (args : List String) : IO UInt32 := do
  let outcome ← MudTestbed.Cli.run MudTestbed.Cli.processEnvironment args
  let out ← IO.getStdout
  out.putStr outcome.out
  out.flush
  let err ← IO.getStderr
  err.putStr outcome.err
  err.flush
  pure outcome.status.toUInt32
