import MudTestbed.Cli.Help
import MudTestbed.Text.Similar
import MudTestbed.Text.Split
import MudTestbed.Text.Numeral
import MudTestbed.Address.Mac
import MudTestbed.Net.Socket
import MudTestbed.Scenario.Files

/-!
# Reading a command line

`Cli.parse` reads the words of a command line against a `Program`: the options and
arguments of the program itself, a subcommand, then the subcommand's own. It gives the
subcommand to run with the arguments given, or a `Stop`: a text to show (help, version) or
a usage error.

Words are read in order.

* A subcommand name ends the program's words; `help` shows the help of the subcommands
  named after it. After `--` every word is positional.
* `--name` and `--name=value` give an option; `-abc` gives short flags, the last of which
  may take the rest of the word, or the next word, as its value.
* Any other word is the value an option waits for, else the next positional argument.

An argument's values are checked when it is complete: at the next option or positional
argument, at a subcommand, or at the end. A value that is refused stops reading, but an
unknown argument found later is reported instead, and the refused argument then counts as
given. A flag or single-valued option may be given once; a counted flag counts.

At the end of a command's words, options not given take the values of their environment
variables, then their defaults, and required arguments must have been given. The values of
global options given to the subcommand win over those given to the program, unless the
program's came from the command line and the subcommand's from the environment.

Errors read `error: MESSAGE`, then tips, the usage of the command line, and a pointer to
`--help`; unknown words are compared with the known names (`Text.similar`) for a tip.
-/

namespace MudTestbed

namespace Cli

/-- What a command line is read against: path kinds, file texts and environment variables. -/
structure Environment (m : Type → Type) where
  kind : String → m FileStore.PathKind
  read : String → m (Except String String)
  setting : String → m (Option String)

def Environment.ofStore (s : FileStore) : Environment Id :=
  ⟨fun p => pure (s.kind p), fun p => pure (s.read p), fun _ => pure none⟩

/-- Why reading a command line ends without a subcommand to run. -/
inductive Stop where
  /-- A text for the output stream, after which the program succeeds: help or version. -/
  | inform (text : String)
  /-- A text for the error stream, after which the program fails with status 2. -/
  | reject (text : String)
  deriving DecidableEq, Repr

/-- Where the values of an argument came from; the command line ranks highest. -/
inductive Source where
  | byDefault
  | environment
  | commandLine
  deriving DecidableEq, Repr

def Source.rank : Source → Nat
  | .byDefault => 0
  | .environment => 1
  | .commandLine => 2

/-- An argument given, with its values. -/
structure Given where
  id : String
  values : List String
  source : Source := .commandLine
  deriving DecidableEq, Repr

namespace Given

def explicit (g : Given) : Bool := g.source != .byDefault

def present (given : List Given) (id : String) : Bool := given.any (·.id == id)

def erase (given : List Given) (id : String) : List Given := given.filter (·.id != id)

def start (given : List Given) (a : Arg) : List Given :=
  if present given a.id then given else given ++ [⟨a.id, [], .commandLine⟩]

def addValue (given : List Given) (id v : String) : List Given :=
  given.map fun g => if g.id == id then { g with values := g.values ++ [v] } else g

end Given

/-- What reading one command's words needs: the program, the level and the variables set. -/
structure Context where
  program : Program
  level : Level
  settings : List (String × String)
  atTop : Bool

/-- The state of reading one command's words. -/
structure Reading where
  given : List Given := []
  /-- The argument whose values are being collected, with them. -/
  pending : Option (Arg × List String) := none
  /-- The option whose value the next word is. -/
  expecting : Option Arg := none
  /-- The index of the next positional argument. -/
  position : Nat := 0
  /-- Whether `--` was read. -/
  trailing : Bool := false

/-- A usage error: message, tips and usage, see the module comment. -/
def failure (message : String) (tips : List String) (usage : Option String) : Stop :=
  let tipText := if tips.isEmpty then "" else "\n" ++ String.join (tips.map fun t => "\n  tip: " ++ t)
  let usageText := match usage with
    | some u => "\n\nUsage: " ++ u
    | none => ""
  .reject ("error: " ++ message ++ tipText ++ usageText ++ "\n\nFor more information, try '--help'.\n")

def similarTip (what : String) : List String → List String
  | [] => []
  | [x] => [s!"a similar {what} exists: '{x}'"]
  | xs => [s!"some similar {what}s exist: " ++ ", ".intercalate (xs.map fun x => s!"'{x}'")]

def invalidValue (a : Arg) (v reason : String) : Stop :=
  failure s!"invalid value '{v}' for '{a.display}': {reason}" [] none

def emptyValue (a : Arg) : Stop :=
  failure s!"a value is required for '{a.display}' but none was supplied" [] none

def usedTwice (l : Level) (a : Arg) : Stop :=
  failure s!"the argument '{a.display}' cannot be used multiple times" [] (some l.fullUsage)

/-- Why a text is not an unsigned 64-bit number, in the words of the standard reader. -/
def unsignedError (v : String) : Option String :=
  let digits := match v.toList with
    | '+' :: rest => rest
    | cs => cs
  if v.isEmpty then some "cannot parse integer from empty string"
  else if digits.isEmpty || !digits.all Char.isDigit then some "invalid digit found in string"
  else if (Text.digitsValue? 10 digits).getD 0 ≥ 0x10000000000000000 then some "number too large to fit in target type"
  else none

def usedOptional (l : Level) (given : List Given) : List String :=
  ((given.filter Given.explicit).map (·.id)).filter fun i => !((l.find? i).any (·.required))

section Reading

variable {m : Type → Type} [Monad m]

/-- Checks a value of an argument against its kind. -/
def checkValue (env : Environment m) (a : Arg) (v : String) : m (Option Stop) := do
  match a.kind with
  | .text => pure none
  | .path => pure (if v.isEmpty then some (emptyValue a) else none)
  | .existingFile =>
    match ← env.kind v with
    | .file => pure none
    | .directory => pure (some (invalidValue a v s!"not a file: {v}"))
    | .missing => pure (some (invalidValue a v s!"file not found: {v}"))
  | .ipAddr =>
    pure (if (IpAddr.parse? v).isSome then none else some (invalidValue a v "invalid IP address syntax"))
  | .macAddr =>
    pure (match MacAddr.parse v with
      | .ok _ => none
      | .error e => some (invalidValue a v e.message))
  | .unsigned => pure ((unsignedError v).map (invalidValue a v))

/-- Adds checked values to an argument, stopping at the first refused one. -/
def pushValues (env : Environment m) (a : Arg) (given : List Given) :
    List String → m (List Given × Option Stop)
  | [] => pure (given, none)
  | v :: vs => do
    match ← checkValue env a v with
    | some e => pure (given, some e)
    | none => pushValues env a (Given.addValue given a.id v) vs

/-- Gives an argument its values, see the module comment. -/
def apply (env : Environment m) (ctx : Context) (given : List Given) (a : Arg)
    (values : List String) : m (List Given × Option Stop) := do
  let l := ctx.level
  match a.action with
  | .help => pure (given, some (.inform (l.helpText ctx.settings)))
  | .version => pure (given, some (.inform s!"{ctx.program.name} {ctx.program.version}\n"))
  | .flag =>
    if Given.present given a.id then pure (Given.erase given a.id, some (usedTwice l a))
    else pure (given ++ [⟨a.id, ["true"], .commandLine⟩], none)
  | .count =>
    let n := ((given.find? (·.id == a.id)).bind fun g => g.values.head?.bind String.toNat?).getD 0
    pure (Given.erase given a.id ++ [⟨a.id, [toString (min 255 (n + 1))], .commandLine⟩], none)
  | .single =>
    if values.isEmpty then pure (given, some (emptyValue a))
    else if Given.present given a.id then pure (Given.erase given a.id, some (usedTwice l a))
    else pushValues env a (Given.start given a) values
  | .multiple =>
    if values.isEmpty then pure (given, some (emptyValue a))
    else pushValues env a (Given.start given a) values

/-- Completes the argument collecting values, giving the error that stopped it. -/
def settle (env : Environment m) (ctx : Context) (st : Reading) : m (Reading × Option Stop) := do
  match st.pending with
  | none => pure (st, none)
  | some (a, vs) =>
    let (given, err) ← apply env ctx st.given a vs
    pure ({ st with given, pending := none }, err)

def settleOrStop (env : Environment m) (ctx : Context) (st : Reading) : ExceptT Stop m Reading := do
  let (st, err) ← settle (m := m) env ctx st
  match err with
  | some e => throw e
  | none => pure st

/-- Completes the argument collecting values, then gives another its values. -/
def react (env : Environment m) (ctx : Context) (st : Reading) (a : Arg) (values : List String) :
    ExceptT Stop m Reading := do
  let st ← settleOrStop env ctx st
  let (given, err) ← apply (m := m) env ctx st.given a values
  match err with
  | some e => throw e
  | none => pure { st with given }

end Reading

/-- The error of an unknown long option `--name`, with a similar option as a tip. -/
def unknownLong (ctx : Context) (given : List Given) (trailing : Bool) (name : String)
    (rest : List String) : Stop :=
  let l := ctx.level
  let here := (Text.similar name l.longs).getLast?
  let elsewhere : Option (String × String) :=
    if here.isSome || !ctx.atTop then none
    else
      let scored := ctx.program.commands.filterMap fun c =>
        match (Text.similar name (ctx.program.levelOf c).longs).getLast?, rest.findIdx? (· == c.name) with
        | some flag, some pos => some (pos, flag, c.name)
        | _, _ => none
      let best := scored.foldl (fun best x => match best with
        | some b => if x.1 < b.1 then some x else some b
        | none => some x) none
      best.map fun (_, flag, sub) => (flag, sub)
  let given := match here.bind l.findLong? with
    | some a => Given.start given a
    | none => given
  let passTip :=
    if here.isNone && elsewhere.isNone && !trailing && !l.positionals.isEmpty then
      [s!"to pass '--{name}' as a value, use '-- --{name}'"]
    else []
  let tips := (here.map fun f => s!"a similar argument exists: '--{f}'").toList ++ passTip ++
    (elsewhere.map fun (f, sub) => s!"'{sub} --{f}' exists").toList
  failure s!"unexpected argument '--{name}' found" tips (some (l.usageWith (usedOptional l given)))

/-- The error of a word that no argument takes. -/
def strayWord (l : Level) (trailing : Bool) (w : String) : Stop :=
  if trailing && l.commands.contains w then
    failure "unexpected argument '--' found"
      [s!"subcommand '{w}' exists; to use it, remove the '--' before it"] (some l.fullUsage)
  else
    let flagLike := w.startsWith "-" && w != "-" && w != "--"
    let passable := !trailing && !l.positionals.isEmpty && flagLike
    let candidates := Text.similar w l.commands
    if !candidates.isEmpty then
      let passTip := if passable then [s!"to pass '{w}' as a value, use '{l.usageName} -- {w}'"] else []
      failure s!"unrecognized subcommand '{w}'" (similarTip "subcommand" candidates ++ passTip)
        (some l.fullUsage)
    else if !l.commands.isEmpty && l.positionals.isEmpty then
      failure s!"unrecognized subcommand '{w}'" [] (some l.fullUsage)
    else
      let passTip := if passable then [s!"to pass '{w}' as a value, use '-- {w}'"] else []
      failure s!"unexpected argument '{w}' found" passTip (some l.fullUsage)

def missingCommand (l : Level) (name : String) : Stop :=
  let names := ", ".intercalate l.commands
  failure s!"'{name}' requires a subcommand but one was not provided\n  [subcommands: {names}]" []
    (some l.fullUsage)

/-- The error of required arguments not given, if any. -/
def missingRequired (l : Level) (given : List Given) : Option Stop :=
  let missing := l.args.filter fun a => a.required && !Given.present given a.id
  if missing.isEmpty then none
  else
    let used := (given.filter Given.explicit).map (·.id) ++ missing.map (·.id)
    let lines := String.join (missing.map fun a => "\n  " ++ a.display)
    some (failure ("the following required arguments were not provided:" ++ lines) []
      (some (l.usageWith used)))

/-- What the `help` subcommand shows for the subcommands named after it. -/
def helpFor (ctx : Context) (words : List String) : Stop :=
  let p := ctx.program
  match words with
  | [] => .inform (ctx.level.helpText ctx.settings)
  | w :: rest =>
    let target := if w == "help" then some p.helpLevel
      else (p.commands.find? (·.name == w)).map p.levelOf
    match target, rest with
    | none, _ => failure s!"unrecognized subcommand '{w}'" [] (some ctx.level.fullUsage)
    | some l, [] => .inform (l.helpText ctx.settings)
    | some l, x :: _ => failure s!"unrecognized subcommand '{x}'" [] (some l.fullUsage)

section Reading

variable {m : Type → Type} [Monad m]

/-- Reads the short flags of one word, see the module comment. -/
def readShorts (env : Environment m) (ctx : Context) (st : Reading) : List Char → ExceptT Stop m Reading
  | [] => pure st
  | c :: cs => do
    match ctx.level.findShort? c with
    | none =>
      let _ ← settle (m := m) env ctx st
      let l := ctx.level
      let passTip := if !st.trailing && !l.positionals.isEmpty then
        [s!"to pass '-{c}' as a value, use '-- -{c}'"] else []
      throw (failure s!"unexpected argument '-{c}' found" passTip (some l.fullUsage))
    | some a =>
      if !a.takesValue then
        let st ← react env ctx st a []
        readShorts env ctx { st with expecting := none } cs
      else if cs.isEmpty then
        let st ← settleOrStop env ctx st
        pure { st with pending := some (a, []), expecting := some a }
      else
        let attached := match cs with
          | '=' :: v => v
          | v => v
        let st ← react env ctx st a [String.ofList attached]
        pure { st with expecting := none }

/-- Reads the words of one command up to a subcommand name, see the module comment. -/
def readWords (env : Environment m) (ctx : Context) :
    Reading → List String → ExceptT Stop m (Reading × Option (String × List String))
  | st, [] => pure (st, none)
  | st, w :: rest => do
    let l := ctx.level
    if !st.trailing then
      if l.commands.contains w then return (st, some (w, rest))
      if w == "--" then return ← readWords env ctx { st with trailing := true } rest
      if w.startsWith "--" then
        let body := String.ofList (w.toList.drop 2)
        let (name, attached) := match Text.splitOnce '=' body with
          | some (n, v) => (n, some v)
          | none => (body, none)
        match l.findLong? name, attached with
        | none, _ =>
          let (st', _) ← settle (m := m) env ctx st
          throw (unknownLong ctx st'.given st.trailing name rest)
        | some a, some v =>
          if a.takesValue then
            let st ← react env ctx st a [v]
            return ← readWords env ctx { st with expecting := none } rest
          else
            let used := usedOptional l st.given ++ [a.id]
            let _ ← settle (m := m) env ctx st
            throw (failure s!"unexpected value '{v}' for '{a.display}' found; no more were expected" []
              (some (l.usageWith used)))
        | some a, none =>
          if a.takesValue then
            let st ← settleOrStop env ctx st
            return ← readWords env ctx { st with pending := some (a, []), expecting := some a } rest
          else
            let st ← react env ctx st a []
            return ← readWords env ctx { st with expecting := none } rest
      if w.startsWith "-" && w != "-" then
        let st ← readShorts env ctx st (w.toList.drop 1)
        return ← readWords env ctx st rest
      if st.expecting.isSome then
        let pending := st.pending.map fun (a, vs) => (a, vs ++ [w])
        return ← readWords env ctx { st with pending, expecting := none } rest
    match l.positionals[st.position]? with
    | some a =>
      let st ← settleOrStop env ctx st
      let next := st.position + 1
      readWords env ctx { st with pending := some (a, [w]), position := next, expecting := none } rest
    | none =>
      let _ ← settle (m := m) env ctx st
      throw (strayWord l st.trailing w)

/-- Gives the options not given the values of their environment variables, then defaults. -/
def addSettings (env : Environment m) (ctx : Context) (given : List Given) :
    ExceptT Stop m (List Given) := do
  let mut given := given
  for a in ctx.level.args do
    if Given.present given a.id then continue
    match a.env.bind (fun n => ctx.settings.lookup n) with
    | some v =>
      let (g, err) ← pushValues (m := m) env a (given ++ [⟨a.id, [], .environment⟩]) [v]
      if let some e := err then throw e
      given := g
    | none => pure ()
  for a in ctx.level.args do
    if Given.present given a.id then continue
    if let some d := a.default then given := given ++ [⟨a.id, [d], .byDefault⟩]
  pure given

end Reading

/-- The arguments of a subcommand with the program's global options. -/
def mergeGlobals (p : Program) (top sub : List Given) : List Given :=
  let globals := (p.args.filter (·.global)).map (·.id)
  let keepTop (g : Given) : Bool := globals.contains g.id &&
    match sub.find? (·.id == g.id) with
    | none => true
    | some s => s.source.rank < g.source.rank
  let kept := top.filter keepTop
  sub.filter (fun s => !kept.any (·.id == s.id)) ++ kept

/-- A subcommand to run, with its arguments. -/
structure Invocation where
  command : String
  given : List Given
  deriving DecidableEq, Repr

namespace Invocation

def values (i : Invocation) (id : String) : List String :=
  ((i.given.find? (·.id == id)).map (·.values)).getD []

def value? (i : Invocation) (id : String) : Option String := (i.values id).head?

def flag (i : Invocation) (id : String) : Bool := Given.present i.given id

end Invocation

/-- Reads a command line, see the module comment. -/
def parse {m : Type → Type} [Monad m] (env : Environment m) (p : Program) (words : List String) :
    ExceptT Stop m Invocation := do
  let names := (p.top.args ++ p.commands.flatMap (·.args)).filterMap (·.env)
  let settings ← names.filterMapM fun n => do pure ((← env.setting n).map fun v => (n, v))
  let topCtx : Context := ⟨p, p.top, settings, true⟩
  let (st, sub) ← readWords env topCtx {} words
  match sub with
  | some (name, rest) =>
    if name == "help" then throw (helpFor topCtx rest)
    let st ← settleOrStop env topCtx st
    match p.commands.find? (·.name == name) with
    | none => throw (missingCommand p.top p.name)
    | some c =>
      let subCtx : Context := ⟨p, p.levelOf c, settings, false⟩
      let (subSt, _) ← readWords env subCtx {} rest
      let subSt ← settleOrStop env subCtx subSt
      let subGiven ← addSettings env subCtx subSt.given
      if let some e := missingRequired subCtx.level subGiven then throw e
      let topGiven ← addSettings env topCtx st.given
      pure ⟨name, mergeGlobals p topGiven subGiven⟩
  | none =>
    let st ← settleOrStop env topCtx st
    let given ← addSettings env topCtx st.given
    if (given.filter Given.explicit).isEmpty then throw (.reject (p.top.helpText settings))
    throw (missingCommand p.top p.name)

end Cli

end MudTestbed
