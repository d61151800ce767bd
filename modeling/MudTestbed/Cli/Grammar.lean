/-!
# Command-line grammars

A `Program` has options of its own and subcommands; each `Command` has options and
positional arguments. An `Arg` is an option when it has a long or a short name, else a
positional argument. Options marked global belong to every subcommand too, after the
subcommand's own arguments; every command also has `-h`/`--help`, and the program
`-V`/`--version`.

An argument is written in messages as `--long <NAME>` (or `-s` without a long name), a
counted flag as `--long...`, and a positional argument as `<NAME>`; the value name is the
argument's id in capitals.

Usages list what a command line needs. The full usage of a command is its name, `[OPTIONS]`
when it has options, and its positional arguments; the usage of a command line in an error
lists the options used or required, then the positional arguments used or required by
position.
-/

namespace MudTestbed

namespace Cli

/-- What giving an argument does. -/
inductive Action where
  /-- Sets a flag; it may be given once. -/
  | flag
  /-- Counts how often it is given. -/
  | count
  /-- Takes one value; it may be given once. -/
  | single
  /-- Takes one value each time it is given. -/
  | multiple
  /-- Shows the help of the command. -/
  | help
  /-- Shows the version of the program. -/
  | version
  deriving DecidableEq, Repr

/-- What a value must be. -/
inductive ValueKind where
  | text
  /-- A non-empty path. -/
  | path
  /-- The path of an existing file. -/
  | existingFile
  | ipAddr
  | macAddr
  /-- An unsigned 64-bit number. -/
  | unsigned
  deriving DecidableEq, Repr

/-- An option or positional argument. -/
structure Arg where
  id : String
  long : Option String := none
  short : Option Char := none
  action : Action
  kind : ValueKind := .text
  required : Bool := false
  global : Bool := false
  help : String := ""
  /-- Where the argument stands in help, before the name decides. -/
  order : Nat := 999
  /-- The environment variable shown in help. -/
  env : Option String := none
  /-- The value used when the argument is not given, shown in help. -/
  default : Option String := none
  deriving DecidableEq, Repr

namespace Arg

def positional (a : Arg) : Bool := a.long.isNone && a.short.isNone

def takesValue (a : Arg) : Bool := a.action == .single || a.action == .multiple

def valueName (a : Arg) : String := String.ofList (a.id.toList.map Char.toUpper)

def suffix (a : Arg) : String :=
  if a.takesValue then s!" <{a.valueName}>"
  else if a.action == .count then "..."
  else ""

/-- The argument as messages write it, see the module comment. -/
def display (a : Arg) : String :=
  if a.positional then
    let name := if a.required then s!"<{a.valueName}>" else s!"[{a.valueName}]"
    if a.action == .multiple then name ++ "..." else name
  else
    match a.long, a.short with
    | some l, _ => s!"--{l}{a.suffix}"
    | none, some s => s!"-{s}{a.suffix}"
    | none, none => a.suffix

def helpFlag : Arg := ⟨"help", some "help", some 'h', .help, .text, false, false, "Print help", 999, none, none⟩

def versionFlag : Arg :=
  ⟨"version", some "version", some 'V', .version, .text, false, false, "Print version", 999, none, none⟩

end Arg

/-- A subcommand: its name, what it does, and its own arguments. -/
structure Command where
  name : String
  about : String
  args : List Arg
  deriving DecidableEq, Repr

/-- A program: its name, version, description, options and subcommands. -/
structure Program where
  name : String
  version : String
  about : String
  args : List Arg
  commands : List Command
  deriving DecidableEq, Repr

/-- The part of a command line one command reads: its name, help, arguments and subcommands. -/
structure Level where
  /-- The name usages give, such as `prog sub`. -/
  usageName : String
  about : String
  args : List Arg
  /-- The subcommands with what they do, empty below the top. -/
  subcommands : List (String × String)
  deriving DecidableEq, Repr

namespace Program

def ownArgs (p : Program) : List Arg := p.args ++ [Arg.helpFlag, Arg.versionFlag]

def helpAbout : String := "Print this message or the help of the given subcommand(s)"

def subcommands (p : Program) : List (String × String) :=
  p.commands.map (fun c => (c.name, c.about)) ++ [("help", helpAbout)]

def top (p : Program) : Level := ⟨p.name, p.about, p.ownArgs, p.subcommands⟩

def levelOf (p : Program) (c : Command) : Level :=
  ⟨s!"{p.name} {c.name}", c.about, c.args ++ p.args.filter (·.global) ++ [Arg.helpFlag], []⟩

def helpLevel (p : Program) : Level :=
  ⟨s!"{p.name} help", helpAbout,
    [{ id := "command", action := .multiple, help := "Print help for the subcommand(s)" }], []⟩

end Program

namespace Level

def commands (l : Level) : List String := l.subcommands.map (·.1)

def find? (l : Level) (id : String) : Option Arg := l.args.find? (·.id == id)

def findLong? (l : Level) (name : String) : Option Arg := l.args.find? (·.long == some name)

def findShort? (l : Level) (c : Char) : Option Arg := l.args.find? (·.short == some c)

def longs (l : Level) : List String := l.args.filterMap (·.long)

def options (l : Level) : List Arg := l.args.filter fun a => !a.positional

def positionals (l : Level) : List Arg := l.args.filter (·.positional)

def hasOptionsTag (l : Level) : Bool :=
  l.options.any fun a => a.id != "help" && a.id != "version" && !a.required

def fullUsage (l : Level) : String :=
  let opts := if l.hasOptionsTag then " [OPTIONS]" else ""
  let poss := String.join (l.positionals.map fun a => " " ++ a.display)
  let cmd := if l.commands.isEmpty then "" else " <COMMAND>"
  l.usageName ++ opts ++ poss ++ cmd

def addNew (names : List String) (n : String) : List String :=
  if names.contains n then names else names ++ [n]

/-- The arguments a usage line lists: options by first mention, then positionals. -/
def usageArgs (l : Level) (used present : List String) : List String :=
  let ids := ((l.args.filter (·.required)).map (·.id) ++ used).foldl addNew []
  let ids := ids.filter fun i => !present.contains i
  let opts := ids.filterMap fun i => (l.find? i).bind fun a => if a.positional then none else some a.display
  let poss := l.positionals.filterMap fun a => if ids.contains a.id then some a.display else none
  opts ++ poss

def usageWith (l : Level) (used : List String) : String :=
  if used.isEmpty then l.fullUsage
  else
    let cmd := if l.commands.isEmpty then "" else " <COMMAND>"
    l.usageName ++ String.join ((l.usageArgs used []).map (" " ++ ·)) ++ cmd

end Level

end Cli

end MudTestbed
