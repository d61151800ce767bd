import MudTestbed.Cli.Grammar

/-!
# Help texts

The help of a command is what it does, its full usage, then its sections: `Commands`,
`Arguments` and `Options`, each only when it has entries, separated by a blank line.

* Subcommands are listed in order, their names padded to two more than the longest.
* Positional arguments are listed by position in the same way.
* Options are listed by their display order, then by short name (lower case first) or else
  long name. An option's help is followed by its environment variable, with the value it
  has, and its default value.
* A section whose entries do not all fit in one line of 100 columns puts every help text on
  a line of its own, indented by ten columns. An entry fits unless its names take more than
  40 columns and its help is longer than what remains of the line.
-/

namespace MudTestbed

namespace Cli

def lineWidth : Nat := 100

def blanks (n : Nat) : String := String.ofList (List.replicate n ' ')

def entryWraps (taken helpWidth : Nat) : Bool :=
  lineWidth ≥ taken && taken > 40 && helpWidth > lineWidth - taken

namespace Arg

/-- The values shown after an argument's help: its environment variable and its default. -/
def specs (a : Arg) (settings : List (String × String)) : List String :=
  let env := a.env.map fun n =>
    let value := (settings.lookup n).getD ""
    s!"[env: {n}={value}]"
  let dflt := a.default.map fun d => s!"[default: {d}]"
  [env, dflt].filterMap fun x => x

def helpWithSpecs (a : Arg) (settings : List (String × String)) : String :=
  let specs := " ".intercalate (a.specs settings)
  if specs.isEmpty then a.help
  else if a.help.isEmpty then specs
  else a.help ++ " " ++ specs

def helpWidth (a : Arg) (settings : List (String × String)) : Nat :=
  a.help.length + (" ".intercalate (a.specs settings)).length

/-- The names of an option as help lists them, then the suffix. -/
def names (a : Arg) : String :=
  let short := match a.short, a.long with
    | some s, some _ => s!"-{s}, "
    | some s, none => s!"-{s}"
    | none, some _ => "    "
    | none, none => ""
  short ++ ((a.long.map ("--" ++ ·)).getD "") ++ a.suffix

/-- The key options are listed by: display order, short name, then long name. -/
def sortKey (a : Arg) : Nat × String :=
  let key := match a.short, a.long with
    | some s, _ => String.ofList [s.toLower, if s.isLower then '0' else '1']
    | none, some l => l
    | none, none => "\x7b" ++ a.id
  (a.order, key)

end Arg

def sortsBefore (x y : Arg) : Bool :=
  let (a, s) := x.sortKey
  let (b, t) := y.sortKey
  a < b || (a == b && decide (s ≤ t))

def entryLines (nextLine : Bool) (longest : Nat) (entries : List (String × String)) : String :=
  "\n".intercalate <| entries.map fun (n, h) =>
    if nextLine then s!"  {n}\n          {h}"
    else s!"  {n}{blanks (longest + 2 - n.length)}{h}"

namespace Level

/-- The `Commands` section. -/
def commandsSection (l : Level) : Option String :=
  if l.subcommands.isEmpty then none
  else
    let longest := l.subcommands.foldl (fun w (n, _) => max w n.length) 2
    let nextLine := l.subcommands.any fun (_, h) => entryWraps (longest + 4) h.length
    some ("Commands:\n" ++ entryLines nextLine longest l.subcommands)

/-- The `Arguments` section. -/
def argumentsSection (l : Level) (settings : List (String × String)) : Option String :=
  let poss := l.positionals
  if poss.isEmpty then none
  else
    let longest := poss.foldl (fun w a => max w a.display.length) 2
    let nextLine := poss.any fun a => entryWraps (longest + 4) (a.helpWidth settings)
    some ("Arguments:\n" ++
      entryLines nextLine longest (poss.map fun a => (a.display, a.helpWithSpecs settings)))

/-- The `Options` section. -/
def optionsSection (l : Level) (settings : List (String × String)) : Option String :=
  let opts := l.options.mergeSort sortsBefore
  if opts.isEmpty then none
  else
    let longest := opts.foldl (fun w a => max w (a.display.length + 4)) 2
    let nextLine := opts.any fun a => entryWraps (longest + 8) (a.helpWidth settings)
    some ("Options:\n" ++
      entryLines nextLine (longest) (opts.map fun a => (a.names, a.helpWithSpecs settings)))

def helpText (l : Level) (settings : List (String × String)) : String :=
  let sections := [l.commandsSection, l.argumentsSection settings, l.optionsSection settings]
  let head := if l.about.isEmpty then "" else l.about ++ "\n\n"
  let text := head ++ "Usage: " ++ l.fullUsage ++ "\n\n" ++ "\n\n".intercalate (sections.filterMap fun x => x)
  String.ofList (text.toList.reverse.dropWhile Char.isWhitespace).reverse ++ "\n"

end Level

end Cli

end MudTestbed
