import MudTestbed.Toml.Tree

/-!
# Assembling TOML tables

The reader meets a document as a sequence of key/value lines and table headers; this
module places them. The `Builder` holds the finished root, the table being filled (the
root section first, then the table of each header in turn) and that table's path.

* A key/value line goes into the current table, down its dotted path; the path's tables
  are created as implicit dotted tables. A dotted path may not run into a value, nor into
  a table that was defined explicitly; a key may not be set twice.
* A `[a.b]` header closes the current table and opens `b` under `a`; `a` is created as an
  implicit table if needed, and `b` may exist before only as an implicit table made by
  another header, whose entries it keeps.
* A `[[a.b]]` header opens a new table that is appended to the array of tables `b`.
* Going down a path through an array of tables goes into its last table.

The errors are those of the grammar's builder: `duplicate key `k` in table `a.b``,
`duplicate key `k` in document root`, `duplicate key `k``, and
`dotted key `a.b` attempted to extend non-table type (integer)`.
-/

namespace MudTestbed

namespace Toml

/-- A table being assembled. -/
structure TableBuf where
  entries : List (TomlKey × TomlNode)
  span : Option Span
  implicit : Bool
  dotted : Bool

def TableBuf.toNode (t : TableBuf) : TomlNode := .table t.entries t.span t.implicit t.dotted

def pathText (path : List TomlKey) : String := ".".intercalate (path.map (·.name))

def duplicateKey (k : String) (table : Option (List TomlKey)) : String :=
  match table with
  | none => s!"duplicate key `{k}`"
  | some [] => s!"duplicate key `{k}` in document root"
  | some t => s!"duplicate key `{k}` in table `{pathText t}`"

def wrongType (path : List TomlKey) (i : Nat) (actual : String) : String :=
  s!"dotted key `{pathText (path.take (i + 1))}` attempted to extend non-table type ({actual})"

def replaceEntry (entries : List (TomlKey × TomlNode)) (name : String) (n : TomlNode) :
    List (TomlKey × TomlNode) :=
  entries.map fun (k, v) => if k.name == name then (k, n) else (k, v)

def tablesSpan (items : List TomlNode) : Option Span :=
  match items.head?.bind TomlNode.span?, items.getLast?.bind TomlNode.span? with
  | some a, some b => some ⟨a.start, b.stop⟩
  | _, _ => none

/-- Goes down `path` from a table, creating implicit tables, and applies `f` there. -/
def descend {α : Type} (dotted : Bool) (full : List TomlKey) (f : TableBuf → Except String (TableBuf × α)) :
    Nat → List TomlKey → TableBuf → Except String (TableBuf × α)
  | _, [], t => f t
  | i, k :: rest, t =>
    match t.entries.find? (·.1.name == k.name) with
    | none => do
      let (child, a) ← descend dotted full f (i + 1) rest ⟨[], none, dotted, dotted⟩
      pure ({ t with entries := t.entries ++ [(k, child.toNode)] }, a)
    | some (_, node) =>
      match node with
      | .table es sp imp dot =>
        if dotted && !imp then .error (duplicateKey k.name none)
        else do
          let (child, a) ← descend dotted full f (i + 1) rest ⟨es, sp, imp, dot⟩
          pure ({ t with entries := replaceEntry t.entries k.name child.toNode }, a)
      | .tables items sp =>
        match items.getLast? with
        | some (.table es sp' imp dot) => do
          let (child, a) ← descend dotted full f (i + 1) rest ⟨es, sp', imp, dot⟩
          let items := items.dropLast ++ [child.toNode]
          pure ({ t with entries := replaceEntry t.entries k.name (.tables items sp) }, a)
        | _ => .error (duplicateKey k.name none)
      | other => .error (wrongType full i other.typeName)

/-- The state of assembling a document. -/
structure Builder where
  root : List (TomlKey × TomlNode) := []
  rootSpan : Option Span := none
  current : TableBuf := ⟨[], some ⟨0, 0⟩, false, false⟩
  currentPath : List TomlKey := []
  currentIsArray : Bool := false

namespace Builder

def rootBuf (b : Builder) : TableBuf := ⟨b.root, b.rootSpan, false, false⟩

/-- Places a key/value line in the current table. -/
def keyval (b : Builder) (path : List TomlKey) (k : TomlKey) (v : TomlNode) :
    Except String Builder := do
  let span := match b.current.span, v.span? with
    | some s, some e => some ⟨s.start, e.stop⟩
    | s, _ => s
  let current := { b.current with span }
  let (current, ()) ← descend true path (fun t =>
    if t.dotted == path.isEmpty then .error (duplicateKey k.name none)
    else if t.entries.any (·.1.name == k.name) then
      .error (duplicateKey k.name (some b.currentPath))
    else .ok ({ t with entries := t.entries ++ [(k, v)] }, ())) 0 path current
  pure { b with current }

/-- Puts the current table in its place. -/
def finalize (b : Builder) : Except String Builder :=
  let path := b.currentPath
  let t := b.current
  match path.getLast? with
  | none => .ok { b with root := t.entries, rootSpan := t.span }
  | some k =>
    let parentPath := path.dropLast
    let place (parent : TableBuf) : Except String (TableBuf × Unit) :=
      match parent.entries.find? (·.1.name == k.name) with
      | none =>
        if b.currentIsArray then
          .ok ({ parent with entries := parent.entries ++ [(k, .tables [t.toNode] t.span)] }, ())
        else .ok ({ parent with entries := parent.entries ++ [(k, t.toNode)] }, ())
      | some (_, .tables items _) =>
        if b.currentIsArray then
          let items := items ++ [t.toNode]
          .ok ({ parent with entries := replaceEntry parent.entries k.name (.tables items (tablesSpan items)) }, ())
        else .error (duplicateKey k.name (some parentPath))
      | some _ => .error (duplicateKey k.name (some parentPath))
    match descend false parentPath place 0 parentPath b.rootBuf with
    | .ok (root, ()) => .ok { b with root := root.entries, rootSpan := root.span }
    | .error e => .error e

/-- Opens the table of a `[...]` header. -/
def startTable (b : Builder) (path : List TomlKey) (span : Span) : Except String Builder := do
  let some k := path.getLast? | .error "empty table path"
  let parentPath := path.dropLast
  let take (parent : TableBuf) : Except String (TableBuf × TableBuf) :=
    match parent.entries.find? (·.1.name == k.name) with
    | none => .ok (parent, ⟨[], none, false, false⟩)
    | some (_, .table es sp true false) =>
      .ok ({ parent with entries := parent.entries.filter (·.1.name != k.name) }, ⟨es, sp, true, false⟩)
    | some _ => .error (duplicateKey k.name (some parentPath))
  let (root, found) ← descend false parentPath take 0 parentPath b.rootBuf
  let current := { found with implicit := false, dotted := false, span := some span }
  pure ⟨root.entries, root.span, current, path, false⟩

/-- Opens a new table of a `[[...]]` header. -/
def startArrayTable (b : Builder) (path : List TomlKey) (span : Span) : Except String Builder := do
  let some k := path.getLast? | .error "empty table path"
  let parentPath := path.dropLast
  let reserve (parent : TableBuf) : Except String (TableBuf × Unit) :=
    match parent.entries.find? (·.1.name == k.name) with
    | none => .ok ({ parent with entries := parent.entries ++ [(k, .tables [] none)] }, ())
    | some (_, .tables ..) => .ok (parent, ())
    | some _ => .error (duplicateKey k.name (some parentPath))
  let (root, ()) ← descend false parentPath reserve 0 parentPath b.rootBuf
  pure ⟨root.entries, root.span, ⟨[], some span, false, false⟩, path, true⟩

def stdHeader (b : Builder) (path : List TomlKey) (span : Span) : Except String Builder := do
  (← b.finalize).startTable path span

def arrayHeader (b : Builder) (path : List TomlKey) (span : Span) : Except String Builder := do
  (← b.finalize).startArrayTable path span

end Builder

/-- Builds an inline table from its key/value pairs; no key may be set twice. -/
def inlineEntries (pairs : List (List TomlKey × TomlKey × TomlNode)) :
    Except String (List (TomlKey × TomlNode)) :=
  let rec down (full : List TomlKey) (k : TomlKey) (v : TomlNode) :
      Nat → List TomlKey → List (TomlKey × TomlNode) → Except String (List (TomlKey × TomlNode))
    | _, [], entries =>
      if entries.any (·.1.name == k.name) then .error (duplicateKey k.name none)
      else .ok (entries ++ [(k, v)])
    | i, p :: rest, entries =>
      match entries.find? (·.1.name == p.name) with
      | none => do
        let inner ← down full k v (i + 1) rest []
        pure (entries ++ [(p, .inlineTable inner none true)])
      | some (_, .inlineTable es sp imp) =>
        if !imp then .error (duplicateKey p.name none)
        else do
          let inner ← down full k v (i + 1) rest es
          pure (replaceEntry entries p.name (.inlineTable inner sp imp))
      | some (_, other) => .error (wrongType full i other.typeName)
  pairs.foldlM (fun entries (path, k, v) => down path k v 0 path entries) []

end Toml

end MudTestbed
