import MudTestbed.Text.Split

/-!
# A store of text files

Scenario documents are read from files. A `FileStore` is a directory tree given by its
files: each file's path (components joined by `/`) and text. The directories are the
store's root and every proper prefix of a file's path.

Paths are resolved one component at a time, as an operating system does: the empty path
and absolute paths name nothing; empty and `.` components stay where they are, `..` goes up, and a component must name a directory to be
gone through. Reading fails with the operating system's words: a missing entry is
`No such file or directory (os error 2)`, going through a file is
`Not a directory (os error 20)`, and reading a directory is
`Is a directory (os error 21)`.

`joinPath` joins a base and a relative path as a path library does: an absolute path
replaces the base, and a separator is added unless the base ends with one.
-/

namespace MudTestbed

/-- Text files by path. -/
structure FileStore where
  files : List (List String × String)
  deriving DecidableEq, Repr

namespace FileStore

def components (path : String) : List String :=
  (Text.split '/' path).filter fun c => !c.isEmpty && c != "."

def ofList (entries : List (String × String)) : FileStore :=
  ⟨entries.map fun (p, t) => (components p, t)⟩

/-- What a path names in the store. -/
inductive Entry where
  | file (text : String)
  | directory
  | missing
  deriving DecidableEq, Repr

/-- What the entry at a list of components is. -/
def entryAt (s : FileStore) (path : List String) : Entry :=
  match s.files.lookup path with
  | some t => .file t
  | none =>
    if path.isEmpty || s.files.any (fun (p, _) => path.isPrefixOf p && path.length < p.length) then
      .directory
    else .missing

def notFound : String := "No such file or directory (os error 2)"

def notADirectory : String := "Not a directory (os error 20)"

def isADirectory : String := "Is a directory (os error 21)"

/-- What a path names. -/
inductive PathKind where
  | file
  | directory
  | missing
  deriving DecidableEq, Repr

/-- Resolves a relative path to the components of an entry, see the module comment. -/
def locate (s : FileStore) (path : String) : Except String (List String) :=
  if path.isEmpty || path.startsWith "/" then .error notFound
  else
    let trailingSlash := path.endsWith "/"
    let rec walk (here : List String) : List String → Except String (List String)
      | [] => .ok here
      | c :: rest =>
        if c.isEmpty || c == "." then walk here rest
        else if c == ".." then walk here.dropLast rest
        else
          let next := here ++ [c]
          match s.entryAt next with
          | .missing => .error notFound
          | .file _ => if rest.all (·.isEmpty) && !trailingSlash then .ok next else .error notADirectory
          | .directory => walk next rest
    walk [] (Text.split '/' path)

/-- What a path names: a path that cannot be resolved names nothing. -/
def kind (s : FileStore) (path : String) : PathKind :=
  match s.locate path with
  | .error _ => .missing
  | .ok p =>
    match s.entryAt p with
    | .file _ => .file
    | .directory => .directory
    | .missing => .missing

/-- Reads the text of a file, see the module comment. -/
def read (s : FileStore) (path : String) : Except String String := do
  let p ← s.locate path
  match s.entryAt p with
  | .file t => .ok t
  | .directory => .error isADirectory
  | .missing => .error notFound

end FileStore

def joinPath (base path : String) : String :=
  if path.startsWith "/" then path
  else if base.isEmpty || base.endsWith "/" then base ++ path
  else base ++ "/" ++ path

end MudTestbed
