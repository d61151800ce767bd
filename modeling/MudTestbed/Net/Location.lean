import MudTestbed.Net.Url

/-!
# Where a URL of a special scheme points

`Url.locate?` reads an absolute URL of a special scheme (`http`, `https`, `ws`, `wss`,
`ftp`) the way the WHATWG URL standard does and gives it back in normal form
(`Location.text`), with its path (`Location.path`):

* the scheme is lowercased; credentials stay; the host is written in its normal form (a
  domain lowercased, an IPv4 address dotted, an IPv6 address in brackets); a port is
  written without leading zeros and dropped when it is the scheme's default;
* the path is split at `/` and `\`; a segment `.` is dropped and a segment `..` drops the
  one before it (either at the end leaves an empty last segment); the other segments are
  percent-encoded: controls, characters past `~`, the blank, `"`, `<`, `>`, `` ` ``, `{`
  and `}` become `%XX` of their UTF-8 bytes, in upper-case hex;
* the query, after `?`, and the fragment, after `#`, are kept with their own encodings.

A URL of another scheme, a relative URL or one that does not parse has no location.
-/

namespace MudTestbed

namespace Url

def percentEncoded (c : Char) : String :=
  let hex (n : Nat) : Char := if n < 10 then Char.ofNat (48 + n) else Char.ofNat (55 + n)
  String.join ((String.singleton c).toUTF8.toList.map fun b =>
    String.ofList ['%', hex (b.toNat / 16), hex (b.toNat % 16)])

def encodeWith (inSet : Char → Bool) (cs : List Char) : String :=
  String.join (cs.map fun c => if inSet c then percentEncoded c else String.singleton c)

def controlSet (c : Char) : Bool := c.toNat < 0x20 || c.toNat > 0x7E

def pathSet (c : Char) : Bool := controlSet c || " \"#<>?`{}".toList.contains c

def querySet (c : Char) : Bool := controlSet c || " \"#<>'".toList.contains c

def fragmentSet (c : Char) : Bool := controlSet c || " \"<>`".toList.contains c

def userinfoSet (c : Char) : Bool :=
  pathSet c || "/:;=@[\\]^|".toList.contains c

def singleDot (seg : String) : Bool := seg == "." || Text.lower seg == "%2e"

def doubleDot (seg : String) : Bool :=
  [".." , ".%2e", "%2e.", "%2e%2e"].contains (Text.lower seg)

/-- Splits a path at `/` and `\`. -/
def splitSegments (cs : List Char) : List (List Char) :=
  let rec go (current : List Char) : List Char → List (List Char)
    | [] => [current.reverse]
    | c :: rest =>
      if c = '/' || c = '\\' then current.reverse :: go [] rest
      else go (c :: current) rest
  go [] cs

/-- Resolves and encodes the segments of a path, see the module comment. -/
def resolveSegments (out : List String) : List String → List String
  | [] => out
  | [seg] =>
    if doubleDot seg then out.dropLast ++ [""]
    else if singleDot seg then out ++ [""]
    else out ++ [encodeWith pathSet seg.toList]
  | seg :: rest =>
    if doubleDot seg then resolveSegments out.dropLast rest
    else if singleDot seg then resolveSegments out rest
    else resolveSegments (out ++ [encodeWith pathSet seg.toList]) rest

/-- The normal form of a special URL's path, up to the query or fragment. -/
def specialPath (cs : List Char) : String :=
  let cs := match cs with
    | '/' :: rest => rest
    | '\\' :: rest => rest
    | _ => cs
  "/" ++ "/".intercalate (resolveSegments [] ((splitSegments cs).map String.ofList))

/-- The port a scheme has when none is written. -/
def defaultPort : String → Option Nat
  | "http" => some 80
  | "https" => some 443
  | "ws" => some 80
  | "wss" => some 443
  | "ftp" => some 21
  | _ => none

/-- A URL in normal form and its path. -/
structure Location where
  text : String
  path : String
  deriving DecidableEq, Repr

def hostInUrl : UrlHost → String
  | .v6 a => "[" ++ a.toText ++ "]"
  | h => hostText h

/-- Reads an absolute URL of a special scheme, see the module comment. -/
def locate? (input : String) : Option Location := do
  let host ← match host? input with
    | .ok (some h) => some h
    | _ => none
  let trimmed := ((input.toList.dropWhile isControlOrSpace).reverse.dropWhile isControlOrSpace).reverse
  let cs := trimmed.filter fun c => c != '\t' && c != '\n' && c != '\r'
  let schemeChars := cs.takeWhile (· != ':')
  let scheme := Text.lower (String.ofList schemeChars)
  let dflt ← defaultPort scheme
  let afterScheme := (cs.drop (schemeChars.length + 1)).dropWhile fun c => c = '/' || c = '\\'
  let stop (c : Char) : Bool := c = '/' || c = '\\' || c = '?' || c = '#'
  let authority := afterScheme.takeWhile (!stop ·)
  let rest := afterScheme.drop authority.length
  let (hadCredentials, hostPort) := afterCredentials authority
  let credentials :=
    if hadCredentials then
      let info := authority.take (authority.length - hostPort.length - 1)
      let (user, pass) := match info.span (· != ':') with
        | (u, ':' :: p) => (u, some p)
        | (u, _) => (u, none)
      let userText := encodeWith userinfoSet user
      let passText := match pass with
        | some p => if p.isEmpty then "" else ":" ++ encodeWith userinfoSet p
        | none => ""
      if userText.isEmpty && passText.isEmpty then "" else userText ++ passText ++ "@"
    else ""
  let portText := match (splitPort hostPort false).2 with
    | some digits =>
      match Text.digitsValue? 10 digits with
      | some n => if n == dflt then "" else s!":{n}"
      | none => ""
    | none => ""
  let pathChars := rest.takeWhile fun c => c != '?' && c != '#'
  let afterPath := rest.drop pathChars.length
  let query := match afterPath with
    | '?' :: q => "?" ++ encodeWith querySet (q.takeWhile (· != '#'))
    | _ => ""
  let fragment := match afterPath.dropWhile (· != '#') with
    | '#' :: f => "#" ++ encodeWith fragmentSet f
    | _ => ""
  let path := specialPath pathChars
  pure ⟨s!"{scheme}://{credentials}{hostInUrl host}{portText}{path}{query}{fragment}", path⟩

end Url

end MudTestbed
