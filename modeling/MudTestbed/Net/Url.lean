import MudTestbed.Net.Socket
import MudTestbed.Text.Case
import MudTestbed.Text.Split
import MudTestbed.Text.Numeral

/-!
# The host of a URL

`Url.host?` finds the host of an absolute URL the way the WHATWG URL standard parses it,
far enough to know the host and whether the URL is valid up to its path:

* blanks and controls around the text are dropped, and tabs and line breaks inside it;
* the scheme is a letter followed by letters, digits, `+`, `-` or `.`, up to `:`; without
  one the URL is relative, which needs a base;
* for the special schemes (`http`, `https`, `ws`, `wss`, `ftp`) any slashes after the
  scheme are skipped; the authority ends at `/`, `\`, `?` or `#`; credentials end at its
  last `@`; the host ends at a `:` outside brackets, and the port must be decimal and at
  most 65535;
* a special host is an IPv6 address in brackets, or is percent-decoded, lowercased and
  checked for forbidden characters; a domain whose last label is a number is read as an
  IPv4 address, in the forms that allow octal, hex and fewer than four parts;
* `file` URLs have a host only after `//`, `localhost` meaning none; other schemes have
  an opaque host after `//` and none otherwise.
-/

namespace MudTestbed

/-- Why a URL could not be parsed. -/
inductive UrlError where
  | emptyHost
  | idna
  | invalidPort
  | invalidIpv4
  | invalidIpv6
  | invalidDomainCharacter
  | relativeWithoutBase
  deriving DecidableEq, Repr

/-- The text of a URL error. -/
def UrlError.message : UrlError → String
  | .emptyHost => "empty host"
  | .idna => "invalid international domain name"
  | .invalidPort => "invalid port number"
  | .invalidIpv4 => "invalid IPv4 address"
  | .invalidIpv6 => "invalid IPv6 address"
  | .invalidDomainCharacter => "invalid domain character"
  | .relativeWithoutBase => "relative URL without a base"

/-- The host of a URL. -/
inductive UrlHost where
  | domain (name : String)
  | v4 (a : Ipv4Addr)
  | v6 (a : Ipv6Addr)
  /-- The host of a URL whose scheme is not special, as written. -/
  | verbatim (text : String)
  deriving DecidableEq, Repr

namespace Url

def isControlOrSpace (c : Char) : Bool := c.toNat ≤ 0x20

def specialSchemes : List String := ["http", "https", "ws", "wss", "ftp"]

/-- Reads a number of an IPv4 host part: `0x` hex, a leading `0` octal, else decimal. -/
def ipv4Number (part : String) : Option Nat :=
  let cs := part.toList
  let (radix, digits) := match cs with
    | '0' :: 'x' :: rest => (16, rest)
    | '0' :: 'X' :: rest => (16, rest)
    | '0' :: d :: rest => (8, d :: rest)
    | _ => (10, cs)
  if cs.isEmpty then none
  else if digits.isEmpty then some 0
  else Text.digitsValue? radix digits

/-- Whether the last label of a domain (a final empty label apart) is a number. -/
def endsInNumber (domain : String) : Bool :=
  let labels := (Text.split '.' domain).reverse
  let last := match labels with
    | "" :: l :: _ => some l
    | "" :: [] => none
    | l :: _ => some l
    | [] => none
  match last with
  | some l => (!l.isEmpty && l.toList.all Char.isDigit) || (ipv4Number l).isSome
  | none => false

/-- Reads an IPv4 host: one to four numbers, the last filling the bytes that remain. -/
def ipv4Host (domain : String) : Except UrlError Ipv4Addr := do
  let parts := Text.split '.' domain
  let parts := if parts.getLast? == some "" then parts.dropLast else parts
  if parts.length > 4 || parts.isEmpty then throw .invalidIpv4
  let numbers ← parts.mapM fun p => match ipv4Number p with
    | some n => if n < 0x100000000 then pure n else throw .invalidIpv4
    | none => throw .invalidIpv4
  let front := numbers.dropLast
  let last := numbers.getLastD 0
  if last ≥ Nat.pow 256 (5 - numbers.length) then throw .invalidIpv4
  if front.any (· > 255) then throw .invalidIpv4
  let value := front.zipIdx.foldl (fun acc (n, i) => acc + n * Nat.pow 256 (3 - i)) last
  pure ⟨UInt32.ofNat value⟩

/-- Decodes `%xx` escapes of a text's bytes; a `%` not followed by two hex digits stays. -/
def percentDecode : List UInt8 → List UInt8
  | [] => []
  | 37 :: h :: l :: rest =>
    match Text.digitValue 16 (Char.ofNat h.toNat), Text.digitValue 16 (Char.ofNat l.toNat) with
    | some a, some b => UInt8.ofNat (a * 16 + b) :: percentDecode rest
    | _, _ => 37 :: percentDecode (h :: l :: rest)
  | b :: rest => b :: percentDecode rest

def forbiddenInDomain (c : Char) : Bool :=
  c.toNat < 0x20 || c.toNat == 0x7F || " #%/:<>?@[\\]^|".toList.contains c

def forbiddenInVerbatimHost (c : Char) : Bool :=
  c.toNat == 0 || "\t\n\r #/:<>?@[\\]^|".toList.contains c

/-- Reads an IPv6 address in brackets. -/
def bracketed (text : String) : Except UrlError Ipv6Addr :=
  if text.endsWith "]" then
    match Ipv6Addr.parse? (String.ofList (text.toList.drop 1).dropLast) with
    | some a => pure a
    | none => throw .invalidIpv6
  else throw .invalidIpv6

/-- Reads the host of a special URL, see the module comment. -/
def specialHost (text : String) : Except UrlError UrlHost := do
  if text.startsWith "[" then return .v6 (← bracketed text)
  let decoded := String.fromUTF8! ⟨(percentDecode text.toUTF8.toList).toArray⟩
  if decoded.toList.any (fun c => c.toNat > 0x7F) then throw .idna
  let domain := Text.lower decoded
  if domain.toList.any forbiddenInDomain then throw .idna
  if domain.isEmpty then throw .emptyHost
  if endsInNumber domain then return .v4 (← ipv4Host domain)
  pure (.domain domain)

def verbatimHost (text : String) : Except UrlError UrlHost := do
  if text.startsWith "[" then return .v6 (← bracketed text)
  if text.toList.any forbiddenInVerbatimHost then throw .invalidDomainCharacter
  pure (.verbatim text)

/-- Reads a port: decimal digits up to the end, at most 65535. -/
def checkPort (cs : List Char) : Except UrlError Unit :=
  let digits := cs.takeWhile Char.isDigit
  let rest := cs.drop digits.length
  if !rest.isEmpty then throw .invalidPort
  else if Text.digitsValue? 10 digits |>.any (· > 65535) then throw .invalidPort
  else pure ()

def afterCredentials (cs : List Char) : Bool × List Char :=
  match (cs.reverse.takeWhile (· != '@')).reverse with
  | rest => if rest.length = cs.length then (false, cs) else (true, rest)

/-- Splits host and port at the first `:` outside brackets. -/
def splitPort : List Char → Bool → List Char × Option (List Char)
  | [], _ => ([], none)
  | ':' :: rest, false => ([], some rest)
  | c :: rest, inside =>
    let inside := if c = '[' then true else if c = ']' then false else inside
    let (h, p) := splitPort rest inside
    (c :: h, p)

/-- The host of an authority, for a special scheme when `special`. -/
def authorityHost (special : Bool) (cs : List Char) : Except UrlError (Option UrlHost) := do
  let stop (c : Char) : Bool := c = '/' || c = '?' || c = '#' || (special && c = '\\')
  let authority := cs.takeWhile (!stop ·)
  let (hadCredentials, hostPort) := afterCredentials authority
  let (hostText, port) := splitPort hostPort false
  if special && hostText.isEmpty then throw .emptyHost
  if !special && hostText.isEmpty && (port.isSome || hadCredentials) then throw .emptyHost
  let host ← if special then some <$> specialHost (String.ofList hostText)
    else if hostText.isEmpty then pure none
    else some <$> verbatimHost (String.ofList hostText)
  if let some p := port then checkPort p
  pure host

/-- The host of an absolute URL, `none` when it has none, see the module comment. -/
def host? (input : String) : Except UrlError (Option UrlHost) := do
  let trimmed := ((input.toList.dropWhile isControlOrSpace).reverse.dropWhile isControlOrSpace).reverse
  let cs := trimmed.filter fun c => c != '\t' && c != '\n' && c != '\r'
  let schemeChars := cs.takeWhile fun c => c.isAlphanum || c = '+' || c = '-' || c = '.'
  let rest := cs.drop schemeChars.length
  match schemeChars.head?, rest with
  | some c, ':' :: rest =>
    if !c.isAlpha then throw .relativeWithoutBase
    let scheme := Text.lower (String.ofList schemeChars)
    if specialSchemes.contains scheme then
      authorityHost true (rest.dropWhile fun c => c = '/' || c = '\\')
    else if scheme = "file" then
      match rest with
      | s1 :: s2 :: after =>
        if (s1 = '/' || s1 = '\\') && (s2 = '/' || s2 = '\\') then
          let text := after.takeWhile fun c => c != '/' && c != '\\' && c != '?' && c != '#'
          if text.isEmpty then pure none
          else
            match ← specialHost (String.ofList text) with
            | .domain "localhost" => pure none
            | h => pure (some h)
        else pure none
      | _ => pure none
    else
      match rest with
      | '/' :: '/' :: after => authorityHost false after
      | _ => pure none
  | _, _ => throw .relativeWithoutBase

def hostText : UrlHost → String
  | .domain d => d
  | .v4 a => a.toText
  | .v6 a => a.toText
  | .verbatim t => t

end Url

end MudTestbed
