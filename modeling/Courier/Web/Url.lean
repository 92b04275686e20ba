import Courier.Number.Reading
import Courier.Text.Percent
import Courier.Text.Quoted
import Courier.Text.Small
import Courier.Web.DomainName
import Courier.Web.Host

/-!
# Addresses of the web

An address is cut into scheme, authority, path, query and fragment, and each part is brought into
ASCII: what may not stand in a part is percent-encoded there, while existing escapes and single
percent signs stay.

* `Url.parse?`: the parts of an address, or why it is none.
* `Url.text`: the address of the parts.
* `Url.resolve?`: the address that is called for one that names no host.
-/

namespace Courier

/-- The parts of an address. -/
structure Url where
  scheme : Text
  userinfo : Text
  host : Text
  portNumber : Option Int
  path : Text
  query : Option Text
  fragment : Option Text
  deriving DecidableEq, Repr

namespace Url

variable [Installation]

/-- The address without parts. -/
def empty : Url := ⟨[], [], [], none, [], none, none⟩

/-- Why a text is no address. -/
inductive Fault where
  | tooLong
  | partTooLong (part : String)
  | controlCharacter (c : CodePoint) (position : Nat)
  | controlInFragment (c : CodePoint) (position : Nat)
  | badIpv4 (host : Text)
  | badIpv6 (host : Text)
  | badName (host : Text)
  | badPort (digits : Text)
  | pathWithoutSlash
  | pathWithTwoSlashes
  | pathWithColon
  | unencodable (run : Utf8.Unencodable)
  deriving DecidableEq, Repr

/-- The words for a control character in an address or in a part of it. -/
def controlMessage (place : String) (c : CodePoint) (position : Nat) : Text :=
  Text.ofString ("Invalid non-printable ASCII character in URL" ++ place ++ ", ")
    ++ Quoted.quote [c] ++ Text.ofString " at position " ++ Text.ofNat position ++ Text.ofString "."

/-- The words for a fault. -/
def Fault.message : Fault → Text
  | .tooLong => Text.ofString "URL too long"
  | .partTooLong part => Text.ofString ("URL component '" ++ part ++ "' too long")
  | .controlCharacter c position => controlMessage "" c position
  | .controlInFragment c position => controlMessage " fragment component" c position
  | .badIpv4 host => Text.ofString "Invalid IPv4 address: " ++ Quoted.quote host
  | .badIpv6 host => Text.ofString "Invalid IPv6 address: " ++ Quoted.quote host
  | .badName host => Text.ofString "Invalid IDNA hostname: " ++ Quoted.quote host
  | .badPort digits => Text.ofString "Invalid port: " ++ Quoted.quote digits
  | .pathWithoutSlash =>
    Text.ofString "For absolute URLs, path must be empty or begin with '/'"
  | .pathWithTwoSlashes =>
    Text.ofString "Relative URLs cannot have a path starting with '//'"
  | .pathWithColon => Text.ofString "Relative URLs cannot have a path starting with ':'"
  | .unencodable run => run.message

/-! ## Characters of the parts -/

/-- A printable character of ASCII that is not one of those given. -/
def isAsciiExcept (excluded : String) (c : CodePoint) : Bool :=
  0x20 ≤ c.val && c.val < 0x7F && !(Text.ofString excluded).contains c

/-- What may stand in a fragment. -/
def isFragmentSafe : CodePoint → Bool := isAsciiExcept " \"<>\x60"

/-- What may stand in a query. -/
def isQuerySafe : CodePoint → Bool := isAsciiExcept " \"#<>"

/-- What may stand in a path. -/
def isPathSafe : CodePoint → Bool := isAsciiExcept " \"#<>?\x60\x7b\x7d"

/-- What may stand before the host. -/
def isUserinfoSafe : CodePoint → Bool := isAsciiExcept " \"#<>?\x60\x7b\x7d/;=@[\\]^|"

/-- What may stand in the name of a host. -/
def isHostSafe : CodePoint → Bool := isAsciiExcept " #/:<>?@[]^"

/-- The text with the characters that may not stand as they are percent-encoded. -/
def protect? (safe : CodePoint → Bool) (t : Text) : Except Fault Text :=
  match t.find? fun c => !safe c && c.isSurrogate with
  | some c => .error (.unencodable ⟨0, 1, c⟩)
  | none => .ok (t.flatMap fun c =>
      if safe c then [c] else (Utf8.encodeOne c).flatMap Percent.escape)

/-! ## Cutting -/

/-- The scheme that a text begins with, up to a colon, and the rest. The scheme may be empty. -/
def takeScheme (t : Text) : Text × Text :=
  let isSchemeChar (c : CodePoint) : Bool :=
    c.isAsciiLetter || c.isAsciiDigit || (Text.ofString "+.-").contains c
  let name := t.takeWhile isSchemeChar
  let proper := match name with
    | [] => true
    | c :: _ => c.isAsciiLetter
  match t.drop name.length with
  | c :: rest => if proper && c = CodePoint.ofChar ':' then (name, rest) else ([], t)
  | [] => ([], t)

/-- The authority that two slashes announce, and the rest. -/
def takeAuthority (t : Text) : Text × Text :=
  if Text.startsWith t (Text.ofString "//") then
    (t.drop 2).span fun c => !(Text.ofString "/?#").contains c
  else ([], t)

/-- The parts before and after the last occurrence of a character. -/
def splitLast (sep : CodePoint) (t : Text) : Option (Text × Text) :=
  (Text.splitFirst sep t.reverse).map fun (after, before) => (before.reverse, after.reverse)

/-- The host that an authority without its user begins with, in brackets or up to a colon, and the
rest. -/
def takeHost (t : Text) : Text × Text :=
  let bracketed := match splitLast (CodePoint.ofChar ']') t with
    | some (inside, rest) =>
      if inside.head? = some (CodePoint.ofChar '[') then
        some (inside ++ [CodePoint.ofChar ']'], rest)
      else none
    | none => none
  bracketed.getD (t.span (· != CodePoint.ofChar ':'))

/-! ## The parts in their final form -/

/-- A host as it is called: an internet address is checked, another name is put in small letters and
into ASCII. -/
def hostForm? (host : Text) : Except Fault Text :=
  if host.isEmpty then .ok []
  else if Host.looksNumeric host then
    if Host.isIpv4 host then .ok host else .error (.badIpv4 host)
  else if host.head? = some (CodePoint.ofChar '[')
      && host.getLast? = some (CodePoint.ofChar ']') then
    let inside := (host.drop 1).dropLast
    if Host.isIpv6 inside then .ok inside else .error (.badIpv6 host)
  else if host.all CodePoint.isAscii then protect? isHostSafe host.lowerAscii
  else (DomainName.ascii? (Small.ofText host)).mapError fun _ => .badName host

/-- The number at which a scheme is served unless another is named. -/
def defaultPort? (scheme : Text) : Option Int :=
  ([("ftp", 21), ("http", 80), ("https", 443), ("ws", 80), ("wss", 443)].find? fun (s, _) =>
    Text.ofString s = scheme).map (·.2)

/-- The number after a host, or none if it is the usual one of the scheme. -/
def portForm? (scheme portNumber : Text) : Except Fault (Option Int) :=
  if portNumber.isEmpty then .ok none
  else match Reading.settingInteger? portNumber with
    | none => .error (.badPort portNumber)
    | some n => .ok (if defaultPort? scheme = some n then none else some n)

/-- One more segment of a path after those kept, in reverse: `.` is dropped, `..` takes back the
segment before it. -/
def dotStep (kept : List Text) (segment : Text) : List Text :=
  if segment = Text.ofString "." then kept
  else if segment = Text.ofString ".." then
    if kept = [] || kept = [[]] then kept else kept.drop 1
  else segment :: kept

/-- The path without its segments `.` and `..`. -/
def dropDots (path : Text) : Text :=
  Text.joinWith (Text.ofString "/")
    ((Text.splitAll (CodePoint.ofChar '/') path).foldl dotStep []).reverse

/-- What a path has to look like with and without a scheme and an authority. -/
def checkPath (absolute hasAuthority : Bool) (path : Text) : Except Fault Unit :=
  if hasAuthority then
    if path.isEmpty || Text.startsWith path (Text.ofString "/") then .ok ()
    else .error .pathWithoutSlash
  else if absolute then .ok ()
  else if Text.startsWith path (Text.ofString "//") then .error .pathWithTwoSlashes
  else if Text.startsWith path (Text.ofString ":") then .error .pathWithColon
  else .ok ()

/-- The greatest number of characters of an address. -/
def maxLength : Nat := 65536

/-- A character that no address may hold. -/
def isControl (c : CodePoint) : Bool := c.val < 0x20 || c.val = 0x7F

/-- The first character that no address may hold, with its place. -/
def control? (t : Text) : Option (CodePoint × Nat) :=
  (t.find? isControl).map fun c => (c, t.findIdx isControl)

/-- The parts of an address. -/
def parse? (t : Text) : Except Fault Url := do
  if maxLength < t.length then throw .tooLong
  if let some (c, position) := control? t then throw (.controlCharacter c position)
  let (scheme, rest) := takeScheme t
  let (authority, rest) := takeAuthority rest
  let (beforeFragment, fragment) := match Text.splitFirst (CodePoint.ofChar '#') rest with
    | some (before, after) => (before, some after)
    | none => (rest, none)
  let (path, query) := match Text.splitFirst (CodePoint.ofChar '?') beforeFragment with
    | some (before, after) => (before, some after)
    | none => (beforeFragment, none)
  let (userinfo, server) := (splitLast (CodePoint.ofChar '@') authority).getD ([], authority)
  let (host, afterHost) := takeHost server
  let portNumber :=
    if afterHost.head? = some (CodePoint.ofChar ':') then afterHost.drop 1 else afterHost
  let userinfo ← protect? isUserinfoSafe userinfo
  let host ← hostForm? host
  let portNumber ← portForm? scheme portNumber
  let hasScheme := !scheme.isEmpty
  let hasAuthority := !userinfo.isEmpty || !host.isEmpty || portNumber.isSome
  checkPath hasScheme hasAuthority path
  let path ← protect? isPathSafe (if hasScheme || hasAuthority then dropDots path else path)
  let query ← query.mapM (protect? isQuerySafe)
  let fragment ← fragment.mapM (protect? isFragmentSafe)
  pure ⟨scheme.lowerAscii, userinfo, host, portNumber, path, query, fragment⟩

/-! ## Using an address -/

/-- The host and its number. -/
def server (u : Url) : Text :=
  (if u.host.contains (CodePoint.ofChar ':') then
    Text.ofString "[" ++ u.host ++ Text.ofString "]" else u.host)
    ++ match u.portNumber with
      | some n => Text.ofString ":" ++ Text.ofInt n
      | none => []

/-- The host and its number with the user before them, as they stand in an address. -/
def authority (u : Url) : Text :=
  (if u.userinfo.isEmpty then [] else u.userinfo ++ Text.ofString "@") ++ u.server

/-- The name of the host, in its own characters where it is called by a form in ASCII. -/
def hostName? (u : Url) : Except Label.Fault Text :=
  if Text.startsWith u.host Label.formStart then DomainName.unicode? u.host else .ok u.host

/-- The fragment with its escapes undone, empty if there is none. -/
def plainFragment (u : Url) : Text := Utf8.decodeLossy (Percent.decode (u.fragment.getD []))

/-- The address of the parts. -/
def text (u : Url) : Text :=
  (if u.scheme.isEmpty then [] else u.scheme ++ Text.ofString ":")
    ++ (if u.authority.isEmpty then [] else Text.ofString "//" ++ u.authority)
    ++ u.path
    ++ (match u.query with
      | some q => Text.ofString "?" ++ q
      | none => [])
    ++ match u.fragment with
      | some f => Text.ofString "#" ++ f
      | none => []

/-- The address names a scheme and a host. -/
def isAbsolute (u : Url) : Bool := !u.scheme.isEmpty && !u.host.isEmpty

/-- No part of an address is too long for one that is put together from parts. -/
def checkParts (u : Url) : Except Fault Unit :=
  [("scheme", u.scheme), ("authority", u.authority), ("path", u.path), ("query", u.query.getD []),
    ("fragment", u.fragment.getD [])].forM fun (part, t) =>
      if maxLength < t.length then .error (.partTooLong part) else .ok ()

/-- The address that is called for one without scheme or host, where calls go to a base: its path,
with one slash in front, and its query there; all else is dropped. An absolute address is left as it
is. -/
def resolve? (base u : Url) : Except Fault Url := do
  if u.isAbsolute then return u
  let path := Text.ofString "/" ++ Text.dropLeading (· = CodePoint.ofChar '/') u.path
  let resolved := { base with path := path, query := u.query, fragment := none }
  resolved.checkParts
  return { resolved with path := if base.isAbsolute then dropDots path else path }

end Url

end Courier
