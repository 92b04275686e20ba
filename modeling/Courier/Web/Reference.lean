import Courier.Web.Url

/-!
# References

An address may be given by another one that it is near to. Such a reference is cut into its parts as
they stand, without bringing them into another form, and what it lacks is taken from the address.

* `Reference.split?`: the parts of a reference.
* `Reference.join?`: the address that a reference means.
-/

namespace Courier

/-- The parts of a reference as they stand. What is missing is empty. -/
structure Reference where
  scheme : Text
  authority : Text
  path : Text
  query : Text
  fragment : Text
  deriving DecidableEq, Repr

namespace Reference

/-! ## Authorities -/

/-- Why an authority with brackets names no host. -/
inductive Fault where
  | brackets
  | laterVersion
  | ipv4InBrackets
  | noInternetAddress (host : Text)
  deriving DecidableEq, Repr

/-- The words for a fault. -/
def Fault.message : Fault → Text
  | .brackets => Text.ofString "Invalid IPv6 URL"
  | .laterVersion => Text.ofString "IPvFuture address is invalid"
  | .ipv4InBrackets => Text.ofString "An IPv4 address cannot be in brackets"
  | .noInternetAddress host =>
    Quoted.quote host ++ Text.ofString " does not appear to be an IPv4 or IPv6 address"

/-- An internet address of a version to come: `v`, the number of the version, a dot, and at least
one more character. -/
def isLaterVersion (host : Text) : Bool :=
  let afterVersion := (host.drop 1).dropWhile fun c => c.hexValue?.isSome
  host.head? = some (CodePoint.ofChar 'v') && 1 + afterVersion.length < host.length
    && afterVersion.head? = some (CodePoint.ofChar '.') && 1 < afterVersion.length

/-- What stands in brackets has to be an internet address, and none of four numbers. -/
def checkBracketed (host : Text) : Except Fault Unit :=
  if host.head? = some (CodePoint.ofChar 'v') then
    if isLaterVersion host then .ok () else .error .laterVersion
  else if Host.isIpv4 host then .error .ipv4InBrackets
  else if Host.isIpv6 host then .ok ()
  else .error (.noInternetAddress host)

/-- Brackets go around the host of an authority, with nothing before them and at most a number after
them. Where they stand in the part of the user alone, the host is looked at as if it stood in
brackets. -/
def checkAuthority (authority : Text) : Except Fault Unit := do
  let opening := CodePoint.ofChar '['
  let closing := CodePoint.ofChar ']'
  let colon := CodePoint.ofChar ':'
  if authority.contains opening != authority.contains closing then throw .brackets
  if authority.contains opening then
    let server := ((Url.splitLast (CodePoint.ofChar '@') authority).getD ([], authority)).2
    match Text.splitFirst opening server with
    | some (before, inside) =>
      if !before.isEmpty then throw .brackets
      let (host, after) := (Text.splitFirst closing inside).getD (inside, [])
      if !after.isEmpty && after.head? != some colon then throw .brackets
      checkBracketed host
    | none => checkBracketed (server.takeWhile (· != colon))

/-! ## Cutting and putting together -/

/-- The parts of a text, where a scheme that is missing is the one given. -/
def split? (scheme t : Text) : Except Fault Reference := do
  let (named, rest) := Url.takeScheme t
  let (scheme, rest) := if named.isEmpty then (scheme, t) else (named.lowerAscii, rest)
  let (authority, rest) := Url.takeAuthority rest
  checkAuthority authority
  let (rest, fragment) := (Text.splitFirst (CodePoint.ofChar '#') rest).getD (rest, [])
  let (path, query) := (Text.splitFirst (CodePoint.ofChar '?') rest).getD (rest, [])
  pure ⟨scheme, authority, path, query, fragment⟩

/-- The address of the parts, which name an authority. -/
def text (r : Reference) : Text :=
  let slash := CodePoint.ofChar '/'
  r.scheme ++ Text.ofString "://" ++ r.authority
    ++ (if r.path.isEmpty || r.path.head? = some slash then r.path else slash :: r.path)
    ++ (if r.query.isEmpty then [] else CodePoint.ofChar '?' :: r.query)
    ++ (if r.fragment.isEmpty then [] else CodePoint.ofChar '#' :: r.fragment)

/-- The text begins with the name of a scheme: something before its first colon, and no slash
there. -/
def namesScheme (t : Text) : Bool :=
  let name := t.takeWhile fun c => c != CodePoint.ofChar ':' && c != CodePoint.ofChar '/'
  !name.isEmpty && (t.drop name.length).head? = some (CodePoint.ofChar ':')

/-! ## Joining -/

/-- The schemes whose addresses may be given by a reference. -/
def schemes : List Text :=
  ["ftp", "http", "gopher", "nntp", "imap", "wais", "file", "https", "shttp", "mms", "prospero",
    "rtsp", "rtsps", "rtspu", "sftp", "svn", "svn+ssh", "ws", "wss"].map Text.ofString

/-- Those of them whose paths may end in parameters. -/
def parametric : List Text :=
  ["ftp", "prospero", "http", "imap", "https", "shttp", "rtsp", "rtsps", "rtspu", "mms",
    "sftp"].map Text.ofString

/-- A path and the parameters after it: those of its last segment. -/
def splitParameters (scheme path : Text) : Text × Text :=
  if parametric.contains scheme then
    let last := (path.reverse.takeWhile (· != CodePoint.ofChar '/')).reverse
    match Text.splitFirst (CodePoint.ofChar ';') last with
    | some (name, parameters) =>
      (path.take (path.length - last.length) ++ name, parameters)
    | none => (path, [])
  else (path, [])

/-- The path with its parameters. -/
def withParameters (path parameters : Text) : Text :=
  if parameters.isEmpty then path else path ++ CodePoint.ofChar ';' :: parameters

/-- The segments of a path that is given relative to another. -/
def segments (base path : Text) : List Text :=
  let slash := CodePoint.ofChar '/'
  let own := Text.splitAll slash path
  if path.head? = some slash then own
  else
    let parts := Text.splitAll slash base
    let all := (if parts.getLast? = some [] then parts else parts.dropLast) ++ own
    match all with
    | [] => []
    | first :: rest =>
      first :: rest.dropLast.filter (fun s => !s.isEmpty) ++ rest.drop (rest.length - 1)

/-- One more segment after those kept, in reverse: `.` is dropped, `..` takes back the segment
before it. -/
def step (kept : List Text) (segment : Text) : List Text :=
  if segment = Text.ofString ".." then kept.drop 1
  else if segment = Text.ofString "." then kept
  else segment :: kept

/-- The path that segments lead to. A last segment of dots leads to what is above. -/
def pathOf (segments : List Text) : Text :=
  let kept := (segments.foldl step []).reverse
  let dotted := segments.getLast?.any fun s => s = Text.ofString "." || s = Text.ofString ".."
  let path := Text.joinWith (Text.ofString "/") (if dotted then kept ++ [[]] else kept)
  if path.isEmpty then Text.ofString "/" else path

/-- The address that a reference found under another address means. Where the scheme of that address
does not admit references, or the reference names another scheme, it means itself. -/
def join? (base reference : Text) : Except Fault Text := do
  if reference.isEmpty then return base
  let b ← split? [] base
  let r ← split? b.scheme reference
  if r.scheme != b.scheme || !schemes.contains r.scheme then return reference
  if !r.authority.isEmpty then return r.text
  let (basePath, baseParameters) := splitParameters b.scheme b.path
  let (path, parameters) := splitParameters r.scheme r.path
  if path.isEmpty && parameters.isEmpty then
    return { r with
      authority := b.authority, path := withParameters basePath baseParameters
      query := if r.query.isEmpty then b.query else r.query }.text
  return { r with
    authority := b.authority
    path := withParameters (pathOf (segments basePath path)) parameters }.text

end Reference

end Courier
