import Courier.Web.Date
import Courier.Web.Reference
import Courier.Web.Words

/-!
# Cookies

A reply may set cookies: a name with a value, and attributes after it. A client keeps a cookie under
its domain, its path and its name, unless the cookie is meant for another host or port, or has ended
already. One that has ended takes the one of the same place with it. Every later request carries the
cookies that are meant for its site in a header. As all calls are made at one time, no cookie ends
while it is kept.

Headers of two kinds set cookies. Of the newer kind (`set-cookie2`) only those are kept that claim
to be of the older version, and they are looked at only beside headers of the older kind.

* `Cookie.Jar`: the cookies that a client keeps.
* `Cookie.Jar.receive`: the cookies after a reply.
* `Cookie.Jar.header?`: the header of a request to a site.
-/

namespace Courier

namespace Cookie

/-- The place of a cookie. -/
structure Place where
  domain : Text
  path : Text
  name : Text
  deriving DecidableEq, Repr

/-- A cookie that a client keeps: its place, its value, whether it is sent in secret alone, the
ports it is bound to, and whether it is of version 0, not of a lower one. -/
structure Kept where
  place : Place
  value : Option Text
  secret : Bool
  ports : Option Text
  isZero : Bool
  deriving DecidableEq, Repr

/-- The cookies that a client keeps, by their domains and then by their paths. Domains, paths and
names keep the order of their first use, also when all cookies under them have ended. -/
abbrev Jar := List (Text × List (Text × List Kept))

/-- All cookies in their order. -/
def Jar.cookies (jar : Jar) : List Kept := jar.flatMap fun (_, paths) => paths.flatMap (·.2)

/-! ## Sites -/

/-- Where a reply comes from: the host without its number but with the user before it, the path, the
number if it is one, and whether a server is named at all. -/
structure Site where
  host : Text
  path : Text
  port : Option Text
  isServed : Bool
  deriving DecidableEq, Repr

/-- The number of a site that names none. -/
def usualPort : Text := Text.ofString "80"

/-- The text without a colon and digits at its end. -/
def dropPort (authority : Text) : Text :=
  let reversed := authority.reverse
  let rest := reversed.dropWhile CodePoint.isAsciiDigit
  if rest.length < reversed.length && rest.head? = some (CodePoint.ofChar ':') then
    (rest.drop 1).reverse
  else authority

/-- What stands after the first colon of an authority, its escapes undone, if it is a number.
Without a colon it is the usual number. -/
def port? (authority : Text) : Option Text :=
  match Text.splitFirst (CodePoint.ofChar ':') (Utf8.decodeLossy (Percent.decode authority)) with
  | some (_, digits) => if (Reading.settingInteger? digits).isSome then some digits else none
  | none => some usualPort

/-- A character that stands as it is in the path of a cookie. -/
def isPathSafe (c : CodePoint) : Bool :=
  c.isAsciiLetter || c.isAsciiDigit || (Text.ofString "_.-~%/;:@&=+$,!*'()").contains c

/-- A hexadecimal digit as a capital. -/
def capitalDigit (c : CodePoint) : CodePoint := (c.hexValue?.map CodePoint.upperHexDigit).getD c

/-- The text with the digits of its escapes made capital. -/
def capitalEscapes : Text → Text
  | c :: h :: l :: rest =>
    if c = CodePoint.ofChar '%' && h.hexValue?.isSome && l.hexValue?.isSome then
      c :: capitalDigit h :: capitalDigit l :: capitalEscapes rest
    else c :: capitalEscapes (h :: l :: rest)
  | t => t

/-- A path as cookies have it. -/
def pathForm (path : Text) : Text :=
  capitalEscapes (path.flatMap fun c =>
    if isPathSafe c then [c] else (Utf8.encodeOne c).flatMap Percent.escape)

/-- The site of an address. -/
def Site.ofAddress? (address : Text) : Except Reference.Fault Site := do
  let r ← Reference.split? [] address
  let path := pathForm r.path
  let slash := CodePoint.ofChar '/'
  pure ⟨(dropPort r.authority).lowerAscii, if path.head? = some slash then path else slash :: path,
    port? r.authority, Text.startsWith (Url.takeScheme address).2 (Text.ofString "//")⟩

/-- What is put after the names of the local net. -/
def localNet : Text := Text.ofString ".local"

/-- The host as the domain of a cookie: a name without dots counts as one of the local net. -/
def Site.domain (s : Site) : Text :=
  if s.host.contains (CodePoint.ofChar '.') then s.host else s.host ++ localNet

/-! ## Headers -/

/-- What an attribute says: nothing but its name, a text, or a moment. -/
inductive Content where
  | nothing
  | text (t : Text)
  | moment (second : Int)
  deriving DecidableEq, Repr

/-- What a header says: the name of a cookie, its value, and its attributes. -/
structure Entry where
  name : Text
  value : Option Text
  attributes : List (Text × Content)

/-- The text without a quotation mark at each end. -/
def dropQuotes (t : Text) : Text :=
  let quote := CodePoint.ofChar '"'
  let t := if t.head? = some quote then t.drop 1 else t
  if t.getLast? = some quote then t.dropLast else t

/-- A part of a header: what stands before and after the first `=`, if there is one. -/
def nameAndValue (part : Text) : Text × Option Text :=
  match Text.splitFirst (CodePoint.ofChar '=') part with
  | some (name, value) => (Blank.strip name, some (Blank.strip value))
  | none => (Blank.strip part, none)

/-- The names differ in the case of their letters at most. -/
def isNamed (name : String) (t : Text) : Bool := t.lowerAscii = Text.ofString name

/-- An attribute in a header of the older kind, with its date read if it is one. There is none where
the date cannot be looked at. -/
def attribute? (now : Int) (part : Text) : Option (Text × Content) :=
  match nameAndValue part with
  | (name, none) => some (name, .nothing)
  | (name, some value) =>
    if isNamed "version" name then some (name, .text (dropQuotes value))
    else if isNamed "expires" name then match Date.read now (dropQuotes value) with
      | .moment second => some (name, .moment second)
      | .nothing => some (name, .nothing)
      | .broken => none
    else some (name, .text value)

/-- What a header of the older kind says, if it begins with a name. An attribute without a name does
not count, and a cookie that claims no version is of version 0. A date that cannot be looked at
spoils all headers of the reply. -/
def ofOlder? (now : Int) (header : Text) : Option (List Entry) :=
  match Text.splitAll (CodePoint.ofChar ';') header with
  | [] => some []
  | first :: parts =>
    let (name, value) := nameAndValue first
    if name.isEmpty then some []
    else do
      let found ← (parts.filter fun p => !(nameAndValue p).1.isEmpty).mapM (attribute? now)
      let version := (Text.ofString "version", Content.text (Text.ofString "0"))
      some [⟨name, value, if found.any fun (n, _) => isNamed "version" n then found
        else found ++ [version]⟩]

/-- What a header of the newer kind says. -/
def ofNewer (header : Text) : List Entry :=
  (Words.read header).filterMap fun words => match words with
    | [] => none
    | (name, value) :: rest => some ⟨name, value, rest.map fun (n, content) =>
      (n, match content with
        | some t => .text t
        | none => .nothing)⟩

/-! ## Attributes -/

/-- When a cookie ends: with the client, or at a moment; it may also be left open what to do. -/
inductive Lifetime where
  | session
  | moment (second : Int)
  | undecided
  deriving DecidableEq, Repr

/-- The attributes that matter. -/
structure Attributes where
  version : Option Text
  domain : Option Text
  path : Option Text
  ports : Option (Option Text)
  secret : Option Bool
  lifetime : Lifetime

/-- No attributes. -/
def Attributes.empty : Attributes := ⟨none, none, none, none, none, .session⟩

/-- What an attribute without sense spoils: its cookie, or all cookies of the headers of a kind. -/
inductive Spoiled where
  | cookie
  | headers

/-- The text that an attribute has to say. -/
def Content.text? : Content → Except Spoiled Text
  | .text t => .ok t
  | .nothing | .moment _ => .error .cookie

/-- The attributes with one more. The first of a name counts, but the greatest age counts before a
date, and the last of those. -/
def Attributes.add (now : Int) (a : Attributes) (name : Text) (content : Content) :
    Except Spoiled Attributes := do
  if isNamed "version" name then
    if a.version.isSome then return a
    return { a with version := some (← content.text?) }
  else if isNamed "domain" name then
    if a.domain.isSome then return a
    return { a with domain := some (← content.text?).lowerAscii }
  else if isNamed "path" name then
    if a.path.isSome then return a
    return { a with path := some (← content.text?) }
  else if isNamed "port" name then
    if a.ports.isSome then return a
    return { a with ports := some content.text?.toOption }
  else if isNamed "secure" name then
    if a.secret.isSome then return a
    return { a with secret := some (content != .text []) }
  else if isNamed "expires" name then
    match a.lifetime, content with
    | .session, .moment second => return { a with lifetime := .moment second }
    | .session, .text _ => return { a with lifetime := .undecided }
    | _, _ => return a
  else if isNamed "max-age" name then
    match content with
    | .text t => match Reading.settingInteger? t with
      | some n => return { a with lifetime := .moment (now + n) }
      | none => throw .cookie
    | .nothing | .moment _ => throw .headers
  else return a

/-- What an entry comes to: the name and the value of a cookie, with the attributes that matter. -/
structure Offer where
  name : Text
  value : Option Text
  attributes : Attributes

/-- What entries come to, without those that are spoiled; nothing where one spoils all. -/
def offers? (now : Int) : List Entry → Option (List Offer)
  | [] => some []
  | entry :: rest =>
    match entry.attributes.foldlM (fun a (n, c) => a.add now n c) Attributes.empty with
    | .ok a => (offers? now rest).map (⟨entry.name, entry.value, a⟩ :: ·)
    | .error .cookie => offers? now rest
    | .error .headers => none

end Cookie

/-! ## Cookies -/

/-- A cookie as it is offered: what would be kept of it, the version it claims, and whether its
domain and its ports were named. -/
structure Cookie where
  place : Cookie.Place
  value : Option Text
  secret : Bool
  ports : Option Text
  version : Option Int
  domainNamed : Bool
  portsNamed : Bool
  deriving DecidableEq, Repr

namespace Cookie

/-- What an offer comes to at a site: a cookie, the end of the one in its place, or nothing.
What cannot be decided spoils the rest. -/
inductive Verdict where
  | offered (c : Cookie)
  | ended (place : Place)
  | nothing
  | spoiled

/-- The path of a cookie that names none: the one of its site up to the last slash, which stays
unless the cookie is of version 0. -/
def defaultPath (version : Option Int) (path : Text) : Text :=
  let above := (path.reverse.dropWhile (· != CodePoint.ofChar '/')).reverse
  let found := if version = some 0 then above.dropLast else above
  if found.isEmpty then Text.ofString "/" else found

/-- A domain with a dot in front. -/
def dotted (domain : Text) : Text :=
  let dot := CodePoint.ofChar '.'
  if domain.head? = some dot then domain else dot :: domain

/-- The place of a cookie of a site. -/
def placeOf (site : Site) (version : Option Int) (name : Text) (a : Attributes) : Place :=
  let path := match a.path.filter (!·.isEmpty) with
    | some path => pathForm path
    | none => defaultPath version site.path
  ⟨(a.domain.map dotted).getD site.domain, path, name⟩

/-- The ports that a cookie is bound to: none, those that are named, or that of its site. Where no
server is named, the latter spoils the rest. -/
def portsOf? (site : Site) (a : Attributes) : Option (Option Text) :=
  match a.ports with
  | none => some none
  | some (some ports) => some (some (ports.filter fun d => !Blank.isBlank d))
  | some none => if site.isServed then some site.port else none

/-- What an offer comes to at a site. A moment that no real number of 64 bits is near to spoils the
rest. -/
def judge (now : Int) (site : Site) (o : Offer) : Verdict :=
  match o.attributes.version.map Reading.settingInteger? with
  | some none => .nothing
  | version =>
    let place := placeOf site version.join o.name o.attributes
    match portsOf? site o.attributes with
    | none => .spoiled
    | some ports =>
      let c : Cookie := ⟨place, o.value, o.attributes.secret.getD false, ports, version.join,
        o.attributes.domain.isSome, o.attributes.ports.join.isSome⟩
      match o.attributes.lifetime with
      | .session => .offered c
      | .moment second =>
        if second ≤ now then .ended place
        else if (Binary64.ofInt second).isFinite then .offered c
        else .spoiled
      | .undecided => .spoiled

/-- The cookies without the one in a place. -/
def Jar.erase (jar : Jar) (place : Place) : Jar :=
  jar.map fun (domain, paths) => (domain, paths.map fun (path, ks) =>
    (path, ks.filter (·.place != place)))

/-- Go through offers. Cookies that have ended leave the jar at once; the others are gathered,
unless one spoils all. -/
def gather (now : Int) (site : Site) (jar : Jar) : List Offer → Jar × Option (List Cookie)
  | [] => (jar, some [])
  | o :: rest =>
    match judge now site o with
    | .spoiled => (jar, none)
    | .nothing => gather now site jar rest
    | .ended place => gather now site (jar.erase place) rest
    | .offered c =>
      let (jar, found) := gather now site jar rest
      (jar, found.map (c :: ·))

/-! ## Keeping cookies -/

/-- Cookies of a later version are not kept, nor are those that say none. -/
def hasKeptVersion (c : Cookie) : Bool := c.version.any (· ≤ 0)

/-- A named domain is that of the site or lies above it. It has a dot within, unless the site is one
of the local net. -/
def domainFits (site : Site) (c : Cookie) : Bool :=
  let domain := c.place.domain
  let bare := domain.drop 1
  let dot := CodePoint.ofChar '.'
  !c.domainNamed
    || ((bare.contains dot || Text.endsWith site.domain localNet)
      && (c.version != some 0 || Text.endsWith site.domain domain
        || Text.endsWith site.domain (bare ++ localNet) || site.domain.head? = some dot
        || Text.endsWith (dot :: site.domain) domain))

/-- One of the ports is that of the site, and all before it are numbers. -/
def portsFit (portNumber : Text) : List Text → Bool
  | [] => false
  | p :: rest => (Reading.settingInteger? p).isSome && (p = portNumber || portsFit portNumber rest)

/-- What a client keeps of a cookie, if its site may set it. -/
def kept? (site : Site) (c : Cookie) : Option Kept :=
  let portFits := !c.portsNamed || portsFit (site.port.getD usualPort)
    (Text.splitAll (CodePoint.ofChar ',') (c.ports.getD []))
  if c.hasKeptVersion && c.domainFits site && portFits then
    some ⟨c.place, c.value, c.secret, c.ports, c.version = some 0⟩
  else none

/-- A cookie of the older kind that claims version 1 counts as one of version 0. -/
def asOlder (c : Cookie) : Cookie := if c.version = some 1 then { c with version := some 0 } else c

/-- The values of the headers of a name. -/
def headersNamed (name : String) (headers : List (Text × Text)) : List Text :=
  (headers.filter fun (n, _) => isNamed name n).map (·.2)

/-- What is under a name, changed in its place, or put at the end. -/
def under (name : Text) (change : List α → List α) : List (Text × List α) → List (Text × List α)
  | [] => [(name, change [])]
  | (n, items) :: rest =>
    if n = name then (n, change items) :: rest else (n, items) :: under name change rest

/-- Put a cookie into the place of one of its name, or at the end. -/
def put (k : Kept) : List Kept → List Kept
  | [] => [k]
  | old :: rest => if old.place.name = k.place.name then k :: rest else old :: put k rest

/-- Put a cookie into its place. -/
def Jar.insert (jar : Jar) (k : Kept) : Jar :=
  under k.place.domain (under k.place.path (put k)) jar

/-- The cookies after a reply from a site. -/
def Jar.receive (jar : Jar) (now : Int) (site : Site) (headers : List (Text × Text)) : Jar :=
  let older := headersNamed "set-cookie" headers
  if older.isEmpty then jar
  else
    let gatherAll (jar : Jar) (entries : Option (List Entry)) : Jar × List Cookie :=
      match entries >>= offers? now with
      | some found => (gather now site jar found).map id (·.getD [])
      | none => (jar, [])
    let (jar, newerCookies) := gatherAll jar
      (some ((headersNamed "set-cookie2" headers).flatMap ofNewer))
    let (jar, olderCookies) := gatherAll jar ((older.mapM (ofOlder? now)).map List.flatten)
    ((newerCookies ++ olderCookies.map asOlder).filterMap (kept? site)).foldl Jar.insert jar

/-! ## Sending cookies -/

/-- The end that a host has to have for a domain: the domain behind a dot, and nothing for none. -/
def domainEnd (domain : Text) : Text := if domain.isEmpty then domain else dotted domain

/-- The domain of a cookie is that of a site or lies above it. -/
def domainReaches (site : Site) (domain : Text) : Bool :=
  Text.endsWith (dotted site.host) (domainEnd domain)
    || Text.endsWith (dotted site.domain) (domainEnd domain)

/-- The path of a cookie is that of a site or lies above it. -/
def pathReaches (site : Site) (path : Text) : Bool :=
  let slash := CodePoint.ofChar '/'
  site.path = path || (Text.startsWith site.path path
    && (path.getLast? = some slash || (site.path.drop path.length).head? = some slash))

namespace Kept

/-- The ports that a cookie is bound to, if it is bound to any. -/
def ports? (k : Kept) : Option Text := k.ports.filter fun t => !t.isEmpty

/-- A cookie is meant for a site, its ports aside. -/
def reaches (site : Site) (inSecret : Bool) (k : Kept) : Bool :=
  domainReaches site k.place.domain && pathReaches site k.place.path && (!k.secret || inSecret)

/-- A cookie is sent to a site. One of version 0 goes to the domain that the site counts under. -/
def isSent (site : Site) (inSecret : Bool) (k : Kept) : Bool :=
  k.reaches site inSecret
    && (k.ports?.all fun ports =>
      (Text.splitAll (CodePoint.ofChar ',') ports).contains (site.port.getD usualPort))
    && (!k.isZero
      || Text.endsWith (CodePoint.ofChar '.' :: site.domain) (domainEnd k.place.domain))

/-- A cookie as it stands in the header of a request. -/
def text (k : Kept) : Text :=
  match k.value with
  | some value => k.place.name ++ Text.ofString "=" ++ value
  | none => k.place.name

/-- Put a cookie before the first one whose path is not longer. -/
def insertByPath (k : Kept) : List Kept → List Kept
  | [] => [k]
  | next :: rest =>
    if next.place.path.length ≤ k.place.path.length then k :: next :: rest
    else next :: insertByPath k rest

end Kept

/-- The header with the cookies for a site, those with longer paths first, if there are any. -/
def Jar.header? (jar : Jar) (site : Site) (inSecret : Bool) : Option Text :=
  match jar.cookies.filter (·.isSent site inSecret) with
  | [] => none
  | sent => some (Text.joinWith (Text.ofString "; ")
      ((sent.foldr Kept.insertByPath []).map Kept.text))

end Cookie

end Courier
