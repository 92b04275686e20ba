import Courier.Fault
import Courier.Web.Cookie

/-!
# Calling an address

Before an address is called, its host is read and written into a header. A reply may point to
another address, its location, which has to be an address that could be called.

* `Call.check`: an address can be called.
* `Call.destination?`: the address that a reply points to, which can be called too.
-/

namespace Courier.Call

variable [Installation]

/-- The host of an address, if it names one, can be read and stands in ASCII. -/
def check (u : Url) : Except Fault Unit := do
  let _ ← u.hostName?.mapError Fault.badDomain
  (Ascii.check u.server).mapError Fault.notAscii

/-- The statuses of replies that point to another address. -/
def redirections : List Int := [301, 302, 303, 307, 308]

/-- What is wrong with a location: it is no address, or none that can be called. -/
inductive Failure where
  | unreadable (fault : Url.Fault)
  | uncallable (fault : Fault)

/-- The words for a location that is no address. -/
def unreadableMessage (fault : Url.Fault) : Text :=
  Text.ofString "Invalid URL in location header: " ++ fault.message ++ Text.ofString "."

/-- The site of the cookies of an address, which has to name a scheme before its fragment, and a
proper host. An address without one is shown without a fragment that is empty. -/
def site? (u : Url) : Except Fault Cookie.Site := do
  let (bare, fragment) := (Url.splitLast (CodePoint.ofChar '#') u.text).getD (u.text, [])
  if !Reference.namesScheme bare then
    throw (.unknownUrlType (if fragment.isEmpty then bare else u.text))
  (Cookie.Site.ofAddress? u.text).mapError Fault.badReference

/-- The schemes of calls that are made in secret. -/
def secretSchemes : List Text := ["https", "wss"].map Text.ofString

/-- A call of an address is made in secret. -/
def inSecret (u : Url) : Bool := secretSchemes.contains u.scheme

/-- Among the cookies of a client those for an address are looked for. For one that is bound to
ports, the address has to name a server. -/
def checkCookies (jar : Cookie.Jar) (u : Url) : Except Fault Unit := do
  if jar.cookies.isEmpty then return
  let site ← site? u
  let isAsked (k : Cookie.Kept) : Bool := k.ports?.isSome && k.reaches site (inSecret u)
  if !site.isServed && jar.cookies.any isAsked then throw .serverless

/-- The header with the cookies that go along with a call of an address, if there are any. -/
def cookieHeader? (jar : Cookie.Jar) (u : Url) : Option Text :=
  (site? u).toOption.bind fun site => jar.header? site (inSecret u)

/-- A location with a scheme and without a host takes the host of the address it was found under,
which goes before its path. -/
def placeHost (origin location : Url) : Except Fault Url := do
  if location.scheme.isEmpty then return location
  if location.host.isEmpty then
    location.checkParts.mapError Fault.badUrl
    (Url.checkPath true true location.path).mapError Fault.badUrl
    return { location with host := origin.host }
  let _ ← location.hostName?.mapError Fault.badDomain
  return location

/-- A location without a scheme is joined with the address it was found under. -/
def joined (origin location : Url) : Except Fault Url := do
  if location.isAbsolute then return location
  let address ← (Reference.join? origin.text location.text).mapError Fault.badReference
  (Url.parse? address).mapError Fault.badUrl

/-- A location without a fragment takes that of the address it was found under. -/
def placeFragment (origin location : Url) : Except Fault Url := do
  let fragment := origin.plainFragment
  if fragment.isEmpty || !location.plainFragment.isEmpty then return location
  { location with fragment := some fragment }.checkParts.mapError Fault.badUrl
  if let some (c, position) := Url.control? fragment then
    throw (.badUrl (.controlInFragment c position))
  let fragment ← (Url.protect? Url.isFragmentSafe fragment).mapError Fault.badUrl
  return { location with fragment := some fragment }

/-- The address that the location in a reply to a call means. -/
def destination? (jar : Cookie.Jar) (origin : Url) (location : Text) : Except Failure Url := do
  let location ← (Url.parse? location).mapError .unreadable
  let follow : Except Fault Url := do
    let destination ← placeFragment origin (← joined origin (← placeHost origin location))
    check destination
    checkCookies jar destination
    return destination
  follow.mapError .uncallable

end Courier.Call
