import Courier.Gateway.App
import Courier.Text.Capital
import Courier.Web.Call

/-!
# Callers of the gateway

A caller within the process goes to the gateway as it would go over the network: it finds the
address that a target leads to, hands over a request, and goes on to where the answer points. Its
cookies are looked for at every address, so that each has to be a proper site of them; the gateway
sets none.

* `Caller.Errand.url?`: the address that a target leads to.
* `Caller.fetch`: the answer that a caller ends with.
-/

namespace Courier.Gateway.Caller

/-- What a caller asks for. Without octets there is no content. -/
structure Errand where
  method : Text
  target : Text
  content : Bytes
  mediaType : Text
  deriving DecidableEq, Repr

/-- The address of the gateway for targets that name no host. -/
def base : Url :=
  { Url.empty with scheme := Text.ofString "http", host := Text.ofString "testserver" }

/-- The path of an address as it is served. Escapes are undone by the caller and once more by the
gateway. -/
def servedPath (url : Url) : Text :=
  let undo (t : Text) : Text := Utf8.decodeLossy (Percent.decode t)
  undo (undo (if url.path.isEmpty then Text.ofString "/" else url.path))

/-- The schemes under which the gateway is served. -/
def schemes : List Text := ["http", "https", "ws", "wss"].map Text.ofString

/-- An address has one of these schemes. -/
def checkServed (url : Url) : Except Fault Unit :=
  if schemes.contains url.scheme then .ok () else .error (.unservedScheme url.scheme)

/-- The request for an errand at an address. The name of the method is put in capitals. -/
def Errand.requestAt (e : Errand) (url : Url) : Request :=
  ⟨Capital.ofText e.method, url.scheme ++ Text.ofString "://" ++ url.server, servedPath url,
    url.query.getD [], e.content, e.mediaType⟩

/-- The fault of a location that leads nowhere. -/
def faultOf : Call.Failure → Fault
  | .unreadable fault => .exchangeFault .remoteProtocol (Call.unreadableMessage fault)
  | .uncallable fault => fault

section

variable [Installation]

/-- The address that an errand leads to. A target that is no address of this gateway, or a header
outside ASCII, means that there is no request. -/
def Errand.url? (e : Errand) : Except Fault Url := do
  let target ← (Url.parse? e.target).mapError Fault.ofUrl
  let url ← (Url.resolve? base target).mapError Fault.ofUrl
  (Ascii.check e.mediaType).mapError Fault.notAscii
  Call.check url
  checkServed url
  pure url

/-- The answer to an errand at an address. -/
def fetchAt (e : Errand) (url : Url) : Run Response := do
  let response ← App.handle (e.requestAt url)
  let _ ← Run.ofExcept (Call.site? url)
  pure response

/-- The answer to an errand, at the address that a first answer points to if it does. Who asks for
the head of an answer gets nothing else of it. -/
def fetch (e : Errand) : Run Response := do
  let url ← Run.ofExcept e.url?
  let first ← fetchAt e url
  let response ← match first.location with
    | none => pure first
    | some location => do
      let destination ← Run.ofExcept ((Call.destination? [] url location).mapError faultOf)
      fetchAt e destination
  if Capital.ofText e.method = Text.ofString "HEAD" then pure { response with body := .nothing }
  else pure response

end

end Courier.Gateway.Caller
