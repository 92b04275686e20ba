import Courier.Fault
import Courier.Gateway.Route
import Courier.Json.Reader
import Courier.Text.Blank
import Courier.Text.Document

/-!
# Requests to the gateway

A request as the gateway receives it: a method, an address, and perhaps content of some media type.
Content is read as JSON if its media type says so, and is otherwise left as it is.

* `Request.route?`: the route that takes a request.
* `Request.payload`: what the content of a request comes to.
* `Request.location?`: the address to which a request for another path is pointed.
-/

namespace Courier.Gateway

/-- A request. Its origin is the scheme and the host that it was made to, its path has the escapes
undone, and its query is left as it stands. Without octets it has no content, and without characters
the content has no media type. -/
structure Request where
  method : Text
  origin : Text
  path : Text
  query : Text
  content : Bytes
  mediaType : Text
  deriving DecidableEq, Repr

namespace Request

/-- The media type of JSON. -/
def jsonType : Text := Text.ofString "application/json"

/-- The media type is JSON, or a type written in JSON. Parameters do not count. -/
def isJson (mediaType : Text) : Bool :=
  let essence := (Blank.strip (mediaType.takeWhile (· != CodePoint.ofChar ';'))).lowerAscii
  match Text.splitAll (CodePoint.ofChar '/') essence with
  | [main, sub] => main = Text.ofString "application"
      && (sub = Text.ofString "json" || Text.endsWith sub (Text.ofString "+json"))
  | _ => false

/-- What the content of a request comes to. -/
inductive Payload where
  | absent
  | octets (bs : Bytes)
  | value (v : Value)
  | malformed (reason : Text) (position : Nat)
  | unreadable

/-- A character that stands as it is in a location. -/
def isLocationSafe (c : CodePoint) : Bool :=
  c.isAsciiLetter || c.isAsciiDigit || (Text.ofString "_.-~:/%#?=@[]!$&'()*+,;").contains c

/-- The address of another path, with the origin and the query of a request. -/
def location? (r : Request) (path : Text) : Except Fault Text :=
  let query := if r.query.isEmpty then [] else CodePoint.ofChar '?' :: r.query
  (Url.protect? isLocationSafe (r.origin ++ path ++ query)).mapError Fault.ofUrl

section

variable [Installation]

/-- The route that takes a request, if there is one. -/
def route? (r : Request) : Option Route := Route.find? r.path r.method

/-- How much is read of a JSON document. -/
def limits : Json.Limits := ⟨Installation.requestDepth, Reading.maxIntegerDigits⟩

/-- The content of a request is to be read as JSON. -/
def holdsJson (r : Request) : Bool :=
  isJson r.mediaType || (r.mediaType.isEmpty && Installation.readsUntyped)

/-- What a document comes to. -/
def Payload.ofValue : Value → Payload
  | .null => if Installation.nullIsMissing then .absent else .value .null
  | v => .value v

/-- The content of a request, read if it is to be read. -/
def payload (r : Request) : Payload :=
  if r.content.isEmpty then .absent
  else if !r.holdsJson then .octets r.content
  else match Document.decode? r.content with
    | none => .unreadable
    | some t => match Json.parse? limits t with
      | .ok v => .ofValue v
      | .error (.malformed cause position) => .malformed (Text.ofString cause.message) position
      | .error .tooDeep | .error .tooManyDigits => .unreadable

end

end Request

end Courier.Gateway
