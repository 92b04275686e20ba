import Courier.Fault
import Courier.Gateway.Status
import Courier.Installation

/-!
# Answers of the gateway

An answer is a status with a JSON document, with a page, or with a location. Requests that cannot be
granted are answered in one form: `ok` is false, and `error` says why.

* `Problem.response?`: the answer for a problem with its detail.
* `invalidRequest`: the answer for a request with issues.
* `Response.content?`: the octets of an answer, where it has some.
-/

namespace Courier.Gateway

/-- What an answer holds. -/
inductive Response.Body where
  | nothing
  | document (v : Value)
  | page (octets : Bytes)

/-- An answer: a status, what it holds, and the address that it points to if it does. -/
structure Response where
  status : Int
  body : Response.Body
  location : Option Text

section

variable [Installation]

namespace Response

/-- An answer with a document. -/
def json (status : Int) (body : Value) : Response := ⟨status, .document body, none⟩

/-- An answer with a page. -/
def page (octets : Bytes) : Response := ⟨200, .page octets, none⟩

/-- An answer that points to another address. -/
def redirection (location : Text) : Response := ⟨307, .nothing, some location⟩

/-- The octets of an answer: a document is written as compact JSON in UTF-8. -/
def content? (r : Response) : Except Fault Bytes :=
  match r.body with
  | .nothing => .ok []
  | .document v => do
    let t ← (Json.write? Json.compact Installation.answerDepth v).mapError Fault.unwritable
    (Utf8.encode? t).mapError Fault.unencodable
  | .page octets => .ok octets

/-- The answer to a request that names no route, or none for its method. -/
def notServed (status : Int) (reason : String) : Response :=
  .json status (.ofFields [("detail", .string reason)])

end Response

/-! ## Problems -/

/-- A reason not to grant a request (`HTTPException`): a status and a detail. -/
structure Problem where
  status : Int
  detail : Value

namespace Problem

/-- A problem that is described by a text. -/
def ofText (status : Int) (detail : Text) : Problem := ⟨status, .text detail⟩

/-- A problem with a detail; null stands for the phrase of the status, empty if there is none. -/
def new (status : Int) (detail : Value) : Problem :=
  match detail with
  | .null => ofText status ((Status.phrase? status).getD [])
  | detail => ⟨status, detail⟩

/-- The detail as a text: as it is, or as JSON (`_http_exception_handler`). -/
def words? (p : Problem) : Except Fault Text :=
  match p.detail with
  | .text t => .ok t
  | detail =>
    (Json.write? Json.spaced Installation.detailDepth detail).mapError Fault.unwritable

/-- The answer for a problem, if it can be written (`_http_exception_handler`). -/
def response? (p : Problem) : Except Fault Response := do
  let words ← p.words?
  let r := Response.json p.status (.ofFields [("ok", .bool false), ("error", .text words)])
  let _ ← r.content?
  pure r

end Problem

end

/-! ## Issues -/

/-- A step on the way to a faulty part. -/
def keyValue : Schema.Key → Value
  | .name t => .text t
  | .index n => .int n

/-- What is said about an issue in an answer. -/
def issueValue (i : Schema.Issue) : Value :=
  let context := match i.cause with
    | .notJson reason => [("ctx", Value.ofFields [("error", .text reason)])]
    | _ => []
  .ofFields ([("type", .string i.cause.kind), ("loc", .list (i.place.map keyValue)),
    ("msg", .text i.cause.message), ("input", i.input)] ++ context)

/-- The answer to a request with issues (`_validation_exception_handler`). -/
def invalidRequest (issues : List Schema.Issue) : Response :=
  .json 422 <| .ofFields [("ok", .bool false), ("error", .string "Invalid request"),
    ("detail", .list (issues.map issueValue))]

/-- The answer where a fault stopped the work on a request (`_unhandled_exception_handler`). -/
def internalError : Response :=
  .json 500 <| .ofFields [("ok", .bool false), ("error", .string "Internal server error")]

end Courier.Gateway
