import Courier.Message.Body
import Courier.Schema.Assignment
import Courier.Schema.Field

/-!
# Messages

One message to one recipient. A message with a media address is an MMS, any other an SMS; an empty
address counts as none.

* `Message.ofValue`: checks a record as a message (`MessageRequest`).
* `Message.formPayload?`: what is sent for a message (`MessagingClient.build_form_body`).
-/

namespace Courier

/-- A message to be sent (`MessageRequest`). The addresses are passed on as they are. -/
structure Message where
  recipient : Text
  sender : Text
  body : Body
  mediaUrl : Option Text
  deriving DecidableEq, Repr

/-- Text alone, or text with an attachment (`MessageKind`). -/
inductive MessageKind where
  | sms
  | mms
  deriving DecidableEq, Repr

/-- The word for a kind. -/
def MessageKind.word : MessageKind → Text
  | .sms => Text.ofString "sms"
  | .mms => Text.ofString "mms"

namespace Message

/-- Text or octets, taken as they are. -/
def bodyOfValue (v : Value) : Schema.Checked Body :=
  match v with
  | .text t => .valid (.text t)
  | .bytes bs => .valid (.octets bs)
  | _ => .invalid
      [⟨[.name (Text.ofString "str")], .textExpected, v⟩,
        ⟨[.name (Text.ofString "bytes")], .octetsExpected, v⟩]

/-- The names that the sender may have in a record, in order of preference. -/
def senderNames : List String := ["from", "from_"]

/-- Check a value as a message. -/
def ofValue : Value → Schema.Checked Message :=
  Schema.object (.recordExpected .message) fun ms =>
    Message.mk <$> Schema.required ["to"] Schema.text ms
      <*> Schema.required senderNames Schema.text ms
      <*> Schema.required ["body"] bodyOfValue ms
      <*> Schema.optional ["media_url"] (Schema.nullable Schema.text) none ms

/-- The body as a value. -/
def bodyValue : Body → Value
  | .text t => .text t
  | .octets bs => .bytes bs

/-- The message as a record. -/
def fields (m : Message) : Members :=
  [(Text.ofString "to", .text m.recipient), (Text.ofString "from_", .text m.sender),
    (Text.ofString "body", bodyValue m.body),
    (Text.ofString "media_url", Value.ofOption .text m.mediaUrl)]

/-- The fields of a message may change; its kind follows from them. -/
def access : Schema.Access := ⟨.message, false, ["kind"]⟩

/-- The address of the attachment, unless it is empty. -/
def attachment? (m : Message) : Option Text := m.mediaUrl.filter fun t => !t.isEmpty

/-- A message with an attachment is an MMS (`MessageRequest.kind`). -/
def kind (m : Message) : MessageKind := if m.attachment?.isSome then .mms else .sms

/-- The form payload of a message (`MessagingClient.build_form_body`). The body alone is
percent-encoded, the addresses go out as they are. -/
def formPayload? (m : Message) : Except Utf8.Unencodable Text :=
  m.body.percentForm?.map fun body =>
    Text.ofString "To=" ++ m.recipient ++ Text.ofString "&From=" ++ m.sender
      ++ Text.ofString "&Body=" ++ body
      ++ match m.attachment? with
        | some url => Text.ofString "&MediaUrl=" ++ url
        | none => []

end Message

end Courier
