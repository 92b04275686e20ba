import Courier.Message.Basic
import Courier.Message.Outcome

/-!
# What the gateway takes and gives

A submission is a message handed to the gateway, where the sender may be left to its settings. A
receipt is the answer to one that the provider accepted.
-/

namespace Courier

/-- A message for the gateway to send, and whether the provider's answer is wanted back
(`SendMessageRequest`). -/
structure Submission where
  recipient : Text
  sender : Option Text
  body : Text
  mediaUrl : Option Text
  verbose : Bool
  deriving DecidableEq, Repr

namespace Submission

/-- Check the members of an object as a submission. -/
def ofMembers (ms : Members) : Schema.Checked Submission :=
  Submission.mk <$> Schema.required ["to"] Schema.text ms
    <*> Schema.optional Message.senderNames (Schema.nullable Schema.text) none ms
    <*> Schema.required ["body"] Schema.text ms
    <*> Schema.optional ["media_url"] (Schema.nullable Schema.text) none ms
    <*> Schema.optional ["verbose"] Schema.truth false ms

/-- Check a value as a submission. -/
def ofValue : Value → Schema.Checked Submission :=
  Schema.object (.recordExpected .submission) ofMembers

/-- The submission as a record. -/
def fields (s : Submission) : Members :=
  [(Text.ofString "to", .text s.recipient),
    (Text.ofString "from_", Value.ofOption .text s.sender),
    (Text.ofString "body", .text s.body),
    (Text.ofString "media_url", Value.ofOption .text s.mediaUrl),
    (Text.ofString "verbose", .bool s.verbose)]

/-- The fields of a submission may change. -/
def access : Schema.Access := ⟨.submission, false, []⟩

end Submission

/-- The answer to a submission that was sent (`SendMessageResponse`). -/
structure Receipt where
  ok : Bool
  outcome : Outcome
  deriving DecidableEq, Repr

namespace Receipt

/-- Check a value as a receipt. -/
def ofValue : Value → Schema.Checked Receipt :=
  Schema.object (.recordExpected .receipt) fun ms =>
    Receipt.mk <$> Schema.required ["ok"] Schema.truth ms
      <*> Schema.required ["result"] Outcome.ofValue ms

/-- The receipt as a record. -/
def fields (r : Receipt) : Members :=
  [(Text.ofString "ok", .bool r.ok), (Text.ofString "result", .object r.outcome.fields)]

/-- The fields of a receipt may change. -/
def access : Schema.Access := ⟨.receipt, false, []⟩

end Receipt

end Courier
