import Courier.Message.Credentials
import Courier.Message.Submission
import Courier.Transport

/-!
# The client

A client sends messages for one account. Its credentials and settings are fixed when it is made. A
send makes at most one post and reports what came of it; a body that is no proper text or is too
long is turned down before a transport is even looked for.

* `Client.new`: a client of checked credentials (`MessagingClient`).
* `Client.send`: send a message (`MessagingClient.send`).
* `Client.sendMessage`: check the parts of a message and send it (`MessagingClient.send_message`).
-/

namespace Courier

/-- A client of one account (`MessagingClient`). Without a transport of its own it uses the shared
one. -/
structure Client where
  credentials : Credentials
  carrier : Option Carrier
  settings : ClientSettings

namespace Client

variable [Installation]

/-- Under this name clients write to the log. -/
def logger : String := "sms_client.adapters.twilio"

/-- The greatest number of UTF-16 units of a body (`MAX_BODY_UNITS`). -/
def maxBodyUnits : Nat := 1600

/-- The statuses with which the provider accepts a message (`ACCEPTED_STATUS_CODES`). -/
def acceptedStatuses : List Int := [200, 201]

/-- A client of the given credentials, with the settings given or those read before. -/
def new (sid token : Value) (carrier : Option Carrier) (settings : Option ClientSettings) :
    Run Client := do
  let credentials ← Run.checked .credentials <| Credentials.ofValue <|
    Value.ofFields [("account_sid", sid), ("auth_token", token)]
  let settings ← match settings with
    | some s => pure s
    | none => Run.clientSettings
  pure ⟨credentials, carrier, settings⟩

/-- The address that the client posts to (`MessagingClient.messages_url`). -/
def messagesUrl (c : Client) : Text := c.settings.messagesUrl c.credentials.sid

/-- The reason why a body of so many units is turned down. -/
def tooLong (units : Nat) : Text :=
  Text.ofString "Message body must have " ++ Text.ofNat maxBodyUnits
    ++ Text.ofString " or fewer characters. Cannot send message with " ++ Text.ofNat units
    ++ Text.ofString " characters."

/-- The reason why a body is turned down, if it is: the two checks at the beginning of
`MessagingClient.send`. -/
def objection? (body : Body) : Option Text :=
  match body.units? with
  | .error failure => some failure.describe
  | .ok units => if maxBodyUnits < units.length then some (tooLong units.length) else none

/-- The transport that a client posts over. The shared one is looked up anew for every send. -/
def carrierFor (c : Client) : Run Carrier :=
  match c.carrier with
  | some carrier => pure carrier
  | none => Carrier.network <$> Transport.shared

/-- What came of an accepted body: the outcome of its delivery, with the record that is written.
This is the end of `MessagingClient.send`, from the post on. -/
def conclude (m : Message) (verbose : Bool) (d : Delivery) : Run Outcome := do
  let detail := ((Sink.new verbose).writeAll d.chunks).text
  match d.ending with
  | .failed fault => throw fault
  | .broken reason =>
    Run.log .warning logger
      (Text.ofString "Transport error sending to " ++ m.recipient ++ Text.ofString ": " ++ reason)
    pure (.broken reason)
  | .answered status =>
    if acceptedStatuses.contains status then
      Run.log .info logger
        (Text.ofString "Twilio accepted " ++ m.kind.word ++ Text.ofString " to " ++ m.recipient
          ++ Text.ofString " (HTTP " ++ Text.ofInt status ++ Text.ofString ")")
      pure (.accepted status detail)
    else
      Run.log .warning logger
        (Text.ofString "Twilio rejected message to " ++ m.recipient ++ Text.ofString " with HTTP "
          ++ Text.ofInt status)
      pure (.refused status detail)

/-- Send a message (`MessagingClient.send`). With `verbose` the outcome holds the body of the
provider's answer. -/
def send (c : Client) (m : Message) (verbose : Bool) : Run Outcome := do
  match objection? m.body with
  | some reason =>
    Run.log .warning logger
      (Text.ofString "Rejected message to " ++ m.recipient ++ Text.ofString ": " ++ reason)
    pure (.rejected reason)
  | none =>
    let carrier ← c.carrierFor
    let url := c.messagesUrl
    Run.log .debug logger
      (Text.ofString "Sending " ++ m.kind.word ++ Text.ofString " to " ++ m.recipient
        ++ Text.ofString " via " ++ url)
    let payload ← Run.encoded m.formPayload?
    let (user, password) := c.credentials.basicAuth
    conclude m verbose (← carrier.deliver ⟨url, payload, user, password⟩)

/-- Check the parts of a message and send it (`MessagingClient.send_message`). -/
def sendMessage (c : Client) (recipient sender body mediaUrl : Value) (verbose : Bool) :
    Run Outcome := do
  let m ← Run.checked .message <| Message.ofValue <| Value.ofFields
    [("to", recipient), ("from_", sender), ("body", body), ("media_url", mediaUrl)]
  c.send m verbose

end Client

end Courier
