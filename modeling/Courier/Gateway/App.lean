import Courier.Client
import Courier.Gateway.Request
import Courier.Gateway.Response
import Courier.Gateway.Route

/-!
# The gateway

The gateway sends messages for callers that speak HTTP. It has three routes that describe it, two
that tell how it is, and one that takes a message. Its life begins with opening the shared transport
and ends with closing it.

* `App.start`, `App.stop`: the life cycle (`lifespan`).
* `App.handle`: the answer to a request. A fault in the work on it is logged and answered too.
-/

namespace Courier.Gateway.App

variable [Installation]

/-- Under this name the gateway writes to the log. -/
def logger : String := "server"

/-! ## Life cycle -/

/-- Begin: the shared transport is opened (`lifespan`, up to where requests are served). -/
def start : Run Unit := do
  Run.log .info logger (Text.ofString "Starting SMS gateway")
  let _ ← Transport.openShared none
  let settings ← Run.gatewaySettings
  if !settings.hasCredentials then
    Run.log .warning logger <| Text.ofString
      "TWILIO_ACCOUNT_SID/TWILIO_AUTH_TOKEN not set; /messages will return 503"
  Run.log .info logger (Text.ofString "SMS gateway started successfully")

/-- End: the shared transport is closed (`lifespan`, from there on). -/
def stop : Run Unit := do
  Run.log .info logger (Text.ofString "Shutting down SMS gateway")
  Transport.closeShared
  Run.log .info logger (Text.ofString "SMS gateway shutdown complete")

/-! ## Routes -/

/-- What a route comes to: an answer as it is, a problem, or issues in the request. -/
inductive Result where
  | answer (r : Response)
  | problem (p : Problem)
  | invalid (issues : List Schema.Issue)

/-- What the gateway tells about itself (`health`). -/
def health : Run Result := do
  let settings ← Run.gatewaySettings
  let ready ← Transport.isReady
  pure <| .answer <| .json 200 <| .ofFields [("ok", .bool true), ("service", .string "sms-client"),
    ("version", .text settings.appVersion), ("transport_ready", .bool ready),
    ("credentials_configured", .bool settings.hasCredentials)]

/-- The gateway is there (`healthz`). -/
def liveness : Result := .answer <| .json 200 <| .ofFields [("status", .string "ok")]

/-! ## Messages -/

/-- The place of the content of a request. -/
def bodyName : Text := Text.ofString "body"

/-- The result of content that is no JSON. -/
def malformed (reason : Text) (position : Nat) : Result :=
  .invalid [⟨[.name bodyName, .index position], .notJson reason, .object []⟩]

/-- Check the content of a request as a submission (`SendMessageRequest`). -/
def submissionOf (payload : Value) : Schema.Checked Submission :=
  (Schema.object .objectExpected Submission.ofMembers payload).within bodyName

/-- The sender of a submission: its own, or else the one configured; empty ones count as none. -/
def senderOf (settings : GatewaySettings) (s : Submission) : Option Text :=
  (GatewaySettings.nonEmpty? s.sender).or (GatewaySettings.nonEmpty? settings.sender)

/-- The result for the outcome of a send, the end of the route `send_message`. -/
def resultOf (o : Outcome) : Result :=
  if o.ok then .answer (.json 200 (.object (Receipt.mk true o).fields))
  else match o.failure with
    | some .validation => .problem (.ofText 422 o.detail)
    | some .transport => .problem (.ofText 502 (Text.ofString "Send error: " ++ o.detail))
    | _ => .problem <| .ofText 502 <|
        Text.ofString "Twilio returned HTTP " ++ ((o.status.map Text.ofInt).getD [])
          ++ (if o.detail.isEmpty then [] else Text.ofString ": " ++ o.detail)

/-- Send a submission: the work of the route `send_message`. -/
def submit (settings : GatewaySettings) (client : Client) (s : Submission) : Run Result := do
  match senderOf settings s with
  | none =>
    pure <| .problem <| .ofText 422 <| Text.ofString
      "Missing sender: provide 'from' or set TWILIO_FROM_NUMBER"
  | some sender =>
    let outcome ← client.sendMessage (.text s.recipient) (.text sender) (.text s.body)
      (Value.ofOption .text s.mediaUrl) s.verbose
    pure (resultOf outcome)

/-- Do something with a client of the configured account (`get_messaging_client`). -/
def withClient (act : GatewaySettings → Client → Run Result) : Run Result := do
  let settings ← Run.gatewaySettings
  match settings.account? with
  | none =>
    pure <| .problem <| .ofText 503 <| Text.ofString
      "Missing TWILIO_ACCOUNT_SID or TWILIO_AUTH_TOKEN environment variables"
  | some (sid, token) => act settings (← Client.new (.text sid) (.text token) none none)

/-- Take a message: the route `send_message` with all that has to be found out before its work.
Content that cannot be read is reported before the account is looked for, all other issues of it are
reported after that. -/
def messages (payload : Request.Payload) : Run Result :=
  match payload with
  | .unreadable => pure (.answer (.notServed 400 "There was an error parsing the body"))
  | .malformed reason position => pure (malformed reason position)
  | .absent => withClient fun _ _ => pure (.invalid [⟨[.name bodyName], .missing, .null⟩])
  | .octets bs => withClient fun _ _ =>
      pure (.invalid [⟨[.name bodyName], .objectExpected, .bytes bs⟩])
  | .value v => withClient fun settings client =>
      match submissionOf v with
      | .invalid issues => pure (.invalid issues)
      | .valid s => submit settings client s

/-! ## Answers -/

/-- The work of a route on a request. -/
def work (r : Request) : Route → Run Result
  | .schema => pure (.answer (.json 200 Installation.schema))
  | .page => pure (.answer (.page Installation.page))
  | .pageReturn => pure (.answer (.page Installation.pageReturn))
  | .health => health
  | .liveness => pure liveness
  | .messages => messages r.payload

/-- The result of a request that no route takes. At the path of a route it is the method that is
wrong. Otherwise the path may be meant for that of a route from which it differs in slashes at the
end alone. -/
def turnedAway (r : Request) : Run Result :=
  if Route.isKnown r.path then pure (.answer (.notServed 405 "Method Not Allowed"))
  else match Route.otherPath? r.path with
    | none => pure (.answer (.notServed 404 "Not Found"))
    | some path => do
      let location ← Run.ofExcept (r.location? path)
      pure (.answer (.redirection location))

/-- The result of a request. -/
def dispatch (r : Request) : Run Result :=
  match r.route? with
  | some route => work r route
  | none => turnedAway r

/-- An answer that was found to have octets, or the fault that it has none. -/
def written (r : Except Fault Response) : Run Response :=
  Run.ofExcept (r.bind fun r => r.content?.map fun _ => r)

/-- The answer for a result. Problems are logged by `_http_exception_handler`, and issues by
`_validation_exception_handler`. -/
def answerOf : Result → Run Response
  | .answer r => written (.ok r)
  | .problem p => do
    Run.log .debug logger (Text.ofString "http error")
    written p.response?
  | .invalid issues => do
    Run.log .debug logger (Text.ofString "validation error")
    written (.ok (invalidRequest issues))

/-- The answer to a request. Any fault goes to `_unhandled_exception_handler`. -/
def handle (r : Request) : Run Response :=
  tryCatch (do answerOf (← dispatch r)) fun _ => do
    Run.log .error logger (Text.ofString "Unhandled error")
    pure internalError

end Courier.Gateway.App
