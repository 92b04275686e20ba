import Courier.Schema.Assignment
import Courier.Schema.Field
import Courier.Settings.Environment

/-!
# Settings of the gateway

The gateway's name and version, its documentation pages, and the account that it sends for.
-/

namespace Courier

/-- What the gateway is configured with (`Settings`). -/
structure GatewaySettings where
  appName : Text
  appVersion : Text
  stage : Text
  logLevel : Text
  enableDocs : Bool
  docsUrl : Option Text
  sid : Option Text
  token : Option Text
  sender : Option Text
  deriving DecidableEq, Repr

namespace GatewaySettings

/-- The settings that the environment gives. Documentation is on unless its variable is exactly
`0`. -/
def ofEnvironment (env : Environment) : GatewaySettings :=
  { appName := Text.ofString "SMS Client Gateway"
    appVersion := Text.ofString "0.1.0"
    stage := env.getD "ENV" "dev"
    logLevel := env.getD "LOG_LEVEL" "INFO"
    enableDocs := env.getD "SMS_ENABLE_DOCS" "1" != Text.ofString "0"
    docsUrl := some (env.getD "DOCS_URL" "/docs")
    sid := env.get? (Text.ofString "TWILIO_ACCOUNT_SID")
    token := env.get? (Text.ofString "TWILIO_AUTH_TOKEN")
    sender := env.get? (Text.ofString "TWILIO_FROM_NUMBER") }

/-- Check the members of an object as settings, with the environment's where they are silent. -/
def ofMembers (env : Environment) (ms : Members) : Schema.Checked GatewaySettings :=
  let base := ofEnvironment env
  let nullableText := Schema.nullable Schema.text
  GatewaySettings.mk <$> Schema.optional ["app_name"] Schema.text base.appName ms
    <*> Schema.optional ["app_version"] Schema.text base.appVersion ms
    <*> Schema.optional ["env"] Schema.text base.stage ms
    <*> Schema.optional ["log_level"] Schema.text base.logLevel ms
    <*> Schema.optional ["enable_docs"] Schema.truth base.enableDocs ms
    <*> Schema.optional ["docs_url"] nullableText base.docsUrl ms
    <*> Schema.optional ["twilio_account_sid"] nullableText base.sid ms
    <*> Schema.optional ["twilio_auth_token"] nullableText base.token ms
    <*> Schema.optional ["twilio_from_number"] nullableText base.sender ms

/-- Check a value as settings. -/
def ofValue (env : Environment) : Value → Schema.Checked GatewaySettings :=
  Schema.object (.recordExpected .gatewaySettings) (ofMembers env)

/-- The settings as a record. -/
def fields (s : GatewaySettings) : Members :=
  [(Text.ofString "app_name", .text s.appName), (Text.ofString "app_version", .text s.appVersion),
    (Text.ofString "env", .text s.stage), (Text.ofString "log_level", .text s.logLevel),
    (Text.ofString "enable_docs", .bool s.enableDocs),
    (Text.ofString "docs_url", Value.ofOption .text s.docsUrl),
    (Text.ofString "twilio_account_sid", Value.ofOption .text s.sid),
    (Text.ofString "twilio_auth_token", Value.ofOption .text s.token),
    (Text.ofString "twilio_from_number", Value.ofOption .text s.sender)]

/-- The settings may change, what is derived from them may not be set. -/
def access : Schema.Access :=
  ⟨.gatewaySettings, false, ["resolved_docs_url", "has_twilio_credentials"]⟩

/-- Where the documentation is found, if it is on: an empty address counts as the usual one
(`Settings.resolved_docs_url`). -/
def docs? (s : GatewaySettings) : Option Text :=
  if s.enableDocs then
    some ((s.docsUrl.filter fun t => !t.isEmpty).getD (Text.ofString "/docs"))
  else none

/-- A text that is there and not empty. -/
def nonEmpty? (t : Option Text) : Option Text := t.filter fun t => !t.isEmpty

/-- The account and the token, if both are there and not empty. -/
def account? (s : GatewaySettings) : Option (Text × Text) := do
  pure (← nonEmpty? s.sid, ← nonEmpty? s.token)

/-- The gateway can send (`Settings.has_twilio_credentials`). -/
def hasCredentials (s : GatewaySettings) : Bool := s.account?.isSome

end GatewaySettings

end Courier
