import Courier.Schema.Assignment
import Courier.Schema.Field
import Courier.Settings.Environment

/-!
# Settings of the client

Where the provider is reached and how long an answer is waited for. What is not given is read from
the environment.
-/

namespace Courier

/-- The provider's address, the version of its interface, and the time limit in seconds
(`ClientSettings`). -/
structure ClientSettings where
  baseUrl : Text
  version : Text
  timeout : Binary64
  deriving DecidableEq, Repr

namespace ClientSettings

/-- The time limit where none is configured: fifteen seconds (`DEFAULT_TIMEOUT_SECONDS`). -/
def defaultTimeout : Binary64 := Binary64.ofInt 15

/-- The time limit that the environment asks for; what is no number counts as none
(`_env_float`). -/
def timeoutOf (env : Environment) : Binary64 :=
  ((env.get? (Text.ofString "SMS_HTTP_TIMEOUT")).bind Reading.setting?).getD defaultTimeout

/-- The settings that the environment gives. -/
def ofEnvironment (env : Environment) : ClientSettings :=
  { baseUrl := env.getD "TWILIO_API_BASE_URL" "https://api.twilio.com"
    version := env.getD "TWILIO_API_VERSION" "2010-04-01"
    timeout := timeoutOf env }

/-- Check the members of an object as settings, with the environment's where they are silent. -/
def ofMembers (env : Environment) (ms : Members) : Schema.Checked ClientSettings :=
  let base := ofEnvironment env
  ClientSettings.mk <$> Schema.optional ["api_base_url"] Schema.text base.baseUrl ms
    <*> Schema.optional ["api_version"] Schema.text base.version ms
    <*> Schema.optional ["timeout_seconds"] Schema.real base.timeout ms

/-- Check a value as settings. -/
def ofValue (env : Environment) : Value → Schema.Checked ClientSettings :=
  Schema.object (.recordExpected .clientSettings) (ofMembers env)

/-- The settings as a record. -/
def fields (s : ClientSettings) : Members :=
  [(Text.ofString "api_base_url", .text s.baseUrl), (Text.ofString "api_version", .text s.version),
    (Text.ofString "timeout_seconds", .real s.timeout)]

/-- The settings may change. -/
def access : Schema.Access := ⟨.clientSettings, false, []⟩

/-- The address to which the messages of an account are posted (`ClientSettings.messages_url`).
Slashes at the end of the provider's address do not count. -/
def messagesUrl (s : ClientSettings) (sid : Text) : Text :=
  Text.dropTrailing (· = CodePoint.ofChar '/') s.baseUrl ++ Text.ofString "/" ++ s.version
    ++ Text.ofString "/Accounts/" ++ sid ++ Text.ofString "/Messages"

end ClientSettings

end Courier
