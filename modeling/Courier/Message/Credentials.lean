import Courier.Schema.Assignment
import Courier.Schema.Field
import Courier.Text.Quoted

/-!
# Credentials of an account

The identifier of an account and its secret token (`Credentials`). The token is given out only by
`basicAuth`; where credentials are shown, it is masked.
-/

namespace Courier

/-- An account and its token. -/
structure Credentials where
  sid : Text
  token : Text
  deriving DecidableEq, Repr

namespace Credentials

/-- Check a value as credentials. -/
def ofValue : Value → Schema.Checked Credentials :=
  Schema.object (.recordExpected .credentials) fun ms =>
    Credentials.mk <$> Schema.required ["account_sid"] Schema.text ms
      <*> Schema.required ["auth_token"] Schema.text ms

/-- The credentials as a record. -/
def fields (c : Credentials) : Members :=
  [(Text.ofString "account_sid", .text c.sid), (Text.ofString "auth_token", .text c.token)]

/-- Credentials never change. -/
def access : Schema.Access := ⟨.credentials, true, []⟩

/-- What is shown of a secret: whether it is empty. -/
def mask (secret : Text) : Text :=
  if secret.isEmpty then [] else Text.ofString "**********"

/-- The user and the password of basic authentication (`Credentials.basic_auth`). -/
def basicAuth (c : Credentials) : Text × Text := (c.sid, c.token)

/-- The credentials as they are shown, with the token masked. -/
def shown (c : Credentials) : Text :=
  Text.ofString "Credentials(account_sid=" ++ Quoted.quote c.sid
    ++ Text.ofString ", auth_token=SecretStr(" ++ Quoted.quote (mask c.token) ++ Text.ofString "))"

end Credentials

end Courier
