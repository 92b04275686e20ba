import Courier.Client
import Courier.CommandLine.Parse

/-!
# The program that sends one message

`sms-send` takes a message from its arguments, and the account and the sender from its arguments or
from the environment. It opens the shared transport for the one send and closes it again.

* `Send.program`: the options (`build_parser`).
* `Send.run`: a run of the program, with what it writes and the status it ends with (`main`).
-/

namespace Courier.CommandLine

/-- What a run of a program comes to: its status and what it writes. A run is cut short when its
arguments ask for help or are mistaken. -/
structure Report where
  status : Nat
  cutShort : Bool
  output : Text
  errors : Text
  deriving DecidableEq, Repr

namespace Send

/-- What an option is about. -/
inductive Key where
  | help
  | sid
  | token
  | recipient
  | sender
  | body
  | mediaUrl
  | verbose
  deriving DecidableEq, Repr

/-- The program with its options (`build_parser`). -/
def program : Program Key :=
  { name := "sms-send"
    purpose := "Send an SMS (or MMS with --picture-url) through the Twilio Messages API."
    switches := [
      ⟨.help, "-h", "--help", none, false, "show this help message and exit"⟩,
      ⟨.sid, "-a", "--account-sid", some "ACCOUNT_SID", false,
        "Account SID (default: $TWILIO_ACCOUNT_SID)"⟩,
      ⟨.token, "-s", "--auth-token", some "AUTH_TOKEN", false,
        "Auth token (default: $TWILIO_AUTH_TOKEN)"⟩,
      ⟨.recipient, "-t", "--to", some "TO", true, "Destination number"⟩,
      ⟨.sender, "-f", "--from", some "FROM_NUMBER", false,
        "Sender number in the account (default: $TWILIO_FROM_NUMBER)"⟩,
      ⟨.body, "-m", "--message", some "MESSAGE", true, "Message body"⟩,
      ⟨.mediaUrl, "-p", "--picture-url", some "PICTURE_URL", false,
        "Media URL; turns the message into an MMS"⟩,
      ⟨.verbose, "-v", "--verbose", none, false, "Print Twilio's response body"⟩] }

/-- The width of the terminal. -/
def columns : Nat := 80

/-- The options about the account and the sender. All must have a value, be it from the variable
named here. -/
def needed : List (Key × String × String) :=
  [(.sid, "--account-sid", "TWILIO_ACCOUNT_SID"), (.token, "--auth-token", "TWILIO_AUTH_TOKEN"),
    (.sender, "--from", "TWILIO_FROM_NUMBER")]

/-! ## Arguments -/

/-- An option was given. -/
def isGiven (r : Reading Key) (key : Key) : Bool := r.occurrences.any fun o => o.switch.key = key

/-- The value of an option, if it was given: of several occurrences the last counts. -/
def value? (r : Reading Key) (key : Key) : Option Argument :=
  (r.occurrences.reverse.find? fun o => o.switch.key = key).bind (·.value)

/-- A value as it is handed to the checks of a message. -/
def argumentValue : Argument → Value
  | .text t => .text t
  | .nothing => .list []

/-- The value of an option of the message; null if it was not given. -/
def partOf (r : Reading Key) (key : Key) : Value := Value.ofOption argumentValue (value? r key)

/-- The text that an option gives, or else the environment; an empty text counts as none. -/
def setting? (env : Environment) (r : Reading Key) (key : Key) (variableName : String) :
    Option Text :=
  let t := match value? r key with
    | some (.text t) => some t
    | some .nothing => none
    | none => env.get? (Text.ofString variableName)
  t.filter fun t => !t.isEmpty

/-- What is to be sent. -/
structure Request where
  sid : Text
  token : Text
  sender : Text
  recipient : Value
  body : Value
  mediaUrl : Value
  verbose : Bool

/-- What the arguments ask for, unless the account or the sender is not known: the check of `main`
that comes before anything is done. -/
def Request.ofReading (env : Environment) (r : Reading Key) : Except UsageError Request :=
  match setting? env r .sid "TWILIO_ACCOUNT_SID", setting? env r .token "TWILIO_AUTH_TOKEN",
      setting? env r .sender "TWILIO_FROM_NUMBER" with
  | some sid, some token, some sender =>
    .ok ⟨sid, token, sender, partOf r .recipient, partOf r .body, partOf r .mediaUrl,
      isGiven r .verbose⟩
  | _, _, _ => .error <| .valuesMissing <| needed.filterMap fun (key, option, name) =>
      if (setting? env r key name).isNone then some (Text.ofString option) else none

/-! ## Runs -/

/-- The run of a mistaken command line. -/
def mistaken (e : UsageError) : Report :=
  ⟨2, true, [], program.usage columns ++ Text.ofString program.name ++ Text.ofString ": error: "
    ++ e.message ++ newline⟩

/-- The run that shows the help. -/
def helped : Report := ⟨0, true, program.help columns, []⟩

/-- A headline, and the detail below it unless that is empty. -/
def headed (headline : String) (detail : Text) : Text :=
  Text.ofString headline ++ newline ++ (if detail.isEmpty then [] else detail ++ newline)

/-- The run that reports an outcome: on the output if the message was sent, else as an error. This
is the end of `main`. -/
def reported (o : Outcome) : Report :=
  if o.ok then ⟨0, false, headed "Message sent." o.detail, []⟩
  else ⟨1, false, [], headed "Message failed." o.detail⟩

section

variable [Installation]

/-- Send what is asked for: the part of `main` that prepares the log and holds the shared transport
open for one send. -/
def perform (r : Request) : Run Report := do
  Run.configureLog (if r.verbose then some (Text.ofString "DEBUG") else none)
  let outcome ← Transport.withShared do
    let client ← Client.new (.text r.sid) (.text r.token) none none
    client.sendMessage r.recipient (.text r.sender) r.body r.mediaUrl r.verbose
  pure (reported outcome)

/-- A run of the program with arguments (`main`). -/
def run (arguments : List Text) : Run Report := do
  match program.parse? (fun s => s.key = .help) arguments with
  | .error e => pure (mistaken e)
  | .ok reading =>
    if reading.ended then pure helped
    else match Request.ofReading (← get).environment reading with
      | .error e => pure (mistaken e)
      | .ok request => perform request

end

end Send

end Courier.CommandLine
