import Courier.Fault
import Courier.Settings.Client
import Courier.Settings.Gateway
import Courier.Web.Cookie

/-!
# The state of a process

Everything that outlives a call: the environment and the settings read from it, the transports and
which of them is shared, the replies that the provider has yet to give, and what was written to the
wire and to the log. All calls are taken to be made at one time.

Calls are of type `Run α`. A call that ends in a fault keeps what it did to the state before.
-/

namespace Courier

/-- How long a connection waits: some seconds, given as a real or as a whole number, or as long as
it takes. -/
inductive TimeLimit where
  | seconds (x : Binary64)
  | wholeSeconds (n : Int)
  | unlimited
  deriving DecidableEq, Repr

/-- The limit of a connection for which none is given. -/
def TimeLimit.usual : TimeLimit := .seconds ClientSettings.defaultTimeout

/-- A connection to the provider (`HttpxTransport`), with its time limit and the cookies that
replies have set. -/
structure Transport where
  timeout : TimeLimit
  isOpen : Bool
  cookies : Cookie.Jar
  deriving DecidableEq, Repr

/-- What is posted: an address, a form payload, and user and password of basic authentication, the
arguments of `HttpTransport.post`. -/
structure Post where
  url : Text
  payload : Text
  user : Text
  password : Text
  deriving DecidableEq, Repr

/-- A transport in memory: it keeps the posts made and gives one reply to all of them, chunks and
then a status or the reason why the exchange broke off. -/
structure Recorder where
  chunks : List Bytes
  ending : Except Text Int
  posts : List Post

/-- A request as it goes over the network, with the cookies that the transport has for it. -/
structure WireRequest where
  url : Text
  authorization : Text
  cookie : Option Text
  content : Bytes
  deriving DecidableEq, Repr

/-- The media type of every request to the provider. -/
def WireRequest.contentType : String := "application/x-www-form-urlencoded"

/-- The headers of a request that depend on what is sent and by whom. -/
def WireRequest.headers (r : WireRequest) : List (String × Text) :=
  [("authorization", r.authorization), ("content-type", Text.ofString contentType),
    ("content-length", Text.ofNat r.content.length)] ++ (r.cookie.map (Prod.mk "cookie")).toList

/-- The state of a process. Transports and recorders are known by their place in the lists; the time
is a second counted from 1970. -/
structure State where
  now : Int
  environment : Environment
  clientSettings : Option ClientSettings
  gatewaySettings : Option GatewaySettings
  transports : List Transport
  shared : Option Nat
  recorders : List Recorder
  replies : List Reply
  wire : List WireRequest
  log : List Log.Entry
  logSetup : Log.Setup

/-- The state of a process that has done nothing yet. -/
def State.initial (now : Int) (env : Environment) (setup : Log.Setup) : State :=
  { now := now, environment := env, clientSettings := none, gatewaySettings := none
    transports := []
    shared := none, recorders := [], replies := [], wire := [], log := [], logSetup := setup }

/-- A call that may change the state and may end in a fault. -/
abbrev Run := ExceptT Fault (StateM State)

namespace Run

/-- Write a record to the log. -/
def log (level : Log.Level) (logger : String) (message : Text) : Run Unit :=
  modify fun s => { s with log := s.log ++ [⟨level, logger, message⟩] }

/-- A checked value, or the fault of a record. -/
def checked (record : Schema.Record) : Schema.Checked α → Run α
  | .valid a => pure a
  | .invalid issues => throw (.invalid record issues)

/-- A value or a fault, where the state stays as it is. -/
def ofExcept : Except Fault α → Run α
  | .ok a => pure a
  | .error fault => throw fault

/-- A text's octets, or the fault of text that has none. -/
def encoded : Except Utf8.Unencodable α → Run α
  | .ok a => pure a
  | .error run => throw (.unencodable run)

/-- The client's settings: those read before, or else those of the environment from now on
(`get_client_settings`). -/
def clientSettings : Run ClientSettings := do
  let s ← get
  match s.clientSettings with
  | some settings => pure settings
  | none =>
    let settings := ClientSettings.ofEnvironment s.environment
    set { s with clientSettings := some settings }
    pure settings

/-- The gateway's settings: those read before, or else those of the environment from now on
(`get_settings`). -/
def gatewaySettings : Run GatewaySettings := do
  let s ← get
  match s.gatewaySettings with
  | some settings => pure settings
  | none =>
    let settings := GatewaySettings.ofEnvironment s.environment
    set { s with gatewaySettings := some settings }
    pure settings

/-- Prepare the log of the process, unless that was done before (`configure_logging`). -/
def configureLog (level : Option Text) : Run Unit := do
  let s ← get
  let (setup, fault) := s.logSetup.configure s.environment level
  set { s with logSetup := setup }
  match fault with
  | some fault => throw (.badLogLevel fault)
  | none => pure ()

/-- Forget the settings that were read, so that the environment is read anew. -/
def forgetSettings : Run Unit :=
  modify fun s => { s with clientSettings := none, gatewaySettings := none }

end Run

end Courier
