import Courier.Number.Shortest
import Courier.State
import Courier.Text.Base64
import Courier.Web.Call
import Courier.Web.Cookie

/-!
# Transports

A post goes over a transport and comes back as a delivery: chunks of a body, and how they ended. One
transport of the process is shared. It is opened once, used by every client that has none of its
own, and closed at the end; in between, opening it again changes nothing.

* `Transport.openShared`, `Transport.closeShared`, `Transport.shared`: the shared transport
  (`init_transport`, `shutdown_transport`, `get_transport`).
* `Carrier.deliver`: a post over a transport (`HttpTransport.post`).
-/

namespace Courier

/-! ## Sinks -/

/-- Where the body of a reply goes: nowhere (`DiscardSink`), or into memory (`BufferSink`). -/
inductive Sink where
  | discard
  | buffer (octets : Bytes)
  deriving DecidableEq, Repr

namespace Sink

/-- A sink that keeps what it is given, if that is wanted (`make_sink`). -/
def new (verbose : Bool) : Sink := if verbose then .buffer [] else .discard

/-- The sink after a chunk, and the number of octets it took (`ResponseSink.write`). -/
def write (s : Sink) (chunk : Bytes) : Sink × Nat :=
  match s with
  | .discard => (.discard, chunk.length)
  | .buffer octets => (.buffer (octets ++ chunk), chunk.length)

/-- The sink after chunks. -/
def writeAll (s : Sink) (chunks : List Bytes) : Sink := chunks.foldl (fun s c => (s.write c).1) s

/-- What was kept, as text (`ResponseSink.getvalue`). -/
def text : Sink → Text
  | .discard => []
  | .buffer octets => Utf8.decodeLossy octets

end Sink

/-! ## Deliveries -/

/-- How a delivery ends. -/
inductive Ending where
  | answered (status : Int)
  | broken (reason : Text)
  | failed (fault : Fault)

/-- What comes back for a post. -/
structure Delivery where
  chunks : List Bytes
  ending : Ending

/-- The status of a delivery, or the fault it ended in. -/
def Ending.status : Ending → Run Int
  | .answered status => pure status
  | .broken reason => throw (.exchangeBroken reason)
  | .failed fault => throw fault

/-- How an error ends a delivery: an exchange that could not be completed is broken off for a
reason, as `HttpxTransport.post` does it with a `TransportError`; any other error is a fault. -/
def ExchangeError.ending (e : ExchangeError) (message : Text) : Ending :=
  if e.isRequestError then .broken (e.reason message) else .failed (.exchangeFault e message)

/-- How a delivery ends whose reply points to no proper location. -/
def Call.Failure.ending : Call.Failure → Ending
  | .unreadable fault => ExchangeError.remoteProtocol.ending (Call.unreadableMessage fault)
  | .uncallable fault => .failed fault

/-- What is wrong with the location in the headers of a reply to a call. -/
def Call.failure? [Installation] (jar : Cookie.Jar) (url : Url) (status : Int)
    (headers : List (Text × Text)) : Option Call.Failure :=
  match if redirections.contains status then Reply.header? "location" headers else none with
  | none => none
  | some location => match destination? jar url location with
    | .ok _ => none
    | .error failure => some failure

/-- How the body of a reply ends. -/
def Ending.ofBody (status : Int) : Option (ExchangeError × Text) → Ending
  | none => .answered status
  | some (e, message) => e.ending message

/-- The value of the authorization header: the word `Basic` and base64 of user, colon and
password. -/
def basicAuthorization? (user password : Text) : Except Utf8.Unencodable Text := do
  let user ← Utf8.encode? user
  let password ← Utf8.encode? password
  pure (Text.ofString "Basic " ++ Base64.encode (user ++ [0x3A] ++ password))

namespace Transport

variable [Installation]

/-- Under this name transports write to the log. -/
def logger : String := "sms_client.services.transport"

/-! ## The shared transport -/

/-- A new transport with a time limit (`HttpxTransport`). -/
def new (timeout : TimeLimit) : Run Nat := do
  let s ← get
  set { s with transports := s.transports ++ [Transport.mk timeout true []] }
  pure s.transports.length

/-- Close a transport (`HttpxTransport.close`). -/
def close (id : Nat) : Run Unit :=
  modify fun s =>
    { s with transports := s.transports.modify id fun t => { t with isOpen := false } }

/-- The transport is open (`HttpxTransport.is_closed`). -/
def checkOpen (id : Nat) : Run Bool := do
  pure ((← get).transports[id]?.any (·.isOpen))

/-- The cookies of a transport. -/
def cookiesOf (id : Nat) : Run Cookie.Jar := do
  pure (((← get).transports[id]?.map (·.cookies)).getD [])

/-- Keep the cookies in the headers of a reply from an address. -/
def keepCookies (id : Nat) (url : Url) (headers : List (Text × Text)) : Run Unit := do
  let site ← Run.ofExcept (Call.site? url)
  modify fun s => { s with transports := s.transports.modify id fun t =>
    { t with cookies := t.cookies.receive s.now site headers } }

/-- The time limit of a transport. -/
def timeoutOf (id : Nat) : Run TimeLimit := do
  pure (((← get).transports[id]?.map (·.timeout)).getD .usual)

/-- The shared transport; where there is none, a new one with the time limit of the settings given,
or else of the client's settings (`init_transport`). -/
def openShared (settings : Option ClientSettings) : Run Nat := do
  match (← get).shared with
  | some id => pure id
  | none =>
    let settings ← match settings with
      | some s => pure s
      | none => Run.clientSettings
    let id ← new (.seconds settings.timeout)
    modify fun s => { s with shared := some id }
    Run.log .info logger
      (Text.ofString "HTTP transport initialized (timeout=" ++ Shortest.text settings.timeout
        ++ Text.ofString "s)")
    pure id

/-- Close the shared transport, if there is one, and have none from now on
(`shutdown_transport`). -/
def closeShared : Run Unit := do
  match (← get).shared with
  | none => pure ()
  | some id =>
    close id
    modify fun s => { s with shared := none }
    Run.log .info logger (Text.ofString "HTTP transport closed")

/-- The shared transport, which must be there (`get_transport`). -/
def shared : Run Nat := do
  match (← get).shared with
  | some id => pure id
  | none => throw .notReady

/-- There is a shared transport (`is_transport_ready`). -/
def isReady : Run Bool := do pure (← get).shared.isSome

/-- Do something with the shared transport open, and close it afterwards, also after a fault. -/
def withShared (act : Run α) : Run α := do
  let _ ← openShared none
  let result ← ExceptT.lift act.run
  closeShared
  match result with
  | .ok a => pure a
  | .error fault => throw fault

/-! ## Posts -/

/-- The next reply of the provider; one that has none left accepts with an empty body. -/
def nextReply : Run Reply := do
  let s ← get
  match s.replies with
  | [] => pure Reply.created
  | r :: rest =>
    set { s with replies := rest }
    pure r

/-- The headers of a reply stand in ASCII. -/
def checkHeaders (headers : List (Text × Text)) : Except Fault Unit :=
  (headers.forM fun (name, value) => do
    Ascii.check name
    Ascii.check value).mapError Fault.notAscii

/-- What a reply to a call comes to: an error at once, or a response, whose cookies are kept.
Nothing is read of the body of a response with a bad location. -/
def receive (id : Nat) (url : Url) : Reply → Run Delivery
  | .failure e message => pure ⟨[], e.ending message⟩
  | .response status headers chunks error => do
    Run.ofExcept (checkHeaders headers)
    keepCookies id url headers
    match Call.failure? (← cookiesOf id) url status headers with
    | some failure => pure ⟨[], failure.ending⟩
    | none => pure ⟨chunks, Ending.ofBody status error⟩

/-- The address that is called for a post. -/
def addressOf (jar : Cookie.Jar) (p : Post) : Except Fault Url := do
  let url ← (Url.parse? p.url).mapError Fault.ofUrl
  let url ← (Url.resolve? .empty url).mapError Fault.ofUrl
  Call.checkCookies jar url
  Call.check url
  pure url

/-- A post over the network (`HttpxTransport.post`, with what its library does for a stream). The
payload, the address, the transport and the credentials are looked at in this order, and a fault in
one of them means that nothing is sent. -/
def deliver (id : Nat) (p : Post) : Run Delivery := do
  let content ← Run.encoded (Utf8.encodeEscaped? p.payload)
  let jar ← cookiesOf id
  let url ← Run.ofExcept (addressOf jar p)
  if !(← checkOpen id) then throw .transportClosed
  let authorization ← Run.encoded (basicAuthorization? p.user p.password)
  let request : WireRequest := ⟨url.text, authorization, Call.cookieHeader? jar url, content⟩
  modify fun s => { s with wire := s.wire ++ [request] }
  receive id url (← nextReply)

end Transport

/-- A transport that a client posts over: one of the network, or one in memory. Anything that can
post is an `HttpTransport`. -/
inductive Carrier where
  | network (id : Nat)
  | recorder (id : Nat)
  deriving DecidableEq, Repr

/-- A post to a transport in memory. -/
def Recorder.deliver (id : Nat) (p : Post) : Run Delivery := do
  let s ← get
  match s.recorders[id]? with
  | none => throw .notReady
  | some r =>
    set { s with recorders := s.recorders.modify id fun r => { r with posts := r.posts ++ [p] } }
    pure ⟨r.chunks, match r.ending with
      | .ok status => .answered status
      | .error reason => .broken reason⟩

/-- A post over a transport. -/
def Carrier.deliver [Installation] (c : Carrier) (p : Post) : Run Delivery :=
  match c with
  | .network id => Transport.deliver id p
  | .recorder id => Recorder.deliver id p

end Courier
