import Courier.Text.Basic

/-!
# Replies of the provider

What a post over the network comes to: a status with a body in chunks, an error in their place, or
one after some of them. Errors are of two families. Those of a request (`isRequestError`) mean that
the exchange could not be completed; the others point to a fault in how it was begun or read.
-/

namespace Courier

/-- A way in which an exchange over the network fails. -/
inductive ExchangeError where
  | request
  | transport
  | timeout
  | connectTimeout
  | readTimeout
  | writeTimeout
  | poolTimeout
  | network
  | connect
  | read
  | write
  | close
  | proxy
  | unsupportedProtocol
  | protocol
  | localProtocol
  | remoteProtocol
  | decoding
  | tooManyRedirects
  | invalidUrl
  | stream
  | http
  | cookieConflict
  deriving DecidableEq, Repr

namespace ExchangeError

/-- The name of an error, which stands for its message where it has none. -/
def name : ExchangeError → String
  | .request => "RequestError"
  | .transport => "TransportError"
  | .timeout => "TimeoutException"
  | .connectTimeout => "ConnectTimeout"
  | .readTimeout => "ReadTimeout"
  | .writeTimeout => "WriteTimeout"
  | .poolTimeout => "PoolTimeout"
  | .network => "NetworkError"
  | .connect => "ConnectError"
  | .read => "ReadError"
  | .write => "WriteError"
  | .close => "CloseError"
  | .proxy => "ProxyError"
  | .unsupportedProtocol => "UnsupportedProtocol"
  | .protocol => "ProtocolError"
  | .localProtocol => "LocalProtocolError"
  | .remoteProtocol => "RemoteProtocolError"
  | .decoding => "DecodingError"
  | .tooManyRedirects => "TooManyRedirects"
  | .invalidUrl => "InvalidURL"
  | .stream => "StreamError"
  | .http => "HTTPError"
  | .cookieConflict => "CookieConflict"

/-- All errors. -/
def all : List ExchangeError :=
  [.request, .transport, .timeout, .connectTimeout, .readTimeout, .writeTimeout, .poolTimeout,
    .network, .connect, .read, .write, .close, .proxy, .unsupportedProtocol, .protocol,
    .localProtocol, .remoteProtocol, .decoding, .tooManyRedirects, .invalidUrl, .stream, .http,
    .cookieConflict]

/-- The error of a name. -/
def ofName? (name : Text) : Option ExchangeError :=
  all.find? fun e => Text.ofString e.name = name

/-- The exchange could not be completed. -/
def isRequestError : ExchangeError → Bool
  | .invalidUrl | .stream | .http | .cookieConflict => false
  | _ => true

/-- The reason given for an exchange that could not be completed. -/
def reason (e : ExchangeError) (message : Text) : Text :=
  if message.isEmpty then Text.ofString e.name else message

end ExchangeError

/-- A reply of the provider: an error at once, or a status with headers, the chunks of its body, and
the error that ends them, if one does. -/
inductive Reply where
  | failure (error : ExchangeError) (message : Text)
  | response (status : Int) (headers : List (Text × Text)) (chunks : List Bytes)
      (error : Option (ExchangeError × Text))

/-- A status with an empty body: created. -/
def Reply.created : Reply := .response 201 [] [] none

/-- The values of a header, in any case of its name, with commas between them. -/
def Reply.header? (name : String) (headers : List (Text × Text)) : Option Text :=
  match headers.filter fun (n, _) => n.lowerAscii = Text.ofString name with
  | [] => none
  | found => some (Text.joinWith (Text.ofString ", ") (found.map (·.2)))

end Courier
