import Courier.Json.Writer
import Courier.Log.Setup
import Courier.Schema.Issue
import Courier.Text.Ascii
import Courier.Web.Reference
import Courier.Web.Reply

/-!
# Faults

What a call can end in instead of a value. A send reports its failures in its outcome; a fault is
what lies outside of that: a value that is no message, a transport that is missing or closed, text
that cannot be put into a request, and whatever else stops an exchange from being begun.
-/

namespace Courier

/-- A reason for which a call has no value. -/
inductive Fault where
  | invalid (record : Schema.Record) (issues : List Schema.Issue)
  | notReady
  | transportClosed
  | exchangeBroken (reason : Text)
  | exchangeFault (error : ExchangeError) (message : Text)
  | unencodable (run : Utf8.Unencodable)
  | badUrl (fault : Url.Fault)
  | badDomain (fault : Label.Fault)
  | badReference (fault : Reference.Fault)
  | unknownUrlType (url : Text)
  | serverless
  | unwritable (reason : Json.Unwritable)
  | notAscii (run : Utf8.Unencodable)
  | unservedScheme (scheme : Text)
  | badLogLevel (fault : Log.Fault)

namespace Fault

/-- The sentence for a fault. -/
def message : Fault → Text
  | .invalid record _ => Text.ofString record.title
  | .notReady =>
    Text.ofString "HTTP transport is not initialized; call init_transport() at startup"
  | .transportClosed => Text.ofString "Cannot send a request, as the client has been closed."
  | .exchangeBroken reason => reason
  | .exchangeFault _ message => message
  | .unencodable run => run.message
  | .badUrl fault => fault.message
  | .badDomain fault => fault.message
  | .badReference fault => fault.message
  | .unknownUrlType url => Text.ofString "unknown url type: " ++ Quoted.quote url
  | .serverless => Text.ofString "'NoneType' object has no attribute 'find'"
  | .unwritable reason => reason.message
  | .notAscii run => Ascii.message run
  | .unservedScheme scheme => Quoted.quote scheme
  | .badLogLevel fault => fault.message

/-- The fault of a text that is no address. -/
def ofUrl : Url.Fault → Fault
  | .unencodable run => .unencodable run
  | fault => .badUrl fault

end Fault

end Courier
