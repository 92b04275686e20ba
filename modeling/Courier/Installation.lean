import Courier.Json.Value
import Courier.Settings.Gateway

/-!
# The installation

A process runs on libraries that come in more than one release, on an interpreter that follows
nested values only so far, and with a gateway that was loaded with settings of its own. What
processes differ in by this is gathered in one class, and everything else in this library is said of
all of them.

* `Installation`: what a process finds in place before its first call.
* `Installation.usual`: the releases of one day, with the settings that an empty environment gives.
-/

namespace Courier

/-- What a process finds in place before its first call.

The interpreter allows about 1000 calls within each other, those that were made before included. So
it depends on the place of the work in the process how many levels of lists and objects can be
followed there. -/
class Installation where
  /-- What may stand between two numbers of a host that is taken for an internet address. Some
  releases take a point alone, others any character. -/
  isPoint : CodePoint → Bool
  /-- Content that comes without a media type is read as JSON. -/
  readsUntyped : Bool
  /-- A document that is null counts as no content. -/
  nullIsMissing : Bool
  /-- The levels that are followed where a request is read. -/
  requestDepth : Nat
  /-- The levels that are followed where an answer is written, beyond the four that an answer with
  issues has of its own. -/
  spareDepth : Nat
  /-- The levels that are followed where the detail of a problem is put into words. -/
  detailDepth : Nat
  /-- The settings of the gateway when it was loaded. -/
  loaded : GatewaySettings
  /-- The description of the gateway that the web framework makes. -/
  schema : Value
  /-- The documentation page, which the web framework makes too. -/
  page : Bytes
  /-- The page to which a caller comes back who gave consent elsewhere. -/
  pageReturn : Bytes
  /-- A path leads to a place that settings name. A place may have parts that stand for any text. -/
  leadsTo : Text → Text → Bool

namespace Installation

/-- The levels that are followed in an answer. -/
def answerDepth [Installation] : Nat := spareDepth + 4

/-- The levels that are followed in the value of an issue, which stands below three of the
answer. -/
def inputDepth [Installation] : Nat := spareDepth + 1

/-- A path is this text, which one line feed may follow. -/
def isExactly (own path : Text) : Bool := path = own || path = own ++ [0x0A]

/-- The releases of one day, where the settings of the gateway are those of an empty environment.
The pages are left empty. -/
scoped instance usual : Installation where
  isPoint := (· = CodePoint.ofChar '.')
  readsUntyped := false
  nullIsMissing := false
  requestDepth := 950
  spareDepth := 946
  detailDepth := 950
  loaded := GatewaySettings.ofEnvironment .empty
  schema := .object []
  page := []
  pageReturn := []
  leadsTo := isExactly

end Installation

end Courier
