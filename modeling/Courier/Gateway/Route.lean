import Courier.Installation

/-!
# Routes

The gateway answers at the paths of its routes, and each route takes some methods. Before the routes
of its own (`api_router`) come those of the web framework: the description of the gateway, and the
documentation pages, which are there if the settings that it was loaded with have documentation on.

* `Route.isAt`: a path is one of a route.
* `Route.find?`: the route that takes a method at a path.
* `Route.otherPath?`: the path that one without a route may be meant for.
-/

namespace Courier.Gateway

/-- The routes of the gateway: three of the web framework, then `health`, `healthz` and
`send_message`. -/
inductive Route where
  | schema
  | page
  | pageReturn
  | health
  | liveness
  | messages
  deriving DecidableEq, Repr

namespace Route

/-- All routes, in the order in which they are tried. -/
def all : List Route := [.schema, .page, .pageReturn, .health, .liveness, .messages]

/-- The methods that a route takes. -/
def methods : Route → List String
  | .schema | .page | .pageReturn => ["GET", "HEAD"]
  | .health | .liveness => ["GET"]
  | .messages => ["POST"]

/-- A route takes a method. Methods are told apart by the case of their letters. -/
def takes (method : Text) (route : Route) : Bool :=
  (route.methods.map Text.ofString).contains method

section

variable [Installation]

/-- Where a route is, if it is there. -/
def place? : Route → Option Text
  | .schema => some (Text.ofString "/openapi.json")
  | .page => Installation.loaded.docs?
  | .pageReturn => Installation.loaded.docs?.map fun _ => Text.ofString "/docs/oauth2-redirect"
  | .health => some (Text.ofString "/api/v1/health")
  | .liveness => some (Text.ofString "/api/v1/healthz")
  | .messages => some (Text.ofString "/api/v1/messages")

/-- A path is one of a route. Where the page is, settings say, perhaps with parts that stand for any
text. -/
def isAt (path : Text) (route : Route) : Bool :=
  route.place?.any fun place =>
    if route = .page then Installation.leadsTo place path else Installation.isExactly place path

/-- A path is one of some route. -/
def isKnown (path : Text) : Bool := all.any (isAt path)

/-- The first route that takes a method at a path. -/
def find? (path method : Text) : Option Route :=
  all.find? fun route => route.isAt path && route.takes method

/-- The path without the slashes at its end, or with one if it has none, where that is the path of a
route. -/
def otherPath? (path : Text) : Option Text :=
  let slash := CodePoint.ofChar '/'
  let other := if path.getLast? = some slash then Text.dropTrailing (· = slash) path
    else path ++ [slash]
  if path != [slash] && isKnown other then some other else none

end

end Route

end Courier.Gateway
