import ConfigGate.Http.Response
import ConfigGate.Settings.Basic
import ConfigGate.Text.Quoted

/-! Where a request leads. A path that differs from a route by slashes at its end is sent there. -/
namespace ConfigGate.Http

/-- The pages about the service. -/
inductive Page where
  | schema
  | docs
  | docsRedirect
  | redoc
  | metrics
deriving DecidableEq, Repr

namespace Page

def path : Page → String
  | .schema => "/openapi.json"
  | .docs => "/docs"
  | .docsRedirect => "/docs/oauth2-redirect"
  | .redoc => "/redoc"
  | .metrics => "/metrics"

def mediaType : Page → String
  | .schema => Response.jsonType
  | .metrics => "text/plain; version=1.0.0; charset=utf-8"
  | _ => "text/html; charset=utf-8"

/-- The documentation is not shown in production. -/
def available (settings : Settings) : List Page :=
  if settings.isProduction then [.schema, .metrics]
  else [.schema, .docs, .docsRedirect, .redoc, .metrics]

end Page

/-- The places that answer requests. -/
inductive Route where
  | live
  | ready
  | file
  | page (page : Page)
deriving DecidableEq, Repr

namespace Route

def path : Route → String
  | .live => "/health/live"
  | .ready => "/health/ready"
  | .file => "/api/v1/admin/file"
  | .page p => p.path

def methods : Route → List String
  | .live => ["GET"]
  | .ready => ["GET"]
  | .file => ["GET", "POST"]
  | .page .metrics => ["GET"]
  | .page _ => ["GET", "HEAD"]

def all (settings : Settings) : List Route :=
  [.live, .ready, .file] ++ (Page.available settings).map .page

/-- The route has this path. A line break at the end of a path does not count. -/
def hasPath (path : String) (route : Route) : Bool :=
  path == route.path || path == route.path ++ "\n"

def ofPath? (settings : Settings) (path : String) : Option Route :=
  (all settings).find? (hasPath path)

/-- The path with its slashes at the end taken away, or with one added if there is none. -/
def otherPath (path : String) : String :=
  if path.toList.getLast? = some '/' then
    String.ofList (path.toList.reverse.dropWhile (· == '/')).reverse
  else path ++ "/"

end Route

/-- What becomes of a request. -/
inductive Destination where
  | route (route : Route)
  | wrongMethod
  | elsewhere (path : String)
  | nowhere
deriving DecidableEq, Repr

namespace Destination

def ofRequest (settings : Settings) (request : Request) : Destination :=
  match Route.ofPath? settings request.path with
  | some found =>
    if found.methods.contains request.method then .route found else .wrongMethod
  | none =>
    let other := Route.otherPath request.path
    if request.path ≠ "/" && (Route.ofPath? settings other).isSome then .elsewhere other else .nowhere

/-- The characters of a location that are not escaped. -/
def isLocationChar (c : Char) : Bool :=
  c.isAlphanum || "_.-~:/%#?=@[]!$&'()*+,;".toList.contains c

/-- The location of another path on the same host with the same query. -/
def location (request : Request) (path : String) : String :=
  let host := (request.header? "host").getD ""
  let query := Text.Utf8.decodeLossy (request.query.map fun c => UInt8.ofNat c.toNat)
  let text := "http://" ++ host ++ path ++ if query = "" then "" else "?" ++ query
  String.ofList (Urlencoded.escape isLocationChar text.toList)

end Destination

end ConfigGate.Http
