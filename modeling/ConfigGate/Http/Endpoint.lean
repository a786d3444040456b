import ConfigGate.Http.Form
import ConfigGate.Http.Routes
import ConfigGate.Http.Server

/-! The answers of the routes. Failures that clients may see become error responses here. -/
namespace ConfigGate.Http.Endpoint

/-- The server works. -/
def live : Response :=
  .json 200 (.object [("status", .text "ok")])

/-- What the node reports about itself. -/
def ready (settings : Settings) (requestId : String) : Response :=
  .json 200 (Response.success
    (.object (settings.nodeProperties.entries.map fun (key, v) => (key, .text v))) requestId)

def page (p : Page) : Response :=
  ⟨200, [("content-type", p.mediaType)], .page⟩

/-- A reply with the bytes of the file if one is read. -/
def collect (s : Setting) (reply : Reply) : Act (Reply × Bytes) := do
  match reply with
  | .read _ stream => return (reply, (← stream.drain s).bytes)
  | _ => return (reply, [])

/-- An access with the bytes of the file if one is read. -/
def perform (asked : ConfigGate.Request) (s : Setting) : Act (Reply × Bytes) := do
  collect s (← Access.call s asked.demand)

/-- The response to an access. A write is answered with what was written. -/
def ofReply (requestId : String) : Reply × Bytes → Response
  | (.written _ text, _) =>
    ⟨200, ("content-type", Response.textType) :: Response.noCache,
      .bytes (Text.Utf8.encode text)⟩
  | (.listed _ listing, _) =>
    (Response.json 200 (Response.success listing.toJson requestId)).withHeaders Response.noCache
  | (.read _ _, contents) =>
    ⟨200, ("content-type", Response.bytesType) :: Response.noCache, .bytes contents⟩

/-- The identifiers within an endpoint. The request id is that of the client, or a new one. -/
def context (outer : Trace.Context) (request : Request) : Serving Trace.Context :=
  Serving.identify (outer.enterRequest (request.header? "x-request-id"))

/-- The response to a failure, or a crash if clients are not meant to see it. -/
def failed (requestId : String) (failure : Failure) : Serving Response :=
  match failure.status? with
  | some status => pure (.error status failure.message requestId)
  | none => throw ⟨.access failure, requestId⟩

/-- Access a file as a query asks. -/
def query (outer : Trace.Context) (request : Request) : Serving Response := do
  let context ← context outer request
  match ← Serving.access context (perform request.queried) with
  | .error failure => failed outer.requestId failure
  | .ok reply => return ofReply context.requestId reply

/-- Access a file as a form asks. -/
def form (outer : Trace.Context) (request : Request) : Serving Response := do
  match Form.fields request with
  | .error fault => return .error 400 fault.message outer.requestId
  | .ok fields =>
    let context ← context outer request
    match Form.requested fields with
    | .error names => return .unusable names
    | .ok asked =>
      match ← Serving.access context (perform asked) with
      | .error failure => failed outer.requestId failure
      | .ok reply =>
        Serving.report context (.pushHandled asked.file reply.1.mode)
        return ofReply context.requestId reply

/-- Answer a request at a route. -/
def answer (outer : Trace.Context) (request : Request) : Route → Serving Response
  | .live => return live
  | .ready => do
    let context ← context outer request
    return ready (← get).settings context.requestId
  | .file => if request.method = "POST" then form outer request else query outer request
  | .page p => return page p

/-- Answer a request wherever it leads. -/
def dispatch (outer : Trace.Context) (request : Request) : Serving Response := do
  match Destination.ofRequest (← get).settings request with
  | .route route => answer outer request route
  | .wrongMethod => return .error 405 "Method Not Allowed" outer.requestId
  | .elsewhere path => return .redirect (Destination.location request path)
  | .nowhere => return .error 404 "Not Found" outer.requestId

end ConfigGate.Http.Endpoint
