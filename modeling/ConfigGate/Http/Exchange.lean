import ConfigGate.Http.Endpoint
import ConfigGate.Trace.Parent

/-! One request and its response. Around the endpoints lie two layers: the inner one gives the request
its identifier, and the outer one traces and logs it. A crash that comes through both is answered
with an error that tells nothing. -/
namespace ConfigGate.Http

/-- A response, and the cause of the crash if there was one. -/
structure Exchange where
  response : Response
  crash : Option Cause

namespace Exchange

/-- The methods whose requests may have a body. -/
def methodsWithBody : List String := ["POST", "PUT", "PATCH", "DELETE"]

/-- What the log shows of the body of a request. -/
def preview (request : Request) : Except Log.PreviewFault (Option Text.Wide) :=
  if methodsWithBody.contains request.method then
    Log.bodyPreview request.body request.contentType
  else .ok none

/-- What the log shows of the query of a request. -/
def loggedQuery (request : Request) : Option Json.Value :=
  match request.queryFields with
  | [] => none
  | fields => some (Log.mask (Log.fieldsObject fields))

/-- The identifier of a request: that of the client, or else the trace id. -/
def requestId? (context : Trace.Context) (request : Request) : Option String :=
  match request.header? "x-request-id" with
  | some id => some (if id = "" then context.traceId else id)
  | none => some context.traceId

/-- Answer a request and put its identifier into the response. -/
def identified (context : Trace.Context) (request : Request) : Serving Response := do
  let context ← Serving.identify (context.enterRequest (requestId? context request))
  let response ← Endpoint.dispatch context request
  return response.withHeader "x-request-id" context.requestId

/-- Answer a request, log its beginning and end, and put the trace into the response. -/
def traced (context : Trace.Context) (request : Request) : Serving Response := do
  match preview request with
  | .error fault => throw ⟨.preview fault, ""⟩
  | .ok preview =>
    Serving.report context
      (.requestStarted request.method request.loggedPath (loggedQuery request) preview)
    let response ← identified context request
    Serving.report context
      (.requestFinished request.method request.loggedPath response.status response.mediaType?)
    return response.withHeader "traceparent"
      (Trace.parentHeader context.traceId context.spanId true)

/-- The identifiers with which a request begins. -/
def openingContext (request : Request) (ids : Trace.IdSource) : Trace.Context × Trace.IdSource :=
  Trace.Context.unset.enterTrace ((request.header? "traceparent").bind Trace.parentTraceId) none ids

/-- Answer a request. -/
def run (request : Request) : StateM Server Exchange := do
  let server ← get
  let (context, ids) := openingContext request server.ids
  set { server with ids }
  match ← (traced context request).run with
  | .ok response => return ⟨response, none⟩
  | .error crash =>
    modify fun server => server.report context (.unhandled crash.cause.record)
    return ⟨.error 500 "Internal server error" crash.requestId, some crash.cause⟩

end Exchange

end ConfigGate.Http
