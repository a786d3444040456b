import ConfigGate.Proofs.Access.Disclosure
import ConfigGate.Proofs.Http.MaskedContents

/-! The answer to a request for a file. It is a function of the access that the request asks for and of
the identifiers that its headers give, and the files are left as the access leaves them. Whether a query
asks or a form makes no difference but in the log. -/
namespace ConfigGate.Http

namespace Serving

variable {α β : Type} {server : Server} {world : World}

theorem attempt_bind (serving : Serving α) (next : α → Serving β) (server : Server) :
    attempt (serving >>= next) server =
      match attempt serving server with
      | (.ok a, after) => attempt (next a) after
      | (.error crash, after) => (.error crash, after) := by
  unfold attempt
  rw [Computation.run_bind]
  rcases serving.run.run server with ⟨_ | _, _⟩ <;> rfl

/-- What a part of answering a request comes to, apart from what is logged. -/
structure Yields (serving : Serving α) (server : Server) (result : Except Crash α) (world : World) :
    Prop where
  result : (attempt serving server).1 = result
  world : (attempt serving server).2.world = world

theorem yields_self (serving : Serving α) (server : Server) :
    Yields serving server (attempt serving server).1 (attempt serving server).2.world :=
  ⟨rfl, rfl⟩

namespace Yields

/-- What succeeds and changes nothing but identifiers and the log may come first. -/
theorem after_step {step : Serving α} {next : α → Serving β} {a : α} {middle : Server}
    {result : Except Crash β} (hStep : attempt step server = (.ok a, middle))
    (h : Yields (next a) middle result world) : Yields (step >>= next) server result world := by
  obtain ⟨hResult, hWorld⟩ := h
  constructor <;> rwa [attempt_bind, hStep]

/-- What only changes the response and the log may come last. -/
theorem map {serving : Serving α} {next : α → Serving β} {f : α → β} {result : Except Crash α}
    (h : Yields serving server result world)
    (hNext : ∀ a after, Yields (next a) after (.ok (f a)) after.world) :
    Yields (serving >>= next) server (result.map f) world := by
  obtain ⟨rfl, rfl⟩ := h
  rcases hRun : attempt serving server with ⟨crash | a, after⟩
  · constructor <;> rw [attempt_bind, hRun]
    rfl
  · obtain ⟨hResult, hWorld⟩ := hNext a after
    constructor <;> rwa [attempt_bind, hRun]

end Yields

end Serving

namespace Exchange

theorem asked_eq_some {request : Request} {access : ConfigGate.Request} :
    asked request = some access ↔
      ∃ fields, Form.fields request = .ok fields ∧ Form.requested fields = .ok access := by
  unfold asked
  cases Form.fields request with
  | error fault => simp [Except.toOption]
  | ok fields => cases h : Form.requested fields <;> simp [Except.toOption, h]

end Exchange

/-- The access that a request for a file asks for. A form that cannot be read asks for none. -/
def Request.asked? (request : Request) : Option ConfigGate.Request :=
  if request.method = "POST" then Exchange.asked request else some request.queried

/-- The request gets to the endpoint of files, and asks for this access there. -/
structure Request.Asks (request : Request) (asked : ConfigGate.Request) : Prop where
  path : request.path = Route.file.path
  method : request.method ∈ Route.file.methods
  /-- The log can show the body. -/
  preview : ∃ shown, Exchange.preview request = .ok shown
  asked : request.asked? = some asked

open Serving

variable {request : Request} {asked : ConfigGate.Request} {server : Server}

namespace Endpoint

/-- The result of an access, and the world after it. -/
def access (asked : ConfigGate.Request) (server : Server) : Except Failure (Reply × Bytes) × World :=
  (perform asked server.setting).attempt { server.world with events := [] }

/-- Where all times are dates, an access is one that is handled. -/
theorem access_of_isDated (h : server.world.tree.IsDated) (asked : ConfigGate.Request) :
    access asked server =
      (Access.handle server.setting asked >>= collect server.setting).attempt { server.world with events := [] } := by
  have hCall := @Access.attempt_call_eq_handle server.setting { server.world with events := [] } h asked
  rw [access, perform, Act.attempt_bind, Act.attempt_bind, hCall]

/-- The response to an access of this result. -/
def respond (outer inner : Trace.Context) : Except Failure (Reply × Bytes) → Except Crash Response
  | .ok reply => .ok (ofReply inner.requestId reply)
  | .error failure =>
    match failure.status? with
    | some status => .ok (.error status failure.message outer.requestId)
    | none => .error ⟨.access failure, outer.requestId⟩

/-- The identifiers within an endpoint. -/
def innerContext (outer : Trace.Context) (request : Request) (ids : Trace.IdSource) : Trace.Context :=
  (outer.enterRequest (request.header? "x-request-id") ids).1

theorem yields_failed (outer inner : Trace.Context) (failure : Failure) (server : Server) :
    Yields (failed outer.requestId failure) server (respond outer inner (.error failure)) server.world := by
  unfold failed respond
  dsimp only
  cases failure.status? <;> exact ⟨rfl, rfl⟩

/-- What follows the access makes the response of its result and leaves the files alone. -/
theorem yields_of_access {outer : Trace.Context} (asked : ConfigGate.Request)
    {next : Trace.Context → Except Failure (Reply × Bytes) → Serving Response}
    (hNext : ∀ inner result after, Yields (next inner result) after (respond outer inner result) after.world)
    (server : Server) :
    Yields (do
        let inner ← context outer request
        let result ← Serving.access inner (perform asked)
        next inner result)
      server (respond outer (innerContext outer request server.ids) (access asked server).1)
      (access asked server).2 := by
  refine Yields.after_step rfl ?_
  refine Yields.after_step rfl ?_
  exact hNext _ _ _

/-- Query and form answer with the same access. A form logs one event more. -/
theorem yields_answer (hAsked : request.asked? = some asked) (outer : Trace.Context) (server : Server) :
    Yields (answer outer request .file) server
      (respond outer (innerContext outer request server.ids) (access asked server).1)
      (access asked server).2 := by
  unfold Request.asked? at hAsked
  split at hAsked
  · rename_i hPost
    obtain ⟨fields, hFields, hRequested⟩ := Exchange.asked_eq_some.mp hAsked
    unfold answer form
    simp only [if_pos hPost, hFields, hRequested]
    refine yields_of_access asked (fun inner result after => ?_) server
    cases result with
    | error failure => exact yields_failed outer inner failure after
    | ok reply => exact ⟨rfl, rfl⟩
  · rename_i hGet
    obtain rfl := Option.some.inj hAsked
    unfold answer query
    simp only [if_neg hGet]
    refine yields_of_access _ (fun inner result after => ?_) server
    cases result with
    | error failure => exact yields_failed outer inner failure after
    | ok reply => exact ⟨rfl, rfl⟩

/-- Both methods lead to the endpoint of files, whatever the settings are. -/
theorem destination_file (hPath : request.path = Route.file.path) (hMethod : request.method ∈ Route.file.methods)
    (settings : Settings) : Destination.ofRequest settings request = .route .file := by
  have hFound : Route.ofPath? settings request.path = some .file := by
    rw [hPath]
    rfl
  unfold Destination.ofRequest
  rw [hFound]
  simp [hMethod]

theorem yields_dispatch (hPath : request.path = Route.file.path) (hMethod : request.method ∈ Route.file.methods)
    (hAsked : request.asked? = some asked) (outer : Trace.Context) (server : Server) :
    Yields (dispatch outer request) server
      (respond outer (innerContext outer request server.ids) (access asked server).1)
      (access asked server).2 := by
  refine Yields.after_step rfl ?_
  simp only [destination_file hPath hMethod]
  exact yields_answer hAsked outer server

end Endpoint

namespace Exchange

/-- The identifiers of a request: of its trace, around the endpoint, and within it. -/
structure Identifiers where
  opened : Trace.Context
  outer : Trace.Context
  inner : Trace.Context

/-- The identifiers of a request whose trace has been opened. -/
def identifiers (opened : Trace.Context × Trace.IdSource) (request : Request) : Identifiers :=
  let outer := opened.1.enterRequest (requestId? opened.1 request) opened.2
  ⟨opened.1, outer.1, Endpoint.innerContext outer.1 request outer.2⟩

/-- The response with the identifiers in its headers. -/
def identify (ids : Identifiers) (response : Response) : Response :=
  (response.withHeader "x-request-id" ids.outer.requestId).withHeader "traceparent"
    (Trace.parentHeader ids.opened.traceId ids.opened.spanId true)

def ofResult : Except Crash Response → Exchange
  | .ok response => ⟨response, none⟩
  | .error crash => ⟨.error 500 "Internal server error" crash.requestId, some crash.cause⟩

/-- The answer to a request whose access has this result. -/
def conclude (ids : Identifiers) (result : Except Failure (Reply × Bytes)) : Exchange :=
  ofResult ((Endpoint.respond ids.outer ids.inner result).map (identify ids))

/-- Trace and log a request of whose query and body this is shown. -/
def logged (query : Option Json.Value) (shown : Option Text.Wide) (opened : Trace.Context) (request : Request) :
    Serving Response := do
  Serving.report opened (.requestStarted request.method request.loggedPath query shown)
  let response ← identified opened request
  Serving.report opened
    (.requestFinished request.method request.loggedPath response.status response.mediaType?)
  return response.withHeader "traceparent" (Trace.parentHeader opened.traceId opened.spanId true)

theorem traced_of_shown {shown : Option Text.Wide} (h : preview request = .ok shown) (opened : Trace.Context) :
    traced opened request = logged (loggedQuery request) shown opened request := by
  unfold traced
  rw [h]
  rfl

/-- The server as the endpoint finds it, once the beginning of the request has been logged. -/
def within (query : Option Json.Value) (shown : Option Text.Wide) (opened : Trace.Context) (request : Request)
    (server : Server) : Server :=
  { server.report opened (.requestStarted request.method request.loggedPath query shown) with
    ids := (opened.enterRequest (requestId? opened request) server.ids).2 }

variable {query : Option Json.Value} {shown : Option Text.Wide} {result : Except Crash Response} {world : World}

/-- Around the endpoint nothing is added to the response but the identifiers. -/
theorem yields_logged {opened : Trace.Context} {server : Server}
    (h : Yields (Endpoint.dispatch (identifiers (opened, server.ids) request).outer request)
      (within query shown opened request server) result world) :
    Yields (logged query shown opened request) server
      (result.map (identify (identifiers (opened, server.ids) request))) world := by
  have hIdentified : Yields (identified opened request)
      (server.report opened (.requestStarted request.method request.loggedPath query shown))
      (result.map (·.withHeader "x-request-id" (identifiers (opened, server.ids) request).outer.requestId))
      world :=
    Yields.after_step rfl (h.map fun response after => ⟨rfl, rfl⟩)
  have hMap : result.map (identify (identifiers (opened, server.ids) request)) =
      (result.map (·.withHeader "x-request-id"
          (identifiers (opened, server.ids) request).outer.requestId)).map
        (·.withHeader "traceparent" (Trace.parentHeader opened.traceId opened.spanId true)) := by
    cases result <;> rfl
  rw [hMap]
  exact Yields.after_step rfl (hIdentified.map fun response after => ⟨rfl, rfl⟩)

/-- Whatever is shown of a request, it is answered as its endpoint answers, and the files are left as the
endpoint leaves them. -/
theorem conduct_logged (query : Option Json.Value) (shown : Option Text.Wide) {server : Server} {opening : Trace.Context × Trace.IdSource}
    (hOpening : openingContext request server.ids = opening)
    (h : Yields (Endpoint.dispatch (identifiers opening request).outer request)
      (within query shown opening.1 request { server with ids := opening.2 }) result world) :
    ((conduct (logged query shown · request) request).run server).1 =
        ofResult (result.map (identify (identifiers opening request))) ∧
      ((conduct (logged query shown · request) request).run server).2.world = world := by
  have hLogged : Yields (logged query shown opening.1 request) { server with ids := opening.2 }
      (result.map (identify (identifiers opening request))) world := yields_logged h
  obtain ⟨hResult, hWorld⟩ := hLogged
  rw [conduct_eq, hOpening]
  rcases hRun : attempt (logged query shown opening.1 request) { server with ids := opening.2 } with
    ⟨crash | response, after⟩ <;>
    rw [hRun] at hResult hWorld <;>
    exact ⟨congrArg ofResult hResult, hWorld⟩

theorem run_of_shown (h : preview request = .ok shown) :
    run request = conduct (logged (loggedQuery request) shown · request) request := by
  rw [run_eq, funext (traced_of_shown h)]

/-- A request whose body the log cannot show is not answered, and no file is touched. -/
theorem run_of_not_shown {fault : Log.PreviewFault} (h : preview request = .error fault) (server : Server) :
    ((run request).run server).1 = ⟨.error 500 "Internal server error" "", some (.preview fault)⟩ ∧
      ((run request).run server).2.world = server.world := by
  rw [run_eq, conduct_eq, attempt_traced_of_error h]
  exact ⟨rfl, rfl⟩

/-- The answer to a request for a file is that of its access, and so are the files. -/
theorem run_of_asks (h : request.Asks asked) (server : Server) :
    ((run request).run server).1 =
        conclude (identifiers (openingContext request server.ids) request)
          (Endpoint.access asked server).1 ∧
      ((run request).run server).2.world = (Endpoint.access asked server).2 := by
  obtain ⟨shown, hShown⟩ := h.preview
  rw [run_of_shown hShown]
  exact conduct_logged _ _ rfl (Endpoint.yields_dispatch h.path h.method h.asked _ _)

end Exchange

end ConfigGate.Http
