import ConfigGate.Proofs.Http.Answer

/-! What the endpoints answer. Documents about successes carry the identifier that the endpoint has found,
and those about failures the one that was found around it. A form with uploads is answered in a way of its
own. -/
namespace ConfigGate.Http

/-- The identifier in the body of a response. -/
def Response.bodyId? (response : Response) : Option String :=
  match response.body with
  | .document (.object members) =>
    match members.lookup ("request_id" : Text.Wide) with
    | some (.text id) => id.text?
    | _ => none
  | _ => none

@[simp] theorem Response.bodyId?_success (status : Nat) (headers : Headers) (data : Json.Value) (requestId : String) :
    bodyId? ⟨status, headers, .document (success data requestId)⟩ = some requestId :=
  Text.Wide.text?_ofText requestId

@[simp] theorem Response.bodyId?_error (status : Nat) (message requestId : String) :
    (error status message requestId).bodyId? = some requestId :=
  Text.Wide.text?_ofText requestId

/-- Where the form has an upload, an access asks for a text. -/
def Form.HasUpload (fields : Fields) : Prop :=
  ∃ name ∈ ["file", "contents"], lastValue fields name = some .upload

/-- The request gets to the endpoint of files with a form that has an upload where a text is asked for. -/
structure Request.BringsUpload (request : Request) : Prop where
  path : Route.file.hasPath request.path
  method : request.method = "POST"
  /-- The log can show the body. -/
  preview : ∃ shown, Exchange.preview request = .ok shown
  form : ∃ fields, Form.fields request = .ok fields ∧ Form.HasUpload fields

namespace Form

theorem argument_error_iff {fields : Fields} {name : String} :
    (∃ e, argument fields name = .error e) ↔ lastValue fields name = some .upload := by
  unfold argument
  rcases lastValue fields name with _ | _ | _ | _ <;> simp

/-- A form asks for an access unless it has an upload. -/
theorem requested_error_iff {fields : Fields} :
    (∃ names, requested fields = .error names) ↔ HasUpload fields := by
  have hArguments : HasUpload fields ↔
      (∃ e, argument fields "file" = .error e) ∨ ∃ e, argument fields "contents" = .error e := by
    rw [argument_error_iff, argument_error_iff]
    simp [HasUpload]
  rw [hArguments]
  unfold requested
  rcases argument fields "file" with _ | _ <;> rcases argument fields "contents" with _ | _ <;> simp

end Form

/-- No other route has the path of files. -/
theorem Route.ofPath?_file {settings : Settings} {path : String} (h : Route.file.hasPath path) :
    Route.ofPath? settings path = some .file := by
  have hPath : path = Route.file.path ∨ path = Route.file.path ++ "\n" := by
    simpa [Route.hasPath] using h
  obtain rfl | rfl := hPath <;> rfl

theorem Destination.hasPath_of_route {settings : Settings} {request : Request} {route : Route}
    (h : Destination.ofRequest settings request = .route route) : route.hasPath request.path := by
  unfold Destination.ofRequest at h
  split at h
  · rename_i found hFound
    split at h
    · obtain rfl : found = route := by simpa using h
      exact List.find?_some hFound
    · cases h
  · dsimp only at h
    split at h <;> cases h

namespace Endpoint

open Serving

/-- What is given at an endpoint, or wherever else a request leads. -/
inductive Gives (outer inner : Trace.Context) (request : Request) : Except Crash Response → Prop
  /-- Something that tells no identifier and of no failure. -/
  | plain {response : Response} (status : response.status < 400) (body : response.bodyId? = none) :
      Gives outer inner request (.ok response)
  | success (data : Json.Value) (headers : Headers) (h : headers = [] ∨ headers = Response.noCache) :
      Gives outer inner request
        (.ok ((Response.json 200 (Response.success data inner.requestId)).withHeaders headers))
  | error {status : Nat} {message : String} (h : 400 ≤ status)
      (generic : status = 500 → message = "Internal server error") :
      Gives outer inner request (.ok (.error status message outer.requestId))
  | unusable (names : List String) (path : Route.file.hasPath request.path) (method : request.method = "POST")
      (form : ∃ fields, Form.fields request = .ok fields ∧ Form.HasUpload fields) :
      Gives outer inner request (.ok (.unusable names))
  | crash (failure : Failure) : Gives outer inner request (.error ⟨.access failure, outer.requestId⟩)

variable {outer inner : Trace.Context} {request : Request}

/-- Clients are told of a failure by a status of its own, and of an internal one nothing else. -/
theorem gives_failure (failure : Failure) : Gives outer inner request (respond outer inner (.error failure)) := by
  unfold respond
  cases failure with
  | rejected | noRoot | notFound | notShown | writesDirectory => exact .error (by decide) (by simp)
  | internal => exact .error (by decide) fun _ => rfl
  | _ => exact .crash _

theorem gives_respond (result : Except Failure (Reply × Bytes)) :
    Gives outer inner request (respond outer inner result) := by
  cases result with
  | error failure => exact gives_failure failure
  | ok reply =>
      obtain ⟨reply, contents⟩ := reply
      cases reply with
      | read path stream => exact .plain (show 200 < 400 by decide) rfl
      | written path text => exact .plain (show 200 < 400 by decide) rfl
      | listed path listing => exact .success listing.toJson _ (.inr rfl)

/-- A form that asks for no access is one that cannot be read, or has an upload. -/
theorem gives_form (server : Server) (path : Route.file.hasPath request.path) (method : request.method = "POST")
    (h : Exchange.asked request = none) :
    Gives outer (innerContext outer request server.ids) request (attempt (form outer request) server).1 := by
  unfold form
  cases hFields : Form.fields request with
  | error fault => exact .error (by decide) (by simp)
  | ok fields =>
      cases hRequested : Form.requested fields with
      | error names =>
          have hUpload := Form.requested_error_iff.mp ⟨names, hRequested⟩
          simp only [hRequested]
          exact .unusable names path method ⟨fields, hFields, hUpload⟩
      | ok asked =>
          rw [Exchange.asked_eq_some.mpr ⟨fields, hFields, hRequested⟩] at h
          cases h

theorem gives_answer (server : Server) {route : Route} (hPath : route.hasPath request.path) :
    Gives outer (innerContext outer request server.ids) request (attempt (answer outer request route) server).1 := by
  cases route with
  | live => exact .plain (show 200 < 400 by decide) rfl
  | ready => exact .success _ [] (.inl rfl)
  | page p => exact .plain (show 200 < 400 by decide) rfl
  | file =>
      cases hAsked : request.asked? with
      | some asked =>
          rw [(yields_answer hAsked outer server).result]
          exact gives_respond _
      | none =>
          unfold Request.asked? at hAsked
          split at hAsked
          · rename_i hPost
            unfold answer
            simp only [if_pos hPost]
            exact gives_form server hPath hPost hAsked
          · cases hAsked

/-- Wherever a request leads, one of the known answers is given. -/
theorem gives_dispatch (outer : Trace.Context) (request : Request) (server : Server) :
    Gives outer (innerContext outer request server.ids) request (attempt (dispatch outer request) server).1 := by
  unfold dispatch
  rw [attempt_bind, show attempt get server = (.ok server, server) from rfl]
  dsimp only
  cases hDestination : Destination.ofRequest server.settings request with
  | route route => exact gives_answer server (Destination.hasPath_of_route hDestination)
  | wrongMethod => exact .error (by decide) (by simp)
  | elsewhere path => exact .plain (show 307 < 400 by decide) rfl
  | nowhere => exact .error (by decide) (by simp)

/-- A form with an upload is not turned into an access, and no handler of errors sees it. -/
theorem attempt_dispatch_of_upload (h : request.BringsUpload) (outer : Trace.Context) (server : Server) :
    ∃ names, (attempt (dispatch outer request) server).1 = .ok (.unusable names) := by
  obtain ⟨fields, hFields, hUpload⟩ := h.form
  obtain ⟨names, hNames⟩ := Form.requested_error_iff.mpr hUpload
  have hDestination : Destination.ofRequest server.settings request = .route .file := by
    unfold Destination.ofRequest
    rw [Route.ofPath?_file h.path]
    simp [h.method, Route.methods]
  refine ⟨names, ?_⟩
  unfold dispatch
  rw [attempt_bind, show attempt get server = (.ok server, server) from rfl]
  simp only [hDestination, answer, if_pos h.method, form, hFields, hNames]
  rfl

end Endpoint

namespace Exchange

open Serving Endpoint

variable {request : Request}

/-- The identifiers of a request to a server. -/
def identifiersAt (server : Server) (request : Request) : Identifiers :=
  identifiers (openingContext request server.ids) request

/-- Whatever is shown of a request, it gets one of the known answers, with the identifiers added. -/
theorem conduct_gives (query : Option Json.Value) (shown : Option Text.Wide) (request : Request) (server : Server) :
    ∃ result, Gives (identifiersAt server request).outer (identifiersAt server request).inner request result ∧
      ((conduct (logged query shown · request) request).run server).1 =
        ofResult (result.map (identify (identifiersAt server request))) := by
  unfold identifiersAt
  generalize hOpening : openingContext request server.ids = opening
  have hRun := conduct_logged query shown hOpening (yields_self _ _)
  have hGives := gives_dispatch (identifiers opening request).outer request
    (within query shown opening.1 request { server with ids := opening.2 })
  exact ⟨_, hGives, hRun.1⟩

theorem run_gives {shown : Option Text.Wide} (h : preview request = .ok shown) (server : Server) :
    ∃ result, Gives (identifiersAt server request).outer (identifiersAt server request).inner request result ∧
      ((run request).run server).1 = ofResult (result.map (identify (identifiersAt server request))) := by
  rw [run_of_shown h]
  exact conduct_gives _ _ request server

theorem run_of_upload (h : request.BringsUpload) (server : Server) :
    ∃ names, ((run request).run server).1.response =
      identify (identifiersAt server request) (.unusable names) := by
  obtain ⟨shown, hShown⟩ := h.preview
  unfold identifiersAt
  generalize hOpening : openingContext request server.ids = opening
  have hRun := conduct_logged (loggedQuery request) shown hOpening (yields_self _ _)
  obtain ⟨names, hNames⟩ := attempt_dispatch_of_upload h (identifiers opening request).outer
    (within (loggedQuery request) shown opening.1 request { server with ids := opening.2 })
  exact ⟨names, by rw [run_of_shown hShown, hRun.1, hNames]; rfl⟩

end Exchange

end ConfigGate.Http
