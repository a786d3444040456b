import ConfigGate.Proofs.Http.RequestId
import ConfigGate.Proofs.Trace.Parent

/-! The trace id of a request. It is that of the header that the client sends, as it was read from there, or
else a new one; everything that is logged on the way carries it, and the response carries a header from
which it is read again. -/
namespace ConfigGate

namespace Trace

/-- A new identifier has so many characters, all of them small hexadecimal digits. -/
structure IsNewId (length : Nat) (id : String) : Prop where
  length_eq : id.length = length
  digits : ∀ c ∈ id.toList, ('0' ≤ c ∧ c ≤ '9') ∨ ('a' ≤ c ∧ c ≤ 'f')

theorem IsNewId.fits {length : Nat} {id : String} (h : IsNewId length id) (hLength : 0 < length) : Fits length id := by
  have hHex : IsHexField length id := ⟨h.length_eq, fun c hMem => by
    rcases h.digits c hMem with hDigit | hLetter
    · simp [isHexDigit, hDigit]
    · simp [isHexDigit, hLetter]⟩
  exact hHex.fits hLength

theorem isNewId_hexId {width : Nat} (hWidth : 0 < width) (n : Nat) : IsNewId width (hexId width n) where
  length_eq := length_hexId hWidth n
  digits := by
    rw [hexId, String.toList_ofList]
    exact Text.forall_mem_hexPadded (by decide) width _

end Trace

namespace Http

open Serving Trace

/-- The trace id that a request brings, if it can be read. -/
def Request.broughtId? (request : Request) : Option String :=
  (request.header? "traceparent").bind parentTraceId

/-- The request may begin with these identifiers: a new span, and the trace that it brings or else a new one. -/
structure Request.Opens (request : Request) (context : Trace.Context) : Prop where
  brought : ∀ id, request.broughtId? = some id → context.traceId = id
  newTrace : request.broughtId? = none → IsNewId traceIdLength context.traceId
  newSpan : IsNewId spanIdLength context.spanId

/-- The response and what has been logged before it carry the trace. -/
structure CarriesTrace (request : Request) (context : Trace.Context) (before after : Server) (response : Response) :
    Prop where
  header : ∃ header, response.headers.lookup "traceparent" = some header ∧
    parentTraceId header = some context.traceId
  logged : ∃ new, after.entries = before.entries ++ new ∧ ∀ entry ∈ new, entry.context.traceId = context.traceId
  /-- Within the layer that traces, the trace id is at hand as the identifier of the request. -/
  within : request.sentId? = none → response.headers.lookup "x-request-id" = some context.traceId
  brought : ∀ sent id, request.header? "traceparent" = some sent → parentTraceId sent = some id →
    context.traceId = id

namespace Request

variable {request : Request} {context : Trace.Context}

theorem ne_empty_of_broughtId? {id : String} (h : request.broughtId? = some id) : id ≠ "" := by
  obtain ⟨header, -, hRead⟩ := Option.bind_eq_some_iff.mp h
  rintro rfl
  exact absurd (length_parentTraceId hRead) (by decide)

/-- Requests begin so. -/
theorem opens_openingContext (request : Request) (ids : IdSource) :
    request.Opens (Exchange.openingContext request ids).1 := by
  have hOpening : (Exchange.openingContext request ids).1 =
      (Context.unset.enterTrace request.broughtId? none ids).1 := rfl
  rw [hOpening]
  cases hBrought : request.broughtId? with
  | none =>
      have hNew (n : Nat) : IsNewId traceIdLength (hexId 32 n) := isNewId_hexId (by decide) n
      refine ⟨fun id hId => ?_, fun _ => hNew _, isNewId_hexId (by decide) _⟩
      rw [hBrought] at hId
      cases hId
  | some id =>
      have hSame : (Context.unset.enterTrace (some id) none ids).1.traceId = id :=
        congrArg Prod.fst (orNew_of_ne (ne_empty_of_broughtId? hBrought) _ _)
      refine ⟨fun other hOther => ?_, fun hNone => ?_, isNewId_hexId (by decide) _⟩
      · rw [hSame, Option.some.inj (hBrought.symm.trans hOther)]
      · rw [hBrought] at hNone
        cases hNone

theorem Opens.fits_traceId (h : request.Opens context) : Fits traceIdLength context.traceId := by
  cases hBrought : request.broughtId? with
  | none => exact (h.newTrace hBrought).fits (by decide)
  | some id =>
      obtain ⟨header, -, hRead⟩ := Option.bind_eq_some_iff.mp hBrought
      rw [h.brought id hBrought]
      exact fits_of_parentTraceId hRead

theorem Opens.header_read (h : request.Opens context) (sampled : Bool) :
    parentTraceId (parentHeader context.traceId context.spanId sampled) = some context.traceId :=
  parentTraceId_parentHeader h.fits_traceId (h.newSpan.fits (by decide)) sampled

end Request

namespace Exchange

variable {request : Request} {context : Trace.Context} {server after : Server} {response : Response} {id : String}

/-- Every entry that is reported carries this trace id. -/
abbrev ReportsTrace {α : Type} (id : String) (serving : Serving α) : Prop :=
  Reports (fun entry => entry.context.traceId = id) serving

/-- The identifier of a request is found without changing the trace. -/
theorem reportsTrace_identify {α : Type} {next : Trace.Context → Serving α} (requestId : Option String)
    (hContext : context.traceId = id)
    (hNext : ∀ inner : Trace.Context, inner.traceId = id → ReportsTrace id (next inner)) :
    ReportsTrace id (Serving.identify (context.enterRequest requestId) >>= next) := by
  intro server
  have hInner := hNext (context.enterRequest requestId server.ids).1 hContext
  exact hInner { server with ids := (context.enterRequest requestId server.ids).2 }

theorem reportsTrace_dispatch (hContext : context.traceId = id) (request : Request) :
    ReportsTrace id (Endpoint.dispatch context request) := by
  have hSteps : Endpoint.HoldsOfStepsWith (fun inner => inner.traceId = id) (ReportsTrace id) := {
    pure := Computation.respects_pure
    throw := Computation.respects_throw
    bind := Computation.Respects.bind
    get := fun hNext _ => Computation.respects_get.bind hNext
    identify := reportsTrace_identify
    access := fun hContext asked => reports_access (Endpoint.logs_perform asked) fun _ _ => hContext
    pushed := fun hContext _ _ => reports_report hContext }
  exact hSteps.dispatch hContext request

/-- Whatever becomes of a request, everything that is reported carries its trace. -/
theorem reportsTrace_traced (context : Trace.Context) (request : Request) :
    ReportsTrace context.traceId (traced context request) := by
  have hIdentified : ReportsTrace context.traceId (identified context request) :=
    reportsTrace_identify _ rfl fun inner hInner =>
      (reportsTrace_dispatch hInner request).bind fun _ => Computation.respects_pure _
  have hReport (event : Log.Event) : ReportsTrace context.traceId (report context event) := reports_report rfl
  unfold traced
  split
  · exact Computation.respects_throw _
  · refine (hReport _).bind fun _ => hIdentified.bind fun _ => ?_
    exact (hReport _).bind fun _ => Computation.respects_pure _

/-- A response that is traced has the identifiers of the request in its headers. -/
theorem exists_identify_of_traced (h : attempt (traced context request) server = (.ok response, after)) :
    ∃ inner, response = identify (identifiers (context, server.ids) request) inner := by
  cases hPreview : preview request with
  | error fault =>
      rw [attempt_traced_of_error hPreview] at h
      cases h
  | ok shown =>
      rw [traced_of_shown hPreview] at h
      have hYields := yields_logged (yields_self
        (Endpoint.dispatch (identifiers (context, server.ids) request).outer request)
        (within (loggedQuery request) shown context request server))
      have hResult := hYields.result
      rw [h] at hResult
      generalize (attempt (Endpoint.dispatch _ request) _).1 = answered at hResult
      cases answered with
      | error crash => cases hResult
      | ok inner =>
          cases hResult
          exact ⟨inner, rfl⟩

/-- A request that begins with identifiers of its own has its trace carried. -/
theorem carriesTrace_of_traced (hOpens : request.Opens context)
    (h : attempt (traced context request) server = (.ok response, after)) :
    CarriesTrace request context server after response where
  header := by
    obtain ⟨inner, rfl⟩ := exists_identify_of_traced h
    refine ⟨parentHeader context.traceId context.spanId true, ?_, hOpens.header_read true⟩
    rw [identify, Response.withHeader, Keyed.lookup_assign, if_pos rfl]
    rfl
  logged := by
    obtain ⟨new, hNew, hCarry⟩ := reportsTrace_traced context request server
    refine ⟨new, ?_, hCarry⟩
    rw [← hNew]
    exact congrArg (·.2.entries) h.symm
  within hNone := by
    obtain ⟨inner, rfl⟩ := exists_identify_of_traced h
    have hTrace : context.traceId ≠ "" := hOpens.fits_traceId.ne_empty (by decide)
    rw [identify, Response.withHeader, Keyed.lookup_assign, if_neg (by decide), Response.withHeader,
      Keyed.lookup_assign, if_pos rfl, (requestId_of_not_sent hNone hTrace).1]
  brought sent id hSent hRead := hOpens.brought id (Option.bind_eq_some_iff.mpr ⟨sent, hSent, hRead⟩)

/-- A request that does not crash has its trace carried. -/
theorem carriesTrace_of_run (h : ((run request).run server).1.crash = none) :
    CarriesTrace request (openingContext request server.ids).1 server ((run request).run server).2
      ((run request).run server).1.response := by
  rw [run_eq, conduct_eq] at h ⊢
  rcases hTraced : attempt (traced (openingContext request server.ids).1 request)
    { server with ids := (openingContext request server.ids).2 } with ⟨crash | response, after⟩ <;>
    rw [hTraced] at h
  · cases h
  · have hCarries := carriesTrace_of_traced (Request.opens_openingContext request server.ids) hTraced
    exact ⟨hCarries.header, hCarries.logged, hCarries.within, hCarries.brought⟩

/-- The trace of every request that is answered is carried by the response and by the log, whichever new identifiers
it begins with, and those of the server are such. Whatever ids have been read from headers, the trace id is read
again from a header that is made of them. -/
theorem trace_carried :
    (∀ (request : Request) (context : Context) (server after : Server) (response : Response),
      request.Opens context → attempt (traced context request) server = (.ok response, after) →
      CarriesTrace request context server after response) ∧
    (∀ (request : Request) (server : Server), ((run request).run server).1.crash = none →
      CarriesTrace request (openingContext request server.ids).1 server ((run request).run server).2
        ((run request).run server).1.response) ∧
    ∀ (header spanHeader traceId spanId : String) (sampled : Bool), parentTraceId header = some traceId →
      ReadsSpan spanHeader spanId → parentTraceId (parentHeader traceId spanId sampled) = some traceId :=
  ⟨fun _ _ _ _ _ => carriesTrace_of_traced, fun _ _ => carriesTrace_of_run,
    fun _ _ _ _ sampled hTrace hSpan => parentTraceId_parentHeader (fits_of_parentTraceId hTrace) hSpan.fits sampled⟩

/-- A header whose trace id begins with a blank and a base prefix, and whose span id ends with a blank. -/
def blankHeader : String := "\t00- 0x51916cd43dd8448eb211c80319cab-b7ad6b716920333 -zz "

def blankTraceId : String := " 0x51916cd43dd8448eb211c80319cab"

def blankSpanId : String := "b7ad6b716920333 "

def blankTraced : Request where
  method := "GET"
  path := Route.live.path
  query := []
  headers := [("traceparent", blankHeader)]
  body := []

/-- The trace id is carried as it is, with the blank before it. -/
theorem trace_carried_blank :
    parentTraceId blankHeader = some blankTraceId ∧
    (∃ context response after, blankTraced.Opens context ∧
      attempt (traced context blankTraced) defaultServer = (.ok response, after) ∧
      CarriesTrace blankTraced context defaultServer after response) ∧
    CarriesTrace blankTraced (openingContext blankTraced defaultServer.ids).1 defaultServer
      ((run blankTraced).run defaultServer).2 ((run blankTraced).run defaultServer).1.response ∧
    parentTraceId (parentHeader blankTraceId blankSpanId false) = some blankTraceId := by
  have hRead : parentTraceId blankHeader = some blankTraceId := by decide +kernel
  have hFields : HasFields blankHeader "00" blankTraceId blankSpanId "zz" :=
    hasFields_iff.mpr (by decide +kernel)
  have hOpens := Request.opens_openingContext blankTraced defaultServer.ids
  have hOk : (attempt (traced (openingContext blankTraced defaultServer.ids).1 blankTraced) defaultServer).1.isOk := by
    decide +kernel
  refine ⟨hRead, ?_, trace_carried.2.1 _ _ (by decide +kernel),
    trace_carried.2.2 _ _ _ _ false hRead ⟨_, _, _, hFields, hRead⟩⟩
  rcases hServed : attempt (traced (openingContext blankTraced defaultServer.ids).1 blankTraced) defaultServer with
    ⟨crash | response, after⟩
  · rw [hServed] at hOk
    cases hOk
  · exact ⟨_, response, after, hOpens, hServed, trace_carried.1 _ _ _ _ _ hOpens hServed⟩

end Exchange

end Http

end ConfigGate
