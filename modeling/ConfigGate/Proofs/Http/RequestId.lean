import ConfigGate.Proofs.Access.Temporary
import ConfigGate.Proofs.Http.Dispatch

/-! The identifier of a request, in the headers of its response and in the body. If the client sends one,
both have it. Otherwise the layers around the endpoint take that of the trace, which errors show, and the
endpoint makes one of its own, which documents about successes show. -/
namespace ConfigGate

namespace Trace

theorem length_hexId {width : Nat} (hWidth : 0 < width) (n : Nat) : (hexId width n).length = width := by
  have hBound : n % Nat.pow 16 width < 16 ^ width := Nat.mod_lt n (Nat.pow_pos (by decide))
  rw [hexId, String.length_ofList, Text.length_hexPadded hWidth hBound]

theorem length_uuid (n : Nat) : (uuid n).length = 36 :=
  calc (uuid n).length
    _ = "00000000-0000-4000-8000-".length + (hexId 12 n).length := String.length_append _ _
    _ = "00000000-0000-4000-8000-".length + 12 := congrArg _ (length_hexId (by decide) n)
    _ = 36 := by decide

theorem orNew_of_ne {id : String} (h : id ≠ "") (make : Nat → String) (ids : IdSource) :
    orNew (some id) make ids = (id, ids) := by
  simp [orNew, h]

theorem length_parentTraceId {header id : String} (h : parentTraceId header = some id) :
    id.length = traceIdLength := by
  unfold parentTraceId at h
  split at h
  · dsimp only at h
    split at h
    · rename_i hHex
      obtain rfl := Option.some.inj h
      simp only [isHex, Bool.and_eq_true, beq_iff_eq] at hHex
      exact hHex.1.1
    · cases h
  · cases h

/-- The trace id has its length whether it comes with the request or is a new one. -/
theorem length_orNew {given : Option String} (h : ∀ id ∈ given, id.length = traceIdLength) (ids : IdSource) :
    (orNew given (hexId 32) ids).1.length = traceIdLength := by
  have hNew : (hexId 32 ids.issued).length = traceIdLength := length_hexId (by decide) _
  cases given with
  | none => exact hNew
  | some id =>
      have hId := h id rfl
      unfold orNew
      dsimp only
      split
      · exact hNew
      · exact hId

end Trace

namespace Http

/-- The identifier in the headers of a response. -/
def Response.headerId? (response : Response) : Option String :=
  response.headers.get? "x-request-id"

/-- The body of the response tells of a success. -/
def Response.TellsSuccess (response : Response) : Prop :=
  ∃ data requestId, response.body = .document (Response.success data requestId)

/-- The identifier that the client has sent. An empty one is none. -/
def Request.sentId? (request : Request) : Option String :=
  (request.header? "x-request-id").filter (· ≠ "")

/-- Where a response has an identifier in its headers and one in its body, they are the same, and that of the
client if the client has sent one. -/
def OneId (request : Request) (response : Response) : Prop :=
  ∀ inHeaders inBody, response.headerId? = some inHeaders → response.bodyId? = some inBody →
    inHeaders = inBody ∧ ∀ sent, request.sentId? = some sent → inHeaders = sent ∧ inBody = sent

namespace Headers

variable {name other value : String} {headers : Headers}

theorem get?_assign_of_ne (h : Text.lower other ≠ Text.lower name) (headers : Headers) :
    get? (Keyed.assign other value headers) name = headers.get? name := by
  have hOther : (Text.lower other == Text.lower name) = false := beq_eq_false_iff_ne.mpr h
  induction headers with
  | nil => simp [get?, Keyed.assign, hOther]
  | cons header rest ih =>
      obtain ⟨sent, v⟩ := header
      unfold get? at ih ⊢
      by_cases hSent : sent = other
      · subst hSent
        rw [Keyed.assign, if_pos rfl, List.find?_cons_of_neg (by simp [hOther]),
          List.find?_cons_of_neg (by simp [hOther])]
      · rw [Keyed.assign, if_neg hSent, List.find?_cons, List.find?_cons]
        dsimp only
        cases Text.lower sent == Text.lower name with
        | false => exact ih
        | true => rfl

theorem get?_assign_self (h : headers.get? name = none) :
    get? (Keyed.assign name value headers) name = some value := by
  unfold get? at h ⊢
  rw [Option.map_eq_none_iff] at h
  induction headers with
  | nil => simp [Keyed.assign]
  | cons header rest ih =>
      obtain ⟨sent, v⟩ := header
      rw [List.find?_cons] at h
      split at h
      · cases h
      · rename_i hSent
        have hOther : sent ≠ name := fun hSame => by simp [hSame] at hSent
        rw [Keyed.assign, if_neg hOther, List.find?_cons_of_neg (by simp [hSent])]
        exact ih h

end Headers

theorem Request.sentId?_eq_some {request : Request} {id : String} :
    request.sentId? = some id ↔ request.header? "x-request-id" = some id ∧ id ≠ "" := by
  simp [sentId?, Option.filter_eq_some_iff]

theorem Response.not_tellsSuccess_of_bodyId? {response : Response} (h : response.bodyId? = none) :
    ¬ response.TellsSuccess := by
  rintro ⟨data, requestId, hBody⟩
  obtain ⟨status, headers, body⟩ := response
  obtain rfl : body = .document (success data requestId) := hBody
  rw [bodyId?_success] at h
  cases h

theorem Response.not_tellsSuccess_error (status : Nat) (message requestId : String) :
    ¬ (error status message requestId).TellsSuccess := by
  rintro ⟨data, other, hBody⟩
  simp [error, json, success] at hBody

namespace Exchange

open Endpoint

variable {request : Request} {opening : Trace.Context × Trace.IdSource}

/-- The identifier of the client is taken around the endpoint and within it. -/
theorem requestId_of_sent {id : String} (h : request.sentId? = some id) (opening : Trace.Context × Trace.IdSource) :
    (identifiers opening request).outer.requestId = id ∧ (identifiers opening request).inner.requestId = id := by
  obtain ⟨hHeader, hId⟩ := Request.sentId?_eq_some.mp h
  have hOuter : requestId? opening.1 request = some id := by simp [requestId?, hHeader, hId]
  simp [identifiers, innerContext, Trace.Context.enterRequest, hHeader, hOuter, Trace.orNew_of_ne hId]

/-- Without one the trace gives the identifier around the endpoint, and the endpoint makes a new one. -/
theorem requestId_of_not_sent (h : request.sentId? = none) (hTrace : opening.1.traceId ≠ "") :
    (identifiers opening request).outer.requestId = opening.1.traceId ∧
      ∃ n, (identifiers opening request).inner.requestId = Trace.uuid n := by
  have hHeader : request.header? "x-request-id" = none ∨ request.header? "x-request-id" = some "" := by
    cases hSent : request.header? "x-request-id" with
    | none => exact .inl rfl
    | some id =>
        by_cases hEmpty : id = ""
        · exact .inr (by rw [hEmpty])
        · rw [Request.sentId?_eq_some.mpr ⟨hSent, hEmpty⟩] at h
          cases h
  have hOuter : requestId? opening.1 request = some opening.1.traceId := by
    rcases hHeader with hHeader | hHeader <;> simp [requestId?, hHeader]
  constructor
  · simp [identifiers, Trace.Context.enterRequest, hOuter, Trace.orNew_of_ne hTrace]
  · rcases hHeader with hHeader | hHeader <;>
      simp only [identifiers, innerContext, Trace.Context.enterRequest, hHeader, Trace.orNew] <;>
      exact ⟨_, rfl⟩

theorem length_traceId (request : Request) (ids : Trace.IdSource) :
    (openingContext request ids).1.traceId.length = Trace.traceIdLength := by
  refine Trace.length_orNew (fun id hMem => ?_) ids
  obtain ⟨header, -, hId⟩ := Option.bind_eq_some_iff.mp hMem
  exact Trace.length_parentTraceId hId

/-- Around the endpoint and within it the identifier is the same exactly if the client has sent it. That of a
trace is shorter than one that an endpoint makes. -/
theorem outer_eq_inner_iff (request : Request) (server : Server) :
    (identifiersAt server request).outer.requestId = (identifiersAt server request).inner.requestId ↔
      request.sentId?.isSome := by
  unfold identifiersAt
  constructor
  · refine fun hSame => Option.isSome_iff_ne_none.mpr fun hNone => ?_
    have hLength := length_traceId request server.ids
    have hTrace : (openingContext request server.ids).1.traceId ≠ "" := fun hEmpty => by
      rw [hEmpty] at hLength
      exact absurd hLength (by decide)
    obtain ⟨hOuter, n, hInner⟩ := requestId_of_not_sent hNone hTrace
    rw [← hOuter, hSame, hInner, Trace.length_uuid] at hLength
    exact absurd hLength (by decide)
  · intro hSent
    obtain ⟨id, hId⟩ := Option.isSome_iff_exists.mp hSent
    obtain ⟨hOuter, hInner⟩ := requestId_of_sent hId (openingContext request server.ids)
    exact hOuter.trans hInner.symm

theorem headerId?_identify {response : Response} (h : response.headerId? = none) (ids : Identifiers) :
    (identify ids response).headerId? = some ids.outer.requestId := by
  have hTrace : Text.lower "traceparent" ≠ Text.lower "x-request-id" := by decide
  unfold identify Response.withHeader Response.headerId?
  rw [Headers.get?_assign_of_ne hTrace, Headers.get?_assign_self h]

/-- A response with an identifier in its body has one identifier if that is the one around the endpoint. -/
theorem oneId_identify_iff {server : Server} {response : Response} {id : String} (hHeader : response.headerId? = none)
    (hBody : response.bodyId? = some id) :
    OneId request (identify (identifiersAt server request) response) ↔
      (identifiersAt server request).outer.requestId = id := by
  have hInHeaders := headerId?_identify hHeader (identifiersAt server request)
  constructor
  · exact fun h => (h _ _ hInHeaders hBody).1
  · intro hSame inHeaders inBody hHeaders hInBody
    obtain rfl := Option.some.inj (hInHeaders.symm.trans hHeaders)
    obtain rfl := Option.some.inj (hBody.symm.trans hInBody)
    refine ⟨hSame, fun sent hSent => ?_⟩
    have hOuter := (requestId_of_sent hSent (openingContext request server.ids)).1
    exact ⟨hOuter, hSame.symm.trans hOuter⟩

theorem oneId_of_headerId? {response : Response} (h : response.headerId? = none) : OneId request response :=
  fun _ _ hHeader => nomatch h.symm.trans hHeader

theorem oneId_of_bodyId? {response : Response} (h : response.bodyId? = none) : OneId request response :=
  fun _ _ _ hBody => nomatch h.symm.trans hBody

/-- A request has one identifier exactly if the client has sent one, or the body of the response does not
tell of a success. -/
theorem oneId_iff (request : Request) (server : Server) :
    OneId request ((run request).run server).1.response ↔
      request.sentId?.isSome ∨ ¬ ((run request).run server).1.response.TellsSuccess := by
  cases hPreview : preview request with
  | error fault =>
      rw [(run_of_not_shown hPreview server).1]
      exact iff_of_true (oneId_of_headerId? rfl) (.inr (Response.not_tellsSuccess_error _ _ _))
  | ok shown =>
      obtain ⟨result, hGives, hRun⟩ := run_gives hPreview server
      rw [hRun]
      cases hGives with
      | plain status body =>
          exact iff_of_true (oneId_of_bodyId? body) (.inr (Response.not_tellsSuccess_of_bodyId? body))
      | success data headers h =>
          have hHeader : Response.headerId? ((Response.json 200 (Response.success data
              (identifiersAt server request).inner.requestId)).withHeaders headers) = none := by
            rcases h with rfl | rfl <;> rfl
          have hTells (ids : Identifiers) (id : String) : (identify ids
              ((Response.json 200 (Response.success data id)).withHeaders headers)).TellsSuccess := ⟨data, id, rfl⟩
          calc OneId request _
            _ ↔ _ := oneId_identify_iff hHeader (Response.bodyId?_success ..)
            _ ↔ request.sentId?.isSome := outer_eq_inner_iff request server
            _ ↔ _ := (or_iff_left (not_not.mpr (hTells _ _))).symm
      | error h generic =>
          exact iff_of_true ((oneId_identify_iff rfl (Response.bodyId?_error ..)).mpr rfl) (.inr (Response.not_tellsSuccess_error _ _ _))
      | unusable names =>
          exact iff_of_true (oneId_of_bodyId? rfl) (.inr (Response.not_tellsSuccess_of_bodyId? rfl))
      | crash failure =>
          exact iff_of_true (oneId_of_headerId? rfl) (.inr (Response.not_tellsSuccess_error _ _ _))

/-- A request for the state of the node, within a trace. -/
def probing : Request where
  method := "GET"
  path := Route.ready.path
  query := []
  headers := [("traceparent", "00-0af7651916cd43dd8448eb211c80319c-b7ad6b7169203331-01")]
  body := []

/-- The trace gives the identifier in the headers, and not that in the body. -/
theorem probing_not_oneId : ¬ OneId probing ((run probing).run defaultServer).1.response := by
  intro h
  have hSame := (h "0af7651916cd43dd8448eb211c80319c" (Trace.uuid 1) (by decide +kernel) (by decide +kernel)).1
  exact absurd hSame (by decide +kernel)

end Exchange

end Http

end ConfigGate
