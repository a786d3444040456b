import ConfigGate.Http.Exchange
import ConfigGate.Proofs.Access.Events

/-! How a request is served, and what is logged around the access that it asks for. -/
namespace ConfigGate.Http

open Computation

namespace Serving

variable {α : Type} {kind : Log.Entry → Prop} {serving : Serving α}

/-- Run a part of answering a request. -/
def attempt (serving : Serving α) (server : Server) : Except Crash α × Server :=
  serving.run.run server

/-- The computation adds entries of this kind alone. -/
def Reports (kind : Log.Entry → Prop) (serving : Serving α) : Prop :=
  Respects (Computation.Adds Server.entries kind) serving

theorem reports_identify (step : Trace.IdSource → Trace.Context × Trace.IdSource) :
    Reports kind (identify step) := fun _ => adds_of_eq rfl

theorem reports_report {context : Trace.Context} {event : Log.Event}
    (h : kind (Log.Entry.ofEvent context event)) : Reports kind (report context event) :=
  fun _ => ⟨[Log.Entry.ofEvent context event], rfl, by simpa using h⟩

/-- An access reports what it logs. -/
theorem reports_access {context : Trace.Context} {act : Setting → Act α} {logged : Log.Event → Prop}
    (h : ∀ s, Act.Logs logged (act s)) (hKind : ∀ event, logged event → kind (Log.Entry.ofEvent context event)) :
    Reports kind (access context act) := by
  intro server
  obtain ⟨new, hNew, hLogged⟩ := h server.setting { server.world with events := [] }
  refine ⟨new.map (Log.Entry.ofEvent context), ?_, ?_⟩
  · rw [List.nil_append] at hNew
    rw [← hNew]
    rfl
  · rintro _ hMem
    obtain ⟨event, hEvent, rfl⟩ := List.mem_map.mp hMem
    exact hKind event (hLogged event hEvent)

end Serving

/-- The entry is about the beginning of a request. -/
def IsStart (entry : Log.Entry) : Prop := entry.name = "http_request_start"

instance (entry : Log.Entry) : Decidable (IsStart entry) := inferInstanceAs (Decidable (_ = _))

/-- No access begins a request. -/
theorem not_isStart_of_isAccess {context : Trace.Context} {event : Log.Event} (h : event.IsAccess) :
    ¬ IsStart (Log.Entry.ofEvent context event) := by
  revert h
  cases event <;> simp [Log.Event.IsAccess, IsStart, Log.Entry.ofEvent, Log.Event.name]

namespace Endpoint

open Serving

theorem logs_perform (asked : ConfigGate.Request) (s : Setting) :
    Act.Logs Log.Event.IsAccess (perform asked s) := by
  unfold perform
  refine (Access.logs_call asked.demand).bind fun reply => ?_
  cases reply with
  | read path stream => exact (Stream.respects_drain Act.allows_adds_events stream).bind fun _ => respects_pure _
  | _ => exact respects_pure _

private theorem reports_perform (context : Trace.Context) (asked : ConfigGate.Request) :
    Reports (¬ IsStart ·) (access context (perform asked)) :=
  reports_access (logs_perform asked) fun _ => not_isStart_of_isAccess

/-- The steps that answers are made of have a property, and one after another has it if both have. -/
structure HoldsOfSteps (P : ∀ {α : Type}, Serving α → Prop) : Prop where
  pure : ∀ {α : Type} (a : α), P (pure a)
  throw : ∀ {α : Type} (crash : Crash), P (throw crash : Serving α)
  bind : ∀ {α β : Type} {serving : Serving α} {next : α → Serving β}, P serving → (∀ a, P (next a)) →
    P (serving >>= next)
  /-- No step looks at the log. -/
  get : ∀ {α : Type} {next : Server → Serving α}, (∀ server, P (next server)) →
    (∀ (server : Server) (entries : List Log.Entry), next { server with entries } = next server) →
    P (get >>= next)
  identify : ∀ step, P (Serving.identify step)
  access : ∀ context asked, P (Serving.access context (perform asked))
  pushed : ∀ context file mode, P (Serving.report context (.pushHandled file mode))

/-- The steps that answers are made of have a property where the identifiers are kept ones, and one after another
has it if both have. The identifiers that a step sets are kept ones as well. -/
structure HoldsOfStepsWith (kept : Trace.Context → Prop) (P : ∀ {α : Type}, Serving α → Prop) : Prop where
  pure : ∀ {α : Type} (a : α), P (pure a)
  throw : ∀ {α : Type} (crash : Crash), P (throw crash : Serving α)
  bind : ∀ {α β : Type} {serving : Serving α} {next : α → Serving β}, P serving → (∀ a, P (next a)) →
    P (serving >>= next)
  get : ∀ {α : Type} {next : Server → Serving α}, (∀ server, P (next server)) →
    (∀ (server : Server) (entries : List Log.Entry), next { server with entries } = next server) →
    P (get >>= next)
  identify : ∀ {α : Type} {next : Trace.Context → Serving α} {context : Trace.Context} (requestId : Option String),
    kept context → (∀ inner, kept inner → P (next inner)) →
    P (Serving.identify (context.enterRequest requestId) >>= next)
  access : ∀ {context : Trace.Context}, kept context → ∀ asked, P (Serving.access context (perform asked))
  pushed : ∀ {context : Trace.Context}, kept context → ∀ file mode,
    P (Serving.report context (.pushHandled file mode))

namespace HoldsOfStepsWith

variable {kept : Trace.Context → Prop} {P : ∀ {α : Type}, Serving α → Prop} {outer : Trace.Context}

theorem failed (h : HoldsOfStepsWith kept P) (requestId : String) (failure : Failure) :
    P (failed requestId failure) := by
  unfold Endpoint.failed
  split
  · exact h.pure _
  · exact h.throw _

theorem query (h : HoldsOfStepsWith kept P) (hOuter : kept outer) (request : Request) : P (query outer request) := by
  refine h.identify _ hOuter fun context hContext => h.bind (h.access hContext _) fun result => ?_
  cases result with
  | error failure => exact h.failed _ failure
  | ok reply => exact h.pure _

theorem form (h : HoldsOfStepsWith kept P) (hOuter : kept outer) (request : Request) : P (form outer request) := by
  unfold Endpoint.form
  split
  · exact h.pure _
  refine h.identify _ hOuter fun context hContext => ?_
  split
  · exact h.pure _
  refine h.bind (h.access hContext _) fun result => ?_
  cases result with
  | error failure => exact h.failed _ failure
  | ok reply => exact h.bind (h.pushed hContext _ _) fun _ => h.pure _

theorem answer (h : HoldsOfStepsWith kept P) (hOuter : kept outer) (request : Request) (route : Route) :
    P (answer outer request route) := by
  cases route with
  | live => exact h.pure _
  | ready => exact h.identify _ hOuter fun _ _ => h.get (fun _ => h.pure _) fun _ _ => rfl
  | page p => exact h.pure _
  | file =>
      change P (if request.method = "POST" then Endpoint.form outer request else Endpoint.query outer request)
      split
      · exact h.form hOuter request
      · exact h.query hOuter request

/-- What holds of the steps holds of the whole answer. -/
theorem dispatch (h : HoldsOfStepsWith kept P) (hOuter : kept outer) (request : Request) :
    P (dispatch outer request) := by
  refine h.get (fun server => ?_) fun _ _ => rfl
  split
  · exact h.answer hOuter request _
  · exact h.pure _
  · exact h.pure _
  · exact h.pure _

end HoldsOfStepsWith

/-- What holds of the steps whatever the identifiers are holds of the whole answer. -/
theorem HoldsOfSteps.dispatch {P : ∀ {α : Type}, Serving α → Prop} (h : HoldsOfSteps P) (outer : Trace.Context)
    (request : Request) : P (dispatch outer request) := by
  have hSteps : HoldsOfStepsWith (fun _ => True) P := {
    pure := h.pure
    throw := h.throw
    bind := h.bind
    get := h.get
    identify := fun _ _ hNext => h.bind (h.identify _) fun inner => hNext inner trivial
    access := fun _ => h.access _
    pushed := fun _ => h.pushed _ }
  exact hSteps.dispatch trivial request

theorem reports_dispatch (outer : Trace.Context) (request : Request) :
    Reports (¬ IsStart ·) (dispatch outer request) := by
  refine HoldsOfSteps.dispatch (P := Reports (¬ IsStart ·)) ?_ outer request
  exact {
    pure := respects_pure
    throw := respects_throw
    bind := Respects.bind
    get := fun hNext _ => respects_get.bind hNext
    identify := reports_identify
    access := reports_perform
    pushed := fun context file mode => reports_report (by simp [IsStart, Log.Entry.ofEvent, Log.Event.name]) }

end Endpoint

namespace Exchange

open Serving

/-- Answer a request with another layer in the place of the one that traces and logs. -/
def conduct (layer : Trace.Context → Serving Response) (request : Request) : StateM Server Exchange := do
  let server ← get
  let (context, ids) := openingContext request server.ids
  set { server with ids }
  match ← (layer context).run with
  | .ok response => return ⟨response, none⟩
  | .error crash =>
    modify fun server => server.report context (.unhandled crash.cause.record)
    return ⟨.error 500 "Internal server error" crash.requestId, some crash.cause⟩

/-- A crash is answered with an error that tells nothing, and is logged after everything else. -/
theorem conduct_eq (layer : Trace.Context → Serving Response) (request : Request) (server : Server) :
    (conduct layer request).run server =
      match attempt (layer (openingContext request server.ids).1)
        { server with ids := (openingContext request server.ids).2 } with
      | (.ok response, after) => (⟨response, none⟩, after)
      | (.error crash, after) =>
        (⟨.error 500 "Internal server error" crash.requestId, some crash.cause⟩,
          after.report (openingContext request server.ids).1 (.unhandled crash.cause.record)) := by
  unfold conduct attempt
  rcases hOpening : openingContext request server.ids with ⟨context, ids⟩
  simp only [StateT.run_bind, StateT.run_get, StateT.run_set, pure_bind, hOpening]
  rcases (layer context).run.run { server with ids } with ⟨crash | response, after⟩ <;> rfl

theorem run_eq (request : Request) : run request = conduct (traced · request) request := rfl

/-- The outer layer has nothing of its own to report after a request but a crash. -/
theorem entries_run (request : Request) (server : Server) :
    ∃ more, ((run request).run server).2.entries =
        (attempt (traced (openingContext request server.ids).1 request)
          { server with ids := (openingContext request server.ids).2 }).2.entries ++ more ∧
      ∀ entry ∈ more, ¬ IsStart entry := by
  rw [run_eq, conduct_eq]
  generalize attempt (traced _ request) _ = outcome
  rcases outcome with ⟨crash | response, after⟩
  · exact ⟨[_], rfl, by simp [IsStart, Log.Entry.ofEvent, Log.Event.name]⟩
  · exact ⟨[], by simp, by simp⟩

/-- The log can show a request if it can show its body. -/
theorem exists_preview {request : Request}
    (h : ∃ shown, Log.bodyPreview request.body request.contentType = .ok shown) :
    ∃ shown, preview request = .ok shown := by
  unfold preview
  split
  · exact h
  · exact ⟨none, rfl⟩

/-- What is logged as a request begins. -/
def startEntry (context : Trace.Context) (request : Request) (shown : Option Text.Wide) : Log.Entry :=
  .ofEvent context
    (.requestStarted request.method request.loggedPath (loggedQuery request) shown)

/-- Within the outer layer no request begins. -/
theorem reports_identified (context : Trace.Context) (request : Request) :
    Reports (¬ IsStart ·) (identified context request) :=
  (reports_identify _).bind fun context =>
    (Endpoint.reports_dispatch context request).bind fun _ => respects_pure _

theorem attempt_traced_of_error {request : Request} {fault : Log.PreviewFault}
    (h : preview request = .error fault) (context : Trace.Context) (server : Server) :
    attempt (traced context request) server = (.error ⟨.preview fault, ""⟩, server) := by
  unfold traced
  rw [h]
  rfl

theorem entries_traced_of_ok {request : Request} {shown : Option Text.Wide}
    (h : preview request = .ok shown) (context : Trace.Context) (server : Server) :
    ∃ new, (attempt (traced context request) server).2.entries =
        server.entries ++ startEntry context request shown :: new ∧
      ∀ entry ∈ new, ¬ IsStart entry := by
  have hRest : Reports (¬ IsStart ·) (do
      let response ← identified context request
      report context
        (.requestFinished request.method request.loggedPath response.status response.mediaType?)
      return response.withHeader "traceparent"
        (Trace.parentHeader context.traceId context.spanId true)) := by
    refine (reports_identified context request).bind fun response => ?_
    refine Respects.bind (reports_report ?_) fun _ => respects_pure _
    simp [IsStart, Log.Entry.ofEvent, Log.Event.name]
  obtain ⟨new, hNew, hKind⟩ := hRest (server.report context
    (.requestStarted request.method request.loggedPath (loggedQuery request) shown))
  refine ⟨new, ?_, hKind⟩
  unfold traced
  rw [h]
  refine (Eq.trans ?_ hNew).trans (by simp [Server.report, startEntry])
  rfl

/-- What is logged of the beginning of a request. -/
def startEntries (request : Request) (server : Server) : List Log.Entry :=
  (((run request).run server).2.entries.drop server.entries.length).filter (IsStart ·)

/-- A request is logged once at its beginning, unless its body cannot be shown. -/
theorem startEntries_eq (request : Request) (server : Server) :
    startEntries request server =
      match preview request with
      | .ok shown => [startEntry (openingContext request server.ids).1 request shown]
      | .error _ => [] := by
  have hNone {rest : List Log.Entry} (h : ∀ entry ∈ rest, ¬ IsStart entry) :
      rest.filter (IsStart ·) = [] := List.filter_eq_nil_iff.mpr (by simpa using h)
  obtain ⟨more, hMore, hCrash⟩ := entries_run request server
  unfold startEntries
  cases hPreview : preview request with
  | error fault =>
      rw [hMore, attempt_traced_of_error hPreview, List.drop_left, hNone hCrash]
  | ok shown =>
      obtain ⟨new, hNew, hInner⟩ := entries_traced_of_ok hPreview
        (openingContext request server.ids).1
        { server with ids := (openingContext request server.ids).2 }
      rw [hMore, hNew, List.append_assoc, List.drop_left, List.filter_append, hNone hCrash,
        List.filter_cons_of_pos (by simp [IsStart, startEntry, Log.Entry.ofEvent, Log.Event.name]),
        hNone hInner, List.append_nil]

end Exchange

end ConfigGate.Http
