import ConfigGate.Proofs.Http.Dispatch
import ConfigGate.Proofs.Log.Preview

/-! Tracing makes no difference to what is answered and to the files, as long as the log can show the body.
Where it cannot, the request is not answered at all. -/
namespace ConfigGate.Http

namespace Serving

variable {α β : Type} {serving : Serving α}

/-- What comes of a part of answering a request does not depend on what has been reported before, and neither
does the server after it, but for what has been reported. -/
def IgnoresLog (serving : Serving α) : Prop :=
  ∀ (server : Server) (entries : List Log.Entry), ∃ after, attempt serving { server with entries } =
    ((attempt serving server).1, { (attempt serving server).2 with entries := after })

theorem ignoresLog_pure (a : α) : IgnoresLog (pure a) := fun _ entries => ⟨entries, rfl⟩

theorem ignoresLog_throw (crash : Crash) : IgnoresLog (throw crash : Serving α) := fun _ entries => ⟨entries, rfl⟩

theorem ignoresLog_report (context : Trace.Context) (event : Log.Event) : IgnoresLog (report context event) :=
  fun _ _ => ⟨_, rfl⟩

theorem ignoresLog_identify (step : Trace.IdSource → Trace.Context × Trace.IdSource) : IgnoresLog (identify step) :=
  fun _ entries => ⟨entries, rfl⟩

theorem ignoresLog_access (context : Trace.Context) (act : Setting → Act α) : IgnoresLog (access context act) :=
  fun _ _ => ⟨_, rfl⟩

theorem IgnoresLog.bind {next : α → Serving β} (h : IgnoresLog serving) (hNext : ∀ a, IgnoresLog (next a)) :
    IgnoresLog (serving >>= next) := by
  intro server entries
  obtain ⟨middle, hMiddle⟩ := h server entries
  rw [attempt_bind, attempt_bind, hMiddle]
  rcases attempt serving server with ⟨crash | a, after⟩
  · exact ⟨middle, rfl⟩
  · exact hNext a after middle

/-- What goes on by anything of the server but the log does not look at the log. -/
theorem ignoresLog_get_bind {next : Server → Serving α} (hNext : ∀ server, IgnoresLog (next server))
    (hSame : ∀ (server : Server) (entries : List Log.Entry), next { server with entries } = next server) :
    IgnoresLog (get >>= next) := by
  intro server entries
  change ∃ after, attempt (next { server with entries }) { server with entries } =
    ((attempt (next server) server).1, { (attempt (next server) server).2 with entries := after })
  rw [hSame]
  exact hNext server server entries

theorem IgnoresLog.yields (h : IgnoresLog serving) (server : Server) (entries : List Log.Entry) :
    Yields serving { server with entries } (attempt serving server).1 (attempt serving server).2.world := by
  obtain ⟨after, hAfter⟩ := h server entries
  exact ⟨by rw [hAfter], by rw [hAfter]⟩

end Serving

namespace Endpoint

open Serving

/-- No answer depends on what has been logged. -/
theorem ignoresLog_dispatch (outer : Trace.Context) (request : Request) : IgnoresLog (dispatch outer request) := by
  refine HoldsOfSteps.dispatch (P := IgnoresLog) ?_ outer request
  exact {
    pure := ignoresLog_pure
    throw := ignoresLog_throw
    bind := IgnoresLog.bind
    get := ignoresLog_get_bind
    identify := ignoresLog_identify
    access := fun context asked => ignoresLog_access context (perform asked)
    pushed := fun context file mode => ignoresLog_report context (.pushHandled file mode) }

end Endpoint

namespace Exchange

open Serving Endpoint

variable {request : Request}

/-- Answer a request without a look at its query and body. -/
def runBlindly (request : Request) : StateM Server Exchange :=
  conduct (logged none none · request) request

/-- Whatever is shown of query and body, the answer is the same, and so are the files. -/
theorem conduct_logged_congr (query query' : Option Json.Value) (shown shown' : Option Text.Wide) (request : Request)
    (server : Server) :
    ((conduct (logged query shown · request) request).run server).1 =
        ((conduct (logged query' shown' · request) request).run server).1 ∧
      ((conduct (logged query shown · request) request).run server).2.world =
        ((conduct (logged query' shown' · request) request).run server).2.world := by
  generalize hOpening : openingContext request server.ids = opening
  have hOther := (ignoresLog_dispatch (identifiers opening request).outer request).yields
    (within query' shown' opening.1 request { server with ids := opening.2 })
    (within query shown opening.1 request { server with ids := opening.2 }).entries
  obtain ⟨hExchange, hWorld⟩ := conduct_logged query shown hOpening hOther
  obtain ⟨hExchange', hWorld'⟩ := conduct_logged query' shown' hOpening (yields_self _ _)
  exact ⟨hExchange.trans hExchange'.symm, hWorld.trans hWorld'.symm⟩

/-- The layer that traces and logs makes no difference: the answer is the one that is given without a look at
query and body, with its headers and its failure if there is one, and the files are left the same. -/
structure Transparent (request : Request) (server : Server) : Prop where
  response : ((run request).run server).1.response = ((runBlindly request).run server).1.response
  crash : ((run request).run server).1.crash = ((runBlindly request).run server).1.crash
  files : ((run request).run server).2.world = ((runBlindly request).run server).2.world

theorem transparent_of_shown {shown : Option Text.Wide} (h : preview request = .ok shown) (server : Server) :
    Transparent request server := by
  obtain ⟨hExchange, hWorld⟩ := conduct_logged_congr (loggedQuery request) none shown none request server
  rw [← run_of_shown h] at hExchange hWorld
  exact ⟨congrArg response hExchange, congrArg crash hExchange, hWorld⟩

/-- Without a look at query and body only an access can fail. -/
theorem crash_runBlindly_ne (request : Request) (server : Server) (fault : Log.PreviewFault) :
    ((runBlindly request).run server).1.crash ≠ some (.preview fault) := by
  obtain ⟨result, hGives, hRun⟩ := conduct_gives none none request server
  unfold runBlindly
  rw [hRun]
  cases hGives <;> simp [ofResult, Except.map]

theorem not_transparent_of_not_shown {fault : Log.PreviewFault} (h : preview request = .error fault)
    (server : Server) : ¬ Transparent request server := by
  intro hTransparent
  have hCrash := hTransparent.crash
  rw [(run_of_not_shown h server).1] at hCrash
  exact crash_runBlindly_ne request server fault hCrash.symm

/-- A request that the log can show for what it is: without a body, with a form, or with a modest text, whatever
its bytes are. -/
inductive IsPlain (request : Request) : Prop where
  | bodiless (h : request.method ∉ methodsWithBody)
  | form (h : "application/x-www-form-urlencoded".isPrefixOf request.contentType ∨
      "multipart/form-data".isPrefixOf request.contentType)
  | modest (h : Log.IsModest (Text.Utf8.decodeLossy request.body).toList)

theorem IsPlain.exists_preview (h : IsPlain request) : ∃ shown, preview request = .ok shown := by
  cases h with
  | bodiless h => exact ⟨none, if_neg (by simpa using h)⟩
  | form h => exact Exchange.exists_preview (Log.bodyPreview_of_form h request.body)
  | modest h => exact Exchange.exists_preview (Log.bodyPreview_of_isModest h request.contentType)

/-- Tracing is transparent exactly if the log can show the body, and so it is for every plain request. -/
theorem transparent_iff (request : Request) (server : Server) :
    (Transparent request server ↔ ∃ shown, preview request = .ok shown) ∧
      (IsPlain request → Transparent request server) := by
  have hShown : (∃ shown, preview request = .ok shown) → Transparent request server :=
    fun ⟨_, hShown⟩ => transparent_of_shown hShown server
  refine ⟨⟨fun hTransparent => ?_, hShown⟩, fun hPlain => hShown hPlain.exists_preview⟩
  cases hPreview : preview request with
  | ok shown => exact ⟨shown, rfl⟩
  | error fault => exact absurd hTransparent (not_transparent_of_not_shown hPreview server)

/-- A request whose body is a number of so many digits. -/
def counting (digits : Nat) : Request where
  method := "POST"
  path := Route.file.path
  query := []
  headers := []
  body := Text.Utf8.encode (String.ofList (List.replicate digits '1'))

theorem preview_counting {digits : Nat} (h : 4300 < digits) :
    preview (counting digits) = .error (.unreadable (.tooManyDigits digits)) := by
  have hMethod : methodsWithBody.contains (counting digits).method := show methodsWithBody.contains "POST" by decide
  rw [preview, if_pos hMethod]
  exact Log.bodyPreview_ones h

/-- Without a look at its body, a request for a file is answered as its access comes out. -/
theorem runBlindly_of_asked {asked : ConfigGate.Request} (hPath : request.path = Route.file.path)
    (hMethod : request.method ∈ Route.file.methods) (hAsked : request.asked? = some asked) (server : Server) :
    ((runBlindly request).run server).1 =
      conclude (identifiers (openingContext request server.ids) request) (Endpoint.access asked server).1 :=
  (conduct_logged none none rfl (Endpoint.yields_dispatch hPath hMethod hAsked _ _)).1

theorem asked_counting (digits : Nat) : (counting digits).asked? = some ⟨none, none⟩ := rfl

/-- A long number in a body that the endpoint would not look at keeps the request from being answered. -/
theorem counting_not_transparent :
    ¬ Transparent (counting 4301) defaultServer ∧
      ((runBlindly (counting 4301)).run defaultServer).1.response.status = 200 ∧
      ((run (counting 4301)).run defaultServer).1.response.status = 500 := by
  have hPreview := preview_counting (show 4300 < 4301 by decide)
  refine ⟨not_transparent_of_not_shown hPreview defaultServer, ?_, ?_⟩
  · obtain ⟨listing, hListed⟩ : ∃ listing, (Endpoint.access ⟨none, none⟩ defaultServer).1 =
        .ok (.listed (Path.parse "/conf") listing, []) := by
      rw [Endpoint.access_of_isDated (by decide)]
      exact ⟨_, rfl⟩
    rw [runBlindly_of_asked rfl (by decide) (asked_counting 4301), hListed]
    rfl
  · rw [(run_of_not_shown hPreview defaultServer).1]
    rfl

end Exchange

end ConfigGate.Http
