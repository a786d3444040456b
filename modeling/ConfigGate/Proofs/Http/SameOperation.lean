import ConfigGate.Proofs.Access.Plan
import ConfigGate.Proofs.Access.Spelling
import ConfigGate.Proofs.Http.Answer
import ConfigGate.Proofs.Http.RoundTrip
import ConfigGate.Proofs.Log.Preview

/-! The two ways to ask for an access: the query of a GET, and the url-encoded form of a POST. A form
drops empty values and has a limit, and a query does neither. Without contents a file is read and with
empty ones it is emptied, so that the two ways part there. An empty path and none differ for the guard
alone. -/
namespace ConfigGate.Http

/-- A request that asks by its query. -/
def Request.getting (headers : Headers) (query : List Char) : Request where
  method := "GET"
  path := Route.file.path
  query := query
  headers := headers
  body := []

/-- A request that asks by a url-encoded form. -/
def Request.posting (headers : Headers) (body : Bytes) : Request where
  method := "POST"
  path := Route.file.path
  query := []
  headers := ("content-type", "application/x-www-form-urlencoded") :: headers
  body := body

namespace Form

/-- The fields of the text are not too many and not too long for a form. -/
def Fits (text : List Char) : Prop :=
  (Urlencoded.sentFields text).length ≤ maxItems ∧
    ∀ field ∈ Urlencoded.sentFields text, sentLength field ≤ maxLength

instance (text : List Char) : Decidable (Fits text) := inferInstanceAs (Decidable (_ ∧ _))

/-- An empty value is dropped. -/
def kept (value : Option String) : Option String :=
  value.bind fun s => if s = "" then none else some s

@[simp] theorem kept_empty : kept (some "") = none := rfl

theorem kept_of_ne {value : Option String} (h : value ≠ some "") : kept value = value := by
  cases value with
  | none => rfl
  | some s => simp [kept, show s ≠ "" by simpa using h]

/-- A field as a form has it. -/
def textField (field : String × String) : String × FieldValue := (field.1, .text field.2)

theorem readUrlencoded_of_fits {left : Nat} {sent : List (List Char)} (hCount : sent.length ≤ left)
    (hLength : ∀ field ∈ sent, sentLength field ≤ maxLength) :
    readUrlencoded left sent = .ok (sent.map (textField ∘ Urlencoded.decodeField)) := by
  induction sent generalizing left with
  | nil => cases left <;> rfl
  | cons field rest ih =>
      cases left with
      | zero => simp at hCount
      | succ left =>
          have hRest := @ih left (by simpa using hCount) fun other hMem => hLength other (.tail _ hMem)
          rw [readUrlencoded, if_neg (Nat.not_lt.mpr (hLength field (.head _))), hRest]
          rfl

theorem fits_of_readUrlencoded {left : Nat} {sent : List (List Char)} {fields : Fields}
    (h : readUrlencoded left sent = .ok fields) :
    sent.length ≤ left ∧ ∀ field ∈ sent, sentLength field ≤ maxLength := by
  induction sent generalizing left fields with
  | nil => simp
  | cons field rest ih =>
      cases left with
      | zero => simp [readUrlencoded] at h
      | succ left =>
          rw [readUrlencoded] at h
          split at h
          · cases h
          · rename_i hField
            cases hRest : readUrlencoded left rest with
            | error fault =>
                rw [hRest] at h
                cases h
            | ok others =>
                obtain ⟨hCount, hLength⟩ := ih hRest
                exact ⟨by simpa using hCount, List.forall_mem_cons.mpr ⟨Nat.not_lt.mp hField, hLength⟩⟩

theorem lastValue_textField (fields : List (String × String)) (name : String) :
    lastValue (fields.map textField) name = (lastValue fields name).map .text := by
  unfold lastValue
  rw [← List.map_reverse]
  induction fields.reverse with
  | nil => rfl
  | cons field rest ih =>
      rw [List.map_cons, textField, List.lookup_cons, List.lookup_cons, ih]
      split <;> rfl

theorem argument_textField (fields : List (String × String)) (name : String) :
    argument (fields.map textField) name = .ok (kept (lastValue fields name)) := by
  unfold argument kept
  rw [lastValue_textField]
  cases lastValue fields name <;> rfl

/-- A form asks for what its text asks for, without empty values, and for nothing if it does not fit. -/
theorem asked_urlencoded {request : Request} (h : IsUrlencoded request.contentType) :
    Exchange.asked request =
      if Fits (byteText request.body) then
        some ⟨kept (Urlencoded.asked (byteText request.body)).file,
          kept (Urlencoded.asked (byteText request.body)).contents⟩
      else none := by
  have hFields : fields request = urlencodedFields request.body := by
    have hOther : (MediaType.parse request.contentType).name ≠ "multipart/form-data" := by
      rw [show (MediaType.parse request.contentType).name = _ from h]
      decide
    unfold fields
    exact (if_neg hOther).trans (if_pos h)
  split
  · rename_i hFits
    rw [Exchange.asked_eq_some]
    refine ⟨(Urlencoded.fields (byteText request.body)).map textField, ?_, ?_⟩
    · rw [hFields, urlencodedFields, readUrlencoded_of_fits hFits.1 hFits.2, Urlencoded.fields,
        List.map_map]
    · unfold requested
      rw [argument_textField, argument_textField]
      rfl
  · rename_i hFits
    refine Option.eq_none_iff_forall_ne_some.mpr fun access hSome => hFits ?_
    obtain ⟨sent, hSent, _⟩ := Exchange.asked_eq_some.mp hSome
    rw [hFields, urlencodedFields] at hSent
    exact fits_of_readUrlencoded hSent

end Form

namespace Request

variable {headers : Headers} {query : List Char} {body : Bytes} {asked : ConfigGate.Request}

theorem asks_getting (hAsked : (getting headers query).asked? = some asked) :
    (getting headers query).Asks asked where
  path := rfl
  method := by simp [getting, Route.methods]
  preview := ⟨none, rfl⟩
  asked := hAsked

theorem contentType_posting (headers : Headers) (body : Bytes) :
    (posting headers body).contentType = "application/x-www-form-urlencoded" := by
  simp [posting, contentType, header?, Headers.get?]

theorem isUrlencoded_posting (headers : Headers) (body : Bytes) :
    Form.IsUrlencoded (posting headers body).contentType := by
  rw [contentType_posting]
  unfold Form.IsUrlencoded
  decide

theorem asks_posting (hAsked : (posting headers body).asked? = some asked) :
    (posting headers body).Asks asked where
  path := rfl
  method := by simp [posting, Route.methods]
  preview := by
    have hTaken : Log.TakesForForm (posting headers body).contentType := by
      rw [contentType_posting]
      exact String.startsWith_string_iff.mpr (List.prefix_refl _)
    exact Exchange.exists_preview (Log.bodyPreview_of_form (.inl hTaken) _)
  asked := hAsked

end Request

/-- The requests are one operation on the server: they invoke accesses of one mode, or none, the answers
are alike, and so are the files. -/
structure SameOperation (request other : Request) (server : Server) : Prop where
  mode : request.asked?.map (·.mode) = other.asked?.map (·.mode)
  status : ((Exchange.run request).run server).1.response.status =
    ((Exchange.run other).run server).1.response.status
  mediaType : ((Exchange.run request).run server).1.response.mediaType? =
    ((Exchange.run other).run server).1.response.mediaType?
  body : ((Exchange.run request).run server).1.response.body =
    ((Exchange.run other).run server).1.response.body
  tree : ((Exchange.run request).run server).2.world.tree = ((Exchange.run other).run server).2.world.tree

open Exchange
open ConfigGate.Http.Request

variable {headers : Headers} {query : List Char} {body : Bytes} {asked : ConfigGate.Request} {server : Server}

/-- The content type is not among the headers that identifiers are taken from. -/
theorem identifiers_posting (headers : Headers) (query : List Char) (body : Bytes)
    (ids : Trace.IdSource) :
    identifiers (openingContext (posting headers body) ids) (posting headers body) =
      identifiers (openingContext (getting headers query) ids) (getting headers query) := by
  have hHeader {name : String} (h : Text.lower "content-type" ≠ Text.lower name) :
      (posting headers body).header? name = (getting headers query).header? name := by
    simp [posting, getting, header?, Headers.get?, h]
  have hTrace := @hHeader "traceparent" (by decide)
  have hId := @hHeader "x-request-id" (by decide)
  simp only [identifiers, openingContext, requestId?, Endpoint.innerContext, hTrace, hId]

theorem asked_getting (headers : Headers) (hQuery : Urlencoded.asked query = asked) :
    (getting headers query).asked? = some asked := congrArg some hQuery

theorem asked_posting (headers : Headers) (hBody : Urlencoded.asked (byteText body) = asked) :
    (posting headers body).asked? =
      if Form.Fits (byteText body) then some ⟨Form.kept asked.file, Form.kept asked.contents⟩ else none := by
  have hAsked := Form.asked_urlencoded (isUrlencoded_posting headers body)
  rwa [show (posting headers body).body = body from rfl, hBody] at hAsked

/-- Empty contents, and a form without room, change the mode. -/
theorem mode_iff (headers : Headers) (hQuery : Urlencoded.asked query = asked)
    (hBody : Urlencoded.asked (byteText body) = asked) :
    (getting headers query).asked?.map (·.mode) = (posting headers body).asked?.map (·.mode) ↔
      asked.contents ≠ some "" ∧ Form.Fits (byteText body) := by
  rw [asked_getting headers hQuery, asked_posting headers hBody]
  by_cases hFits : Form.Fits (byteText body)
  · by_cases hContents : asked.contents = some ""
    · simp [hFits, hContents, ConfigGate.Request.mode]
    · simp [hFits, hContents, Form.kept_of_ne hContents, ConfigGate.Request.mode]
  · simp [hFits]

/-- Requests whose accesses come to the same are answered in the same way. -/
theorem run_posting_eq {access : ConfigGate.Request} (hGet : (getting headers query).asked? = some asked)
    (hPost : (posting headers body).asked? = some access)
    (hAccess : Endpoint.access access server = Endpoint.access asked server) :
    ((run (posting headers body)).run server).1 = ((run (getting headers query)).run server).1 ∧
      ((run (posting headers body)).run server).2.world =
        ((run (getting headers query)).run server).2.world := by
  have hQuery := run_of_asks (asks_getting hGet) server
  have hForm := run_of_asks (asks_posting hPost) server
  rw [hQuery.1, hQuery.2, hForm.1, hForm.2, identifiers_posting headers query, hAccess]
  exact ⟨rfl, rfl⟩

/-- The guard takes the empty path for the root, if there is one: the root is not hidden, and its place
is found. -/
def Server.AdmitsEmptyPath (server : Server) : Prop :=
  ∀ root, ConfigRoot.current server.setting server.world = .ok root →
    server.settings.hiddenNames.hides "." = false ∧
      ∃ base, server.setting.canonical root server.world.tree = .ok base

/-- An empty path and none come to the same there. -/
theorem Endpoint.access_empty (h : server.AdmitsEmptyPath) (contents : Option String) :
    Endpoint.access ⟨some "", contents⟩ server = Endpoint.access ⟨none, contents⟩ server := by
  have hPerform : Act.attempt (Access.perform server.setting ⟨some "", contents⟩)
        { server.world with events := [] } =
      Act.attempt (Access.perform server.setting ⟨none, contents⟩) { server.world with events := [] } := by
    refine Access.attempt_perform_empty (HiddenNames.hides_empty _) (fun root hRoot => h root ?_) contents
    rw [← hRoot, ConfigRoot.attempt_resolve_eq_current]
    rfl
  have hCall : Act.attempt (Access.call server.setting (ConfigGate.Request.demand ⟨some "", contents⟩))
        { server.world with events := [] } =
      Act.attempt (Access.call server.setting (ConfigGate.Request.demand ⟨none, contents⟩))
        { server.world with events := [] } := by
    rw [Access.attempt_call_demand, Access.attempt_call_demand, hPerform]
    rfl
  unfold Endpoint.access perform
  rw [Act.attempt_bind, Act.attempt_bind, hCall]

/-- A query and a form that ask for the same are one operation exactly if the form can say it: the
contents are not empty, and the form has room for them. -/
theorem sameOperation_iff (headers : Headers) (hQuery : Urlencoded.asked query = asked)
    (hBody : Urlencoded.asked (byteText body) = asked)
    (hFile : asked.file = some "" → server.AdmitsEmptyPath) :
    SameOperation (getting headers query) (posting headers body) server ↔
      asked.contents ≠ some "" ∧ Form.Fits (byteText body) := by
  refine ⟨fun hSame => (mode_iff headers hQuery hBody).mp hSame.mode, fun h => ?_⟩
  have hPost := asked_posting headers hBody
  rw [if_pos h.2, Form.kept_of_ne h.1] at hPost
  have hAccess : Endpoint.access ⟨Form.kept asked.file, asked.contents⟩ server =
      Endpoint.access asked server := by
    obtain ⟨file, contents⟩ := asked
    by_cases hEmpty : file = some ""
    · subst hEmpty
      exact (Endpoint.access_empty (hFile rfl) contents).symm
    · rw [Form.kept_of_ne hEmpty]
  obtain ⟨hAnswer, hWorld⟩ := run_posting_eq (asked_getting headers hQuery) hPost hAccess
  exact {
    mode := (mode_iff headers hQuery hBody).mpr h
    status := congrArg (·.response.status) hAnswer.symm
    mediaType := congrArg (·.response.mediaType?) hAnswer.symm
    body := congrArg (·.response.body) hAnswer.symm
    tree := congrArg World.tree hWorld.symm }

/-- Characters with a meaning of their own and characters beyond ASCII are no exception, and neither is the
empty path. -/
theorem sameOperation_special :
    let access := ConfigGate.Request.mk (some "") (some "a&b = 100% + ä")
    let text := Urlencoded.written Char.isAlphanum access
    let body := Text.Utf8.encode (String.ofList text)
    Urlencoded.asked text = access ∧ Urlencoded.asked (byteText body) = access ∧
      (access.file = some "" → defaultServer.AdmitsEmptyPath) ∧
      (access.contents ≠ some "" ∧ Form.Fits (byteText body)) ∧
      SameOperation (getting [] text) (posting [] body) defaultServer := by
  intro access text body
  have hKeeps (c : Char) : c.isAlphanum → Urlencoded.IsOrdinary c := Urlencoded.isOrdinary_of_isAlphanum
  have hQuery : Urlencoded.asked text = access := Urlencoded.asked_written hKeeps access
  have hText : byteText body = text :=
    Urlencoded.byteText_encode (Urlencoded.isAscii_written hKeeps access)
  have hBody : Urlencoded.asked (byteText body) = access := by rw [hText, hQuery]
  have hFile : access.file = some "" → defaultServer.AdmitsEmptyPath := by
    rintro - root hRoot
    obtain rfl : Path.parse "/conf" = root := Except.ok.inj hRoot
    exact ⟨rfl, ["conf"], rfl⟩
  have hFits : access.contents ≠ some "" ∧ Form.Fits (byteText body) := by
    rw [hText]
    decide
  exact ⟨hQuery, hBody, hFile, hFits, (sameOperation_iff [] hQuery hBody hFile).mpr hFits⟩

/-- Empty contents empty the file if a query gives them, and leave it alone if a form does. -/
theorem differ_of_empty_contents :
    let text := "file=real.txt&contents="
    let query := getting [] text.toList
    let form := posting [] (Text.Utf8.encode text)
    let left (request : Request) :=
      let tree := ((run request).run defaultServer).2.world.tree
      ((tree.fileAt? ["conf", "real.txt"]).bind tree.data?).map (·.bytes)
    Urlencoded.asked query.query = ⟨"real.txt", ""⟩ ∧
      Urlencoded.asked (byteText form.body) = ⟨"real.txt", ""⟩ ∧
      left query = some [] ∧ left form = some (Text.Utf8.encode "old") ∧
      ¬ SameOperation query form defaultServer := by
  intro text query form left
  have hQuery : Urlencoded.asked query.query = ⟨"real.txt", ""⟩ := by decide
  have hBody : Urlencoded.asked (byteText form.body) = ⟨"real.txt", ""⟩ := by decide
  have hForm : form.asked? = some ⟨"real.txt", none⟩ := by
    refine (Form.asked_urlencoded (isUrlencoded_posting [] _)).trans ?_
    rw [hBody]
    decide
  have hLeft : left query = some [] ∧ left form = some (Text.Utf8.encode "old") := by
    unfold left
    rw [(run_of_asks (asks_getting (congrArg some hQuery)) defaultServer).2,
      (run_of_asks (asks_posting hForm) defaultServer).2]
    exact ⟨rfl, rfl⟩
  refine ⟨hQuery, hBody, hLeft.1, hLeft.2, fun hSame => ?_⟩
  have hAlike : left query = left form := by
    unfold left
    rw [hSame.tree]
  rw [hLeft.1, hLeft.2] at hAlike
  exact absurd hAlike (by decide)

/-! A hidden root -/

/-- A server that hides its root. -/
def rootHidingServer : Server :=
  .new { Settings.default with hiddenFiles := ["."] } (Access.plainSetting .atomic).site ConfigGate.Access.linkedTree

/-- The root is hidden from requests that spell it, and not from those that give no file. -/
theorem status_rootHidingServer (ids : Identifiers) (contents : Option String) :
    (conclude ids (Endpoint.access ⟨some "", contents⟩ rootHidingServer).1).response.status = 403 ∧
      (conclude ids (Endpoint.access ⟨none, contents⟩ rootHidingServer).1).response.status ≠ 403 := by
  have hDated : rootHidingServer.world.tree.IsDated := by decide
  have hHidden : (Endpoint.access ⟨some "", contents⟩ rootHidingServer).1 =
      .error (.rejected .hidden "") := by
    rw [Endpoint.access_of_isDated hDated]
    rfl
  refine ⟨by rw [hHidden]; rfl, ?_⟩
  cases contents with
  | none =>
      obtain ⟨listing, hListed⟩ : ∃ listing, (Endpoint.access ⟨none, none⟩ rootHidingServer).1 =
          .ok (.listed (Path.parse "/conf") listing, []) := by
        rw [Endpoint.access_of_isDated hDated]
        exact ⟨_, rfl⟩
      rw [hListed]
      exact (by decide : (200 : Nat) ≠ 403)
  | some text =>
      have hWritten : (Endpoint.access ⟨none, some text⟩ rootHidingServer).1 =
          .error (.writesDirectory "conf") := by
        rw [Endpoint.access_of_isDated hDated]
        rfl
      rw [hWritten]
      exact (by decide : (400 : Nat) ≠ 403)

/-- No query with an empty path and a form that asks for the same are one operation there. -/
theorem differ_of_hidden_root (headers : Headers) (hQuery : Urlencoded.asked query = asked)
    (hBody : Urlencoded.asked (byteText body) = asked) (hFile : asked.file = some "") :
    ¬ SameOperation (getting headers query) (posting headers body) rootHidingServer := by
  intro hSame
  obtain ⟨hContents, hFits⟩ := (mode_iff headers hQuery hBody).mp hSame.mode
  have hGet := asked_getting headers hQuery
  have hPost := asked_posting headers hBody
  rw [if_pos hFits, Form.kept_of_ne hContents, hFile, Form.kept_empty] at hPost
  rw [show asked = ⟨some "", asked.contents⟩ by rw [← hFile]] at hGet
  have hStatus := hSame.status
  rw [(run_of_asks (asks_getting hGet) rootHidingServer).1,
    (run_of_asks (asks_posting hPost) rootHidingServer).1,
    (status_rootHidingServer _ _).1] at hStatus
  exact (status_rootHidingServer _ _).2 hStatus.symm

end ConfigGate.Http
