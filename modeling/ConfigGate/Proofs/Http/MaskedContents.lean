import ConfigGate.Proofs.Http.Serving
import ConfigGate.Proofs.Http.Urlencoded

/-! What the log tells of the contents that a request brings. It masks them in the query, and in a body
that it takes for a form. It takes a body for a form by the spelling of its type, in which the parser of
forms does not heed case and blanks. -/
namespace ConfigGate

/-- The log takes a body of this type for a url-encoded form. -/
def Log.TakesForForm (contentType : String) : Prop :=
  "application/x-www-form-urlencoded".isPrefixOf contentType

/-- The parser of forms takes a body of this type for a url-encoded form. -/
def Http.Form.IsUrlencoded (contentType : String) : Prop :=
  (MediaType.parse contentType).name = "application/x-www-form-urlencoded"

namespace Http

namespace MediaType

theorem pieces_eq_cons (quoted escaped : Bool) (piece text : List Char) :
    ∃ rest more, pieces quoted escaped piece text = (piece.reverse ++ rest) :: more := by
  induction text generalizing quoted escaped piece with
  | nil => exact ⟨[], [], by simp [pieces]⟩
  | cons c text ih =>
      rw [pieces]
      split
      · exact ⟨[], pieces false false [] text, by simp⟩
      · obtain ⟨rest, more, h⟩ := ih (quoted != (c = '"' && !escaped)) (c = '\\') (c :: piece)
        exact ⟨c :: rest, more, by rw [h]; simp⟩

/-- The name begins as the text does. -/
theorem head?_name {value : String} {c : Char} {rest : List Char} (hValue : value.toList = c :: rest)
    (hSeparator : c ≠ ';') (hBlank : c ≠ ' ' ∧ c ≠ '\t') :
    (parse value).name.toList.head? = some (Text.smallLetter c) := by
  obtain ⟨first, more, hPieces⟩ := pieces_eq_cons (c = '"') (c = '\\') [c] rest
  have hSplit : pieces false false [] value.toList = (c :: first) :: more := by
    rw [hValue, pieces, if_neg (by simpa using hSeparator)]
    simpa using hPieces
  have hTrim : trim (c :: first) = c :: (first.reverse.dropWhile fun d => d == ' ' || d == '\t').reverse := by
    rw [trim, Text.trimWhile, List.dropWhile_cons_of_neg (by simpa using hBlank), List.reverse_cons,
      Text.dropWhile_append_cons (by simpa using hBlank), List.reverse_append]
    rfl
  rw [parse, hSplit]
  dsimp only
  rw [hTrim, Text.lower]
  simp

end MediaType

/-- A type does not stand for both kinds of forms. -/
theorem Form.IsUrlencoded.not_multipart {contentType : String} (h : IsUrlencoded contentType) :
    "multipart/form-data".isPrefixOf contentType = false := by
  refine Bool.eq_false_iff.mpr fun hPrefix => ?_
  obtain ⟨rest, hRest⟩ := String.startsWith_string_iff.mp hPrefix
  have hHead := MediaType.head?_name (c := 'm') hRest.symm (by decide) (by decide)
  rw [show (MediaType.parse contentType).name = _ from h] at hHead
  revert hHead
  decide

open Log Urlencoded

/-- The requests differ in nothing but the values that they give for `contents`. -/
structure Request.SameButContents (request other : Request) : Prop where
  method : request.method = other.method
  path : request.path = other.path
  headers : request.headers = other.headers
  query : AlikeFields request.query other.query
  body : AlikeFields (byteText request.body) (byteText other.body)
  length : request.body.length = other.body.length

/-- The log shows the same of forms that differ in contents alone. -/
theorem bodyPreview_congr {body body' : Bytes} {contentType : String}
    (hForm : TakesForForm contentType) (h : AlikeFields (byteText body) (byteText body')) :
    bodyPreview body contentType = bodyPreview body' contentType := by
  have hTrimmed := h.decodeLossy.trim
  unfold bodyPreview
  dsimp only
  rw [hTrimmed.isEmpty_eq, mask_fieldsObject_congr hTrimmed.fields]
  simp only [show "application/x-www-form-urlencoded".isPrefixOf contentType = true from hForm, if_true]

namespace Exchange

variable {request other : Request}

theorem loggedQuery_congr (h : AlikeFields request.query other.query) :
    loggedQuery request = loggedQuery other := by
  have hFields : List.Forall₂ ShownAlike request.queryFields other.queryFields := h.fields
  have hSame := mask_fieldsObject_congr hFields
  unfold loggedQuery
  generalize request.queryFields = fields at hFields hSame ⊢
  generalize other.queryFields = others at hFields hSame ⊢
  cases hFields with
  | nil => rfl
  | cons _ _ => exact congrArg some hSame

/-- The log shows the same of bodies that it takes for forms. -/
theorem preview_congr (h : request.SameButContents other)
    (hForm : request.method ∈ methodsWithBody → TakesForForm request.contentType) :
    preview request = preview other := by
  have hType : request.contentType = other.contentType := by
    rw [Request.contentType, Request.contentType, Request.header?, Request.header?, h.headers]
  unfold preview
  rw [← h.method, ← hType]
  split
  · rename_i hMethod
    exact bodyPreview_congr (hForm (by simpa using hMethod)) h.body
  · rfl

theorem startEntries_congr (h : request.SameButContents other)
    (hForm : request.method ∈ methodsWithBody → TakesForForm request.contentType)
    (server : Server) : startEntries request server = startEntries other server := by
  have hEntry (context : Trace.Context) (shown : Option Text.Wide) :
      startEntry context request shown = startEntry context other shown := by
    rw [startEntry, startEntry, loggedQuery_congr h.query, h.method, Request.loggedPath,
      Request.loggedPath, h.path]
  have hOpening : openingContext request server.ids = openingContext other server.ids := by
    rw [openingContext, openingContext, Request.header?, Request.header?, h.headers]
  rw [startEntries_eq, startEntries_eq, preview_congr h hForm, hOpening]
  cases preview other with
  | ok shown => exact congrArg (fun entry => [entry]) (hEntry _ shown)
  | error fault => rfl

/-- A body that the log takes neither for a form nor for a document is shown as it is. -/
theorem bodyPreview_of_unreadable {body : Bytes} {contentType text : String} {failure : Json.Failure}
    (hForm : ¬ TakesForForm contentType)
    (hMultipart : "multipart/form-data".isPrefixOf contentType = false)
    (hText : Text.trimWhile Text.isBlank (Text.Utf8.decodeLossy body).toList = text.toList)
    (hSome : text.toList.isEmpty = false)
    (hRead : Json.readChars Json.documentLimits text.toList = .error failure)
    (hSyntactic : failure.fault.isSyntactic) :
    bodyPreview body contentType = .ok (some (shorten previewLength text)) := by
  have hOther : "application/x-www-form-urlencoded".isPrefixOf contentType = false :=
    Bool.eq_false_iff.mpr hForm
  unfold bodyPreview
  simp only [hText, hSome, hOther, hMultipart, hRead, hSyntactic, if_true, String.ofList_toList,
    Bool.false_eq_true, if_false]

/-- A form that gives a file and its contents. -/
def pushedBody (contents : String) : Bytes :=
  Text.Utf8.encode ("file=a.txt&contents=" ++ contents)

theorem alikeFields_pushedBody :
    AlikeFields (byteText (pushedBody "AAA")) (byteText (pushedBody "BBB")) := by
  have hPieces : (byteText (pushedBody "AAA")).splitOn '&' =
        ["file=a.txt".toList, "contents=AAA".toList] ∧
      (byteText (pushedBody "BBB")).splitOn '&' =
        ["file=a.txt".toList, "contents=BBB".toList] := by
    decide
  unfold AlikeFields
  rw [hPieces.1, hPieces.2]
  exact .cons (.inl rfl) (.cons (.inr (by decide)) .nil)

def pushing (method contentType contents : String) : Request where
  method := method
  path := Route.file.path
  query := []
  headers := [("content-type", contentType)]
  body := pushedBody contents

theorem contentType_pushing (method contentType contents : String) :
    (pushing method contentType contents).contentType = contentType := by
  simp [pushing, Request.contentType, Request.header?, Headers.get?]

theorem pushing_sameButContents (method contentType : String) :
    (pushing method contentType "AAA").SameButContents (pushing method contentType "BBB") where
  method := rfl
  path := rfl
  headers := rfl
  query := .cons (.inl rfl) .nil
  body := alikeFields_pushedBody
  length := by
    change (pushedBody "AAA").length = (pushedBody "BBB").length
    decide

/-- What the log does not take for a form it shows with the contents. -/
theorem startEntries_pushing_ne {method contentType : String} (hMethod : method ∈ methodsWithBody)
    (hForm : Form.IsUrlencoded contentType) (hTaken : ¬ TakesForForm contentType) (server : Server) :
    startEntries (pushing method contentType "AAA") server ≠
      startEntries (pushing method contentType "BBB") server := by
  have hPreview {contents text : String}
      (h : bodyPreview (pushedBody contents) contentType = .ok (some text)) :
      preview (pushing method contentType contents) = .ok (some text) := by
    rw [preview, contentType_pushing, if_pos (by simpa [pushing] using hMethod)]
    exact h
  have hShown : bodyPreview (pushedBody "AAA") contentType =
        .ok (some (shorten previewLength "file=a.txt&contents=AAA")) ∧
      bodyPreview (pushedBody "BBB") contentType =
        .ok (some (shorten previewLength "file=a.txt&contents=BBB")) :=
    ⟨bodyPreview_of_unreadable hTaken hForm.not_multipart (by decide) rfl rfl rfl,
      bodyPreview_of_unreadable hTaken hForm.not_multipart (by decide) rfl rfl rfl⟩
  rw [startEntries_eq, startEntries_eq, hPreview hShown.1, hPreview hShown.2]
  intro hSame
  have hFields := congrArg Log.Entry.fields (List.cons.inj hSame).1
  simp only [startEntry, Log.Entry.ofEvent, Event.fields, Event.optional, List.cons.injEq,
    Prod.mk.injEq, Json.Value.text.injEq] at hFields
  exact absurd hFields.2.2.2.1.2 (by decide)

/-- What is logged of the beginning of a request is the same for all contents exactly if the body, if
there may be one, is one that the log takes for a form. -/
theorem startEntries_congr_iff (server : Server) {method contentType : String}
    (hForm : method ∈ methodsWithBody → Form.IsUrlencoded contentType) :
    (∀ request other : Request, request.method = method → request.contentType = contentType →
        request.SameButContents other → startEntries request server = startEntries other server) ↔
      (method ∈ methodsWithBody → TakesForForm contentType) := by
  constructor
  · intro hSame hMethod
    refine Classical.byContradiction fun hTaken => ?_
    exact startEntries_pushing_ne hMethod (hForm hMethod) hTaken server
      (hSame _ _ rfl (contentType_pushing _ _ _) (pushing_sameButContents method contentType))
  · rintro hTaken request other rfl rfl h
    exact startEntries_congr h hTaken server

/-- A server with the settings that hold if nothing else is said. -/
def defaultServer : Server := .new .default (Access.plainSetting .atomic).site Access.linkedTree

/-- The access that a request with a url-encoded form asks for. -/
def asked (request : Request) : Option ConfigGate.Request :=
  (Form.fields request).toOption.bind fun fields => (Form.requested fields).toOption

theorem startEntries_congr_urlencoded :
    let request (contents : String) :=
      pushing "POST" "application/x-www-form-urlencoded; charset=utf-8" contents
    asked (request "AAA") = some ⟨"a.txt", "AAA"⟩ ∧ asked (request "BBB") = some ⟨"a.txt", "BBB"⟩ ∧
      startEntries (request "AAA") defaultServer = startEntries (request "BBB") defaultServer := by
  intro request
  have hForm : Form.IsUrlencoded "application/x-www-form-urlencoded; charset=utf-8" := by
    unfold Form.IsUrlencoded
    decide
  have hTaken : TakesForForm "application/x-www-form-urlencoded; charset=utf-8" :=
    String.startsWith_string_iff.mpr (by decide)
  refine ⟨by decide +kernel, by decide +kernel, ?_⟩
  exact (startEntries_congr_iff defaultServer fun _ => hForm).mpr (fun _ => hTaken) _ _ rfl
    (contentType_pushing _ _ _) (pushing_sameButContents _ _)

/-- Capitals in the type hide a form from the log, and its contents are logged. -/
theorem contents_logged_of_capitals :
    let request (contents : String) := pushing "POST" "Application/X-WWW-Form-Urlencoded" contents
    (request "AAA").SameButContents (request "BBB") ∧
      Destination.ofRequest .default (request "AAA") = .route .file ∧
      asked (request "AAA") = some ⟨"a.txt", "AAA"⟩ ∧ asked (request "BBB") = some ⟨"a.txt", "BBB"⟩ ∧
      startEntries (request "AAA") defaultServer ≠ startEntries (request "BBB") defaultServer := by
  intro request
  have hForm : Form.IsUrlencoded "Application/X-WWW-Form-Urlencoded" := by
    unfold Form.IsUrlencoded
    decide
  have hTaken : ¬ TakesForForm "Application/X-WWW-Form-Urlencoded" := by
    unfold TakesForForm String.isPrefixOf
    rw [String.startsWith_string_iff]
    decide
  exact ⟨pushing_sameButContents _ _, by decide, by decide +kernel, by decide +kernel,
    startEntries_pushing_ne (by decide) hForm hTaken defaultServer⟩

end Exchange

end Http

end ConfigGate
