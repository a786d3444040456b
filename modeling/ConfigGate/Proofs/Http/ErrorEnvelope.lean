import ConfigGate.Proofs.Http.Dispatch
import ConfigGate.Proofs.Log.Preview

/-! The envelope of errors. Whatever goes wrong is told in one form, whether the guard, the service, the
router or the reader of forms says so, or a crash comes through all layers. Only a form with an upload where
a text is asked for is answered otherwise. -/
namespace ConfigGate.Http

/-- The body of the response is the envelope of errors: an object with the status as its code, a message
and an identifier, and nothing else. An internal error has a message that tells nothing. -/
def Response.IsEnvelope (response : Response) : Prop :=
  ∃ message requestId : String,
    response.body = .document (.object
      [("code", .int response.status), ("message", .text message), ("request_id", .text requestId)]) ∧
    (response.status = 500 → message = "Internal server error")

/-- The response is no error, or has the envelope of errors. -/
def Response.IsEnveloped (response : Response) : Prop :=
  400 ≤ response.status → response.IsEnvelope

namespace Response

theorem isEnvelope_error {status : Nat} {message requestId : String}
    (h : status = 500 → message = "Internal server error") : (error status message requestId).IsEnvelope :=
  ⟨message, requestId, rfl, h⟩

theorem not_isEnvelope_unusable (names : List String) : ¬ (unusable names).IsEnvelope := by
  rintro ⟨message, requestId, hBody, -⟩
  simp [unusable, json] at hBody

end Response

namespace Exchange

open Serving Endpoint

variable {request : Request}

/-- The known answers are enveloped but for the one to a form with an upload. The identifiers in the
headers make no difference. -/
theorem isEnveloped_of_gives {ids : Identifiers} {result : Except Crash Response}
    (h : Gives ids.outer ids.inner request result) {shown : Option Text.Wide} (hShown : preview request = .ok shown)
    (hUpload : ¬ request.BringsUpload) : (ofResult (result.map (identify ids))).response.IsEnveloped := by
  cases h with
  | plain status body => exact fun hStatus => absurd hStatus (Nat.not_le.mpr status)
  | success data headers h => exact fun hStatus => absurd (show 400 ≤ 200 from hStatus) (by decide)
  | error h generic => exact fun _ => Response.isEnvelope_error generic
  | unusable names path method form => exact absurd ⟨path, method, ⟨shown, hShown⟩, form⟩ hUpload
  | crash failure => exact fun _ => Response.isEnvelope_error fun _ => rfl

/-- A form with an upload is answered with an error of another form. -/
theorem not_isEnveloped_of_upload (h : request.BringsUpload) (server : Server) :
    ¬ ((run request).run server).1.response.IsEnveloped := by
  obtain ⟨names, hNames⟩ := run_of_upload h server
  rw [hNames]
  intro hEnveloped
  exact Response.not_isEnvelope_unusable names (hEnveloped (show 400 ≤ 422 by decide))

/-- Every error is told in the envelope, unless it is that of a form with an upload. -/
theorem isEnveloped_iff (request : Request) (server : Server) :
    ((run request).run server).1.response.IsEnveloped ↔ ¬ request.BringsUpload := by
  refine ⟨fun h hUpload => not_isEnveloped_of_upload hUpload server h, fun hUpload => ?_⟩
  cases hPreview : preview request with
  | error fault =>
      rw [(run_of_not_shown hPreview server).1]
      exact fun _ => Response.isEnvelope_error fun _ => rfl
  | ok shown =>
      obtain ⟨result, hGives, hRun⟩ := run_gives hPreview server
      rw [hRun]
      exact isEnveloped_of_gives hGives hPreview hUpload

/-- A form with an upload in the place of the file. -/
def uploading : Request where
  method := "POST"
  path := Route.file.path
  query := []
  headers := [("content-type", "multipart/form-data; boundary=b")]
  body := Text.Utf8.encode
    "--b\r\nContent-Disposition: form-data; name=\"file\"; filename=\"x\"\r\n\r\nhi\r\n--b--\r\n"

theorem uploading_bringsUpload : uploading.BringsUpload where
  path := by decide
  method := rfl
  preview := by
    have hType : uploading.contentType = "multipart/form-data; boundary=b" := by
      simp [uploading, Request.contentType, Request.header?, Headers.get?]
    refine exists_preview (Log.bodyPreview_of_form (.inr ?_) _)
    rw [hType]
    exact String.startsWith_string_iff.mpr (by decide)
  form := by
    have hFields : Form.fields uploading = .ok [("file", .upload)] := by decide +kernel
    exact ⟨_, hFields, "file", by decide, rfl⟩

/-- An upload is refused with a status that means an error, and without the envelope. -/
theorem upload_not_enveloped : ¬ ((run uploading).run defaultServer).1.response.IsEnveloped :=
  not_isEnveloped_of_upload uploading_bringsUpload defaultServer

end Exchange

end ConfigGate.Http
