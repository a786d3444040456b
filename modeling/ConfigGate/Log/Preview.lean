import ConfigGate.Http.Urlencoded
import ConfigGate.Json.Writer
import ConfigGate.Log.Masking
import ConfigGate.Text.Blank

namespace ConfigGate.Log

open Json (Value)
open Text (Wide)

/-- The number of characters of a body that are logged. -/
def previewLength : Int := 2048

/-- How deeply a masked document may be nested. Masking goes twice as deep as reading does. -/
def maskedDepth : Nat := 490

/-- Why a body cannot be shown. -/
inductive PreviewFault where
  | unreadable (fault : Json.Fault)
  /-- The document is nested too deeply to be masked. -/
  | tooDeep
deriving DecidableEq, Repr

namespace PreviewFault

/-- The fault in words. -/
def message : PreviewFault → String
  | .unreadable fault => fault.message
  | .tooDeep => "maximum recursion depth exceeded"

/-- The family of errors that the fault belongs to, for the log. -/
def family : PreviewFault → String
  | .unreadable fault => fault.family
  | .tooDeep => "RecursionError"

/-- The last line of the record of a fault. -/
def record (fault : PreviewFault) : String :=
  fault.family ++ ": " ++ fault.message

end PreviewFault

/-- The beginning of a text up to `limit` characters, with a mark if anything was cut off. A
negative limit counts from the end of the text. -/
def shorten (limit : Int) (text : Wide) : Wide :=
  let length : Int := text.points.length
  if length ≤ limit then text
  else
    let kept := if limit < 0 then length + limit else limit
    ⟨text.points.take kept.toNat ++ Text.Point.ofChars "...[truncated]".toList⟩

/-- A list of fields as an object. The last field of a name counts. -/
def fieldsObject (fields : List (String × String)) : Value :=
  .object ((Keyed.lastWins fields).map fun (name, value) => (↑name, .text value))

/-- What the log shows of a request body: nothing of an empty one, the size of a multipart form, and
of other forms and of JSON documents the text with sensitive values masked. Any other text is shown
as it is. A document whose integers are too long, or that is nested too deeply, is a failure. -/
def bodyPreview (body : Bytes) (contentType : String) : Except PreviewFault (Option Wide) :=
  let chars := Text.trimWhile Text.isBlank (Text.Utf8.decodeLossy body).toList
  if chars.isEmpty then .ok none
  else if "application/x-www-form-urlencoded".isPrefixOf contentType then
    let form := fieldsObject (Http.Urlencoded.fields chars)
    .ok (some (shorten previewLength (mask form).render))
  else if "multipart/form-data".isPrefixOf contentType then
    .ok (some ("<multipart " ++ toString body.length ++ " bytes>"))
  else
    match Json.readChars Json.documentLimits chars with
    | .ok document =>
      let masked := mask document.distinct
      if maskedDepth < masked.depth then .error .tooDeep
      else .ok (some (shorten previewLength masked.render))
    | .error failure =>
      if failure.fault.isSyntactic then .ok (some (shorten previewLength (String.ofList chars)))
      else .error (.unreadable failure.fault)

end ConfigGate.Log
