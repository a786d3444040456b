import ConfigGate.Access.Handle
import ConfigGate.Http.Form.Multipart

/-! The two arguments of an access, the file and its new contents, as queries and forms give them. -/
namespace ConfigGate.Http

/-- The last value of a field. -/
def lastValue {α : Type} (fields : List (String × α)) (name : String) : Option α :=
  fields.reverse.lookup name

/-- The access that a query asks for. An empty value is a value. -/
def Request.queried (request : Request) : ConfigGate.Request :=
  ⟨lastValue request.queryFields "file", lastValue request.queryFields "contents"⟩

namespace Form

/-- The number of bytes that the name and the value of a url-encoded field have as they are sent. -/
def sentLength (field : List Char) : Nat :=
  field.length - if field.contains '=' then 1 else 0

/-- Read url-encoded fields, of which there may be `left` yet. -/
def readUrlencoded : (left : Nat) → List (List Char) → Except Fault Fields
  | _, [] => .ok []
  | 0, _ => .error .tooManyFields
  | left + 1, field :: rest =>
    if maxLength < sentLength field then .error .fieldTooLong
    else
      let (name, value) := Urlencoded.decodeField field
      (readUrlencoded left rest).map ((name, .text value) :: ·)

/-- The fields of a url-encoded form. -/
def urlencodedFields (body : Bytes) : Except Fault Fields :=
  readUrlencoded maxItems (Urlencoded.sentFields (byteText body))

/-- The fields of the body of a request. A body that is no form has none. -/
def fields (request : Request) : Except Fault Fields :=
  let type := MediaType.parse request.contentType
  if type.name = "multipart/form-data" then Multipart.read type request.body
  else if type.name = "application/x-www-form-urlencoded" then urlencodedFields request.body
  else .ok []

/-- A field as an argument. An empty value is no value, and an upload is none that can be used. -/
def argument (fields : Fields) (name : String) : Except Unit (Option String) :=
  match lastValue fields name with
  | none => .ok none
  | some (.text s) => .ok (if s = "" then none else some s)
  | some .unchosen => .ok none
  | some .upload => .error ()

/-- The access that a form asks for, or the names of the fields that are uploads. -/
def requested (fields : Fields) : Except (List String) ConfigGate.Request :=
  match argument fields "file", argument fields "contents" with
  | .ok file, .ok contents => .ok ⟨file, contents⟩
  | .error _, .ok _ => .error ["file"]
  | .ok _, .error _ => .error ["contents"]
  | .error _, .error _ => .error ["file", "contents"]

end Form

end ConfigGate.Http
