import ConfigGate.Access.Listing
import ConfigGate.Http.Request

namespace ConfigGate.Http

open Json (Value)

/-- The body of a response. -/
inductive Body where
  | document (document : Value)
  | bytes (bytes : Bytes)
  /-- A page about the service, which is made elsewhere. -/
  | page

structure Response where
  status : Nat
  headers : Headers
  body : Body

namespace Response

/-- Every read must reach the service, since files may change at any time. -/
def noCache : Headers := [
  ("cache-control", "no-cache, no-store, must-revalidate"),
  ("pragma", "no-cache"),
  ("expires", "0")]

def jsonType : String := "application/json"

def textType : String := "text/plain; charset=utf-8"

def bytesType : String := "application/octet-stream"

/-- A JSON document. -/
def json (status : Nat) (document : Value) : Response :=
  ⟨status, [("content-type", jsonType)], .document document⟩

/-- The envelope of documents about successes. -/
def success (data : Value) (requestId : String) : Value :=
  .object [("code", .int 0), ("message", .text "ok"), ("data", data),
    ("request_id", .text requestId)]

/-- The envelope of errors. -/
def error (status : Nat) (message requestId : String) : Response :=
  json status (.object [("code", .int status), ("message", .text message),
    ("request_id", .text requestId)])

/-- The response to a form with uploads where texts are asked for. -/
def unusable (names : List String) : Response :=
  json 422 (.object [("detail", .list (names.map fun (name : String) =>
    .object [("type", .text "string_type"), ("loc", .list [.text "body", .text name]),
      ("msg", .text "Input should be a valid string")]))])

def withHeaders (response : Response) (headers : Headers) : Response :=
  { response with headers := response.headers ++ headers }

/-- Set a header, in place of one of the same name if there is one. -/
def withHeader (response : Response) (name value : String) : Response :=
  { response with headers := Keyed.assign name value response.headers }

/-- Send the client to another place with the same method and body. -/
def redirect (location : String) : Response :=
  ⟨307, [("location", location)], .bytes []⟩

def mediaType? (response : Response) : Option String :=
  response.headers.get? "content-type"

end Response

end ConfigGate.Http
