import ConfigGate.Http.Urlencoded
import ConfigGate.Text.Case

namespace ConfigGate.Http

/-- Header fields in the order in which they were sent. -/
abbrev Headers := List (String × String)

/-- The first value of a header. The case of its name does not matter. -/
def Headers.get? (headers : Headers) (name : String) : Option String :=
  (headers.find? fun (sent, _) => Text.lower sent == Text.lower name).map (·.2)

/-- Bytes as a text in which each byte is the character of its number. -/
def byteText (bytes : Bytes) : List Char :=
  bytes.map fun b => Char.ofNat b.toNat

/-- A request as it arrives. -/
structure Request where
  method : String
  /-- The path with its percent escapes resolved. -/
  path : String
  /-- What follows the first question mark of the target, byte for byte. -/
  query : List Char
  headers : Headers
  body : Bytes

namespace Request

/-- The request for a target, which is a path that a query may follow. -/
def ofTarget (method target : String) (headers : Headers) (body : Bytes) : Request :=
  let (path, query) := target.toList.span (· != '?')
  { method, headers, body
    path := String.ofList (Urlencoded.unescape path)
    query := byteText (Text.Utf8.encode (String.ofList (query.drop 1))) }

/-- The fields of the query. -/
def queryFields (request : Request) : List (String × String) :=
  Urlencoded.fields request.query

def header? (request : Request) (name : String) : Option String :=
  request.headers.get? name

def contentType (request : Request) : String :=
  (request.header? "content-type").getD ""

/-- The characters of a path that are not escaped. -/
def isPathChar (c : Char) : Bool :=
  c.isAlphanum || "_.-~/:@!$&'()*+,;=".toList.contains c

/-- The path as it is logged: with its percent escapes again, and with a slash at its beginning. -/
def loggedPath (request : Request) : String :=
  let path := Urlencoded.escape isPathChar request.path.toList
  String.ofList (if path.head? = some '/' then path else '/' :: path)

end Request

end ConfigGate.Http
