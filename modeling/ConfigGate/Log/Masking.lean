import ConfigGate.Json.Value
import ConfigGate.Text.Case

namespace ConfigGate.Log

open Json (Value)
open Text (Wide)

/-- The names of fields whose values must not be logged. -/
def sensitiveKeys : List String :=
  ["contents", "password", "api_key", "apikey", "secret", "token", "authorization"]

/-- The name is that of a sensitive field, in whatever case. -/
def isSensitive (key : Wide) : Bool :=
  key.text?.any fun name => sensitiveKeys.contains (Text.lower name)

/-- What is logged instead of a sensitive value. -/
def maskText : String := "***"

mutual

/-- The document with the values of sensitive fields replaced, at every depth. -/
def mask : Value → Value
  | .list items => .list (maskItems items)
  | .object members => .object (maskMembers members)
  | other => other

def maskItems : List Value → List Value
  | [] => []
  | v :: rest => mask v :: maskItems rest

def maskMembers : List (Wide × Value) → List (Wide × Value)
  | [] => []
  | (key, v) :: rest =>
    (key, if isSensitive key then .text maskText else mask v) :: maskMembers rest

end

end ConfigGate.Log
