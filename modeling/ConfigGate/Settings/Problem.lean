import ConfigGate.Json.Reader

namespace ConfigGate.Settings

/-- Where a value stands in a configuration or a request. -/
inductive Place where
  | name (n : String)
  | index (n : Nat)
deriving DecidableEq, Repr

/-- Why a value is refused. -/
inductive Cause where
  | notOneOf (allowed : List String)
  | notInteger
  | integerUnreadable
  | integerTooLong
  | integerHasFraction
  | notFinite
  | notText
  /-- A text has a lone half of a surrogate pair in it. -/
  | notUnicode
  | notList
  /-- A rule of this service refuses the value. -/
  | refused (reason : String)
deriving DecidableEq, Repr

/-- A value that is refused. -/
structure Problem where
  place : List Place
  cause : Cause
deriving DecidableEq, Repr

/-- Why there are no settings. -/
inductive Refusal where
  /-- Values are refused. -/
  | problems (found : List Problem)
  /-- A document cannot be read to its end. Nothing is said about the other values then. -/
  | unreadable (fault : Json.Fault)
deriving DecidableEq, Repr

/-- The alternatives in words: commas between them, and `or` before the last one. -/
def alternatives : List String → String
  | [] => ""
  | [a] => a
  | [a, b] => a ++ " or " ++ b
  | a :: rest => a ++ ", " ++ alternatives rest

/-- A short name of the cause for programs. -/
def Cause.code : Cause → String
  | .notOneOf _ => "literal_error"
  | .notInteger => "int_type"
  | .integerUnreadable => "int_parsing"
  | .integerTooLong => "int_parsing_size"
  | .integerHasFraction => "int_from_float"
  | .notFinite => "finite_number"
  | .notText => "string_type"
  | .notUnicode => "string_unicode"
  | .notList => "list_type"
  | .refused _ => "value_error"

/-- The cause in words. -/
def Cause.message : Cause → String
  | .notOneOf allowed => "Input should be " ++ alternatives (allowed.map fun a => "'" ++ a ++ "'")
  | .notInteger => "Input should be a valid integer"
  | .integerUnreadable =>
    "Input should be a valid integer, unable to parse string as an integer"
  | .integerTooLong => "Unable to parse input string as an integer, exceeded maximum size"
  | .integerHasFraction =>
    "Input should be a valid integer, got a number with a fractional part"
  | .notFinite => "Input should be a finite number"
  | .notText => "Input should be a valid string"
  | .notUnicode =>
    "Input should be a valid string, unable to parse raw data as a unicode string"
  | .notList => "Input should be a valid list"
  | .refused reason => "Value error, " ++ reason

end ConfigGate.Settings
