import ConfigGate.Http.MediaType

namespace ConfigGate.Http.Form

/-- The value of a form field. What is in an uploaded file is of no interest. -/
inductive FieldValue where
  | text (s : String)
  | upload
  /-- A place for an upload that was left empty: it has neither a file name nor contents. -/
  | unchosen
deriving DecidableEq, Repr

/-- The fields of a form in their order. -/
abbrev Fields := List (String × FieldValue)

/-- Why a form cannot be read. -/
inductive Fault where
  | noBoundary
  | malformed
  | namelessPart
  | tooManyFields
  | tooManyUploads
  | partTooLong
  | fieldTooLong
  /-- The charset of the form gives up on a name or value. -/
  | unreadable
deriving DecidableEq, Repr

/-- The number of fields and the number of uploads that a form may have. -/
def maxItems : Nat := 1000

/-- The number of bytes that a field may have. -/
def maxLength : Nat := 1048576

namespace Fault

/-- The fault in words. -/
def message : Fault → String
  | .noBoundary => "Missing boundary in multipart."
  | .malformed => "Invalid multipart data."
  | .namelessPart => "The Content-Disposition header field \"name\" must be provided."
  | .tooManyFields => "Too many fields. Maximum number of fields is 1000."
  | .tooManyUploads => "Too many files. Maximum number of files is 1000."
  | .partTooLong => "Part exceeded maximum size of 1024KB."
  | .fieldTooLong => "Field exceeded maximum size of 1024KB."
  | .unreadable => "There was an error parsing the body"

end Fault

end ConfigGate.Http.Form
