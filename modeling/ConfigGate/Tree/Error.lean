import ConfigGate.Text.Quoted

namespace ConfigGate

/-- Why an operation on a file tree fails. -/
inductive Errno where
  | permission
  | noEntry
  | inputOutput
  | alreadyExists
  | notDirectory
  | isDirectory
  | nameTooLong
  | tooManyLinks
deriving DecidableEq, Repr

namespace Errno

/-- The number of the cause. -/
def number : Errno → Nat
  | .permission => 13
  | .noEntry => 2
  | .inputOutput => 5
  | .alreadyExists => 17
  | .notDirectory => 20
  | .isDirectory => 21
  | .nameTooLong => 36
  | .tooManyLinks => 40

/-- The cause in words. -/
def text : Errno → String
  | .permission => "Permission denied"
  | .noEntry => "No such file or directory"
  | .inputOutput => "Input/output error"
  | .alreadyExists => "File exists"
  | .notDirectory => "Not a directory"
  | .isDirectory => "Is a directory"
  | .nameTooLong => "File name too long"
  | .tooManyLinks => "Too many levels of symbolic links"

/-- The family of errors that the cause belongs to. -/
def family : Errno → String
  | .permission => "PermissionError"
  | .noEntry => "FileNotFoundError"
  | .alreadyExists => "FileExistsError"
  | .notDirectory => "NotADirectoryError"
  | .isDirectory => "IsADirectoryError"
  | _ => "OSError"

end Errno

/-- A failed operation: the cause, and the one or two paths that it was about. -/
structure SystemError where
  errno : Errno
  paths : List String
deriving DecidableEq, Repr

namespace SystemError

/-- The error in words. -/
def message (e : SystemError) : String :=
  let cause := "[Errno " ++ toString e.errno.number ++ "] " ++ e.errno.text
  match e.paths with
  | [] => cause
  | paths => cause ++ ": " ++ String.intercalate " -> " (paths.map Text.quoted)

/-- The last line of the record of an error. -/
def record (e : SystemError) : String :=
  e.errno.family ++ ": " ++ e.message

end SystemError

end ConfigGate
