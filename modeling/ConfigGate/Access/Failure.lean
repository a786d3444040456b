import ConfigGate.Text.Wide
import ConfigGate.Time
import ConfigGate.Tree.Error

namespace ConfigGate

/-- Why the guard rejects a request. -/
inductive Rejection where
  /-- The path spells a hidden name or leads to one. -/
  | hidden
  /-- Two dots in a row stand somewhere in the path. -/
  | traversal
  /-- A NUL stands in the path. -/
  | malformed
  /-- The path leads out of the root. -/
  | escape
deriving DecidableEq, Repr

namespace Rejection

/-- The reason as it is counted and logged. -/
def reason : Rejection → String
  | .hidden => "hidden"
  | .traversal => "traversal"
  | .malformed => "malformed"
  | .escape => "escape"

/-- What the caller is told. It says nothing but what the request itself says. -/
def message (r : Rejection) (file : String) : String :=
  match r with
  | .hidden => "Can not access: " ++ file
  | .malformed => "Invalid path: " ++ Text.quoted file
  | _ => "Invalid path: " ++ file

end Rejection

/-- Why an access fails. -/
inductive Failure where
  | rejected (reason : Rejection) (file : String)
  /-- There is no configuration directory. -/
  | noRoot
  | notFound (name path : String)
  | notShown (name path : String)
  | writesDirectory (name : String)
  /-- Reading or writing failed in a way that only the log tells. -/
  | internal
  /-- A path runs into a loop of links. -/
  | linkLoop (path : String)
  /-- More links are nested on a path than the stack has room for. -/
  | tooDeep
  /-- The system refuses to look at a path. -/
  | system (e : SystemError)
  /-- A path starts in the home directory of a user who has none. -/
  | unknownHome
  /-- A package is spread over paths of which one is no directory. -/
  | brokenPackage
  /-- A directory that is to be listed does not lie below the root as it is spelled. -/
  | notBelow (path base : String)
  /-- A path has a NUL in it. -/
  | embeddedNul
  /-- An entry of a listing has a time that is no date. -/
  | undated (fault : Time.Fault)
  /-- The contents have a lone half of a surrogate pair in them, so that no file can hold them. -/
  | unencodable (contents : Text.Wide)
deriving DecidableEq, Repr

namespace Failure

/-- Why a text with lone halves cannot be encoded, in words. -/
def encodingMessage (contents : Text.Wide) : String :=
  let place := match contents.firstHalves with
    | (start, [half]) =>
      "character '\\u" ++ String.ofList (Text.hexPadded 4 (0xD800 + half)) ++ "' in position " ++ toString start
    | (start, halves) =>
      "characters in position " ++ toString start ++ "-" ++ toString (start + halves.length - 1)
  "'utf-8' codec can't encode " ++ place ++ ": surrogates not allowed"

/-- The status that tells the kind of the failure to clients. Failures without one are not meant to
reach them. -/
def status? : Failure → Option Nat
  | .rejected _ _ => some 403
  | .noRoot => some 403
  | .notFound _ _ => some 400
  | .notShown _ _ => some 400
  | .writesDirectory _ => some 400
  | .internal => some 500
  | _ => none

/-- The failure in words. -/
def message : Failure → String
  | .rejected reason file => reason.message file
  | .noRoot => "Can not access configuration directory!"
  | .notFound name path => "Can not find: " ++ name ++ " [" ++ path ++ "]"
  | .notShown name path => "Can not show: " ++ name ++ " [" ++ path ++ "]"
  | .writesDirectory name => "Can not write to directory: " ++ name
  | .internal => "Internal server error"
  | .linkLoop path => "Symlink loop from " ++ Text.quoted path
  | .tooDeep => "maximum recursion depth exceeded"
  | .system e => e.message
  | .unknownHome => "Could not determine home directory."
  | .brokenPackage => "MultiplexedPath only supports directories"
  | .notBelow path base =>
    Text.quoted path ++ " is not in the subpath of " ++ Text.quoted base ++
      " OR one path is relative and the other is absolute."
  | .embeddedNul => "embedded null byte"
  | .undated fault => fault.message
  | .unencodable contents => encodingMessage contents

/-- The family of errors that the failure belongs to, for the log. -/
def family : Failure → String
  | .rejected _ _ => "ForbiddenError"
  | .noRoot => "ForbiddenError"
  | .notFound _ _ => "BadRequestError"
  | .notShown _ _ => "BadRequestError"
  | .writesDirectory _ => "BadRequestError"
  | .internal => "InternalFileError"
  | .linkLoop _ => "RuntimeError"
  | .tooDeep => "RecursionError"
  | .system e => e.errno.family
  | .unknownHome => "RuntimeError"
  | .brokenPackage => "NotADirectoryError"
  | .notBelow _ _ => "ValueError"
  | .embeddedNul => "ValueError"
  | .undated fault => fault.family
  | .unencodable _ => "UnicodeEncodeError"

/-- The last line of the record of a failure. -/
def record (failure : Failure) : String :=
  failure.family ++ ": " ++ failure.message

end Failure

end ConfigGate
