import ConfigGate.Access.Guard
import ConfigGate.Time

namespace ConfigGate

/-- What a listing tells about an entry. Directories have no size. -/
structure ListedEntry where
  name : String
  isDirectory : Bool
  size : Option Nat
  modified : Stamp
deriving DecidableEq, Repr

/-- The contents of a directory: its path seen from the root, which is empty for the root itself, and
the entries that are not hidden, in ascending order of their names. -/
structure Listing where
  path : String
  entries : List ListedEntry
deriving DecidableEq, Repr

/-- The time as text. Times since the service has been running are not told apart. -/
def Stamp.text : Stamp → String
  | .at nanoseconds => Time.text (Time.microseconds nanoseconds)
  | .recent => "NOW"

/-- What keeps the time from being a date. -/
def Stamp.fault? : Stamp → Option Time.Fault
  | .at nanoseconds => Time.fault? (Time.microseconds nanoseconds)
  | .recent => none

namespace ListedEntry

def toJson (entry : ListedEntry) : Json.Value :=
  .object [
    ("name", .text entry.name),
    ("directory", .bool entry.isDirectory),
    ("size", match entry.size with
      | some n => .int n
      | none => .null),
    ("modified", .text entry.modified.text)]

end ListedEntry

namespace Listing

def toJson (listing : Listing) : Json.Value :=
  .object [("path", .text listing.path), ("entries", .list (listing.entries.map (·.toJson)))]

/-- The fault of the first entry whose time is no date. No reply can be made of such a listing. -/
def undated? (listing : Listing) : Option Time.Fault :=
  listing.entries.findSome? (·.modified.fault?)

/-- What is told about the child of a directory. Nothing is told of a child that is hidden or that
leads nowhere. -/
def entryOf (s : Setting) (directory : Path) (relative name : String) (tree : Tree) :
    Option ListedEntry :=
  let shown := if relative = "" then name else relative ++ "/" ++ name
  let child := directory.child name
  if s.service.hidden.hides shown then none
  else
    match Guard.isSystemHidden s child tree with
    | .error _ => none
    | .ok true => none
    | .ok false =>
      match tree.status s.site.working child with
      | .error _ => none
      | .ok status =>
        some ⟨name, status.isDirectory, if status.isDirectory then none else some status.size,
          status.modified⟩

/-- The names in a directory in ascending order. -/
def scan (s : Setting) (directory : Path) (tree : Tree) : Except SystemError (List String) :=
  match s.faultAt? .scan with
  | some e => .error e
  | none =>
    match tree.namesIn s.site.working directory with
    | .error errno => .error (Setting.refusal directory errno)
    | .ok names => .ok (names.mergeSort (· ≤ ·))

/-- List a directory. It must lie below the root as both are spelled. A time that is no date is in the listing
as it is, and makes the access fail that asks for it (`Access.dated`). -/
def list (s : Setting) (directory root : Path) : Act Listing := do
  let relative ← if directory = root then pure "" else
    match directory.relativeTo? root with
    | some parts => pure (Path.relativeText parts)
    | none => throw (.notBelow directory.text root.text)
  if directory.hasNul then throw .embeddedNul
  let tree := (← get).tree
  match scan s directory tree with
  | .error e =>
    Act.log (.listFailed directory.text e.message e.record)
    throw .internal
  | .ok names => return ⟨relative, names.filterMap fun name => entryOf s directory relative name tree⟩

end Listing

end ConfigGate
