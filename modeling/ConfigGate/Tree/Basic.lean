import ConfigGate.Keyed
import ConfigGate.Path

/-! File trees: directories, links, and files that may have several names. An entry stands at its
location, and the contents of a file are found under its number, so that all names of a file and all
open handles see the same bytes. -/
namespace ConfigGate

/-- When an entry was changed last: at a known time, or since the service has been running. -/
inductive Stamp where
  | at (nanoseconds : Int)
  | recent
deriving DecidableEq, Repr

/-- What stands at a location. Directories have permission bits, as the contents of files do. -/
inductive Entry where
  | directory (mode : Nat) (modified : Stamp)
  | file (number : Nat)
  | link (target : String)
deriving DecidableEq, Repr

/-- The contents of a file, with its permission bits. -/
structure FileData where
  mode : Nat
  bytes : Bytes
  modified : Stamp
deriving DecidableEq, Repr

/-- A file tree. The root directory is always there and is not listed among the entries. A file that
has lost its last name keeps its contents for those who have it open. -/
structure Tree where
  entries : List (Location × Entry)
  files : List (Nat × FileData)
  nextFile : Nat
deriving DecidableEq, Repr

/-- The permission bits that are left when the owner of a file writes to it. The system takes away the right
to act as the owner, and the right to act as the group if the group may execute the file. -/
def Tree.withoutPrivileges (mode : Nat) : Nat :=
  mode - (if mode / 0o4000 % 2 = 1 then 0o4000 else 0) -
    (if mode / 0o2000 % 2 = 1 ∧ mode / 0o10 % 2 = 1 then 0o2000 else 0)

/-- The file after its owner has written to it. -/
def FileData.rewritten (data : FileData) (bytes : Bytes) : FileData :=
  ⟨Tree.withoutPrivileges data.mode, bytes, .recent⟩

namespace Tree

/-- The tree of the root directory alone. -/
def empty : Tree := ⟨[], [], 0⟩

/-- The permission bits of a new directory. -/
def newDirectoryMode : Nat := 0o755

/-- The owner may read the file, or see the names in the directory. -/
def mayRead (mode : Nat) : Bool := mode / 0o400 % 2 == 1

/-- The owner may write to the file, or change the entries of the directory. -/
def mayWrite (mode : Nat) : Bool := mode / 0o200 % 2 == 1

/-- The owner may look names up in the directory. -/
def maySearch (mode : Nat) : Bool := mode / 0o100 % 2 == 1

/-- What stands at a location. -/
def entry? (tree : Tree) (location : Location) : Option Entry :=
  if location = [] then some (.directory newDirectoryMode .recent) else tree.entries.lookup location

/-- The target of the link at a location. -/
def linkAt? (tree : Tree) (location : Location) : Option String :=
  match tree.entry? location with
  | some (.link target) => some target
  | _ => none

/-- The permission bits of the directory at a location. -/
def directoryModeAt? (tree : Tree) (location : Location) : Option Nat :=
  match tree.entry? location with
  | some (.directory mode _) => some mode
  | _ => none

def isDirectoryAt (tree : Tree) (location : Location) : Bool :=
  (tree.directoryModeAt? location).isSome

/-- The entries of the directory at a location may be changed. -/
def isOpenToChange (tree : Tree) (location : Location) : Bool :=
  (tree.directoryModeAt? location).any mayWrite

/-- The number of the file at a location. -/
def fileAt? (tree : Tree) (location : Location) : Option Nat :=
  match tree.entry? location with
  | some (.file number) => some number
  | _ => none

/-- The number of links in the tree. -/
def linkCount (tree : Tree) : Nat :=
  tree.entries.countP fun (_, entry) =>
    match entry with
    | .link _ => true
    | _ => false

/-- The names in a directory, in no particular order. -/
def names (tree : Tree) (directory : Location) : List String :=
  tree.entries.filterMap fun (location, _) =>
    match location.getLast? with
    | some name => if location.dropLast = directory then some name else none
    | none => none

/-- The contents of a file by its number. -/
def data? (tree : Tree) (number : Nat) : Option FileData :=
  tree.files.lookup number

/-- A directory has been changed. -/
def touch (tree : Tree) (directory : Location) : Tree :=
  match tree.entries.lookup directory with
  | some (.directory mode _) =>
    { tree with entries := Keyed.assign directory (.directory mode .recent) tree.entries }
  | _ => tree

/-- Put an entry at a location. Its directory has then been changed. -/
def put (tree : Tree) (location : Location) (entry : Entry) : Tree :=
  ({ tree with entries := Keyed.assign location entry tree.entries } : Tree).touch
    location.dropLast

/-- Take away the entry at a location. Its directory has then been changed. -/
def take (tree : Tree) (location : Location) : Tree :=
  ({ tree with entries := tree.entries.filter fun (other, _) => other != location } : Tree).touch
    location.dropLast

/-- Change the contents of a file. -/
def change (tree : Tree) (number : Nat) (f : FileData → FileData) : Tree :=
  { tree with
    files := tree.files.map fun (n, data) => if n = number then (n, f data) else (n, data) }

/-- A new file under a new number. -/
def addFile (tree : Tree) (location : Location) (data : FileData) : Nat × Tree :=
  (tree.nextFile,
    ({ tree with
      files := (tree.nextFile, data) :: tree.files
      nextFile := tree.nextFile + 1 } : Tree).put location (.file tree.nextFile))

end Tree

end ConfigGate
