import ConfigGate.Tree.Canonical

/-! The operations of the system on files. Each takes the working directory and a path, and fails with
the cause that the system gives. -/
namespace ConfigGate.Tree

/-- What the system tells about an entry. -/
structure Status where
  isDirectory : Bool
  size : Nat
  mode : Nat
  modified : Stamp
deriving DecidableEq, Repr

/-- The status of the entry at a location that is no link. -/
def statusAt? (tree : Tree) (location : Location) : Option Status :=
  match tree.entry? location with
  | some (.directory mode modified) => some ⟨true, 0, mode, modified⟩
  | some (.file number) =>
    (tree.data? number).map fun data => ⟨false, data.bytes.length, data.mode, data.modified⟩
  | _ => none

/-- The status of what a path leads to through all links. -/
def status (tree : Tree) (working : Location) (p : Path) : Except Errno Status :=
  match tree.locate working .target p with
  | .error errno => .error errno
  | .ok location =>
    match tree.statusAt? location with
    | some status => .ok status
    | none => .error .noEntry

/-- The entry is there and may be read. -/
def isReadable (tree : Tree) (working : Location) (p : Path) : Bool :=
  match tree.status working p with
  | .ok status => mayRead status.mode
  | .error _ => false

/-- Open a file for reading. -/
def openForReading (tree : Tree) (working : Location) (p : Path) : Except Errno Nat :=
  match tree.locate working .target p with
  | .error errno => .error errno
  | .ok location =>
    match tree.fileAt? location with
    | none =>
      .error (if (tree.directoryModeAt? location).any mayRead then .isDirectory else .permission)
    | some number =>
      match tree.data? number with
      | none => .error .noEntry
      | some data => if mayRead data.mode then .ok number else .error .permission

/-- The permission bits of a new file. -/
def newFileMode : Nat := 0o644

/-- Open a file for writing and drop its contents. A file that is not there is made, also at the end
of a link that leads nowhere. -/
def openForWriting (tree : Tree) (working : Location) (p : Path) : Except Errno (Nat × Tree) :=
  match tree.find working .creation p with
  | .error errno => .error errno
  | .ok (.absent directory name) =>
    if tree.isOpenToChange directory then
      .ok (tree.addFile (directory ++ [name]) ⟨newFileMode, [], .recent⟩)
    else .error .permission
  | .ok (.present location) =>
    match tree.fileAt? location with
    | none => .error .isDirectory
    | some number =>
      match tree.data? number with
      | none => .error .noEntry
      | some data =>
        if mayWrite data.mode then
          .ok (number, tree.change number (·.rewritten []))
        else .error .permission

/-- Add bytes to what has been written since a file was opened, which is nothing yet: the bytes stand at
the beginning of the file, and what others have written beyond them is kept. -/
def append (tree : Tree) (number : Nat) (bytes : Bytes) : Tree :=
  tree.change number fun data => data.rewritten (bytes ++ data.bytes.drop bytes.length)

/-- Make a file that only its owner may use. Nothing may stand there before. -/
def createPrivate (tree : Tree) (working : Location) (p : Path) : Except Errno Tree :=
  match tree.find working .entry p with
  | .error errno => .error errno
  | .ok (.present _) => .error .alreadyExists
  | .ok (.absent directory name) =>
    if tree.isOpenToChange directory then
      .ok (tree.addFile (directory ++ [name]) ⟨0o600, [], .recent⟩).2
    else .error .permission

/-- Give a file or directory the permission bits `mode`. -/
def setMode (tree : Tree) (working : Location) (p : Path) (mode : Nat) : Except Errno Tree :=
  match tree.locate working .target p with
  | .error errno => .error errno
  | .ok location =>
    match tree.entry? location with
    | some (.file number) => .ok (tree.change number fun data => { data with mode := mode })
    | some (.directory _ modified) =>
      .ok { tree with entries := Keyed.assign location (.directory mode modified) tree.entries }
    | _ => .ok tree

/-- Move an entry to a new name. A file or link that has the name is replaced. What is moved keeps
its number, so that open handles are not disturbed. -/
def rename (tree : Tree) (working : Location) (old new : Path) : Except Errno Tree :=
  match tree.locate working .entry old with
  | .error errno => .error errno
  | .ok source =>
    match tree.entry? source with
    | none => .error .noEntry
    | some entry =>
      match tree.find working .entry new with
      | .error errno => .error errno
      | .ok (.absent directory name) =>
        if tree.isOpenToChange source.dropLast && tree.isOpenToChange directory then
          .ok (move source (directory ++ [name]) entry)
        else .error .permission
      | .ok (.present target) =>
        if !(tree.isOpenToChange source.dropLast && tree.isOpenToChange target.dropLast) then
          .error .permission
        else if tree.isDirectoryAt target && !tree.isDirectoryAt source then .error .isDirectory
        else .ok (move source target entry)
where
  move (source target : Location) (entry : Entry) : Tree :=
    if source = target then tree
    else
      let moved := tree.entries.filterMap fun (location, e) =>
        if location ≠ source && source.isPrefixOf location then
          some (target ++ location.drop source.length, e)
        else none
      let kept := tree.entries.filter fun (location, _) => !source.isPrefixOf location
      let base : Tree := { tree with entries := kept }
      let placed := (base.put target entry).touch source.dropLast
      { placed with entries := placed.entries ++ moved }

/-- Take away an entry that is no directory. A link is taken away itself. -/
def remove (tree : Tree) (working : Location) (p : Path) : Except Errno Tree :=
  match tree.locate working .entry p with
  | .error errno => .error errno
  | .ok location =>
    if !tree.isOpenToChange location.dropLast then .error .permission
    else if tree.isDirectoryAt location then .error .isDirectory
    else .ok (tree.take location)

/-- The names in the directory that a path leads to. -/
def namesIn (tree : Tree) (working : Location) (p : Path) : Except Errno (List String) :=
  match tree.locate working .target p with
  | .error errno => .error errno
  | .ok location =>
    match tree.directoryModeAt? location with
    | none => .error .notDirectory
    | some mode => if mayRead mode then .ok (tree.names location) else .error .permission

/-- Take away an entry with all that lies below it. -/
def removeAll (tree : Tree) (location : Location) : Tree :=
  ({ tree with entries := tree.entries.filter fun (l, _) => !location.isPrefixOf l } : Tree).touch
    location.dropLast

/-- Make a directory and all that are missing on the way to it. A name that is already there is left
alone. -/
def makeDirectories (tree : Tree) (location : Location) : Tree :=
  (List.range location.length).foldl (fun tree n =>
    let directory := location.take (n + 1)
    match tree.entry? directory with
    | some _ => tree
    | none => tree.put directory (.directory newDirectoryMode .recent)) tree

/-- Make the directory that a path names, and all that are missing on the way to it. Links on the way are
followed, and a name that is already there is left alone. -/
def makePath (tree : Tree) (working : Location) (p : Path) : Tree :=
  (List.range p.parts.length).foldl (fun tree n =>
    match tree.find working .entry ⟨p.anchor, p.parts.take (n + 1)⟩ with
    | .ok (.absent directory name) =>
      tree.put (directory ++ [name]) (.directory newDirectoryMode .recent)
    | _ => tree) tree

/-- Make an empty file if nothing stands at a path. -/
def ensureFile (tree : Tree) (working : Location) (p : Path) : Tree :=
  match tree.find working .creation p with
  | .ok (.absent directory name) =>
    (tree.addFile (directory ++ [name]) ⟨newFileMode, [], .recent⟩).2
  | _ => tree

/-- Set the time at which an entry was changed. -/
def setModified (tree : Tree) (location : Location) (modified : Stamp) : Tree :=
  match tree.entry? location with
  | some (.directory mode _) =>
    { tree with entries := Keyed.assign location (.directory mode modified) tree.entries }
  | some (.file number) => tree.change number fun data => { data with modified := modified }
  | _ => tree

/-- The entries below a location, with their components seen from it. -/
def descendants (tree : Tree) (location : Location) : List (List String × Entry) :=
  tree.entries.filterMap fun (l, entry) =>
    match Path.below? location l with
    | some (first :: rest) => some (first :: rest, entry)
    | _ => none

end ConfigGate.Tree
