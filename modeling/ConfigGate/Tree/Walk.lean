import ConfigGate.Tree.Basic
import ConfigGate.Tree.Error

/-! How the system finds the entry that a path names. It walks from directory to directory and goes
on from the target of each link that it meets. Every component before the last must be there. -/
namespace ConfigGate.Tree

/-- What a path leads to: an entry, or a name that a directory does not have yet. -/
inductive Destination where
  | present (location : Location)
  | absent (directory : Location) (name : String)
deriving DecidableEq, Repr

/-- How a walk goes up to the first link on its way. -/
inductive Stretch where
  | arrived (destination : Destination)
  | failed (errno : Errno)
  | link (directory : Location) (target : String) (rest : List String)
deriving DecidableEq, Repr

/-- The most bytes that a name may have. -/
def nameLimit : Nat := 255

/-- A path must have fewer bytes than this. -/
def pathLimit : Nat := 4096

/-- The most links that one walk follows. -/
def linkLimit : Nat := 40

/-- What a walk is for. -/
inductive Purpose where
  /-- To find the entry itself, also if it is a link. -/
  | entry
  /-- To find what a link at the end of the path leads to. -/
  | target
  /-- To find what is to be written to, or made if it is not there. A name with a slash after it is
  none that a file could have. -/
  | creation
deriving DecidableEq, Repr

/-- Walk up to the first link. Every directory on the way must be open to the search for a name. A link
at the end of the path is an entry like others unless it is to be followed. An empty component asks
for a directory. -/
def stretch (tree : Tree) (purpose : Purpose) (here : Location) : List String → Stretch
  | [] => .arrived (.present here)
  | part :: rest =>
    match tree.directoryModeAt? here with
    | none => .failed .notDirectory
    | some mode =>
      if part = "" then stretch tree purpose here rest
      else if !maySearch mode then .failed .permission
      else if part = "." then stretch tree purpose here rest
      else if part = ".." then stretch tree purpose here.dropLast rest
      else if nameLimit < Path.byteLength part then .failed .nameTooLong
      else if purpose = .creation && rest = [""] then .failed .isDirectory
      else
        match tree.entry? (here ++ [part]) with
        | none => if rest.isEmpty then .arrived (.absent here part) else .failed .noEntry
        | some (.link target) =>
          if rest.isEmpty && purpose = .entry then .arrived (.present (here ++ [part]))
          else .link here target rest
        | some _ => stretch tree purpose (here ++ [part]) rest

/-- The components of the target of a link. A slash at the end leaves an empty component. -/
def targetParts (target : String) : List String :=
  let pieces := Path.pieces target
  let parts := pieces.filter (· ≠ "")
  if pieces.getLast? = some "" then parts ++ [""] else parts

/-- Where the target of a link starts: at the root, or in the directory of the link. -/
def targetStart (directory : Location) (target : String) : Location :=
  if Path.anchorOf target = .relative then directory else []

/-- Walk the components from `here`, and follow as many links as the budget allows. -/
def walk (tree : Tree) (purpose : Purpose) :
    Nat → Location → List String → Except Errno Destination
  | budget, here, parts =>
    match stretch tree purpose here parts with
    | .arrived destination => .ok destination
    | .failed errno => .error errno
    | .link directory target rest =>
      match budget with
      | 0 => .error .tooManyLinks
      | budget + 1 =>
        walk tree purpose budget (targetStart directory target) (targetParts target ++ rest)

/-- What a path leads to, seen from the working directory. -/
def find (tree : Tree) (working : Location) (purpose : Purpose) (p : Path) :
    Except Errno Destination :=
  if pathLimit ≤ Path.byteLength p.text then .error .nameTooLong
  else walk tree purpose linkLimit (if p.anchor = .relative then working else []) p.parts

/-- The location of the entry that a path leads to. -/
def locate (tree : Tree) (working : Location) (purpose : Purpose) (p : Path) :
    Except Errno Location :=
  match tree.find working purpose p with
  | .ok (.present location) => .ok location
  | .ok (.absent _ _) => .error .noEntry
  | .error errno => .error errno

end ConfigGate.Tree
