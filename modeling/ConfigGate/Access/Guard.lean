import ConfigGate.Access.World

/-! The guard judges a request before any file is opened. What it tells depends on the names of
directories and links alone and not on which files exist, up to the last check, which only requests
inside the root reach. -/
namespace ConfigGate.Guard

/-- The canonical location of a path seen from the canonical root, or nothing if the path leads out
of the root or is no path. -/
def canonicalRelative (s : Setting) (candidate root : Path) (tree : Tree) :
    Except Failure (Option (List String)) :=
  match s.canonical candidate tree with
  | .error .embeddedNul => .ok none
  | .error failure => .error failure
  | .ok location =>
    match s.canonical root tree with
    | .error .embeddedNul => .ok none
    | .error failure => .error failure
    | .ok base => .ok (Path.below? base location)

/-- Two dots in a row stand somewhere in the text. -/
def hasTraversal : List Char → Bool
  | '.' :: '.' :: _ => true
  | _ :: rest => hasTraversal rest
  | [] => false

def hasNul (file : String) : Bool :=
  file.toList.contains '\x00'

/-- The request spells a hidden name, or leads to one. -/
def isHidden (s : Setting) (root : Path) (requested : String) (tree : Tree) :
    Except Failure Bool :=
  let file := withForwardSlashes requested
  let hidden := s.service.hidden
  if hidden.hides file then .ok true
  else if hasTraversal file.toList || hasNul file then .ok false
  else
    (canonicalRelative s (root.join (Path.parse file)) root tree).map fun relative =>
      relative.any fun parts => hidden.hides (Path.relativeText parts)

/-- The verdict on a request: the path to be accessed, or why it is rejected. -/
def verdict (s : Setting) (root : Path) (requested : String) (tree : Tree) :
    Except Failure Path :=
  let file := withForwardSlashes requested
  let hidden := s.service.hidden
  if hidden.hides file then .error (.rejected .hidden file)
  else if hasTraversal file.toList then .error (.rejected .traversal file)
  else if hasNul file then .error (.rejected .malformed file)
  else
    let candidate := root.join (Path.parse file)
    match canonicalRelative s candidate root tree with
    | .error failure => .error failure
    | .ok none => .error (.rejected .escape file)
    | .ok (some parts) =>
      if hidden.hides (Path.relativeText parts) then .error (.rejected .hidden file)
      else .ok candidate

/-- Judge a request. A rejection is counted and logged. -/
def check (s : Setting) (root : Path) (requested : String) : Act Path := do
  match verdict s root requested (← get).tree with
  | .ok candidate => return candidate
  | .error failure =>
    if let .rejected reason file := failure then
      Act.count (·.countRejection reason.reason)
      Act.log (.accessRejected reason.reason file)
    throw failure

/-- The name of the entry begins with a dot. -/
def isDotName (name : String) : Bool :=
  name.toList.head? = some '.'

/-- The entry is kept out of sight by its name. An entry that is not there is a failure. -/
def isSystemHidden (s : Setting) (p : Path) (tree : Tree) : Except Failure Bool :=
  if isDotName p.name then .ok true
  else if p.hasNul then .error .embeddedNul
  else
    match tree.status s.site.working p with
    | .ok _ => .ok false
    | .error errno => .error (.system (Setting.refusal p errno))

/-- What becomes of a path that has been judged. Its entry must be there, readable, and not hidden by
its name. -/
def shown (s : Setting) (target : Path) (tree : Tree) : Except Failure Path := do
  let text := (target.absolute s.site.working).text
  match ← s.probe target tree with
  | none => .error (.notFound target.name text)
  | some _ =>
    if !tree.isReadable s.site.working target then .error (.notShown target.name text)
    else if ← isSystemHidden s target tree then .error (.notShown target.name text)
    else .ok target

/-- The entry that a request asks for. No request asks for the root itself. -/
def resolve (s : Setting) (root : Path) (requested : Option String) : Act Path := do
  match requested with
  | none => Act.ask fun world => shown s root world.tree
  | some file =>
    let target ← check s root file
    Act.ask fun world => shown s target world.tree

end ConfigGate.Guard
