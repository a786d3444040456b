import ConfigGate.Tree.Walk

/-! The canonical location of a path: the one without links. It is defined for every path, also for
one whose components are missing, since it decides what may be accessed before anything is opened.
A missing component, or one below a file, stands for itself. Links are known by the names under which
they are met, so that a link may be met once under a relative name and once under an absolute one. -/
namespace ConfigGate.Tree

/-- What is still to be done when a path is resolved: go on to a component, or note where the
resolution of a link has ended. -/
inductive Task where
  | component (part : String)
  | settle (link : Path)
deriving DecidableEq, Repr

/-- The links met so far. A link is being resolved until it has been noted where it leads. -/
abbrev KnownLinks := List (Path × Option Path)

/-- How resolution goes up to the first link that has not been met before. -/
inductive Progress where
  | finished (path : Path)
  /-- The link is met again while it is being resolved. -/
  | circular (link : Path) (rest : List Task)
  | fresh (link directory : Path) (target : String) (rest : List Task) (known : KnownLinks)
deriving DecidableEq, Repr

/-- The path without its last component. A relative path with nothing to take away leads further
up. -/
def ascend (p : Path) : Path :=
  if p.anchor = .relative && (p.parts.isEmpty || p.parts.getLast? = some "..") then p.child ".."
  else p.parent

/-- The target of the link that a path names. -/
def linkNamed? (tree : Tree) (working : Location) (p : Path) : Option String :=
  match tree.find working .entry p with
  | .ok (.present location) => tree.linkAt? location
  | _ => none

/-- Resolve up to the first new link. A component `..` leads to the parent of what has been resolved
so far. -/
def advance (tree : Tree) (working : Location) : KnownLinks → Path → List Task → Progress
  | _, here, [] => .finished here
  | known, here, .settle link :: rest =>
    advance tree working (Keyed.assign link (some here) known) here rest
  | known, here, .component part :: rest =>
    if Path.isIdle part then advance tree working known here rest
    else if part = ".." then advance tree working known (ascend here) rest
    else
      match tree.linkNamed? working (here.child part) with
      | none => advance tree working known (here.child part) rest
      | some target =>
        match known.lookup (here.child part) with
        | some (some settled) => advance tree working known settled rest
        | some none => .circular (here.child part) rest
        | none => .fresh (here.child part) here target rest known

/-- What follows a circular link, taken by its text alone. The rest of a target that begins with a
slash starts over from the root; `atStart` tells that the rest of a target begins here. -/
def textually : Bool → Location → List Task → Location
  | _, here, [] => here
  | _, here, .settle _ :: rest => textually true here rest
  | true, _, .component "" :: .component part :: rest =>
    textually false (Path.descend [] part) rest
  | _, here, .component part :: rest => textually false (Path.descend here part) rest

/-- The outcome of resolution. -/
inductive Resolved where
  | canonical (location : Location)
  /-- A circular link was met. The location is that of the link with the rest of the path after
  it. -/
  | stuck (location : Location)
deriving DecidableEq, Repr

/-- Where the target of a link starts: at the root, or in the directory of the link. -/
def targetBase (directory : Path) (target : String) : Path :=
  if Path.anchorOf target = .relative then directory else ⟨.root, []⟩

/-- Resolve the tasks from `here`. Every new name of a link uses up one of the budget. -/
def resolveTasks (tree : Tree) (working : Location) :
    Nat → KnownLinks → Path → List Task → Resolved
  | budget, known, here, tasks =>
    match advance tree working known here tasks with
    | .finished path => .canonical (path.lexical working).parts
    | .circular link rest => .stuck (textually true (link.lexical working).parts rest)
    | .fresh link directory target rest known =>
      match budget with
      | 0 => .stuck (link.lexical working).parts
      | budget + 1 =>
        resolveTasks tree working budget (Keyed.assign link none known)
          (targetBase directory target)
          ((Path.pieces target).map .component ++ .settle link :: rest)

/-- The number of names of links that are resolved at most. A link has an absolute name, and a relative
one for each way up from the working directory; a walk of the system that arrives has met no more
links than it may follow. -/
def linkNames (tree : Tree) (working : Location) : Nat :=
  tree.linkCount * (working.length + 2) + linkLimit

/-- How many links are being resolved where these tasks are left. -/
def openLinks (tasks : List Task) : Nat :=
  tasks.countP fun task =>
    match task with
    | .component _ => false
    | .settle _ => true

/-- How many links are resolved within each other at most on the way through the tasks. -/
def nestingOf (tree : Tree) (working : Location) : Nat → KnownLinks → Path → List Task → Nat
  | budget, known, here, tasks =>
    match advance tree working known here tasks with
    | .finished _ => 0
    | .circular _ _ => 0
    | .fresh link directory target rest known =>
      match budget with
      | 0 => 0
      | budget + 1 =>
        let inner := (Path.pieces target).map .component ++ .settle link :: rest
        max (openLinks inner) (nestingOf tree working budget (Keyed.assign link none known)
          (targetBase directory target) inner)

/-- How many links are resolved within each other at most when a path is resolved. Each of them takes a part
of the stack until it has been noted where it leads. -/
def nesting (tree : Tree) (working : Location) (p : Path) : Nat :=
  tree.nestingOf working (tree.linkNames working) []
    ⟨if p.anchor = .relative then .relative else .root, []⟩ (p.parts.map .component)

/-- The canonical location of a path, or the loop of links that it runs into. A path with a circular
link is harmless if what follows the link leads away from it. -/
def canonical (tree : Tree) (working : Location) (p : Path) : Except Path Location :=
  let start : Path := ⟨if p.anchor = .relative then .relative else .root, []⟩
  match tree.resolveTasks working (tree.linkNames working) [] start (p.parts.map .component) with
  | .canonical location => .ok location
  | .stuck location =>
    let shown := Path.ofLocation location
    match tree.find working .target shown with
    | .error .tooManyLinks => .error shown
    | _ => .ok location

end ConfigGate.Tree
