import ConfigGate.Access.Failure
import ConfigGate.Access.Metrics
import ConfigGate.Log.Event
import ConfigGate.Settings.Basic
import ConfigGate.Tree.Operations

namespace ConfigGate

/-- What a dotted package name stands for. -/
inductive Package where
  /-- A package with a directory of its own. -/
  | directory (path : Path)
  /-- A package that is spread over several directories. -/
  | scattered (first : Path) (others : List Path)
  /-- A package in an archive. -/
  | archived
  /-- A module that is no package. -/
  | single
deriving DecidableEq, Repr

/-- What does not change while the service runs: the working directory, the home directories, the installed
packages, and the stack. -/
structure Site where
  working : Location
  /-- The home directory of the user who runs the service. -/
  home : String
  /-- The home directories of other users by name. -/
  homes : List (String × String)
  packages : List (String × Package)
  /-- How many links may be resolved within each other. The service decides this by its own recursion, so that
  it gets further than the system, which follows a fixed number of links. -/
  linkDepth : Nat
  roomy : Tree.linkLimit ≤ linkDepth
deriving Repr

/-- A place where the system fails with an input/output error although nothing is wrong. -/
inductive Fault where
  | createTemporary
  | openFile
  | write
  | flush
  | copyMode
  | rename
  | scan
  /-- Reading fails after so many chunks. -/
  | read (chunks : Nat)
deriving DecidableEq, Repr

/-- The configuration of the file service. -/
structure Service where
  configDir : String
  /-- The package to fall back to. The empty name stands for none. -/
  resourcePackage : String
  hidden : HiddenNames
  strategy : WriteStrategy
deriving Repr

/-- The file service that the settings describe. -/
def Service.ofSettings (settings : Settings) : Service where
  configDir := settings.configDir
  resourcePackage := settings.resourcePackage
  hidden := settings.hiddenNames
  strategy := settings.writeStrategy

/-- Everything that an access depends on and does not change. -/
structure Setting where
  site : Site
  service : Service
  fault : Option Fault
deriving Repr

/-- The locks in use, each with the callers that asked for it in the order in which they came. The
first caller holds the lock. A lock without callers is not in the table. -/
abbrev LockTable := List (Location × List Nat)

/-- The state that accesses share. -/
structure World where
  tree : Tree
  /-- The configuration root, once it has been found. -/
  root : Option Path
  locks : LockTable
  /-- The events so far, in their order. -/
  events : List Log.Event
  metrics : Metrics
  /-- How many names of temporary files have been given out. -/
  temporaries : Nat
  /-- The open streams with the numbers of their files. -/
  streams : List (Nat × Nat)
  /-- How many streams have been opened. -/
  nextStream : Nat

namespace World

/-- Before the first access. -/
def initial (tree : Tree) : World :=
  ⟨tree, none, [], [], Metrics.zero, 0, [], 0⟩

def log (world : World) (event : Log.Event) : World :=
  { world with events := world.events ++ [event] }

end World

/-- A part of an access. It may fail, and what it did to the world before stays done. -/
abbrev Act := ExceptT Failure (StateM World)

namespace Act

/-- Run a part of an access. -/
def attempt {α : Type} (act : Act α) (world : World) : Except Failure α × World :=
  act.run.run world

def log (event : Log.Event) : Act Unit :=
  modify fun world => world.log event

def count (f : Metrics → Metrics) : Act Unit :=
  modify fun world => { world with metrics := f world.metrics }

/-- The outcome of a computation that does not change the world. -/
def ask {α : Type} (f : World → Except Failure α) : Act α := do
  match f (← get) with
  | .ok a => pure a
  | .error failure => throw failure

end Act

namespace Setting

/-- The error that the system gives for a path. -/
def refusal (p : Path) (errno : Errno) : SystemError :=
  ⟨errno, [p.text]⟩

/-- The error of a fault that is injected at this place. -/
def faultAt? (s : Setting) (fault : Fault) : Option SystemError :=
  if s.fault = some fault then some ⟨.inputOutput, []⟩ else none

/-- The status of what a path leads to, or nothing if the path leads nowhere. Other refusals of the
system are failures. -/
def probe (s : Setting) (p : Path) (tree : Tree) : Except Failure (Option Tree.Status) :=
  if p.hasNul then .ok none
  else
    match tree.status s.site.working p with
    | .ok status => .ok (some status)
    | .error .noEntry => .ok none
    | .error .notDirectory => .ok none
    | .error .tooManyLinks => .ok none
    | .error errno => .error (.system (refusal p errno))

/-- The path leads to a directory. -/
def isDirectory (s : Setting) (p : Path) (tree : Tree) : Except Failure Bool :=
  (s.probe p tree).map fun found => found.any (·.isDirectory)

/-- The directory has an entry with the name. -/
def hasEntry (s : Setting) (p : Path) (name : String) (tree : Tree) : Except Failure Bool :=
  match tree.namesIn s.site.working p with
  | .ok names => .ok (names.contains name)
  | .error errno => .error (.system (refusal p errno))

/-- The canonical location of a path. -/
def canonical (s : Setting) (p : Path) (tree : Tree) : Except Failure Location :=
  if p.hasNul then .error .embeddedNul
  else if s.site.linkDepth < tree.nesting s.site.working p then .error .tooDeep
  else
    match tree.canonical s.site.working p with
    | .ok location => .ok location
    | .error shown => .error (.linkLoop shown.text)

end Setting

end ConfigGate
