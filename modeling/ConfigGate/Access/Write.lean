import ConfigGate.Access.Lock

/-! Replacing the contents of a file. A write goes through stages, and other accesses may come between
two of them. Under the atomic strategy the new contents are written to a private file beside the
target, which then takes the place of the target in one step; under the other strategy the target is
emptied and filled. -/
namespace ConfigGate

/-- What a write does next. -/
inductive WriteStage where
  /-- Create the private file. -/
  | create
  /-- Open the private file. -/
  | openPrivate (temporary : Path)
  | fillPrivate (temporary : Path) (file : Nat)
  | flushPrivate (temporary : Path)
  /-- Give the private file the permission bits of the target. -/
  | copyMode (temporary : Path)
  /-- Put the private file in the place of the target. -/
  | replace (temporary : Path)
  /-- Take the private file away after a failure. -/
  | discard (temporary : Path) (error : SystemError)
  /-- Open and empty the target. -/
  | openTarget
  | fillTarget (file : Nat)
deriving DecidableEq, Repr

/-- How a stage ends. -/
inductive WriteProgress where
  | next (stage : WriteStage)
  | finished
  | failed (error : SystemError)
deriving DecidableEq, Repr

namespace WriteStage

/-- The first stage of a write. -/
def first : WriteStrategy → WriteStage
  | .atomic => .create
  | .overwrite => .openTarget

/-- How many names the private files of a target have. -/
def temporaryNames : Nat := Nat.pow 16 8

/-- The name of the private file with the number `n`. The dot keeps it out of listings. -/
def temporaryName (target : Path) (n : Nat) : String :=
  "." ++ target.name ++ "." ++ String.ofList (Text.hexPadded 8 (n % temporaryNames)) ++ ".tmp"

/-- Create the private file under the first name that is free, in the directory of the target as the
text of its path says. -/
def createTemporary (working : Location) (target : Path) :
    Nat → Nat → Tree → Except SystemError (Path × Nat × Tree)
  | 0, _, _ => .error ⟨.alreadyExists, []⟩
  | tries + 1, n, tree =>
    let temporary := (target.parent.lexical working).child (temporaryName target n)
    match tree.createPrivate working temporary with
    | .ok tree => .ok (temporary, n + 1, tree)
    | .error .alreadyExists => createTemporary working target tries (n + 1) tree
    | .error errno => .error (Setting.refusal temporary errno)

/-- Run one stage of a write. After the private file has been created every failure leads to the
stage that takes it away again. -/
def run (s : Setting) (target : Path) (bytes : Bytes) (stage : WriteStage) (world : World) :
    WriteProgress × World :=
  let working := s.site.working
  let tree := world.tree
  let after (stage : WriteStage) (tree : Tree) : WriteProgress × World :=
    (.next stage, { world with tree })
  match stage with
  | .create =>
    match s.faultAt? .createTemporary with
    | some e => (.failed e, world)
    | none =>
      match createTemporary working target temporaryNames world.temporaries tree with
      | .error e => (.failed e, world)
      | .ok (temporary, temporaries, tree) =>
        (.next (.openPrivate temporary), { world with tree, temporaries })
  | .openPrivate temporary =>
    match s.faultAt? .openFile with
    | some e => after (.discard temporary e) tree
    | none =>
      match tree.openForWriting working temporary with
      | .error errno => after (.discard temporary (Setting.refusal temporary errno)) tree
      | .ok (file, tree) => after (.fillPrivate temporary file) tree
  | .fillPrivate temporary file =>
    match s.faultAt? .write with
    | some e => after (.discard temporary e) tree
    | none => after (.flushPrivate temporary) (tree.append file bytes)
  | .flushPrivate temporary =>
    match s.faultAt? .flush with
    | some e => after (.discard temporary e) tree
    | none => after (.copyMode temporary) tree
  | .copyMode temporary =>
    match s.faultAt? .copyMode with
    | some e => after (.discard temporary e) tree
    | none =>
      match tree.status working target with
      | .error errno => after (.discard temporary (Setting.refusal target errno)) tree
      | .ok status =>
        match tree.setMode working temporary status.mode with
        | .error errno => after (.discard temporary (Setting.refusal temporary errno)) tree
        | .ok tree => after (.replace temporary) tree
  | .replace temporary =>
    match s.faultAt? .rename with
    | some e => after (.discard temporary e) tree
    | none =>
      match tree.rename working temporary target with
      | .error errno =>
        after (.discard temporary ⟨errno, [temporary.text, target.text]⟩) tree
      | .ok tree => (.finished, { world with tree })
  | .discard temporary error =>
    match tree.remove working temporary with
    | .error _ => (.failed error, world)
    | .ok tree => (.failed error, { world with tree })
  | .openTarget =>
    match s.faultAt? .openFile with
    | some e => (.failed e, world)
    | none =>
      match tree.openForWriting working target with
      | .error errno => (.failed (Setting.refusal target errno), world)
      | .ok (file, tree) => after (.fillTarget file) tree
  | .fillTarget file =>
    match s.faultAt? .write with
    | some e => (.failed e, world)
    | none => (.finished, { world with tree := tree.append file bytes })

/-- The target, once it is open for a write in place. Closing it is waited for, so that it may still be open
when it has been filled, or when filling it has failed. -/
def openFile? : WriteStage → Option Nat
  | .fillTarget file => some file
  | _ => none

/-- The number of stages from a stage to the end, at most. -/
def remaining : WriteStage → Nat
  | .create => 7
  | .openPrivate _ => 6
  | .fillPrivate _ _ => 5
  | .flushPrivate _ => 4
  | .copyMode _ => 3
  | .replace _ => 2
  | .discard _ _ => 1
  | .openTarget => 2
  | .fillTarget _ => 1

/-- Run a write from a stage to its end, with nothing in between. The fuel is the number of stages
that remain. -/
def runAll (s : Setting) (target : Path) (bytes : Bytes) :
    Nat → WriteStage → World → Except SystemError Unit × World
  | 0, _, world => (.error ⟨.inputOutput, []⟩, world)
  | fuel + 1, stage, world =>
    match stage.run s target bytes world with
    | (.next stage, world) => runAll s target bytes fuel stage world
    | (.finished, world) => (.ok (), world)
    | (.failed e, world) => (.error e, world)

end WriteStage

namespace Write

/-- The checks before a write asks for its lock, and the key of the lock. A directory is not written
to. -/
def prepare (s : Setting) (target : Path) : Act Location := do
  if ← Act.ask fun world => s.isDirectory target world.tree then
    throw (.writesDirectory target.name)
  Act.ask fun world => s.canonical target world.tree

/-- Ask for the lock of a write. -/
def requestLock (key : Location) (caller : Nat) : Act Unit :=
  modify fun world => { world with locks := world.locks.request key caller }

def releaseLock (key : Location) (caller : Nat) : Act Unit :=
  modify fun world => { world with locks := world.locks.release key caller }

/-- What follows the last stage of a write: the lock is given back, and a success is counted. A
failure is told to the log alone. -/
def conclude (s : Setting) (target : Path) (key : Location) (caller : Nat) (bytes : Bytes)
    (result : Except SystemError Unit) : Act Unit := do
  match result with
  | .error e =>
    Act.log (.writeFailed target.text e.message e.record)
    releaseLock key caller
    throw .internal
  | .ok () =>
    releaseLock key caller
    Act.count (·.countWrite bytes.length)
    Act.log (.writeSucceeded target.text bytes.length s.service.strategy.name)

/-- Replace the contents of the file that a path leads to. -/
def file (s : Setting) (target : Path) (contents : String) : Act Unit := do
  let key ← prepare s target
  let bytes := Text.Utf8.encode contents
  requestLock key 0
  let world ← get
  let stage := WriteStage.first s.service.strategy
  let (result, world) := stage.runAll s target bytes stage.remaining world
  set world
  conclude s target key 0 bytes result

end Write

end ConfigGate
