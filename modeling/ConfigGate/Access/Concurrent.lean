import ConfigGate.Access.Handle

/-! Several accesses at once. Each runs by itself from one waiting point to the next, and any other may
run in between: while a write waits for its lock, between the stages of a write once it has begun, and
while a file is being opened. What an operation does to the tree and what the call makes of it are two
steps, so that others may come between them as well. -/
namespace ConfigGate

/-- How far a call has come. -/
inductive Call where
  | ready (request : Request)
  /-- The call waits for the lock of a write. -/
  | waiting (request : Request) (target : Path) (key : Location) (bytes : Bytes)
  | writing (request : Request) (target : Path) (key : Location) (bytes : Bytes)
      (stage : WriteStage)
  /-- The last operation of a write is over, and its file is to be closed if it is still open. The call
  still holds the lock. -/
  | settled (request : Request) (target : Path) (key : Location) (bytes : Bytes) (file : Option Nat)
      (result : Except SystemError Unit)
  /-- The call waits for a file to be opened for reading. -/
  | opening (request : Request) (target : Path)
  /-- The attempt to open a file is over. -/
  | opened (request : Request) (target : Path) (result : Except SystemError Nat)
  | finished (result : Except Failure Reply)

namespace Call

def isFinished : Call → Bool
  | .finished _ => true
  | _ => false

/-- The end of a call. -/
def finish (request : Request) (result : Except Failure Reply) (world : World) : Call × World :=
  (.finished result, (Act.attempt (Access.count request result) world).2)

/-- The end of a write. -/
def conclude (s : Setting) (me : Nat) (request : Request) (target : Path) (key : Location)
    (bytes : Bytes) (result : Except SystemError Unit) (world : World) : Call × World :=
  match Act.attempt (Write.conclude s target key me bytes result) world with
  | (.error failure, world) => finish request (.error failure) world
  | (.ok (), world) => finish request (.ok (.written target (request.contents.getD ""))) world

/-- Run one stage of a write. The call takes note of its end in a step of its own. -/
def advance (s : Setting) (request : Request) (target : Path) (key : Location)
    (bytes : Bytes) (stage : WriteStage) (world : World) : Call × World :=
  match stage.run s target bytes world with
  | (.next stage, world) => (.writing request target key bytes stage, world)
  | (.finished, world) => (.settled request target key bytes stage.openFile? (.ok ()), world)
  | (.failed e, world) => (.settled request target key bytes stage.openFile? (.error e), world)

/-- Begin a write if the caller holds its lock. A private file is created at once, but every other
stage is waited for. -/
def enter (s : Setting) (me : Nat) (request : Request) (target : Path) (key : Location)
    (bytes : Bytes) (world : World) : Call × World :=
  if world.locks.holder? key = some me then
    match WriteStage.first s.service.strategy with
    | .create =>
      match WriteStage.create.run s target bytes world with
      | (.next stage, world) => (.writing request target key bytes stage, world)
      | (.finished, world) => conclude s me request target key bytes (.ok ()) world
      | (.failed e, world) => conclude s me request target key bytes (.error e) world
    | stage => (.writing request target key bytes stage, world)
  else (.waiting request target key bytes, world)

/-- Run a call up to its next waiting point. -/
def step (s : Setting) (me : Nat) (call : Call) (world : World) : Call × World :=
  match call with
  | .ready request =>
    match Act.attempt (Access.target s request) world with
    | (.error failure, world) => finish request (.error failure) world
    | (.ok (target, root), world) =>
      match request.contents with
      | some text =>
        match Act.attempt (Write.prepare s target) world with
        | (.error failure, world) => finish request (.error failure) world
        | (.ok key, world) =>
          let bytes := Text.Utf8.encode text
          let world := { world with locks := world.locks.request key me }
          enter s me request target key bytes world
      | none =>
        match Act.attempt (Act.ask fun world => s.isDirectory target world.tree) world with
        | (.error failure, world) => finish request (.error failure) world
        | (.ok true, world) =>
          match Act.attempt (Listing.list s target root) world with
          | (.error failure, world) => finish request (.error failure) world
          | (.ok listing, world) => finish request (.ok (.listed target listing)) world
        | (.ok false, world) => (.opening request target, world)
  | .waiting request target key bytes => enter s me request target key bytes world
  | .writing request target key bytes stage => advance s request target key bytes stage world
  | .settled request target key bytes _ result =>
    conclude s me request target key bytes result world
  | .opening request target =>
    if target.hasNul then finish request (.error .embeddedNul) world
    else (.opened request target (Stream.opened s target world.tree), world)
  | .opened request target result =>
    match Act.attempt (Stream.start target result) world with
    | (.error failure, world) => finish request (.error failure) world
    | (.ok stream, world) => finish request (.ok (.read target stream)) world
  | .finished result => (.finished result, world)

end Call

/-- Calls that run at the same time. -/
structure Pool where
  calls : List Call
  world : World

namespace Pool

/-- Nothing has been run yet. -/
def ofRequests (requests : List Request) (world : World) : Pool :=
  ⟨requests.map .ready, world⟩

/-- Let one call run up to its next waiting point. -/
def step (s : Setting) (pool : Pool) (i : Nat) : Pool :=
  match pool.calls[i]? with
  | none => pool
  | some call =>
    let (call, world) := call.step s i pool.world
    ⟨pool.calls.set i call, world⟩

/-- Let every call run once, in their order. -/
def round (s : Setting) (pool : Pool) : Pool :=
  (List.range pool.calls.length).foldl (step s) pool

/-- Let the calls run in turns. -/
def rounds (s : Setting) : Nat → Pool → Pool
  | 0, pool => pool
  | n + 1, pool =>
    if pool.calls.all (·.isFinished) then pool else rounds s n (round s pool)

/-- Let the calls run in turns until all have finished. In every turn the holder of each lock gets
one step further, and a write has at most nine steps, so ten turns for each call are enough. -/
def runAll (s : Setting) (pool : Pool) : Pool :=
  rounds s (10 * pool.calls.length + 10) pool

/-- The results of the calls that have finished, in the order of the calls. -/
def results (pool : Pool) : List (Except Failure Reply) :=
  pool.calls.filterMap fun
    | .finished result => some result
    | _ => none

end Pool

end ConfigGate
