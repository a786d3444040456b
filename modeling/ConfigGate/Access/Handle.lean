import ConfigGate.Access.ConfigRoot
import ConfigGate.Access.Listing
import ConfigGate.Access.Read
import ConfigGate.Access.Write

/-! One access to the configuration files: a write if there are contents, and else the reading of a
file or the listing of a directory. Every access that the guard or the file system decides is
counted once. -/
namespace ConfigGate

/-- What an access gives. -/
inductive Reply where
  | read (path : Path) (stream : Stream)
  | written (path : Path) (text : String)
  | listed (path : Path) (listing : Listing)
deriving DecidableEq, Repr

namespace Reply

def path : Reply → Path
  | .read p _ => p
  | .written p _ => p
  | .listed p _ => p

/-- The mode of an access as it is counted and logged. -/
def mode : Reply → String
  | .read _ _ => "read"
  | .written _ _ => "write"
  | .listed _ _ => "list"

end Reply

/-- A request for an access. -/
structure Request where
  /-- The path below the root. Without one the root itself is meant. -/
  file : Option String
  /-- The new contents. Without them nothing is written. -/
  contents : Option String
deriving DecidableEq, Repr

namespace Request

/-- The mode of a request before its reply is known. -/
def mode (request : Request) : String :=
  if request.contents.isSome then "write" else "read"

end Request

namespace Access

/-- The outcome of a failed access as it is counted. Failures that no client is meant to see are not
counted. -/
def outcome? (failure : Failure) : Option String :=
  match failure.status? with
  | some 403 => some "forbidden"
  | some 400 => some "bad_request"
  | some _ => some "error"
  | none => none

/-- Count an access by its mode and outcome. -/
def count (request : Request) (result : Except Failure Reply) : Act Unit :=
  match result with
  | .ok reply => Act.count (·.countAccess reply.mode "ok")
  | .error failure =>
    match outcome? failure with
    | some outcome => Act.count (·.countAccess request.mode outcome)
    | none => pure ()

/-- The path that a request may access. -/
def target (s : Setting) (request : Request) : Act (Path × Path) := do
  let root ← ConfigRoot.resolve s
  let target ← Guard.resolve s root request.file
  return (target, root)

/-- An access without the counting. -/
def perform (s : Setting) (request : Request) : Act Reply := do
  let (target, root) ← target s request
  match request.contents with
  | some text =>
    Write.file s target text
    return .written target text
  | none =>
    if ← Act.ask fun world => s.isDirectory target world.tree then
      return .listed target (← Listing.list s target root)
    else
      return .read target (← Stream.ofPath s target)

/-- An access with the counting. -/
def counted (request : Request) (act : Act Reply) : Act Reply := do
  let result ← tryCatch (Except.ok <$> act) (fun failure => pure (.error failure))
  count request result
  match result with
  | .ok reply => return reply
  | .error failure => throw failure

/-- Answer a request whose contents have an encoding, where all times are dates. -/
def handle (s : Setting) (request : Request) : Act Reply :=
  counted request (perform s request)

end Access

/-- A request as it comes from outside. Its contents may have lone halves of surrogate pairs in them. -/
structure Demand where
  file : Option String
  contents : Option Text.Wide
deriving DecidableEq, Repr

namespace Demand

/-- The contents, if no file can hold them. -/
def torn? (demand : Demand) : Option Text.Wide :=
  demand.contents.filter (!·.isWhole)

/-- The request as an access takes it. Contents that no file can hold are left empty. -/
def request (demand : Demand) : Request :=
  ⟨demand.file, demand.contents.map fun contents => contents.text?.getD ""⟩

end Demand

/-- The request from outside. -/
def Request.demand (request : Request) : Demand :=
  ⟨request.file, request.contents.map .ofText⟩

namespace Access

/-- The reply, unless it lists an entry with a time that is no date. -/
def dated : Reply → Except Failure Reply
  | .listed path listing =>
    match listing.undated? with
    | some fault => .error (.undated fault)
    | none => .ok (.listed path listing)
  | reply => .ok reply

/-- An access whose contents no file can hold. They are refused once the target is known to be no
directory. -/
def refuse (s : Setting) (request : Request) (contents : Text.Wide) : Act Reply := do
  let (target, _) ← target s request
  if ← Act.ask fun world => s.isDirectory target world.tree then throw (.writesDirectory target.name)
  throw (.unencodable contents)

/-- What a demand comes to without the counting. -/
def undertake (s : Setting) (demand : Demand) : Act Reply :=
  match demand.torn? with
  | some contents => refuse s demand.request contents
  | none => do
    let reply ← perform s demand.request
    Act.ask fun _ => dated reply

/-- Answer a demand. -/
def call (s : Setting) (demand : Demand) : Act Reply :=
  counted demand.request (undertake s demand)

end Access

end ConfigGate
