import ConfigGate.Access.Concurrent

/-! What the clients of the service see. A client sends one request and, if it is answered with a
stream, takes the stream chunk by chunk. Other calls may run between any two chunks. -/
namespace ConfigGate

/-- What a client has got in the end. -/
inductive Answer where
  | received (path : Path) (drained : Drained)
  | written (path : Path) (text : String)
  | listed (path : Path) (listing : Listing)
  | failed (failure : Failure)
deriving DecidableEq, Repr

/-- How far a client has come. The chunks that it has received stand latest first. -/
inductive Client where
  | calling (call : Call)
  | receiving (stream : Stream) (found : List Bytes)
  | served (answer : Answer)

namespace Client

/-- The call of the client has not begun. -/
def isReady : Client → Bool
  | .calling (.ready _) => true
  | _ => false

/-- The call of the client is over. Its stream, if it has one, may still be read. -/
def hasReturned : Client → Bool
  | .calling _ => false
  | _ => true

def isServed : Client → Bool
  | .served _ => true
  | _ => false

/-- A client whose call is over goes on with its stream. -/
def ofCall : Call → Client
  | .finished (.ok (.read _ stream)) => .receiving stream []
  | .finished (.ok (.written path text)) => .served (.written path text)
  | .finished (.ok (.listed path listing)) => .served (.listed path listing)
  | .finished (.error failure) => .served (.failed failure)
  | call => .calling call

/-- The end of a stream. -/
def finish (stream : Stream) (drained : Drained) (world : World) : Client × World :=
  (.served (.received stream.path drained), (Act.attempt stream.close world).2)

/-- Take the next chunk of a stream. -/
def receive (s : Setting) (stream : Stream) (found : List Bytes) (world : World) : Client × World :=
  match stream.chunkAfter s found world.tree with
  | .error e =>
    finish stream ⟨found.reverse, some e⟩
      (world.log (.readFailed stream.path.text e.message e.record))
  | .ok [] => finish stream ⟨found.reverse, none⟩ world
  | .ok chunk => (.receiving stream (chunk :: found), world)

/-- Let the call run up to its next waiting point, or take the next chunk. -/
def step (s : Setting) (me : Nat) (client : Client) (world : World) : Client × World :=
  match client with
  | .calling call =>
    let (call, world) := call.step s me world
    (ofCall call, world)
  | .receiving stream found => receive s stream found world
  | .served answer => (.served answer, world)

end Client

/-- Clients that are served at the same time. -/
structure Clients where
  clients : List Client
  world : World

namespace Clients

/-- No call has begun. -/
def ofRequests (requests : List Request) (world : World) : Clients :=
  ⟨requests.map fun request => .calling (.ready request), world⟩

/-- Let one client go one step further. -/
def step (s : Setting) (pool : Clients) (i : Nat) : Clients :=
  match pool.clients[i]? with
  | none => pool
  | some client =>
    let (client, world) := client.step s i pool.world
    ⟨pool.clients.set i client, world⟩

/-- Let the clients go on in the order of a schedule. -/
def run (s : Setting) (pool : Clients) (schedule : List Nat) : Clients :=
  schedule.foldl (step s) pool

/-- Everyone has been served. -/
def areServed (pool : Clients) : Bool :=
  pool.clients.all (·.isServed)

end Clients

namespace Access

/-- Serve one client with nobody in between. -/
def serve (s : Setting) (request : Request) (world : World) : Answer × World :=
  match Act.attempt (handle s request) world with
  | (.error failure, world) => (.failed failure, world)
  | (.ok (.written path text), world) => (.written path text, world)
  | (.ok (.listed path listing), world) => (.listed path listing, world)
  | (.ok (.read path stream), world) =>
    match Act.attempt (stream.drain s) world with
    | (.error failure, world) => (.failed failure, world)
    | (.ok drained, world) => (.received path drained, world)

/-- Serve one client after the other. -/
def serveAll (s : Setting) : List Request → World → List Answer × World
  | [], world => ([], world)
  | request :: rest, world =>
    let (answer, world) := serve s request world
    let (answers, world) := serveAll s rest world
    (answer :: answers, world)

end Access

end ConfigGate
