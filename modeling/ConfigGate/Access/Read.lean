import ConfigGate.Access.World

/-! Reading a file in chunks. A file that cannot be opened fails before anything has been sent; after
that a failure can only break the stream off. -/
namespace ConfigGate

/-- An open stream: the path for the log, the number under which it is open, and the number of the
file. -/
structure Stream where
  path : Path
  id : Nat
  file : Nat
deriving DecidableEq, Repr

/-- What a stream has given, and why it broke off if it did. -/
structure Drained where
  chunks : List Bytes
  error : Option SystemError
deriving DecidableEq, Repr

namespace Drained

/-- All bytes that have been read. -/
def bytes (d : Drained) : Bytes := d.chunks.flatten

end Drained

namespace Stream

/-- The number of bytes of a chunk. Only the last chunk may have fewer. -/
def chunkSize : Nat := 65536

/-- The number of the file that a path leads to, if it can be opened for reading. -/
def opened (s : Setting) (p : Path) (tree : Tree) : Except SystemError Nat :=
  match s.faultAt? .openFile with
  | some e => .error e
  | none => (tree.openForReading s.site.working p).mapError (Setting.refusal p)

/-- Take up a file after the attempt to open it. -/
def start (p : Path) (result : Except SystemError Nat) : Act Stream := do
  match result with
  | .error e =>
    Act.log (.openFailed p.text e.message e.record)
    throw .internal
  | .ok file =>
    let world ← get
    let stream : Stream := ⟨p, world.nextStream, file⟩
    set { world with
      streams := (stream.id, file) :: world.streams
      nextStream := world.nextStream + 1 }
    Act.log (.readStarted p.text)
    return stream

/-- Open a file for reading. -/
def ofPath (s : Setting) (p : Path) : Act Stream := do
  if p.hasNul then throw .embeddedNul
  start p (opened s p (← get).tree)

/-- Split bytes into chunks up to the end or to the chunk at which reading fails. The chunks read so
far stand latest first. Every chunk takes some of the bytes, so a fuel of one more than the number
of chunks is enough. -/
def readChunks (s : Setting) : Nat → Nat → Bytes → List Bytes → Drained
  | 0, _, _, found => ⟨found.reverse, none⟩
  | fuel + 1, index, bytes, found =>
    match s.faultAt? (.read index) with
    | some e => ⟨found.reverse, some e⟩
    | none =>
      match bytes.take chunkSize with
      | [] => ⟨found.reverse, none⟩
      | chunk => readChunks s fuel (index + 1) (bytes.drop chunkSize) (chunk :: found)

/-- The chunk after those that have been found, or why it cannot be read. An empty chunk stands for
the end of the file. -/
def chunkAfter (s : Setting) (stream : Stream) (found : List Bytes) (tree : Tree) :
    Except SystemError Bytes :=
  match s.faultAt? (.read found.length) with
  | some e => .error e
  | none =>
    let bytes := ((tree.data? stream.file).map (·.bytes)).getD []
    .ok ((bytes.drop found.flatten.length).take chunkSize)

/-- Close a stream. -/
def close (stream : Stream) : Act Unit :=
  modify fun world => { world with streams := world.streams.filter (·.1 != stream.id) }

/-- Read a stream to its end and close it. A failure is logged, and the chunks before it stand. -/
def drain (s : Setting) (stream : Stream) : Act Drained := do
  let bytes := (((← get).tree.data? stream.file).map (·.bytes)).getD []
  let drained := readChunks s (bytes.length / chunkSize + 2) 0 bytes []
  if let some e := drained.error then
    Act.log (.readFailed stream.path.text e.message e.record)
  stream.close
  return drained

/-- All bytes of a file. -/
def readAll (s : Setting) (p : Path) : Act Bytes := do
  let drained ← (← Stream.ofPath s p).drain s
  match drained.error with
  | some e => throw (.system e)
  | none => return drained.bytes

end Stream

end ConfigGate
