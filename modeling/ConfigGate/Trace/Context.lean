import ConfigGate.Json.Value
import ConfigGate.Text.Quoted

namespace ConfigGate.Trace

/-- A source of new identifiers. It numbers them, so no two identifiers of one kind are equal until
the digits run out. -/
structure IdSource where
  issued : Nat
deriving DecidableEq, Repr

/-- The number `n` in small hexadecimal digits, exactly as many as `width`. -/
def hexId (width n : Nat) : String :=
  String.ofList (Text.hexPadded width (n % Nat.pow 16 width))

/-- The number `n` in the form of a random UUID. -/
def uuid (n : Nat) : String :=
  "00000000-0000-4000-8000-" ++ hexId 12 n

/-- The identifiers that the events of one request carry. An empty text means that none is set. -/
structure Context where
  requestId : String
  traceId : String
  spanId : String
deriving DecidableEq, Repr

/-- No identifier is set. -/
def Context.unset : Context := ⟨"", "", ""⟩

/-- The given text, or else a new identifier. An empty text counts as not given. -/
def orNew (given : Option String) (make : Nat → String) (ids : IdSource) : String × IdSource :=
  match given with
  | some text => if text = "" then (make ids.issued, ⟨ids.issued + 1⟩) else (text, ids)
  | none => (make ids.issued, ⟨ids.issued + 1⟩)

/-- Enter a trace. Identifiers that are not given are new ones. -/
def Context.enterTrace (context : Context) (traceId spanId : Option String) (ids : IdSource) :
    Context × IdSource :=
  let (traceId, ids) := orNew traceId (hexId 32) ids
  let (spanId, ids) := orNew spanId (hexId 16) ids
  ({ context with traceId, spanId }, ids)

/-- Enter a request. -/
def Context.enterRequest (context : Context) (requestId : Option String) (ids : IdSource) :
    Context × IdSource :=
  let (requestId, ids) := orNew requestId uuid ids
  ({ context with requestId }, ids)

/-- Set a field to an identifier, unless the identifier is not set. -/
def stamp (key id : String) (fields : List (Text.Wide × Json.Value)) : List (Text.Wide × Json.Value) :=
  if id = "" then fields else Keyed.assign (key : Text.Wide) (.text id) fields

/-- The fields of an event with the identifiers of the request. They replace fields of the same
name. -/
def Context.annotate (context : Context) (fields : List (Text.Wide × Json.Value)) :
    List (Text.Wide × Json.Value) :=
  stamp "span_id" context.spanId
    (stamp "trace_id" context.traceId (stamp "request_id" context.requestId fields))

end ConfigGate.Trace
