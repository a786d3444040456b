import ConfigGate.Trace.Hex

/-! The header that carries a trace from one service to the next: version, trace id, span id and
flags, joined by hyphens. -/
namespace ConfigGate.Trace

/-- The number of digits of a trace id. -/
def traceIdLength : Nat := 32

/-- The number of digits of a span id. -/
def spanIdLength : Nat := 16

/-- The trace id of a header. A header that is not of the right shape carries none, so that a new
trace begins. Version and flags may be anything. -/
def parentTraceId (header : String) : Option String :=
  match (Text.trimWhile Text.isBlank header.toList).splitOn '-' with
  | [_, traceId, spanId, _] =>
    let traceId := String.ofList traceId
    let spanId := String.ofList spanId
    if isHex traceId traceIdLength && isHex spanId spanIdLength then some traceId else none
  | _ => none

/-- The header for a trace and a span. -/
def parentHeader (traceId spanId : String) (sampled : Bool) : String :=
  "00-" ++ traceId ++ "-" ++ spanId ++ (if sampled then "-01" else "-00")

end ConfigGate.Trace
