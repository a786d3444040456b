import ConfigGate.Json.Writer
import ConfigGate.Log.Event
import ConfigGate.Text.Case
import ConfigGate.Trace.Context

/-! The journal keeps events as lines of two files: one for all events that are important enough, and
one for errors alone. Setting it up again replaces what was set up before, so that no event is
written twice. -/
namespace ConfigGate.Log

open Json (Value)
open Text (Wide)

/-- The channel from which all channels of the journal descend. -/
def rootChannel : String := "pushfile"

/-- What a channel reports at one moment. -/
structure Entry where
  channel : String
  severity : Severity
  name : Wide
  fields : List (Wide × Value)
  /-- The last line of the account of what went wrong. -/
  record : Option Wide
  /-- The identifiers that were set at that moment. -/
  context : Trace.Context
  /-- The entry comes with fields. Such entries pass a filter of their own before those that all
  entries pass. -/
  isStructured : Bool

namespace Entry

/-- An event of the service as an entry. -/
def ofEvent (context : Trace.Context) (event : Event) : Entry where
  channel := rootChannel
  severity := event.severity
  name := event.name
  fields := event.fields
  record := event.record?.map .ofText
  context := context
  isStructured := true

/-- The line of an entry without its time stamp. The identifiers, the severity and the time stamp
replace fields of the same name. -/
def line (entry : Entry) : Value :=
  let fields := entry.fields.filter (·.1 != ("timestamp" : Wide))
  let fields := entry.context.annotate (Keyed.assign ("event" : Wide) (.text entry.name) fields)
  let fields := Keyed.assign ("level" : Wide) (.text entry.severity.name) fields
  .object (match entry.record with
    | some record => Keyed.assign ("exception" : Wide) (.text record) fields
    | none => fields)

/-- The line can be encoded. -/
def isWhole (entry : Entry) : Bool :=
  entry.line.render.isWhole

end Entry

/-- The least severity that a threshold of this name lets through, as a rank. Unknown names stand for
`info`. -/
def thresholdRank (name : String) : Nat :=
  match Text.upper name with
  | "NOTSET" => 0
  | "DEBUG" => Severity.debug.rank
  | "WARNING" => Severity.warning.rank
  | "WARN" => Severity.warning.rank
  | "ERROR" => Severity.error.rank
  | "CRITICAL" => Severity.critical.rank
  | "FATAL" => Severity.critical.rank
  | _ => Severity.info.rank

/-- A file of the journal. A new one is begun every hour, and the old ones are kept for some hours. -/
structure JournalFile where
  name : String
  threshold : Nat
  hoursKept : Nat
deriving DecidableEq, Repr

namespace JournalFile

/-- The file that holds all events. -/
def allEvents (threshold : Nat) : JournalFile := ⟨"app.log", threshold, 24 * 7⟩

/-- The file that holds errors. -/
def errors : JournalFile := ⟨"error.log", Severity.error.rank, 24 * 30⟩

/-- How long one file is written to, in seconds. -/
def period : Nat := 3600

def takes (file : JournalFile) (entry : Entry) : Bool :=
  file.threshold ≤ entry.severity.rank

end JournalFile

structure Journal where
  /-- The rank that entries must have. Zero leaves the choice to the channels above. -/
  threshold : Nat
  files : List JournalFile
  /-- The lines so far, each with the name of its file, in the order in which they were written. -/
  lines : List (String × Value)

namespace Journal

/-- Before the journal is set up nothing is written to it. -/
def closed : Journal := ⟨0, [], []⟩

/-- Set the journal up. The lines that it has already stay. -/
def configure (journal : Journal) (threshold : Nat) : Journal :=
  { journal with threshold, files := [.allEvents threshold, .errors] }

/-- The channel is the root channel or below it. -/
def hears (channel : String) : Bool :=
  channel == rootChannel || (rootChannel ++ ".").isPrefixOf channel

/-- The rank that the channels ask for. Where they ask for none, warnings pass. -/
def channelThreshold (journal : Journal) : Nat :=
  if journal.threshold = 0 then Severity.warning.rank else journal.threshold

/-- The entry gets as far as the files. -/
def admits (journal : Journal) (entry : Entry) : Bool :=
  hears entry.channel && (! entry.isStructured || journal.threshold ≤ entry.severity.rank)
    && journal.channelThreshold ≤ entry.severity.rank

/-- Write an entry to every file that takes it. An entry is lost if a lone half of a surrogate pair stands
somewhere in its line, since the files are encoded. -/
def write (journal : Journal) (entry : Entry) : Journal :=
  if journal.admits entry && entry.isWhole then
    { journal with
      lines := journal.lines ++
        (journal.files.filter (·.takes entry)).map fun file => (file.name, entry.line) }
  else journal

/-- Write entries in their order. -/
def writeAll (journal : Journal) (entries : List Entry) : Journal :=
  entries.foldl write journal

/-- The lines of one file. -/
def linesOf (journal : Journal) (file : String) : List Value :=
  (journal.lines.filter (·.1 == file)).map (·.2)

end Journal

end ConfigGate.Log
