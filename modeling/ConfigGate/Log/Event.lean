import ConfigGate.Json.Value

namespace ConfigGate.Log

open Json (Value)
open Text (Wide)

/-- How important an event is. -/
inductive Severity where
  | debug
  | info
  | warning
  | error
  | critical
  /-- Any number. An event that comes without fields may have one instead of a severity with a name. -/
  | numbered (level : Int)
deriving DecidableEq, Repr

namespace Severity

/-- The name of a severity. A number is named after the severity whose place it is. -/
def name : Severity → String
  | .debug => "debug"
  | .info => "info"
  | .warning => "warning"
  | .error => "error"
  | .critical => "critical"
  | .numbered 0 => "notset"
  | .numbered 10 => "debug"
  | .numbered 20 => "info"
  | .numbered 30 => "warning"
  | .numbered 40 => "error"
  | .numbered 50 => "critical"
  | .numbered level => "level " ++ toString level

/-- The severity that a name stands for. Some severities have two names. -/
def ofName? : String → Option Severity
  | "debug" => some .debug
  | "info" => some .info
  | "msg" => some .info
  | "warning" => some .warning
  | "warn" => some .warning
  | "error" => some .error
  | "critical" => some .critical
  | "fatal" => some .critical
  | _ => none

/-- The place of a severity in the order of importance. Below zero no places are told apart. -/
def rank : Severity → Nat
  | .debug => 10
  | .info => 20
  | .warning => 30
  | .error => 40
  | .critical => 50
  | .numbered level => level.toNat

end Severity

/-- What the service reports about its work. An `error` is the text of what went wrong, and a
`record` the last line of its full account. -/
inductive Event where
  | rootResolved (root : String)
  | rootUnresolved (configDir : String) (package : Option String)
  | packageUnavailable (package error : String)
  | accessRejected (reason file : String)
  | writeFailed (path error record : String)
  | writeSucceeded (path : String) (size : Nat) (strategy : String)
  | openFailed (path error record : String)
  | readStarted (path : String)
  | readFailed (path error record : String)
  | listFailed (path error record : String)
  | lookupHidden (file : String)
  | lookupMissing (file : String)
  | lookupFailed (file error record : String)
  | pushHandled (file : Option String) (mode : String)
  | requestStarted (method path : String) (query : Option Value) (preview : Option Wide)
  | requestFinished (method path : String) (status : Nat) (mediaType : Option String)
  | unhandled (record : String)
  | started (environment : String) (port : Int) (configDir : String) (hiddenFiles : Nat)
  | stopped

namespace Event

def name : Event → String
  | .rootResolved _ => "config_root_resolved"
  | .rootUnresolved _ _ => "config_root_unresolved"
  | .packageUnavailable _ _ => "config_resource_package_unavailable"
  | .accessRejected _ _ => "file_access_rejected"
  | .writeFailed _ _ _ => "file_write_failed"
  | .writeSucceeded _ _ _ => "file_write_succeeded"
  | .openFailed _ _ _ => "file_open_failed"
  | .readStarted _ => "file_read_started"
  | .readFailed _ _ _ => "file_read_failed"
  | .listFailed _ _ _ => "directory_list_failed"
  | .lookupHidden _ => "file_lookup_hidden"
  | .lookupMissing _ => "file_lookup_missing"
  | .lookupFailed _ _ _ => "file_lookup_failed"
  | .pushHandled _ _ => "file_push_handled"
  | .requestStarted _ _ _ _ => "http_request_start"
  | .requestFinished _ _ _ _ => "http_request_finish"
  | .unhandled _ => "unhandled_exception"
  | .started _ _ _ _ => "application_started"
  | .stopped => "application_shutdown"

def severity : Event → Severity
  | .rootUnresolved _ _ => .error
  | .packageUnavailable _ _ => .warning
  | .accessRejected _ _ => .warning
  | .writeFailed _ _ _ => .error
  | .openFailed _ _ _ => .error
  | .readFailed _ _ _ => .error
  | .listFailed _ _ _ => .error
  | .lookupHidden _ => .debug
  | .lookupFailed _ _ _ => .error
  | .unhandled _ => .error
  | _ => .info

/-- A text, or null. -/
def optional : Option Wide → Value
  | some s => .text s
  | none => .null

/-- The fields of an event besides its name and severity. -/
def fields : Event → List (Wide × Value)
  | .rootResolved root => [("config_root", .text root)]
  | .rootUnresolved configDir package =>
    [("config_dir", .text configDir), ("resource_package", optional (package.map .ofText))]
  | .packageUnavailable package error =>
    [("resource_package", .text package), ("error", .text error)]
  | .accessRejected reason file => [("reason", .text reason), ("file", .text file)]
  | .writeFailed path error _ => [("path", .text path), ("error", .text error)]
  | .writeSucceeded path size strategy =>
    [("path", .text path), ("size", .int size), ("strategy", .text strategy)]
  | .openFailed path error _ => [("path", .text path), ("error", .text error)]
  | .readStarted path => [("path", .text path)]
  | .readFailed path error _ => [("path", .text path), ("error", .text error)]
  | .listFailed path error _ => [("path", .text path), ("error", .text error)]
  | .lookupHidden file => [("file", .text file)]
  | .lookupMissing file => [("file", .text file)]
  | .lookupFailed file error _ => [("file", .text file), ("error", .text error)]
  | .pushHandled file mode => [("file", optional (file.map .ofText)), ("mode", .text mode)]
  | .requestStarted method path query preview =>
    [("method", .text method), ("path", .text path), ("query", query.getD .null),
      ("body_preview", optional preview)]
  | .requestFinished method path status mediaType =>
    [("method", .text method), ("path", .text path), ("status_code", .int status),
      ("media_type", optional (mediaType.map .ofText))]
  | .unhandled _ => []
  | .started environment port configDir hiddenFiles =>
    [("env", .text environment), ("port", .int port), ("config_dir", .text configDir),
      ("hidden_files", .int hiddenFiles)]
  | .stopped => []

/-- The last line of the account of what went wrong, for the events that have one. -/
def record? : Event → Option String
  | .writeFailed _ _ record => some record
  | .openFailed _ _ record => some record
  | .readFailed _ _ record => some record
  | .listFailed _ _ record => some record
  | .lookupFailed _ _ record => some record
  | .unhandled record => some record
  | _ => none

end Event

end ConfigGate.Log
