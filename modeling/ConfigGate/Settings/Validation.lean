import ConfigGate.Settings.Basic
import ConfigGate.Settings.Integer

/-! Settings from raw values. Every field is judged on its own, so that all problems of a
configuration are reported at once, in the order of the fields. -/
namespace ConfigGate.Settings

open Json (Value)

/-- The names of the fields in their order. -/
def fieldNames : List String :=
  ["env", "port", "log_level", "log_dir", "config_dir", "config_resource_package", "hidden_files",
    "write_strategy"]

/-- A field is valid, or has problems. -/
abbrev Checked (α : Type) := Except (List Problem) α

/-- The verdict on a whole value, as a verdict on the field that holds it. -/
def atField {α : Type} (field : String) : Except Cause α → Checked α
  | .ok a => .ok a
  | .error cause => .error [⟨[.name field], cause⟩]

def textOf : Value → Except Cause String
  | .text s => (s.text?.map .ok).getD (.error .notUnicode)
  | _ => .error .notText

/-- The alternative whose name is the value. -/
def choiceOf {α : Type} (all : List α) (name : α → String) (v : Value) : Except Cause α :=
  match textOf v with
  | .ok s =>
    match all.find? (name · == s) with
    | some a => .ok a
    | none => .error (.notOneOf (all.map name))
  | .error .notUnicode => .error .notUnicode
  | .error _ => .error (.notOneOf (all.map name))

/-- The log level that a value names in whatever case. -/
def logLevelOf (v : Value) : Except Cause LogThreshold :=
  match textOf v with
  | .error cause => .error cause
  | .ok s =>
    match LogThreshold.all.find? (·.name == Text.upper s) with
    | some level => .ok level
    | none =>
      let names := LogThreshold.all.map fun level => "'" ++ level.name ++ "'"
      .error (.refused ("log_level must be one of (" ++ String.intercalate ", " names ++ ")"))

/-- The directory that a value names. Blanks at its ends do not belong to it. -/
def configDirOf (v : Value) : Except Cause String :=
  match textOf v with
  | .error cause => .error cause
  | .ok s =>
    if Text.allBlank s then .error (.refused "config_dir must not be empty")
    else .ok (Text.strip s)

/-- The first character after blanks is a bracket. -/
def startsList (s : String) : Bool :=
  (s.toList.dropWhile Text.isBlank).head? = some '['

/-- Read the list of hidden files that a text stands for: a JSON list if it starts as one, and else
names with commas between them. -/
def splitHiddenFiles (s : String) : Except Cause Value :=
  if startsList s then
    match Json.read Json.documentLimits s with
    | .ok document => .ok document
    | .error failure => .error (.refused (failure.describe s))
  else
    .ok (.list ((s.toList.splitOn ',').map fun part => .text (String.ofList part)))

/-- The texts of a list, or the places in it, counted from `index`, where none stands. -/
def textsFrom (field : String) : Nat → List Value → Checked (List String)
  | _, [] => .ok []
  | index, v :: rest =>
    match textOf v, textsFrom field (index + 1) rest with
    | .ok s, .ok found => .ok (s :: found)
    | .ok _, .error problems => .error problems
    | .error cause, .ok _ => .error [⟨[.name field, .index index], cause⟩]
    | .error cause, .error problems => .error (⟨[.name field, .index index], cause⟩ :: problems)

/-- The names of hidden files that a value stands for. -/
def hiddenFilesOf (field : String) (v : Value) : Checked (List String) :=
  let listed : Except Cause Value := match v with
    | .text s => (s.text?.map splitHiddenFiles).getD (.error .notUnicode)
    | v => .ok v
  match listed with
  | .error cause => .error [⟨[.name field], cause⟩]
  | .ok (.list items) => textsFrom field 0 items
  | .ok _ => .error [⟨[.name field], .notList⟩]

/-- The problems of a field. -/
def problemsOf {α : Type} : Checked α → List Problem
  | .ok _ => []
  | .error problems => problems

/-- The fault of the document that names the hidden files, if it is nested too deeply to be read. -/
def depthFault? (raw : Option Value) : Option Json.Fault :=
  match raw with
  | some (.text wide) => do
    let s ← wide.text?
    if startsList s then
      match Json.read Json.documentLimits s with
      | .error failure => if failure.fault.isDepth then some failure.fault else none
      | .ok _ => none
    else none
  | _ => none

/-- The settings for the given raw values, each judged on its own. A field without a value has its
default. -/
def judge (raw : String → Option Value) : Checked Settings :=
  let field {α : Type} (name : String) (check : Value → Checked α) (fallback : α) : Checked α :=
    match raw name with
    | some v => check v
    | none => .ok fallback
  let environment := field "env"
    (fun v => atField "env" (choiceOf Environment.all Environment.name v)) default.environment
  let port := field "port" (fun v => atField "port" (integerOf v)) default.port
  let logLevel := field "log_level" (fun v => atField "log_level" (logLevelOf v)) default.logLevel
  let logDir := field "log_dir" (fun v => atField "log_dir" (textOf v)) default.logDir
  let configDir := field "config_dir" (fun v => atField "config_dir" (configDirOf v))
    default.configDir
  let resourcePackage := field "config_resource_package"
    (fun v => atField "config_resource_package" (textOf v)) default.resourcePackage
  let hiddenFiles := field "hidden_files" (hiddenFilesOf "hidden_files") default.hiddenFiles
  let writeStrategy := field "write_strategy"
    (fun v => atField "write_strategy" (choiceOf WriteStrategy.all WriteStrategy.name v))
    default.writeStrategy
  match environment, port, logLevel, logDir, configDir, resourcePackage, hiddenFiles,
    writeStrategy with
  | .ok environment, .ok port, .ok logLevel, .ok logDir, .ok configDir, .ok resourcePackage,
    .ok hiddenFiles, .ok writeStrategy =>
    .ok ⟨environment, port, logLevel, logDir, configDir, resourcePackage, hiddenFiles,
      writeStrategy⟩
  | environment, port, logLevel, logDir, configDir, resourcePackage, hiddenFiles, writeStrategy =>
    .error (problemsOf environment ++ problemsOf port ++ problemsOf logLevel ++
      problemsOf logDir ++ problemsOf configDir ++ problemsOf resourcePackage ++
      problemsOf hiddenFiles ++ problemsOf writeStrategy)

/-- The settings for the given raw values. -/
def ofRaw (raw : String → Option Value) : Except Refusal Settings :=
  match depthFault? (raw "hidden_files") with
  | some fault => .error (.unreadable fault)
  | none => (judge raw).mapError .problems

end ConfigGate.Settings
