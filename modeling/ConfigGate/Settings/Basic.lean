import ConfigGate.HiddenNames
import ConfigGate.PropertyBag

namespace ConfigGate

/-- Where the service runs. -/
inductive Environment where
  | development
  | staging
  | production
deriving DecidableEq, Repr

namespace Environment

def name : Environment → String
  | .development => "development"
  | .staging => "staging"
  | .production => "production"

def all : List Environment := [.development, .staging, .production]

end Environment

/-- How the contents of a file are replaced: by renaming a complete new file over it, or in place. -/
inductive WriteStrategy where
  | atomic
  | overwrite
deriving DecidableEq, Repr

namespace WriteStrategy

def name : WriteStrategy → String
  | .atomic => "atomic"
  | .overwrite => "overwrite"

def all : List WriteStrategy := [.atomic, .overwrite]

end WriteStrategy

/-- The levels that logging may be set to. -/
inductive LogThreshold where
  | debug
  | info
  | warning
  | error
deriving DecidableEq, Repr

namespace LogThreshold

def name : LogThreshold → String
  | .debug => "DEBUG"
  | .info => "INFO"
  | .warning => "WARNING"
  | .error => "ERROR"

def all : List LogThreshold := [.debug, .info, .warning, .error]

end LogThreshold

/-- The configuration of the service. -/
structure Settings where
  environment : Environment
  port : Int
  logLevel : LogThreshold
  logDir : String
  /-- The directory that all accessible files lie in. -/
  configDir : String
  /-- The package that is searched for `configDir` if there is no such directory on disk. The empty
  name stands for none. -/
  resourcePackage : String
  /-- The names of files that must not be accessed, as configured. -/
  hiddenFiles : List String
  writeStrategy : WriteStrategy
deriving Repr

namespace Settings

/-- The version of the service. -/
def version : String := "0.1.0"

/-- What holds where nothing is configured. -/
def default : Settings where
  environment := .development
  port := 8072
  logLevel := .info
  logDir := "./logs"
  configDir := "conf"
  resourcePackage := "pushfile.resources"
  hiddenFiles := []
  writeStrategy := .atomic

/-- The configured names of hidden files, each trimmed, without the blank ones. -/
def hiddenFileNames (settings : Settings) : List String :=
  (settings.hiddenFiles.map Text.strip).filter (· ≠ "")

def hiddenNames (settings : Settings) : HiddenNames :=
  HiddenNames.ofList settings.hiddenFileNames

def isProduction (settings : Settings) : Bool :=
  settings.environment == .production

/-- What a node reports about itself. -/
def nodeProperties (settings : Settings) : PropertyBag :=
  PropertyBag.ofPairs [
    ("env", settings.environment.name),
    ("port", toString settings.port),
    ("version", version),
    ("write_strategy", settings.writeStrategy.name)]

end Settings

end ConfigGate
