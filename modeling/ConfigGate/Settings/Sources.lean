import ConfigGate.Settings.Dotenv
import ConfigGate.Settings.Validation

namespace ConfigGate.Settings

open Json (Value)

/-- Where settings come from: arguments, environment variables, and the file of environment
variables in the working directory, if there is one. -/
structure Sources where
  arguments : List (String × Value)
  environment : List (String × String)
  dotenv : Option String

/-- The start of the names of environment variables that are meant for this service. -/
def variablePrefix : String := "pushfile_"

/-- The value of a variable whatever the case of its name. Of several spellings the last counts. -/
def lookupVariable (scope : Dotenv.Scope) (field : String) : Option Value :=
  match scope.reverse.find? fun (k, _) => Text.lower k == variablePrefix ++ field with
  | some (_, some value) => some (.text value)
  | _ => none

/-- The argument for a field: the first one whose name is that of the field whatever its case. -/
def Sources.argument? (sources : Sources) (field : String) : Option Value :=
  (sources.arguments.find? fun (k, _) => Text.lower k == field).map (·.2)

/-- The raw value of a field. Arguments go before the environment, and the environment before the
file. Names count whatever their case. -/
def Sources.raw (sources : Sources) (field : String) : Option Value :=
  let scope : Dotenv.Scope := sources.environment.map fun (k, v) => (k, some v)
  let file := (sources.dotenv.map (Dotenv.read sources.environment)).getD []
  match sources.argument? field with
  | some v => some v
  | none => (lookupVariable scope field).or (lookupVariable file field)

/-- The settings that the sources give. -/
def load (sources : Sources) : Except Refusal Settings :=
  ofRaw sources.raw

/-- The settings of a process, once they have been loaded. -/
structure Cache where
  loaded : Option Settings

/-- Nothing has been loaded. -/
def Cache.empty : Cache := ⟨none⟩

/-- The settings of the process. The first ones that load are kept; a failure is not. -/
def Cache.get (cache : Cache) (sources : Sources) : Except Refusal Settings × Cache :=
  match cache.loaded with
  | some settings => (.ok settings, cache)
  | none =>
    match load sources with
    | .ok settings => (.ok settings, ⟨some settings⟩)
    | .error refusal => (.error refusal, cache)

end ConfigGate.Settings
