import ConfigGate.Proofs.HiddenNames
import ConfigGate.Proofs.Json.Written
import ConfigGate.Settings.Sources

/-! The spellings of a list of hidden names. The list may be configured as it is, as a JSON text, or with
commas between the names, and it may stand in an argument or in the environment. Each spelling is read, and
all of them hide the same paths. -/
namespace ConfigGate.Settings

open Json (Value)

variable {names : List String} {value : Value} {sources : Sources}

/-- The values that say the same as a list of names. Commas stand between names that have none, and only
where the text does not begin as a list does. -/
inductive Spells (names : List String) : Value → Prop
  | list : Spells names (.list (names.map fun (name : String) => .text name))
  | array {text : String} (h : Json.SpellsList names text.toList) : Spells names (.text text)
  | joined (hComma : ∀ name ∈ names, ',' ∉ name.toList)
      (hStart : startsList (String.intercalate "," names) = false) :
      Spells names (.text (String.intercalate "," names))

/-- The value is what is configured as hidden files: it is the argument, or there is no argument and it is
the text of the environment variable. The case of its name does not matter, and the last one counts. -/
inductive Sources.Supplies (sources : Sources) : Value → Prop
  | argument {value : Value} (h : sources.argument? "hidden_files" = some value) : Supplies sources value
  | environment {before after : List (String × String)} {name text : String}
      (hNone : sources.argument? "hidden_files" = none)
      (hEnvironment : sources.environment = before ++ (name, text) :: after)
      (hName : Text.lower name = Text.lower "PUSHFILE_HIDDEN_FILES")
      (hLast : ∀ entry ∈ after, Text.lower entry.1 ≠ Text.lower "PUSHFILE_HIDDEN_FILES") :
      Supplies sources (.text text)

/-- The settings with other hidden files. -/
def withHiddenFiles (settings : Settings) (files : List String) : Settings :=
  { settings with hiddenFiles := files }

/-- The raw values without that of the hidden files. -/
def withoutHiddenFiles (raw : String → Option Value) (field : String) : Option Value :=
  if field = "hidden_files" then none else raw field

theorem textsFrom_texts (field : String) (index : Nat) (names : List String) :
    textsFrom field index (names.map fun (name : String) => .text name) = .ok names := by
  induction names generalizing index with
  | nil => rfl
  | cons name names ih => simp [textsFrom, textOf, ih]

/-- The blanks of JSON are blanks. -/
theorem isBlank_of_isSeparator {c : Char} (h : Json.isSeparator c) : Text.isBlank c := by
  simp only [Json.isSeparator, Bool.or_eq_true, decide_eq_true_eq] at h
  rcases h with ((rfl | rfl) | rfl) | rfl <;> decide

/-- A JSON text of a list begins as one. -/
theorem startsList_of_spellsList {text : String} (h : Json.SpellsList names text.toList) :
    startsList text := by
  have hStart {before rest : List Char} (hBefore : Json.IsBlank before) :
      ((before ++ '[' :: rest).dropWhile Text.isBlank).head? = some '[' := by
    rw [List.dropWhile_append_of_pos fun c hMem => isBlank_of_isSeparator (hBefore c hMem)]
    rfl
  unfold startsList
  generalize text.toList = chars at h
  cases h with
  | empty hBefore _ _ =>
      rw [List.append_assoc, List.cons_append, hStart hBefore]
      rfl
  | items hBefore _ _ =>
      rw [List.append_assoc, List.cons_append, hStart hBefore]
      rfl

theorem read_of_spellsList {text : String} (h : Json.SpellsList names text.toList) :
    Json.read Json.documentLimits text = .ok (.list (names.map fun (name : String) => .text name)) :=
  Json.readChars_of_spellsList (by decide) h

/-- The pieces between commas are the names. Without names there is one empty piece. -/
theorem splitOn_joined (hComma : ∀ name ∈ names, ',' ∉ name.toList) :
    ((String.intercalate "," names).toList.splitOn ',').map String.ofList =
      if names = [] then [""] else names := by
  rw [String.toList_intercalate, show ",".toList = [','] from rfl]
  split
  · rename_i hNone
    subst hNone
    rfl
  · rename_i hSome
    rw [List.splitOn_intercalate ',' (by simpa using hComma) (by simpa using hSome), List.map_map]
    exact (List.map_congr_left fun name _ => String.ofList_toList).trans (List.map_id names)

/-- Each spelling is read as a list with the same names in it, up to blanks. -/
theorem hiddenFilesOf_of_spells (h : Spells names value) (field : String) :
    ∃ files, hiddenFilesOf field value = .ok files ∧
      (files.map Text.strip).filter (· ≠ "") = (names.map Text.strip).filter (· ≠ "") := by
  cases h with
  | list => exact ⟨names, textsFrom_texts field 0 names, rfl⟩
  | array h =>
      refine ⟨names, ?_, rfl⟩
      simp only [hiddenFilesOf, Text.Wide.text?_ofText, Option.map_some, Option.getD_some, splitHiddenFiles,
        startsList_of_spellsList h, if_true, read_of_spellsList h]
      exact textsFrom_texts field 0 names
  | joined hComma hStart =>
      refine ⟨if names = [] then [""] else names, ?_, ?_⟩
      · rw [← splitOn_joined hComma, ← textsFrom_texts field 0, List.map_map]
        simp [hiddenFilesOf, splitHiddenFiles, hStart, Function.comp_def]
      · split
        · rename_i hNone
          subst hNone
          decide
        · rfl

theorem depthFault_of_spells (h : Spells names value) : depthFault? (some value) = none := by
  cases h with
  | list => rfl
  | array h => simp [depthFault?, read_of_spellsList h]
  | joined _ hStart => simp [depthFault?, hStart]

/-- The verdict on a field: that on its value, or its default. -/
def verdictOn {α : Type} (raw : String → Option Value) (field : String) (check : Value → Checked α)
    (fallback : α) : Checked α :=
  match raw field with
  | some v => check v
  | none => .ok fallback

/-- The settings that the verdicts on the fields give together, or all their problems. -/
def gather (environment : Checked Environment) (port : Checked Int) (logLevel : Checked LogThreshold)
    (logDir configDir resourcePackage : Checked String) (hiddenFiles : Checked (List String))
    (writeStrategy : Checked WriteStrategy) : Checked Settings :=
  match environment, port, logLevel, logDir, configDir, resourcePackage, hiddenFiles, writeStrategy with
  | .ok environment, .ok port, .ok logLevel, .ok logDir, .ok configDir, .ok resourcePackage,
    .ok hiddenFiles, .ok writeStrategy =>
    .ok ⟨environment, port, logLevel, logDir, configDir, resourcePackage, hiddenFiles, writeStrategy⟩
  | environment, port, logLevel, logDir, configDir, resourcePackage, hiddenFiles, writeStrategy =>
    .error (problemsOf environment ++ problemsOf port ++ problemsOf logLevel ++ problemsOf logDir ++
      problemsOf configDir ++ problemsOf resourcePackage ++ problemsOf hiddenFiles ++ problemsOf writeStrategy)

theorem judge_eq (raw : String → Option Value) :
    judge raw = gather
      (verdictOn raw "env" (fun v => atField "env" (choiceOf Environment.all Environment.name v)) default.environment)
      (verdictOn raw "port" (fun v => atField "port" (integerOf v)) default.port)
      (verdictOn raw "log_level" (fun v => atField "log_level" (logLevelOf v)) default.logLevel)
      (verdictOn raw "log_dir" (fun v => atField "log_dir" (textOf v)) default.logDir)
      (verdictOn raw "config_dir" (fun v => atField "config_dir" (configDirOf v)) default.configDir)
      (verdictOn raw "config_resource_package" (fun v => atField "config_resource_package" (textOf v))
        default.resourcePackage)
      (verdictOn raw "hidden_files" (hiddenFilesOf "hidden_files") default.hiddenFiles)
      (verdictOn raw "write_strategy"
        (fun v => atField "write_strategy" (choiceOf WriteStrategy.all WriteStrategy.name v))
        default.writeStrategy) := rfl

/-- Valid hidden files add no problem to those of the other fields. -/
theorem gather_hiddenFiles (environment : Checked Environment) (port : Checked Int) (logLevel : Checked LogThreshold)
    (logDir configDir resourcePackage : Checked String) (files fallback : List String)
    (writeStrategy : Checked WriteStrategy) :
    gather environment port logLevel logDir configDir resourcePackage (.ok files) writeStrategy =
      (gather environment port logLevel logDir configDir resourcePackage (.ok fallback) writeStrategy).map
        (withHiddenFiles · files) := by
  rcases environment with _ | environment
  · rfl
  rcases port with _ | port
  · rfl
  rcases logLevel with _ | logLevel
  · rfl
  rcases logDir with _ | logDir
  · rfl
  rcases configDir with _ | configDir
  · rfl
  rcases resourcePackage with _ | resourcePackage
  · rfl
  rcases writeStrategy with _ | writeStrategy <;> rfl

/-- Hidden files that are read leave the verdict to the other fields. -/
theorem judge_of_hiddenFiles {raw : String → Option Value} {files : List String}
    (hRaw : raw "hidden_files" = some value) (h : hiddenFilesOf "hidden_files" value = .ok files) :
    judge raw = (judge (withoutHiddenFiles raw)).map (withHiddenFiles · files) := by
  have hFiles : verdictOn raw "hidden_files" (hiddenFilesOf "hidden_files") default.hiddenFiles = .ok files := by
    rw [verdictOn, hRaw]
    exact h
  rw [judge_eq raw, hFiles]
  exact gather_hiddenFiles _ _ _ _ _ _ files default.hiddenFiles _

/-- Of the variables whose names spell one name the last is found. -/
theorem lookupVariable_of_last {before after : Dotenv.Scope} {name field text : String}
    (hName : Text.lower name = variablePrefix ++ field)
    (hLast : ∀ entry ∈ after, Text.lower entry.1 ≠ variablePrefix ++ field) :
    lookupVariable (before ++ (name, some text) :: after) field = some (.text text) := by
  unfold lookupVariable
  rw [List.reverse_append, List.reverse_cons, List.append_assoc, List.find?_append,
    List.find?_eq_none.mpr fun entry hMem => by simpa using hLast entry (List.mem_reverse.mp hMem)]
  simp [hName]

/-- What is configured as hidden files is the raw value of the field. -/
theorem raw_of_supplies (h : sources.Supplies value) : sources.raw "hidden_files" = some value := by
  unfold Sources.raw
  cases h with
  | argument h => simp only [h]
  | environment hNone hEnvironment hName hLast =>
      have hVariable : Text.lower "PUSHFILE_HIDDEN_FILES" = variablePrefix ++ "hidden_files" := by decide
      rw [hVariable] at hName hLast
      simp only [hNone, hEnvironment, List.map_append, List.map_cons]
      rw [lookupVariable_of_last hName, Option.some_or]
      intro entry hMem
      obtain ⟨given, hGiven, rfl⟩ := List.mem_map.mp hMem
      exact hLast given hGiven

/-- All spellings of a list hide the same. Loading does not fail for them, and what the service then keeps as
hidden files are the names of the list without the blanks at their ends and without the blank ones, in
order, which hide what the list itself hides. The text that is written for the list is one spelling. -/
theorem hiddenNames_of_spells (names : List String) :
    Spells names (.text (Value.list (names.map fun (name : String) => .text name)).render) ∧
    ∀ sources value, Spells names value → sources.Supplies value →
      (∃ files, load sources = (ofRaw (withoutHiddenFiles sources.raw)).map (withHiddenFiles · files)) ∧
      ∀ settings, load sources = .ok settings →
        settings.hiddenFileNames = (names.map Text.strip).filter (· ≠ "") ∧
        settings.hiddenNames = HiddenNames.ofList names := by
  constructor
  · rw [Json.render_names]
    refine .array ?_
    rw [String.toList_ofList]
    exact Json.spellsList_listChars names
  intro sources value hSpells hSupplies
  obtain ⟨files, hFiles, hKept⟩ := hiddenFilesOf_of_spells hSpells "hidden_files"
  have hRaw := raw_of_supplies hSupplies
  have hLoad : load sources = (ofRaw (withoutHiddenFiles sources.raw)).map (withHiddenFiles · files) := by
    unfold load ofRaw
    rw [hRaw, depthFault_of_spells hSpells, judge_of_hiddenFiles hRaw hFiles]
    change _ = Except.map _ (Except.mapError _ _)
    cases judge (withoutHiddenFiles sources.raw) <;> rfl
  refine ⟨⟨files, hLoad⟩, fun settings hSettings => ?_⟩
  rw [hLoad] at hSettings
  cases hOthers : ofRaw (withoutHiddenFiles sources.raw) with
  | error refusal =>
      rw [hOthers] at hSettings
      cases hSettings
  | ok others =>
      rw [hOthers] at hSettings
      cases hSettings
      have hNames : (others.withHiddenFiles files).hiddenFileNames = (names.map Text.strip).filter (· ≠ "") := hKept
      refine ⟨hNames, ?_⟩
      rw [hiddenNames, hNames, HiddenNames.ofList_trimmed]

/-- A text in the environment with blanks between its signs, and with a character that is written as the
two halves of a surrogate pair. -/
theorem hiddenNames_of_spells_environment :
    let names := ["a,", "😀\"é "]
    let text := "[ \"a,\"\n,\"\\ud83d\\uDE00\\\"\\u00e9 \"]"
    let sources : Sources := ⟨[], [("PUSHFILE_ENV", "staging"), ("pushfile_hidden_files", "b"),
      ("PUSHFILE_HIDDEN_FILES", text)], none⟩
    Spells names (.text text) ∧ sources.Supplies (.text text) ∧
      ∃ settings, load sources = .ok settings ∧ settings.environment = .staging ∧
        settings.hiddenFileNames = ["a,", "😀\"é"] ∧ settings.hiddenNames = HiddenNames.ofList names := by
  intro names text sources
  have hPlain (c : Char) (h : c ≠ '"' ∧ c ≠ '\\' ∧ 0x20 ≤ c.toNat) : Json.SpellsChar c [c] :=
    .plain h.1 h.2.1 h.2.2
  have hPair : Json.SpellsChar '😀' ['\\', 'u', 'd', '8', '3', 'd', '\\', 'u', 'D', 'E', '0', '0'] :=
    @Json.SpellsChar.pair 'd' '8' '3' 'd' 'D' 'E' '0' '0' 0xD83D 0xDE00 (by decide) (by decide) (by decide)
      (by decide)
  have hUnit : Json.SpellsChar 'é' ['\\', 'u', '0', '0', 'e', '9'] :=
    @Json.SpellsChar.unit '0' '0' 'e' '9' 0xE9 (by decide) (by decide) (by decide)
  have hQuote : Json.SpellsChar '"' ['\\', '"'] := .short rfl
  have hFirst : Json.SpellsText "a," _ :=
    .quoted (.cons (hPlain 'a' (by decide)) (.cons (hPlain ',' (by decide)) .nil))
  have hSecond : Json.SpellsText "😀\"é " _ :=
    .quoted (.cons hPair (.cons hQuote (.cons hUnit (.cons (hPlain ' ' (by decide)) .nil))))
  have hSpace : Json.IsBlank [' '] := by simp [Json.IsBlank, Json.isSeparator]
  have hLine : Json.IsBlank ['\n'] := by simp [Json.IsBlank, Json.isSeparator]
  have hItems := Json.SpellsItems.next hSpace hFirst hLine (.last Json.isBlank_nil hSecond Json.isBlank_nil)
  have hList := Json.SpellsList.items Json.isBlank_nil hItems Json.isBlank_nil
  have hSpells : Spells names (.text text) := .array (by simpa [text] using hList)
  have hSupplies : sources.Supplies (.text text) :=
    @Sources.Supplies.environment sources [("PUSHFILE_ENV", "staging"), ("pushfile_hidden_files", "b")] []
      "PUSHFILE_HIDDEN_FILES" text rfl rfl rfl (by simp)
  obtain ⟨⟨files, hLoad⟩, hNames⟩ := (hiddenNames_of_spells names).2 sources _ hSpells hSupplies
  have hOthers : ofRaw (withoutHiddenFiles sources.raw) = .ok { default with environment := .staging } := rfl
  rw [hOthers] at hLoad
  obtain ⟨hFiles, hHidden⟩ := hNames _ hLoad
  exact ⟨hSpells, hSupplies, _, hLoad, rfl, hFiles.trans (by decide), hHidden⟩

end ConfigGate.Settings
