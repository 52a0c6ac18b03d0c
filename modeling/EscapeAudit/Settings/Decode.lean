import EscapeAudit.FileTree
import EscapeAudit.Settings.Basic
import EscapeAudit.Toml.Document

/-!
# Reading settings

Settings come as a table of sections.  Every section and every key may be missing, and then the
default holds.  A key that is not known is skipped, and a value of the wrong sort refuses the
whole.

A section may also be written as a list of its values in a fixed order.
-/

namespace EscapeAudit

namespace Datum

/-- The named values of a section whose keys have the given order. -/
def fields? (order : List String) : Datum → Option (List (String × Datum))
  | table fields => some fields
  | list items => some (order.zip items)
  | date => some []
  | _ => none

/-- A choice between yes and no. -/
def flag? : Datum → Option Bool
  | flag b => some b
  | _ => none

/-- A text. -/
def text? : Datum → Option String
  | text s => some s
  | _ => none

/-- A list of texts. -/
def texts? : Datum → Option (List String)
  | list items => items.mapM text?
  | _ => none

/-- Whether a value is an empty list or an empty table. -/
def isEmpty : Datum → Bool
  | list items => items.isEmpty
  | table fields => fields.isEmpty
  | _ => false

/-- The level with a name. -/
def levelOfName? (name : String) : Option Level :=
  [Level.error, .warning, .info, .debug].find? fun level => level.settingName == name

/-- A level by its name.  The name may stand alone, or as the only key of a table over an empty
value. -/
def level? : Datum → Option Level
  | text name => levelOfName? name
  | table [(name, inner)] => if inner.isEmpty then levelOfName? name else none
  | _ => none

/-- A key of a section, or the default if it is missing. -/
def key? {α : Type} (fields : List (String × Datum)) (name : String) (read : Datum → Option α)
    (default : α) : Option α :=
  match fields.lookup name with
  | some d => read d
  | none => some default

end Datum

namespace Settings

open Datum

/-- Reads the section about loading. -/
def readLoad (default : LoadSettings) (d : Datum) : Option LoadSettings := do
  let fields ← d.fields? ["require_phtml_extension", "enable_performance_logging"]
  return {
    requireExtension := ← key? fields "require_phtml_extension" flag? default.requireExtension
    logPerformance := ← key? fields "enable_performance_logging" flag? default.logPerformance }

/-- Reads the section about cutting into tokens. -/
def readLex (default : LexSettings) (d : Datum) : Option LexSettings := do
  let fields ← d.fields? ["collect_detailed_metrics", "include_position_in_errors"]
  return {
    detailedMetrics := ← key? fields "collect_detailed_metrics" flag? default.detailedMetrics
    positionsInErrors :=
      ← key? fields "include_position_in_errors" flag? default.positionsInErrors }

/-- Reads the section about the rules that run. -/
def readAnalysis (default : AnalysisSettings) (d : Datum) : Option AnalysisSettings := do
  let fields ← d.fields? ["enable_unescaped_output", "enable_legacy_escape", "apply_fixes"]
  return {
    unescapedOutput := ← key? fields "enable_unescaped_output" flag? default.unescapedOutput
    legacyEscape := ← key? fields "enable_legacy_escape" flag? default.legacyEscape
    applyFixes := ← key? fields "apply_fixes" flag? default.applyFixes }

/-- Reads the section about the journal. -/
def readLog (default : LogSettings) (d : Datum) : Option LogSettings := do
  let fields ← d.fields?
    ["use_structured_logging", "enable_console_logging", "min_log_level", "log_performance_events",
     "enable_cargo_style_output", "include_file_context"]
  return {
    structured := ← key? fields "use_structured_logging" flag? default.structured
    console := ← key? fields "enable_console_logging" flag? default.console
    leastLevel := ← key? fields "min_log_level" level? default.leastLevel
    performance := ← key? fields "log_performance_events" flag? default.performance
    compilerStyle := ← key? fields "enable_cargo_style_output" flag? default.compilerStyle
    fileContext := ← key? fields "include_file_context" flag? default.fileContext }

/-- Reads the tables of the rules. -/
def readRules (default : RuleSet) (d : Datum) : Option RuleSet := do
  let fields ← d.fields?
    ["allowed_methods", "method_name_contains", "allowed_functions", "allowed_annotations",
     "url_attribute_names", "legacy_escape_methods", "escaper_accessor"]
  return {
    allowedMethods := ← key? fields "allowed_methods" texts? default.allowedMethods
    methodNameContains := ← key? fields "method_name_contains" text? default.methodNameContains
    allowedFunctions := ← key? fields "allowed_functions" texts? default.allowedFunctions
    allowedAnnotations := ← key? fields "allowed_annotations" texts? default.allowedAnnotations
    urlAttributeNames := ← key? fields "url_attribute_names" texts? default.urlAttributeNames
    legacyEscapeMethods :=
      ← key? fields "legacy_escape_methods" texts? default.legacyEscapeMethods
    escaperAccessor := ← key? fields "escaper_accessor" text? default.escaperAccessor }

/-- Reads all settings. -/
def ofDatum? (default : Settings) (d : Datum) : Option Settings := do
  let fields ← d.fields? ["file_processor", "lexical", "analysis", "logging", "rules"]
  return {
    load := ← key? fields "file_processor" (readLoad default.load) default.load
    lex := ← key? fields "lexical" (readLex default.lex) default.lex
    analysis := ← key? fields "analysis" (readAnalysis default.analysis) default.analysis
    log := ← key? fields "logging" (readLog default.log) default.log
    rules := ← key? fields "rules" (readRules default.rules) default.rules }

/-- Reads the text of a settings file. -/
def parse? (env : Environment) (text : String) : Option Settings :=
  (Toml.parse? text).bind (ofDatum? (.default env))

end Settings

/-- Why a settings file cannot be used. -/
inductive SettingsError where
  /-- It cannot be read. -/
  | unreadable (path : String) (fault : FileFault)
  /-- Its text is refused. -/
  | invalid (path : String)
  deriving DecidableEq, Repr

namespace SettingsError

/-- The code of an error. -/
def code : SettingsError → Code
  | unreadable .. => .settingsUnreadable
  | invalid _ => .settingsInvalid

/-- The text of an error. -/
def message : SettingsError → String
  | unreadable path fault => s!"Failed to read configuration file '{path}': {fault.message}"
  | invalid path => s!"Invalid configuration in '{path}': not a valid settings file"

end SettingsError

/-- Reads the settings file at a path. -/
def FileTree.loadSettings (tree : FileTree) (env : Environment) (p : Path) :
    Except SettingsError Settings :=
  match tree.readText p with
  | .error fault => .error (.unreadable p.text fault)
  | .ok text =>
    match Settings.parse? env text with
    | some settings => .ok settings
    | none => .error (.invalid p.text)

end EscapeAudit
