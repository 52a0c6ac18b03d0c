import EscapeAudit.Event.Basic
import EscapeAudit.RuleSet

/-!
# Settings

What a user can choose.  Every choice has a default, and most defaults can be set by an environment
variable.  A variable for a choice between yes and no holds exactly `true` or `false`, and any other
text leaves the default.
-/

namespace EscapeAudit

/-- The values of the environment variables. -/
abbrev Environment := String → Option String

/-- The choice that a variable makes. -/
def Environment.flag (env : Environment) (name : String) (default : Bool) : Bool :=
  match env name with
  | some "true" => true
  | some "false" => false
  | _ => default

/-- How templates are loaded. -/
structure LoadSettings where
  /-- Refuse files without the template extension. -/
  requireExtension : Bool
  /-- Note the time and the size of each file. -/
  logPerformance : Bool
  deriving DecidableEq, Repr

/-- How templates are cut into tokens. -/
structure LexSettings where
  /-- Note the counts of tokens. -/
  detailedMetrics : Bool
  /-- Give the place of a fault. -/
  positionsInErrors : Bool
  deriving DecidableEq, Repr

/-- Which rules run. -/
structure AnalysisSettings where
  /-- Look for output that is not escaped. -/
  unescapedOutput : Bool
  /-- Look for escaping through the block. -/
  legacyEscape : Bool
  /-- Make the fixed text. -/
  applyFixes : Bool
  deriving DecidableEq, Repr

/-- What the journal keeps and shows. -/
structure LogSettings where
  /-- Write events as JSON objects. -/
  structured : Bool
  /-- Write events at all. -/
  console : Bool
  /-- The quietest level that is written. -/
  leastLevel : Level
  /-- Keep events about time. -/
  performance : Bool
  /-- Show the collected events when a file failed. -/
  compilerStyle : Bool
  /-- Name the current file in the context of an event. -/
  fileContext : Bool
  deriving DecidableEq, Repr

/-- All settings. -/
structure Settings where
  /-- How templates are loaded. -/
  load : LoadSettings
  /-- How they are cut into tokens. -/
  lex : LexSettings
  /-- Which rules run. -/
  analysis : AnalysisSettings
  /-- What the journal keeps and shows. -/
  log : LogSettings
  /-- The tables of the rules. -/
  rules : RuleSet
  deriving DecidableEq, Repr

/-- The name of a level in the settings. -/
def Level.settingName : Level → String
  | .error => "error"
  | .warning => "warning"
  | .info => "info"
  | .debug => "debug"

/-- The level that a name or a digit stands for.  Case does not matter. -/
def Level.parse? (text : String) : Option Level :=
  let lower := Text.lowercase text
  if lower == "error" || lower == "0" then some .error
  else if lower == "warning" || lower == "warn" || lower == "1" then some .warning
  else if lower == "info" || lower == "2" then some .info
  else if lower == "debug" || lower == "3" then some .debug
  else none

namespace Settings

/-- The defaults for loading. -/
def defaultLoad (env : Environment) : LoadSettings where
  requireExtension := env.flag "XSS_GUARD_REQUIRE_PHTML_EXTENSION" false
  logPerformance := env.flag "XSS_GUARD_ENABLE_PERFORMANCE_LOGGING" true

/-- The defaults for cutting into tokens. -/
def defaultLex (env : Environment) : LexSettings where
  detailedMetrics := env.flag "XSS_GUARD_LEXICAL_DETAILED_METRICS" true
  positionsInErrors := env.flag "XSS_GUARD_LEXICAL_INCLUDE_POSITIONS" true

/-- The defaults for the rules. -/
def defaultAnalysis (env : Environment) : AnalysisSettings where
  unescapedOutput := env.flag "XSS_GUARD_ANALYSIS_UNESCAPED_OUTPUT" true
  legacyEscape := env.flag "XSS_GUARD_ANALYSIS_LEGACY_ESCAPE" true
  applyFixes := env.flag "XSS_GUARD_ANALYSIS_APPLY_FIXES" false

/-- The defaults for the journal. -/
def defaultLog (env : Environment) : LogSettings where
  structured := env.flag "XSS_GUARD_LOGGING_USE_STRUCTURED" false
  console := env.flag "XSS_GUARD_LOGGING_ENABLE_CONSOLE" false
  leastLevel := ((env "XSS_GUARD_LOGGING_MIN_LEVEL").bind Level.parse?).getD .info
  performance := env.flag "XSS_GUARD_LOGGING_LOG_PERFORMANCE" true
  compilerStyle := env.flag "XSS_GUARD_LOGGING_CARGO_STYLE" true
  fileContext := env.flag "XSS_GUARD_LOGGING_INCLUDE_FILE_CONTEXT" true

/-- The variables that set defaults. -/
def variableNames : List String :=
  ["XSS_GUARD_REQUIRE_PHTML_EXTENSION", "XSS_GUARD_ENABLE_PERFORMANCE_LOGGING",
   "XSS_GUARD_LEXICAL_DETAILED_METRICS", "XSS_GUARD_LEXICAL_INCLUDE_POSITIONS",
   "XSS_GUARD_ANALYSIS_UNESCAPED_OUTPUT", "XSS_GUARD_ANALYSIS_LEGACY_ESCAPE",
   "XSS_GUARD_ANALYSIS_APPLY_FIXES", "XSS_GUARD_LOGGING_USE_STRUCTURED",
   "XSS_GUARD_LOGGING_ENABLE_CONSOLE", "XSS_GUARD_LOGGING_MIN_LEVEL",
   "XSS_GUARD_LOGGING_LOG_PERFORMANCE", "XSS_GUARD_LOGGING_CARGO_STYLE",
   "XSS_GUARD_LOGGING_INCLUDE_FILE_CONTEXT"]

/-- The defaults in an environment. -/
def default (env : Environment) : Settings :=
  ⟨defaultLoad env, defaultLex env, defaultAnalysis env, defaultLog env, .standard⟩

end Settings

end EscapeAudit
