/-!
# Codes

Every event carries a code.  The registry says of each known code what it is about, how grave it is,
whether work can go on with the next file, whether everything has to stop, and what to do about it.
-/

namespace EscapeAudit

/-- The code of an event. -/
structure Code where
  /-- Its letters and digits. -/
  text : String
  deriving DecidableEq, Repr, Inhabited

/-- How grave an event is. -/
inductive Severity where
  /-- Nothing can go on. -/
  | critical
  /-- Needs attention now. -/
  | high
  /-- Needs attention. -/
  | medium
  /-- Good to know. -/
  | low
  deriving DecidableEq, Repr

/-- The name of a severity. -/
def Severity.name : Severity → String
  | critical => "Critical"
  | high => "High"
  | medium => "Medium"
  | low => "Low"

/-- What the registry says of a code. -/
structure CodeInfo where
  /-- The code. -/
  code : Code
  /-- What it is about. -/
  category : String
  /-- How grave it is. -/
  severity : Severity
  /-- Whether a batch goes on with the next file. -/
  recoverable : Bool
  /-- Whether everything has to stop. -/
  halts : Bool
  /-- What happened. -/
  description : String
  /-- What to do about it. -/
  action : String
  deriving DecidableEq, Repr

namespace Code

/-- The code of plain information. -/
def info : Code := ⟨"I000"⟩

/-- The code of a debugging message. -/
def debug : Code := ⟨"D000"⟩

/-- Something inside the program went wrong. -/
def internalError : Code := ⟨"ERR001"⟩

/-- The journal or the settings could not be set up. -/
def initializationFailure : Code := ⟨"ERR002"⟩

/-- No file at the path. -/
def fileNotFound : Code := ⟨"E005"⟩

/-- A file without the template extension. -/
def invalidExtension : Code := ⟨"E006"⟩

/-- A file over the size limit. -/
def fileTooLarge : Code := ⟨"E007"⟩

/-- A file of no bytes. -/
def emptyFile : Code := ⟨"E008"⟩

/-- A file that may not be read. -/
def permissionDenied : Code := ⟨"E009"⟩

/-- A file that is not UTF-8. -/
def invalidEncoding : Code := ⟨"E010"⟩

/-- A file that could not be read. -/
def inputOutput : Code := ⟨"E011"⟩

/-- A file over the line limit. -/
def tooManyLines : Code := ⟨"E012"⟩

/-- A path that names no regular file. -/
def invalidPath : Code := ⟨"E013"⟩

/-- A string literal without its closing quote. -/
def unterminatedString : Code := ⟨"E021"⟩

/-- A block comment without its end. -/
def unterminatedComment : Code := ⟨"E022"⟩

/-- A heredoc without its closing label. -/
def unterminatedHeredoc : Code := ⟨"E023"⟩

/-- A string literal over the size limit. -/
def stringTooLarge : Code := ⟨"E024"⟩

/-- A comment over the length limit. -/
def commentTooLong : Code := ⟨"E026"⟩

/-- A template over the token limit. -/
def tooManyTokens : Code := ⟨"E027"⟩

/-- Settings that could not be read. -/
def settingsUnreadable : Code := ⟨"E060"⟩

/-- Settings that do not make sense. -/
def settingsInvalid : Code := ⟨"E061"⟩

/-- A statement over the limit of ranges. -/
def leafLimit : Code := ⟨"E070"⟩

/-- A changeset that was not accepted. -/
def changesetRejected : Code := ⟨"E071"⟩

/-- Templates could not be listed. -/
def discoveryFailed : Code := ⟨"E090"⟩

/-- A directory without templates. -/
def noTemplates : Code := ⟨"E091"⟩

/-- A worker stopped. -/
def workerFailed : Code := ⟨"E092"⟩

/-- A fixed template could not be written. -/
def writeFailed : Code := ⟨"E093"⟩

/-- Output that is not escaped. -/
def unescapedOutput : Code := ⟨"W100"⟩

/-- Output that is not escaped, next to a comment that is no marker. -/
def disallowedComment : Code := ⟨"W101"⟩

/-- Escaping through the block. -/
def deprecatedEscape : Code := ⟨"W110"⟩

/-- The escaper is used but not declared. -/
def missingDeclaration : Code := ⟨"W111"⟩

/-- The program is done. -/
def completed : Code := ⟨"I001"⟩

/-- The journal is set up. -/
def initialized : Code := ⟨"I004"⟩

/-- A file is done. -/
def fileProcessed : Code := ⟨"I006"⟩

/-- A template is cut into tokens. -/
def tokenized : Code := ⟨"I020"⟩

/-- The rules are done. -/
def analyzed : Code := ⟨"I070"⟩

/-- The fixes are in the text. -/
def fixesApplied : Code := ⟨"I080"⟩

/-- The batch is done. -/
def batchCompleted : Code := ⟨"I090"⟩

/-- The known codes. -/
def registry : List CodeInfo :=
  [⟨internalError, "System", .critical, false, true, "Critical internal error",
    "File a bug report with the template that triggered it"⟩,
   ⟨initializationFailure, "System", .critical, false, true,
    "Logging or configuration initialization failed",
    "Check configuration and environment variables"⟩,
   ⟨fileNotFound, "FileProcessing", .medium, false, false, "Template file not found",
    "Verify the path exists"⟩,
   ⟨invalidExtension, "FileProcessing", .low, true, false,
    "File does not have the .phtml extension",
    "Rename the template or disable the extension requirement"⟩,
   ⟨fileTooLarge, "FileProcessing", .high, false, false,
    "Template exceeds the configured size limit",
    "Split the template or raise max_file_size in the build profile"⟩,
   ⟨emptyFile, "FileProcessing", .low, true, false, "Template is empty", "Nothing to scan"⟩,
   ⟨permissionDenied, "FileProcessing", .medium, false, false,
    "Permission denied reading template", "Check file permissions"⟩,
   ⟨invalidEncoding, "FileProcessing", .medium, false, false, "Template is not valid UTF-8",
    "Convert the file to UTF-8"⟩,
   ⟨inputOutput, "FileProcessing", .medium, false, false, "I/O error while reading template",
    "Retry or check the filesystem"⟩,
   ⟨tooManyLines, "FileProcessing", .high, false, false,
    "Template exceeds the configured line limit",
    "Split the template or raise max_line_count_for_analysis"⟩,
   ⟨invalidPath, "FileProcessing", .high, false, false,
    "Path is empty or does not name a regular file",
    "Pass a template file or a directory to scan"⟩,
   ⟨unterminatedString, "Lexical", .high, false, false, "String literal is never closed",
    "Close the string literal"⟩,
   ⟨unterminatedComment, "Lexical", .high, false, false, "Block comment is never closed",
    "Close the comment with */"⟩,
   ⟨unterminatedHeredoc, "Lexical", .high, false, false,
    "Heredoc or nowdoc has no closing identifier", "Add the closing identifier"⟩,
   ⟨stringTooLarge, "Lexical", .high, false, false, "String literal exceeds the size limit",
    "Move the content out of the template"⟩,
   ⟨commentTooLong, "Lexical", .medium, false, false, "Comment exceeds the length limit",
    "Shorten the comment"⟩,
   ⟨tooManyTokens, "Lexical", .high, false, false, "Template produced too many tokens",
    "Split the template"⟩,
   ⟨settingsUnreadable, "Configuration", .high, false, true,
    "Configuration file could not be read", "Check the --config path"⟩,
   ⟨settingsInvalid, "Configuration", .high, false, true,
    "Configuration file is not valid TOML for this tool", "Fix the reported key or value"⟩,
   ⟨leafLimit, "Analysis", .medium, true, false,
    "Output statement split into too many expressions",
    "Simplify the statement or raise max_leaves_per_statement"⟩,
   ⟨changesetRejected, "Analysis", .low, true, false,
    "Fix overlapped an earlier fix and was not applied",
    "Run the fixer again on the output"⟩,
   ⟨discoveryFailed, "Batch", .high, false, false, "Template discovery failed",
    "Check the directory path and permissions"⟩,
   ⟨noTemplates, "Batch", .low, true, false, "No .phtml files found",
    "Check the directory path"⟩,
   ⟨workerFailed, "Batch", .high, false, false, "A worker thread panicked",
    "Rerun with --threads 1 to isolate the template"⟩,
   ⟨writeFailed, "Batch", .medium, false, false, "Fixed template could not be written",
    "Check write permissions"⟩,
   ⟨unescapedOutput, "Security", .high, true, false, "Unescaped output detected",
    "Wrap the expression with the matching $escaper method"⟩,
   ⟨disallowedComment, "Security", .high, true, false,
    "Unescaped output next to a comment that is not @noEscape",
    "Escape the expression or use /* @noEscape */"⟩,
   ⟨deprecatedEscape, "Legacy", .low, true, false, "Escaping through $block is deprecated",
    "Call the method on $escaper"⟩,
   ⟨missingDeclaration, "Legacy", .low, true, false,
    "Template uses $escaper without a @var annotation", "Declare $escaper after the open tag"⟩,
   ⟨completed, "Success", .low, true, false, "Operation completed", "None"⟩,
   ⟨initialized, "Success", .low, true, false, "Logging initialized", "None"⟩,
   ⟨fileProcessed, "Success", .low, true, false, "Template read", "None"⟩,
   ⟨tokenized, "Success", .low, true, false, "Template tokenized", "None"⟩,
   ⟨analyzed, "Success", .low, true, false, "Rules finished", "None"⟩,
   ⟨fixesApplied, "Success", .low, true, false, "Fixes applied to template", "None"⟩,
   ⟨batchCompleted, "Success", .low, true, false, "Batch finished", "None"⟩]

/-- What the registry says of a code, if it is known. -/
def info? (c : Code) : Option CodeInfo :=
  registry.find? fun i => i.code == c

/-- What a code is about. -/
def category (c : Code) : String := (c.info?.map CodeInfo.category).getD "Unknown"

/-- How grave a code is.  An unknown one is of medium gravity. -/
def severity (c : Code) : Severity := (c.info?.map CodeInfo.severity).getD .medium

/-- Whether a batch goes on with the next file.  It does after an unknown code. -/
def recoverable (c : Code) : Bool := (c.info?.map CodeInfo.recoverable).getD true

/-- Whether everything has to stop. -/
def halts (c : Code) : Bool := (c.info?.map CodeInfo.halts).getD false

/-- What happened. -/
def description (c : Code) : String := (c.info?.map CodeInfo.description).getD "Unknown error"

/-- The advice for a code that the registry does not know. -/
def noAction : String := "No specific action available"

/-- What to do about it. -/
def action (c : Code) : String := (c.info?.map CodeInfo.action).getD noAction

end Code

end EscapeAudit
