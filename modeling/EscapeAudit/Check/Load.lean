import EscapeAudit.Event.Told
import EscapeAudit.FileTree
import EscapeAudit.Text.Lowercase
import EscapeAudit.Text.Quoted

/-!
# Loading a template

A template has to be a file of at least one byte, within the limits of size and lines, and its
bytes have to be text.  The checks come in a fixed order and the first that fails gives the error.
-/

namespace EscapeAudit

/-- Why a template cannot be loaded. -/
inductive LoadError where
  /-- Nothing has this path. -/
  | notFound (path : String)
  /-- The extension is not the one of templates. -/
  | invalidExtension (extension : Option String)
  /-- The file has more bytes than allowed. -/
  | tooLarge (size limit : Nat)
  /-- The file has no bytes. -/
  | emptyFile
  /-- The file must not be read. -/
  | permissionDenied (path : String)
  /-- The bytes are no text. -/
  | invalidEncoding (path : String)
  /-- Reading failed. -/
  | inputOutput (message : String)
  /-- The path is empty or not that of a file. -/
  | invalidPath (path : String)
  /-- The file has more lines than allowed. -/
  | tooManyLines (lines limit : Nat)
  deriving DecidableEq, Repr

namespace LoadError

/-- The code of an error. -/
def code : LoadError → Code
  | notFound _ => .fileNotFound
  | invalidExtension _ => .invalidExtension
  | tooLarge .. => .fileTooLarge
  | emptyFile => .emptyFile
  | permissionDenied _ => .permissionDenied
  | invalidEncoding _ => .invalidEncoding
  | inputOutput _ => .inputOutput
  | invalidPath _ => .invalidPath
  | tooManyLines .. => .tooManyLines

/-- The text of an error. -/
def message : LoadError → String
  | notFound path => s!"File not found: {path}"
  | invalidExtension extension =>
    "Invalid file extension: expected .phtml, found " ++ Text.quotedOption extension
  | tooLarge size limit => s!"File too large: {size} bytes (max: {limit})"
  | emptyFile => "File is empty"
  | permissionDenied path => s!"Permission denied: {path}"
  | invalidEncoding path => s!"Invalid UTF-8 encoding in file: {path}"
  | inputOutput text => s!"I/O error reading file: {text}"
  | invalidPath path => s!"Invalid file path: {path}"
  | tooManyLines lines limit => s!"File exceeds maximum line count: {lines} (max: {limit})"

end LoadError

/-- The extension of templates. -/
def templateExtension : String := "phtml"

/-- The size in the largest unit that gives at least 1, with two places. -/
def humanSize (bytes : Nat) : String :=
  if bytes < 1024 then s!"{bytes} B"
  else
    let (unit, factor) :=
      if bytes < Nat.pow 1024 2 then ("KB", 1024)
      else if bytes < Nat.pow 1024 3 then ("MB", Nat.pow 1024 2)
      else ("GB", Nat.pow 1024 3)
    ((Decimal.Binary.ofNat bytes).div (.ofNat factor)).fixed 2 ++ " " ++ unit

/-- Whether a size counts as large. -/
def isLargeSize (bytes : Nat) : Bool := Limits.largeFile < bytes

/-- The number of lines.  A line feed at the end does not begin another line. -/
def countLines (text : String) : Nat :=
  let feeds := text.toList.countP (· == '\n')
  if text.toList.getLast? == some '\n' || text == "" then feeds else feeds + 1

/-- A loaded template. -/
structure Template where
  /-- Its absolute path. -/
  path : Path
  /-- Its size in bytes. -/
  size : Nat
  /-- Its extension in lower case. -/
  extension : Option String
  /-- The number of lines. -/
  lines : Nat
  /-- Its text. -/
  source : String
  deriving DecidableEq, Repr

namespace Template

/-- Whether it has the extension of templates. -/
def hasTemplateExtension (t : Template) : Bool := t.extension == some templateExtension

/-- Whether it may hold code. -/
def hasCode (t : Template) : Bool := Text.contains t.source "<?"

/-- The note about a loaded template. -/
def note (settings : LoadSettings) (file : String) (t : Template) : Note :=
  if settings.logPerformance then
    .success .fileProcessed "Template loaded with performance metrics"
      [("file", .text file), ("size_bytes", .nat t.size), ("size_human", .text (humanSize t.size)),
       ("lines", .nat t.lines), ("chars", .nat t.source.length), ("duration_ms", .elapsed),
       ("is_large_file", .flag (isLargeSize t.size))]
  else
    .success .fileProcessed "Template loaded"
      [("file", .text file), ("size_bytes", .nat t.size), ("lines", .nat t.lines)]

end Template

namespace Load

/-- Refuses to load with a note of the error's code. -/
def fail {α : Type} (e : LoadError) (message : String) (details : List (String × Detail)) :
    ExceptT LoadError Told α :=
  refuse e (.error e.code message details)

/-- The bytes of a file with its absolute path. -/
def content (tree : FileTree) (p : Path) : ExceptT LoadError Told (Path × ByteArray) := do
  if p.text == "" then fail (.invalidPath p.text) "Empty file path provided" []
  else
    match tree.locate p with
    | .error _ => fail (.notFound p.text) "File not found" [("path", .text p.text)]
    | .ok names =>
      match tree.root.get? names with
      | some (.file bytes) => return (tree.absolute names, bytes)
      | _ => fail (.invalidPath p.text) "Path is not a file" [("path", .text p.text)]

/-- Checks what is known before the file is read. -/
def validate (settings : LoadSettings) (file : String) (size : Nat) (extension : Option String) :
    ExceptT LoadError Told Unit := do
  if Limits.fileSize < size then
    fail (.tooLarge size Limits.fileSize) "File exceeds compile-time maximum size limit"
      [("file", .text file), ("size_human", .text (humanSize size)),
       ("limit_human", .text (humanSize Limits.fileSize))]
  else if size == 0 then fail .emptyFile "File is empty" [("file", .text file)]
  else if settings.requireExtension && extension != some templateExtension then
    fail (.invalidExtension extension) "File does not have the .phtml extension"
      [("file", .text file), ("extension", .text (extension.getD "none"))]

/-- The text of the bytes, which may not have too many lines. -/
def decode (file : String) (path : Path) (bytes : ByteArray) :
    ExceptT LoadError Told (String × Nat) := do
  match String.fromUTF8? bytes with
  | none =>
    fail (.invalidEncoding path.text) "Invalid UTF-8 encoding in file" [("file", .text file)]
  | some source =>
    let lines := countLines source
    if Limits.lineCount < lines then
      fail (.tooManyLines lines Limits.lineCount) "File exceeds maximum line count for analysis"
        [("file", .text file), ("lines", .nat lines), ("max_lines", .nat Limits.lineCount)]
    else return (source, lines)

end Load

/-- Loads the template at a path. -/
def FileTree.load (tree : FileTree) (settings : LoadSettings) (p : Path) :
    ExceptT LoadError Told Template := do
  let file := p.text
  (Told.note (.debug "Starting file processing" [("file", .text file)]) : Told Unit)
  let (path, bytes) ← Load.content tree p
  let size := bytes.size
  let extension := path.extension?.map Text.lowercase
  (Told.note (.debug "File metadata collected"
    [("size_bytes", .nat size), ("extension", .text (extension.getD "none")),
     ("is_template", .flag (extension == some templateExtension))]) : Told Unit)
  Load.validate settings file size extension
  let (source, lines) ← Load.decode file path bytes
  let template : Template := ⟨path, size, extension, lines, source⟩
  (Told.note (template.note settings file) : Told Unit)
  return template

end EscapeAudit
