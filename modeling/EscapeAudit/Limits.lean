/-!
# Limits

The sizes beyond which a template, a statement, a batch or the journal is cut off.
-/

namespace EscapeAudit.Limits

/-- The largest template, in bytes. -/
def fileSize : Nat := 10485760

/-- A template of more bytes counts as large. -/
def largeFile : Nat := 1048576

/-- The largest number of lines of a template. -/
def lineCount : Nat := 100000

/-- The largest number of tokens of a template. -/
def tokenCount : Nat := 1000000

/-- The longest comment, in characters. -/
def commentLength : Nat := 10000

/-- The largest string literal or heredoc body, in bytes. -/
def stringSize : Nat := 1048576

/-- The largest number of ranges taken up in one output statement. -/
def rangesPerStatement : Nat := 4096

/-- The largest number of workers of a batch. -/
def workers : Nat := 16

/-- The largest number of templates of a batch. -/
def filesPerBatch : Nat := 50000

/-- The size of the journal's buffer, in events. -/
def logBuffer : Nat := 10000

/-- The longest message of an event, in bytes. -/
def messageLength : Nat := 4096

/-- The largest number of events kept for one file. -/
def eventsPerFile : Nat := 1000

/-- The name of the profile that sets the limits. -/
def profile : String := "development"

/-- The directory of the profiles. -/
def profileDirectory : String := "config"

/-- Where the limits are set. -/
def origin : String := s!"Generated from {profileDirectory}/{profile}.toml"

/-- Whether the limits of the journal fit together. -/
def consistent : Bool := 100 ≤ logBuffer && eventsPerFile ≤ logBuffer

end EscapeAudit.Limits
