/-!
# Data

The values of a settings file, as far as settings need them.  Numbers are checked when they are
read, and no setting is a number, so their value is not kept.
-/

namespace EscapeAudit

/-- A value of a settings file. -/
inductive Datum where
  /-- A text. -/
  | text (s : String)
  /-- A truth value. -/
  | flag (b : Bool)
  /-- A number. -/
  | number
  /-- A date, a time, or both. -/
  | date
  /-- A list of values. -/
  | list (items : List Datum)
  /-- Named values. -/
  | table (fields : List (String × Datum))
  deriving Repr, Inhabited

end EscapeAudit
