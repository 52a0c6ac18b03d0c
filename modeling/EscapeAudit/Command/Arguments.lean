import EscapeAudit.Text.Basic

/-!
# Arguments of the command line

One argument without a dash is the path to check.  Options are long, such as `--fix` or `--format
json`, or short, such as `-q` or `-j4`.  The value of a long option may stand behind `=`, and that
of a short one right behind its letter.  Short options may be written together.  Behind `--` every
argument is a path.

An option can be given once.  A value is needed where an option has one, and nowhere else.
-/

namespace EscapeAudit.Command

/-- The form of the report. -/
inductive Format where
  /-- For readers. -/
  | text
  /-- For tools. -/
  | json
  deriving DecidableEq, Repr

/-- The options that stand alone. -/
inductive Switch where
  /-- Write fixed templates over the files. -/
  | fix
  /-- Stay out of inner directories. -/
  | noRecursive
  /-- Print the last line only. -/
  | quiet
  /-- Print the version. -/
  | version
  /-- Print how to use the program. -/
  | help
  deriving DecidableEq, Repr

/-- The options with a value. -/
inductive Setting where
  /-- The form of the report. -/
  | format
  /-- The settings file. -/
  | config
  /-- The number of workers. -/
  | threads
  /-- The largest number of templates. -/
  | maxFiles
  deriving DecidableEq, Repr

/-- What the arguments have said so far. -/
structure Arguments where
  /-- The path to check. -/
  path : Option String
  /-- The options that stand alone. -/
  switches : List Switch
  /-- The form of the report. -/
  format : Option Format
  /-- The settings file. -/
  config : Option String
  /-- The number of workers. -/
  threads : Option Nat
  /-- The largest number of templates. -/
  maxFiles : Option Nat
  deriving DecidableEq, Repr

/-- What the program is asked to do. -/
inductive Request where
  /-- Check a path. -/
  | check (path : String) (arguments : Arguments)
  /-- Print the version. -/
  | version
  /-- Print how to use the program. -/
  | help
  deriving DecidableEq, Repr

/-- Reads a number of 64 bits. -/
def number? (text : String) : Option Nat :=
  let digits := match text.toList with
    | '+' :: cs => cs
    | cs => cs
  if digits.isEmpty || !digits.all Char.isDigit then none
  else
    let n := digits.foldl (fun n d => 10 * n + (d.toNat - 0x30)) 0
    if n < Nat.pow 2 64 then some n else none

/-- The option with a long name. -/
def longOption? : String → Option (Switch ⊕ Setting)
  | "fix" => some (.inl .fix)
  | "no-recursive" => some (.inl .noRecursive)
  | "quiet" => some (.inl .quiet)
  | "version" => some (.inl .version)
  | "help" => some (.inl .help)
  | "format" => some (.inr .format)
  | "config" => some (.inr .config)
  | "threads" => some (.inr .threads)
  | "max-files" => some (.inr .maxFiles)
  | _ => none

/-- The option with a letter. -/
def shortOption? : Char → Option (Switch ⊕ Setting)
  | 'q' => some (.inl .quiet)
  | 'V' => some (.inl .version)
  | 'h' => some (.inl .help)
  | 'j' => some (.inr .threads)
  | _ => none

namespace Arguments

/-- No arguments yet. -/
def empty : Arguments := ⟨none, [], none, none, none, none⟩

/-- Whether an option that stands alone is given. -/
def has (a : Arguments) (s : Switch) : Bool := a.switches.contains s

/-- Gives an option that stands alone. -/
def addSwitch (a : Arguments) (s : Switch) : Option Arguments :=
  if a.has s then none else some { a with switches := s :: a.switches }

/-- Gives the path. -/
def addPath (a : Arguments) (text : String) : Option Arguments :=
  match a.path with
  | none => if text == "" then none else some { a with path := some text }
  | some _ => none

/-- Whether an option has a value. -/
def isSet (a : Arguments) : Setting → Bool
  | .format => a.format.isSome
  | .config => a.config.isSome
  | .threads => a.threads.isSome
  | .maxFiles => a.maxFiles.isSome

/-- Gives an option its value. -/
def addValue (a : Arguments) (s : Setting) (text : String) : Option Arguments :=
  if a.isSet s then none
  else match s with
    | .format =>
      match text with
      | "text" => some { a with format := some .text }
      | "json" => some { a with format := some .json }
      | _ => none
    | .config => if text == "" then none else some { a with config := some text }
    | .threads => (number? text).map fun n => { a with threads := some n }
    | .maxFiles => (number? text).map fun n => { a with maxFiles := some n }

end Arguments

/-- What one argument leads to. -/
inductive Reading where
  /-- Go on with the next argument. -/
  | more (a : Arguments)
  /-- The next argument is the value of an option. -/
  | valueOf (s : Setting) (a : Arguments)
  /-- Only paths follow. -/
  | pathsOnly (a : Arguments)
  /-- The request is clear. -/
  | done (r : Request)
  /-- The arguments make no sense. -/
  | wrong

/-- Goes on with arguments, if there are some. -/
def Reading.ofOption : Option Arguments → Reading
  | some a => .more a
  | none => .wrong

/-- Reads an option that stands alone. -/
def readSwitch (a : Arguments) : Switch → Reading
  | .version => .done .version
  | .help => .done .help
  | s => .ofOption (a.addSwitch s)

/-- Reads short options written together. -/
def readShort (a : Arguments) : List Char → Reading
  | [] => .more a
  | c :: cs =>
    match shortOption? c with
    | none => .wrong
    | some (.inl s) =>
      match readSwitch a s with
      | .more a => readShort a cs
      | other => other
    | some (.inr s) =>
      match cs with
      | [] => .valueOf s a
      | '=' :: value => .ofOption (a.addValue s (String.ofList value))
      | value => .ofOption (a.addValue s (String.ofList value))

/-- Reads a long option. -/
def readLong (a : Arguments) (body : List Char) : Reading :=
  let name := String.ofList (body.takeWhile (· != '='))
  match longOption? name, body.dropWhile (· != '=') with
  | none, _ => .wrong
  | some (.inl s), [] => readSwitch a s
  | some (.inl _), _ :: _ => .wrong
  | some (.inr s), [] => .valueOf s a
  | some (.inr s), _ :: value => .ofOption (a.addValue s (String.ofList value))

/-- Reads one argument. -/
def readArgument (a : Arguments) (text : String) : Reading :=
  match text.toList with
  | ['-', '-'] => .pathsOnly a
  | '-' :: '-' :: body => readLong a body
  | '-' :: c :: cs => readShort a (c :: cs)
  | _ => .ofOption (a.addPath text)

/-- Reads arguments that are paths only. -/
def readPaths : Arguments → List String → Option Arguments
  | a, [] => some a
  | a, text :: rest => (a.addPath text).bind fun a => readPaths a rest

/-- The request of arguments that were read to the end. -/
def finish (a : Arguments) : Option Request :=
  a.path.map fun path => .check path a

/-- Whether an argument can be the value of an option. -/
def isValue (text : String) : Bool :=
  match text.toList with
  | '-' :: _ :: _ => false
  | _ => true

/-- Reads arguments.  `waiting` is the option whose value comes next. -/
def readFrom : (waiting : Option Setting) → Arguments → List String → Option Request
  | some _, _, [] => none
  | none, a, [] => finish a
  | some s, a, text :: rest =>
    if isValue text then (a.addValue s text).bind fun a => readFrom none a rest else none
  | none, a, text :: rest =>
    match readArgument a text with
    | .more a => readFrom none a rest
    | .valueOf s a => readFrom (some s) a rest
    | .pathsOnly a => (readPaths a rest).bind finish
    | .done r => some r
    | .wrong => none

/-- The request of the arguments, if they make sense. -/
def request? (arguments : List String) : Option Request :=
  readFrom none .empty arguments

end EscapeAudit.Command
