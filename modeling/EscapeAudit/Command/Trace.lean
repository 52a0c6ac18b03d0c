import EscapeAudit.Pattern.OfText
import EscapeAudit.Text.Basic
import EscapeAudit.Text.Blank

/-!
# Trace lines

Besides its events the program writes trace lines about itself.  A filter decides which of them
are written.  Its text is a list of directives between commas: a level alone holds for everything,
and `name=level` or a name alone holds for the parts whose name begins so.  Of the directives that
hold, the one with the longest name decides.  Behind a slash may stand a pattern that a line has
to hold.
-/

namespace EscapeAudit.Command

/-- The level of a trace line. -/
inductive TraceLevel where
  /-- Something failed. -/
  | error
  /-- Something needs attention. -/
  | warn
  /-- Something was done. -/
  | info
  /-- A detail. -/
  | debug
  deriving DecidableEq, Repr

namespace TraceLevel

/-- The place of a level in the order, from the loudest. -/
def rank : TraceLevel → Nat
  | error => 1
  | warn => 2
  | info => 3
  | debug => 4

/-- The name in a line, five characters wide. -/
def title : TraceLevel → String
  | error => "ERROR"
  | warn => "WARN "
  | info => "INFO "
  | debug => "DEBUG"

end TraceLevel

/-- A rule of a filter. -/
structure Directive where
  /-- The beginning of the names it holds for, or nothing if it holds for all. -/
  name : Option String
  /-- The rank of the quietest level that passes. -/
  rank : Nat
  deriving DecidableEq, Repr

/-- Which trace lines are written. -/
structure TraceFilter where
  /-- The rules, in the order of the lengths of their names. -/
  directives : List Directive
  /-- A pattern that a line has to hold. -/
  pattern : Option (Pattern Test)
  /-- What was wrong with the text of the filter. -/
  complaints : List String
  deriving Repr

namespace TraceFilter

/-- The rank of a level by its name.  Case does not matter. -/
def rankOf? (text : String) : Option Nat :=
  ["off", "error", "warn", "info", "debug", "trace"].findIdx? (· == Text.asciiLower text)

/-- The rank that lets everything pass. -/
def all : Nat := 5

/-- The text without blanks at its ends. -/
def trim (text : String) : String :=
  let front := text.toList.dropWhile Text.isBlank
  String.ofList (front.reverse.dropWhile Text.isBlank).reverse

/-- Reads one directive. -/
def readDirective (text : String) : Except String Directive :=
  match Text.splitAt '=' text with
  | [one] =>
    match rankOf? one with
    | some rank => .ok ⟨none, rank⟩
    | none => .ok ⟨some one, all⟩
  | [name, level] =>
    let level := trim level
    if level == "" then .ok ⟨some name, all⟩
    else
      match rankOf? level with
      | some rank => .ok ⟨some name, rank⟩
      | none => .error s!"invalid logging spec '{level}'"
  | _ => .error s!"invalid logging spec '{text}'"

/-- Adds a directive.  One of the same name gives way. -/
def insert (d : Directive) : List Directive → List Directive
  | [] => [d]
  | e :: rest => if e.name == d.name then d :: rest else e :: insert d rest

/-- The length of the name of a directive, in bytes. -/
def Directive.length (d : Directive) : Nat := (d.name.map String.utf8ByteSize).getD 0

/-- The filter with directives in the order of the lengths of their names.  Without directives only
errors pass. -/
def ofDirectives (ds : List Directive) (pattern : Option (Pattern Test))
    (complaints : List String) : TraceFilter :=
  let ds := if ds.isEmpty then [⟨none, TraceLevel.error.rank⟩] else ds
  ⟨ds.mergeSort fun d e => Directive.length d ≤ Directive.length e, pattern, complaints⟩

/-- Reads the directives of a filter. -/
def readDirectives (text : String) : List Directive × List String :=
  ((Text.splitAt ',' text).map trim).foldl
    (fun (ds, complaints) piece =>
      if piece == "" then (ds, complaints)
      else
        match readDirective piece with
        | .ok d => (insert d ds, complaints)
        | .error complaint => (ds, complaints ++ [complaint]))
    ([], [])

/-- Reads the pattern of a filter, or tells what is wrong with it. -/
def readPattern : Option String → Option (Pattern Test) × List String
  | none => (none, [])
  | some text =>
    match Pattern.ofText text with
    | .ok p => (some p, [])
    | .error complaint => (none, [s!"invalid regex filter - {complaint}"])

/-- Reads a filter. -/
def parse (text : String) : TraceFilter :=
  match Text.splitAt '/' text with
  | [] => ofDirectives [] none []
  | directives :: rest =>
    if 1 < rest.length then ofDirectives [] none [s!"invalid logging spec '{text}' (too many '/'s)"]
    else
      let (ds, complaints) := readDirectives directives
      let (pattern, more) := readPattern rest.head?
      ofDirectives ds pattern (complaints ++ more)

/-- What is printed about a filter that is wrong in parts. -/
def warnings (f : TraceFilter) : String :=
  Text.join (f.complaints.map fun c => s!"warning: {c}, ignoring it\n")

/-- Whether a line of a part of the program is written. -/
def passes (f : TraceFilter) (part : String) (level : TraceLevel) (message : String) : Bool :=
  let holding := f.directives.filter fun d =>
    match d.name with
    | some name => Text.startsWith part name
    | none => true
  let loud := match holding.getLast? with
    | some d => level.rank ≤ d.rank
    | none => false
  loud && (match f.pattern with
    | some pattern => pattern.foundIn message
    | none => true)

end TraceFilter

/-- The text of a trace line.  Further lines of a message are indented. -/
def traceLine (stamp part : String) (level : TraceLevel) (message : String) : String :=
  let body := Text.joinWith "\n    " (Text.splitAt '\n' message)
  s!"[{stamp} {level.title} {part}] {body}\n"

end EscapeAudit.Command
