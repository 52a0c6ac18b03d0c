import EscapeAudit.Pattern.Reader
import EscapeAudit.Text.Property

/-!
# Groups and repetitions

A group begins with a parenthesis.  Behind it may stand the name of the group or some switches.  A
repetition has a sign of its own or bounds in braces.
-/

namespace EscapeAudit

open PatternReader

/-- The beginning of a group. -/
inductive GroupHead where
  /-- No group at all: new settings from here on. -/
  | settings (span : PatternSpan) (change : FlagChange)
  /-- A group with new settings inside it.  With `kept`, what it takes is to be kept. -/
  | group (kept : Bool) (change : FlagChange)
  deriving Repr

namespace GroupHead

/-- The letters that the name of a group can begin with. -/
def nameLetters : Text.CharSet := .letters .seventeenth

/-- The numbers that can stand in the name of a group. -/
def nameNumbers : Text.CharSet := .numbers .seventeenth

/-- Whether a character can stand in the name of a group. -/
def isNameChar (first : Bool) (c : Char) : Bool :=
  c == '_' || nameLetters.mem c ||
  (!first && (c == '.' || c == '[' || c == ']' || nameNumbers.mem c))

/-- Reads the characters of a name up to the sign that closes it.  `fuel` bounds their number. -/
def readNameChars : (fuel : Nat) → (name : List Char) → PatternReader String
  | 0, name => return String.ofList name.reverse
  | fuel + 1, name => do
    match ← next with
    | none => fail .groupNameUnexpectedEnd (← point)
    | some '>' => return String.ofList name.reverse
    | some c =>
      if isNameChar name.isEmpty c then
        take
        readNameChars fuel (c :: name)
      else fail .groupNameInvalid (← nextSpan)

/-- Reads the name of a group and the sign that closes it.  No two groups have one name. -/
def readName : PatternReader Unit := do
  let start ← here
  let name ← readNameChars ((← get).rest.length + 1) []
  let span ← since start
  take
  if name == "" then fail .groupNameEmpty ⟨start, start⟩
  match (← get).names.lookup name with
  | some earlier => failTwice .groupNameDuplicate span earlier
  | none => modify fun cursor => { cursor with names := (name, span) :: cursor.names }

/-- The switch with a letter. -/
def flag? : Char → Option PatternFlag
  | 'i' => some .caseless
  | 'm' => some .multiLine
  | 's' => some .dotAll
  | 'U' => some .swapGreed
  | 'u' => some .unicode
  | 'R' => some .carriageReturn
  | 'x' => some .free
  | _ => none

/-- Reads switches up to the sign behind them.  `minus` is the minus sign, if there was one, and
`fuel` bounds their number. -/
def readFlags : (fuel : Nat) → (minus : Option PatternSpan) →
    (flags : List (PatternFlag × PatternSpan × Bool)) →
    PatternReader (List (PatternFlag × PatternSpan × Bool) × Option PatternSpan)
  | 0, minus, flags => return (flags.reverse, minus)
  | fuel + 1, minus, flags => do
    match ← next with
    | none => fail .flagUnexpectedEnd (← point)
    | some ':' | some ')' => return (flags.reverse, minus)
    | some '-' =>
      let span ← nextSpan
      match minus with
      | some earlier => failTwice .flagRepeatedNegation span earlier
      | none =>
        take
        readFlags fuel (some span) flags
    | some c =>
      let span ← nextSpan
      match flag? c with
      | none => fail .flagUnrecognized span
      | some flag =>
        match flags.lookup flag with
        | some (earlier, _) => failTwice .flagDuplicate span earlier
        | none =>
          take
          readFlags fuel minus ((flag, span, minus.isNone) :: flags)

/-- Reads switches, and tells whether there are none.  A minus sign has a switch behind it. -/
def readChange : PatternReader (FlagChange × Bool) := do
  let (flags, minus) ← readFlags ((← get).rest.length + 1) none []
  match minus with
  | some span =>
    if flags.all (·.2.2) then fail .flagDanglingNegation span
  | none => pure ()
  return (flags.map fun (flag, _, on) => (flag, on), flags.isEmpty)

/-- Reads the beginning of a group, behind the parenthesis and the question mark. -/
def readSettings (opening inner : PatternSpan) : PatternReader GroupHead := do
  if (← next).isNone then fail .groupUnclosed opening
  let (change, isEmpty) ← readChange
  let closing ← next
  take
  if closing == some ')' then
    if isEmpty then fail .repetitionMissing inner
    return .settings (← since opening.start) change
  else return .group false change

/-- Reads the beginning of a group.  The piece of the text is the parenthesis. -/
def read : PatternReader (PatternSpan × GroupHead) := do
  let opening ← nextSpan
  take
  skipBlanks
  let inner ← point
  if (← takeText "?=") || (← takeText "?!") || (← takeText "?<=") || (← takeText "?<!") then
    fail .lookAround (← since opening.start)
  if (← takeText "?P<") || (← takeText "?<") then
    readName
    return (opening, .group true [])
  if ← takeText "?" then return (opening, ← readSettings opening inner)
  return (opening, .group true [])

end GroupHead

namespace Repetition

/-- The largest bound. -/
def largest : Nat := 4294967295

/-- Reads the digits of a bound.  Blanks between them are skipped where blanks are skipped.  `fuel`
bounds their number. -/
def readDigits : (fuel : Nat) → (digits : List Char) → PatternReader (List Char)
  | 0, digits => return digits.reverse
  | fuel + 1, digits => do
    match ← next with
    | some c =>
      if c.isDigit then
        let _ ← takeAndSkip
        readDigits fuel (c :: digits)
      else return digits.reverse
    | none => return digits.reverse

/-- Skips blanks behind a bound, and comments too where they are skipped.  `fuel` bounds their
number. -/
def skipBehind : (fuel : Nat) → PatternReader Unit
  | 0 => return
  | fuel + 1 => do
    match ← next with
    | some c =>
      if Text.isBlank c then
        let _ ← takeAndSkip
        skipBehind fuel
      else return
    | none => return

/-- Reads a bound.  That there is none, or that it is too large, is found only when it is asked
for. -/
def readBound : PatternReader (Except PatternFault Nat) := do
  dropSpace
  let start ← here
  let digits ← readDigits (← get).rest.length []
  let span ← since start
  skipBehind (← get).rest.length
  if digits.isEmpty then return .error ⟨.repetitionCountDecimalEmpty, span, none⟩
  let value := digits.foldl (fun n c => 10 * n + (c.toNat - '0'.toNat)) 0
  if largest < value then return .error ⟨.decimalInvalid, span, none⟩
  return .ok value

/-- Reads the bounds of a repetition up to the closing brace. -/
def readRange (start : PatternPlace) : PatternReader (Nat × Option Nat) := do
  if (← takeAndSkip).isNone then fail .repetitionCountUnclosed (← since start)
  let least ← readBound
  match ← next with
  | none => fail .repetitionCountUnclosed (← since start)
  | some ',' =>
    match ← takeAndSkip with
    | none => fail .repetitionCountUnclosed (← since start)
    | some '}' => return (← liftExcept least, none)
    | some _ =>
      let least ← liftExcept least
      let most ← liftExcept (← readBound)
      return (least, some most)
  | some _ =>
    let least ← liftExcept least
    return (least, some least)
where
  /-- Asks for a bound. -/
  liftExcept (bound : Except PatternFault Nat) : PatternReader Nat :=
    match bound with
    | .ok n => return n
    | .error fault => throw fault

/-- Reads the question mark that may stand behind a repetition, and tells whether it is not
there. -/
def readGreedy : PatternReader Bool := do
  if (← next) == some '?' then
    take
    return false
  else return true

/-- Reads the bounds in braces of a repetition. -/
def readCounted : PatternReader Times := do
  let start ← here
  let (least, most) ← readRange start
  if (← next) != some '}' then fail .repetitionCountUnclosed (← since start)
  let _ ← takeAndSkip
  let greedy ← readGreedy
  match most with
  | some most => if most < least then fail .repetitionCountInvalid (← since start)
  | none => pure ()
  return ⟨least, most, greedy⟩

/-- The bounds of the repetition with a sign of its own. -/
def bounds? : Char → Option (Nat × Option Nat)
  | '?' => some (0, some 1)
  | '*' => some (0, none)
  | '+' => some (1, none)
  | _ => none

/-- Reads the sign of a repetition with the given bounds. -/
def readSign (bounds : Nat × Option Nat) : PatternReader Times := do
  take
  return ⟨bounds.1, bounds.2, ← readGreedy⟩

end Repetition

end EscapeAudit
