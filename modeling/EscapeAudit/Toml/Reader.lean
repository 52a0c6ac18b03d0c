/-!
# Readers

A reader takes something from the front of a text and gives what it took and the rest, or nothing.
A repetition is bounded by the length of the text, because every round takes at least one
character.
-/

namespace EscapeAudit.Toml

/-- Takes something from the front of a text. -/
abbrev Reader (α : Type) := StateT (List Char) Option α

namespace Reader

variable {α : Type}

/-- Takes a given text. -/
def exactly (lead : String) : Reader Unit := fun cs =>
  if lead.toList.isPrefixOf cs then some ((), cs.drop lead.length) else none

/-- Takes one character that passes the test. -/
def one (test : Char → Bool) : Reader Char
  | [] => none
  | c :: cs => if test c then some (c, cs) else none

/-- Takes all characters in front that pass the test. -/
def run (test : Char → Bool) : Reader (List Char) := fun cs =>
  some (cs.takeWhile test, cs.dropWhile test)

/-- Takes a given number of characters that pass the test. -/
def times (test : Char → Bool) : Nat → Reader (List Char)
  | 0 => return []
  | n + 1 => do return (← one test) :: (← times test n)

/-- Whether the text is at its end. -/
def atEnd : Reader Bool := fun cs => some (cs.isEmpty, cs)

/-- The next character, which stays. -/
def next : Reader (Option Char) := fun cs => some (cs.head?, cs)

/-- Takes as often as possible, at most `bound` times, behind what was taken before. -/
def manyFrom (r : Reader α) : (bound : Nat) → (done : List α) → Reader (List α)
  | 0, done => return done.reverse
  | bound + 1, done => fun cs =>
    match r cs with
    | some (a, rest) => manyFrom r bound (a :: done) rest
    | none => some (done.reverse, cs)

/-- Takes as often as possible.  The reader takes at least one character each time. -/
def many (r : Reader α) : Reader (List α) := fun cs => manyFrom r cs.length [] cs

/-- Takes one or more with a separator between neighbours. -/
def separated (r : Reader α) (separator : Reader Unit) : Reader (List α) := do
  let first ← r
  let rest ← many (do separator; r)
  return first :: rest

end Reader

end EscapeAudit.Toml
