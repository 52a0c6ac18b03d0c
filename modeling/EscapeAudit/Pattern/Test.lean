import EscapeAudit.Pattern.Basic
import EscapeAudit.Text.Property

/-!
# The tests of patterns

A test takes some characters, or it only looks around.  A look asks for the beginning or the end
of the text or of a line, or for the beginning or the end of a word.
-/

namespace EscapeAudit

open Text (CharSet)

/-- A test on the characters before and behind a place. -/
inductive Look where
  /-- The beginning of the text. -/
  | textStart
  /-- The end of the text. -/
  | textEnd
  /-- The beginning of a line.  With `both`, a carriage return ends a line as well as a line
  feed. -/
  | lineStart (both : Bool)
  /-- The end of a line. -/
  | lineEnd (both : Bool)
  /-- The beginning or the end of a word.  With `ascii`, words are made of ASCII characters. -/
  | boundary (ascii : Bool)
  /-- Neither the beginning nor the end of a word. -/
  | noBoundary (ascii : Bool)
  /-- The beginning of a word. -/
  | wordStart (ascii : Bool)
  /-- The end of a word. -/
  | wordEnd (ascii : Bool)
  /-- No word before. -/
  | noWordBefore (ascii : Bool)
  /-- No word behind. -/
  | noWordBehind (ascii : Bool)
  deriving DecidableEq, Repr

namespace Look

/-- Whether a character of words is there. -/
def inWord (ascii : Bool) : Option Char → Bool
  | some c => if ascii then CharSet.asciiWord.mem c else CharSet.word.mem c
  | none => false

/-- Whether a test holds between the characters before and behind a place. -/
def holds (before behind : Option Char) : Look → Bool
  | textStart => before.isNone
  | textEnd => behind.isNone
  | lineStart both =>
    before.isNone || before == some '\n' || (both && before == some '\r' && behind != some '\n')
  | lineEnd both =>
    if both then
      behind.isNone || behind == some '\r' || (behind == some '\n' && before != some '\r')
    else behind.isNone || behind == some '\n'
  | boundary ascii => inWord ascii before != inWord ascii behind
  | noBoundary ascii => inWord ascii before == inWord ascii behind
  | wordStart ascii => !inWord ascii before && inWord ascii behind
  | wordEnd ascii => inWord ascii before && !inWord ascii behind
  | noWordBefore ascii => !inWord ascii before
  | noWordBehind ascii => !inWord ascii behind

end Look

/-- A single test of a pattern. -/
inductive Test where
  /-- Takes some characters. -/
  | literal (chars : List Char)
  /-- Takes a character of a set.  A set of bytes is told from one of characters, though both are
  asked for characters. -/
  | one (set : CharSet) (bytes : Bool)
  /-- Looks around. -/
  | look (l : Look)
  deriving DecidableEq, Repr

namespace Test

/-- The places of a text at which a condition holds between the characters before and behind,
counted on from the place `i`.  `before` is the character before that place. -/
def placesFrom (holds : Option Char → Option Char → Bool) (before : Option Char) :
    List Char → (i : Nat) → Places
  | [], i => if holds before none then 1 <<< i else 0
  | c :: cs, i =>
    (if holds before (some c) then 1 <<< i else 0) ||| placesFrom holds (some c) cs (i + 1)

/-- The move that takes a character with a property. -/
def taking (text : List Char) (property : Char → Bool) : Move :=
  ⟨placesFrom (fun _ behind => behind.any property) none text 0, true⟩

/-- The move that leads nowhere. -/
def nowhere : Move := ⟨0, true⟩

/-- What a test does to the places of a text.  Nothing that is longer than the text fits. -/
def moves (text : List Char) : Test → List Move
  | literal chars =>
    if text.length < chars.length then [nowhere] else chars.map fun c => taking text (· == c)
  | one set _ => [taking text set.mem]
  | look l => [⟨placesFrom (fun before behind => l.holds before behind) none text 0, false⟩]

end Test

/-- Whether a text holds a piece that fits a pattern. -/
def Pattern.foundIn (p : Pattern Test) (text : String) : Bool :=
  let cs := text.toList
  (p.map (Test.moves cs)).fits cs.length

end EscapeAudit
