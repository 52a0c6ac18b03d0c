import EscapeAudit.Pattern.Normal
import EscapeAudit.Pattern.Property
import EscapeAudit.Text.Fold

/-!
# The meaning of patterns

The written form of a pattern stands for a pattern made of tests.  What a character, a dot or a
test stands for depends on the switches.  A switch holds from where it is set to the end of its
group, over the bars between the branches too.

Without characters beyond ASCII a pattern is about bytes.  Only texts are searched, so a set of
bytes must then hold bytes of ASCII only.
-/

namespace EscapeAudit

open Text (CharSet)

/-- The switches that the meaning depends on. -/
structure PatternSettings where
  /-- Case does not matter. -/
  caseless : Bool
  /-- `^` and `$` stand for the ends of lines. -/
  multiLine : Bool
  /-- A dot stands for a line feed too. -/
  dotAll : Bool
  /-- Repetitions stop early. -/
  swapGreed : Bool
  /-- Characters beyond ASCII are known. -/
  unicode : Bool
  /-- A carriage return ends a line too. -/
  carriageReturn : Bool
  deriving DecidableEq, Repr

namespace PatternSettings

/-- The switches at the beginning. -/
def initial : PatternSettings := ⟨false, false, false, false, true, false⟩

/-- The settings with some switches changed. -/
def change (s : PatternSettings) (c : FlagChange) : PatternSettings where
  caseless := (c.setting .caseless).getD s.caseless
  multiLine := (c.setting .multiLine).getD s.multiLine
  dotAll := (c.setting .dotAll).getD s.dotAll
  swapGreed := (c.setting .swapGreed).getD s.swapGreed
  unicode := (c.setting .unicode).getD s.unicode
  carriageReturn := (c.setting .carriageReturn).getD s.carriageReturn

/-- A set without regard to case, where case does not matter. -/
def fold (s : PatternSettings) (set : CharSet) : CharSet :=
  if s.caseless then
    if s.unicode then set.folded else set.asciiFolded
  else set

/-- A set, or all other characters.  Among bytes these are not all of ASCII. -/
def negate (s : PatternSettings) (span : PatternSpan) (negated : Bool) (set : CharSet) :
    Except PatternFault CharSet :=
  if negated then
    if s.unicode then .ok set.compl else .error ⟨.invalidText, span, none⟩
  else .ok set

/-- The characters of words. -/
def word (s : PatternSettings) : CharSet := if s.unicode then .word else .asciiWord

/-- What a test that takes no character asks for. -/
def look (s : PatternSettings) : LookNode → Look
  | .startLine => if s.multiLine then .lineStart s.carriageReturn else .textStart
  | .endLine => if s.multiLine then .lineEnd s.carriageReturn else .textEnd
  | .startText => .textStart
  | .endText => .textEnd
  | .boundary => .boundary !s.unicode
  | .noBoundary => .noBoundary !s.unicode
  | .wordStart => .wordStart !s.unicode
  | .wordEnd => .wordEnd !s.unicode
  | .wordStartHalf => .noWordBefore !s.unicode
  | .wordEndHalf => .noWordBehind !s.unicode

/-- The set that a dot stands for. -/
def dot (s : PatternSettings) (span : PatternSpan) : Except PatternFault CharSet :=
  if !s.unicode then .error ⟨.invalidText, span, none⟩
  else if s.dotAll then .ok .any
  else if s.carriageReturn then .ok (CharSet.ofText "A D").compl
  else .ok (CharSet.single '\n').compl

/-- The character of a literal.  A byte beyond ASCII is no text. -/
def literal (s : PatternSettings) (l : Literal) : Except PatternFault Char :=
  if !s.unicode && l.byte && 0x80 ≤ l.char.toNat then .error ⟨.invalidText, l.span, none⟩
  else .ok l.char

/-- The character of a literal in brackets.  A set of bytes holds no character beyond ASCII. -/
def member (s : PatternSettings) (l : Literal) : Except PatternFault Nat := do
  let c ← s.literal l
  if !s.unicode && 0x80 ≤ c.toNat then throw ⟨.unicodeNotAllowed, l.span, none⟩
  return c.toNat

/-- The set with a letter of its own. -/
def shorthand (s : PatternSettings) (p : Shorthand) : Except PatternFault CharSet :=
  let set : CharSet := match p.kind with
    | .digit => if s.unicode then .digit else .asciiDigit
    | .space => if s.unicode then .whiteSpace else .asciiBlank
    | .word => s.word
  s.negate p.span p.negated set

/-- The set given by a property. -/
def property (s : PatternSettings) (p : Property) : Except PatternFault CharSet :=
  if !s.unicode then .error ⟨.unicodeNotAllowed, p.span, none⟩
  else
    match p.name.set with
    | .ok set => s.negate p.span p.negated (s.fold set)
    | .error problem => .error ⟨problem, p.span, none⟩

end PatternSettings

/-- The set with a name between colons. -/
def AsciiKind.set : AsciiKind → CharSet
  | alnum => .ofText "30-39 41-5A 61-7A"
  | alpha => .ofText "41-5A 61-7A"
  | ascii => .ascii
  | blank => .ofText "9 20"
  | cntrl => .ofText "0-1F 7F"
  | digit => .ofText "30-39"
  | graph => .ofText "21-7E"
  | lower => .ofText "61-7A"
  | print => .ofText "20-7E"
  | punct => .ofText "21-2F 3A-40 5B-60 7B-7E"
  | space => .ofText "9-D 20"
  | upper => .ofText "41-5A"
  | word => .ofText "30-39 41-5A 5F 61-7A"
  | xdigit => .ofText "30-39 41-46 61-66"

/-- The operator between two sets. -/
def SetOperator.apply : SetOperator → CharSet → CharSet → CharSet
  | intersection, a, b => a.inter b
  | difference, a, b => a.minus b
  | symmetricDifference, a, b => a.difference b

mutual

/-- The set of what stands in brackets, before case and negation of these brackets. -/
def SetNode.meaning (s : PatternSettings) : SetNode → Except PatternFault CharSet
  | .empty _ => .ok .empty
  | .literal l => do
    let n ← s.member l
    return .range n n
  | .range _ lo hi => return .range (← s.member lo) (← s.member hi)
  | .ascii span negated kind => s.negate span negated (s.fold kind.set)
  | .property p => s.property p
  | .shorthand p => s.shorthand p
  | .bracket span negated inner => do s.negate span negated (s.fold (← inner.meaning s))
  | .union _ items => SetNode.meanings s items
  | .binary _ op lhs rhs => do
    let a ← lhs.meaning s
    let b ← rhs.meaning s
    return op.apply (s.fold a) (s.fold b)

/-- The union of the sets of what stands side by side. -/
def SetNode.meanings (s : PatternSettings) : List SetNode → Except PatternFault CharSet
  | [] => .ok .empty
  | item :: items => do
    let first ← item.meaning s
    return first.union (← SetNode.meanings s items)

end

/-- A meaning that depends on the settings and may change them. -/
abbrev MeaningM (α : Type) := StateT PatternSettings (Except PatternFault) α

namespace PatternNode

/-- The pattern of one character of a set. -/
def oneOf (set : PatternSettings → Except PatternFault CharSet) : MeaningM (Pattern Test) := do
  let s ← get
  return .oneOf (← liftM (set s)) !s.unicode

mutual

/-- The pattern that a written form stands for. -/
def meaning : PatternNode → MeaningM (Pattern Test)
  | .empty _ => return .empty
  | .flags _ change => do
    modify (·.change change)
    return .empty
  | .literal l => oneOf fun s => return s.fold (.single (← s.literal l))
  | .dot span => oneOf (·.dot span)
  | .look _ kind => return .test (.look ((← get).look kind))
  | .property p => oneOf (·.property p)
  | .shorthand p => oneOf (·.shorthand p)
  | .bracket span negated inner => oneOf fun s => do
    s.negate span negated (s.fold (← inner.meaning s))
  | .repetition _ body times => do
    let p ← body.meaning
    return p.times { times with greedy := times.greedy != (← get).swapGreed }
  | .group span kept change body => do
    let outer ← get
    set (outer.change change)
    let p ← body.meaning
    set outer
    return if kept then .group span.start.offset p else p
  | .either _ branches => return .choice (← meanings branches)
  | .seq _ parts => return .sequence (← meanings parts)

/-- The patterns that written forms one behind another stand for. -/
def meanings : List PatternNode → MeaningM (List (Pattern Test))
  | [] => return []
  | node :: nodes => do
    let p ← node.meaning
    return p :: (← meanings nodes)

end

end PatternNode

end EscapeAudit
