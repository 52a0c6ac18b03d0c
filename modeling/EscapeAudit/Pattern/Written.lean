import EscapeAudit.Pattern.Bracket
import EscapeAudit.Pattern.Group

/-!
# Patterns as they are written

The text of a pattern is read as a choice of branches between bars.  A branch is a sequence of
items, each of them a character, a set, a test, a group or a repetition of the item before.  The
tree must not be nested too deep.
-/

namespace EscapeAudit

open PatternReader

/-- The branches of a group so far. -/
structure Branches where
  /-- The parenthesis of the group, or nothing outside of all groups. -/
  opening : Option PatternSpan
  /-- The place where the first branch begins. -/
  start : PatternPlace
  /-- The branches that are complete, the last one first. -/
  done : List PatternNode
  /-- The place where the present branch begins. -/
  begin : PatternPlace
  /-- The items of the present branch, the last one first. -/
  items : List PatternNode
  deriving Repr

namespace Branches

/-- No branches yet. -/
def empty (opening : Option PatternSpan) (start : PatternPlace) : Branches :=
  ⟨opening, start, [], start, []⟩

/-- Adds an item to the present branch. -/
def push (b : Branches) (item : PatternNode) : Branches := { b with items := item :: b.items }

/-- The present branch, up to a place. -/
def present (b : Branches) (stop : PatternPlace) : PatternNode :=
  match b.items with
  | [] => .empty ⟨b.begin, stop⟩
  | [item] => item
  | items => .seq ⟨b.begin, stop⟩ items.reverse

/-- Begins a new branch behind a bar. -/
def bar (b : Branches) (stop begin : PatternPlace) : Branches :=
  { b with done := b.present stop :: b.done, begin, items := [] }

/-- All branches, up to a place. -/
def toNode (b : Branches) (stop : PatternPlace) : PatternNode :=
  match b.done with
  | [] => b.present stop
  | done => .either ⟨b.start, stop⟩ (b.present stop :: done).reverse

/-- Takes back the last item, which is repeated. -/
def pop (b : Branches) : PatternReader (PatternNode × Branches) := do
  match b.items with
  | [] | .empty _ :: _ | .flags _ _ :: _ => fail .repetitionMissing (← point)
  | item :: items => return (item, { b with items })

end Branches

namespace PatternNode

/-- Reads an item that is neither a group nor brackets nor a repetition. -/
def readSimple (c : Char) : PatternReader PatternNode := do
  let span ← nextSpan
  match c with
  | '\\' => return (← Escaped.read).toNode
  | '.' =>
    take
    return .dot span
  | '^' =>
    take
    return .look span .startLine
  | '$' =>
    take
    return .look span .endLine
  | c =>
    take
    return .literal ⟨span, c, false⟩

/-- Says whether blanks and comments are skipped from here on. -/
def setFree (free : Bool) : PatternReader Unit := modify fun cursor => { cursor with free }

/-- Reads the branches of a group up to its closing parenthesis, or those outside of all groups up
to the end.  `fuel` bounds the number of items. -/
def readBranches : (fuel : Nat) → Branches → PatternReader PatternNode
  | 0, b => return b.toNode (← here)
  | fuel + 1, b => do
    skipBlanks
    match ← next with
    | none =>
      match b.opening with
      | some opening => fail .groupUnclosed opening
      | none => return b.toNode (← here)
    | some ')' =>
      match b.opening with
      | some _ => return b.toNode (← here)
      | none => fail .groupUnopened (← nextSpan)
    | some '|' =>
      let stop ← here
      take
      readBranches fuel (b.bar stop (← here))
    | some '(' =>
      let (opening, head) ← GroupHead.read
      let free := (← get).free
      match head with
      | .settings span change =>
        setFree ((change.setting .free).getD free)
        readBranches fuel (b.push (.flags span change))
      | .group kept change =>
        setFree ((change.setting .free).getD free)
        let body ← readBranches fuel (.empty (some opening) (← here))
        setFree free
        take
        readBranches fuel (b.push (.group (← since opening.start) kept change body))
    | some '[' =>
      let set ← SetNode.readBracket
      readBranches fuel (b.push set)
    | some '{' =>
      let (item, b) ← b.pop
      let times ← Repetition.readCounted
      readBranches fuel (b.push (.repetition (← since item.span.start) item times))
    | some c =>
      match Repetition.bounds? c with
      | some bounds =>
        let (item, b) ← b.pop
        let times ← Repetition.readSign bounds
        readBranches fuel (b.push (.repetition (← since item.span.start) item times))
      | none =>
        let item ← readSimple c
        readBranches fuel (b.push item)

end PatternNode

/-- How deep a pattern can be nested. -/
def nestLimit : Nat := 250

/-- What one level deeper finds, or the piece of the text that is too deep. -/
def deeper (span : PatternSpan) (depth : Nat) (inner : Nat → Option PatternSpan) :
    Option PatternSpan :=
  if depth < nestLimit then inner (depth + 1) else some span

/-- The first piece of what stands in brackets that is nested too deep.  `depth` counts the levels
around it. -/
def SetNode.tooDeep? : SetNode → (depth : Nat) → Option PatternSpan
  | .bracket span _ inner, depth => deeper span depth inner.tooDeep?
  | .union span items, depth =>
    deeper span depth fun depth => items.attach.findSome? fun ⟨item, _⟩ => item.tooDeep? depth
  | .binary span _ lhs rhs, depth =>
    deeper span depth fun depth => (lhs.tooDeep? depth).or (rhs.tooDeep? depth)
  | _, _ => none

/-- The first piece of a pattern that is nested too deep.  `depth` counts the levels around it. -/
def PatternNode.tooDeep? : PatternNode → (depth : Nat) → Option PatternSpan
  | .bracket span _ inner, depth => deeper span depth inner.tooDeep?
  | .repetition span body _, depth => deeper span depth body.tooDeep?
  | .group span _ _ body, depth => deeper span depth body.tooDeep?
  | .either span parts, depth | .seq span parts, depth =>
    deeper span depth fun depth => parts.attach.findSome? fun ⟨part, _⟩ => part.tooDeep? depth
  | _, _ => none

/-- Reads the text of a pattern. -/
def PatternNode.ofText (text : String) : Except PatternFault PatternNode := do
  let cs := text.toList
  let (node, _) ← (readBranches (cs.length + 1) (.empty none .start)).run ⟨cs, .start, false, []⟩
  match node.tooDeep? 0 with
  | some span => throw ⟨.nestLimitExceeded nestLimit, span, none⟩
  | none => return node

end EscapeAudit
