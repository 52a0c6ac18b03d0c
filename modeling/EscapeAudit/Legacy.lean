import EscapeAudit.Output.Statement

/-!
# Escaping through the block

An escaping method called on `$block` should be called on the escaper.  The receiver of a call is
the nearest `$block` or escaper before it, not before the entry point.  A call on the escaper is
fine.

A template with an escaping call should declare the escaper in its header, which is the code
before the first close tag of a template that begins with an open tag.  This is looked at once, at
the first statement that has such a call.
-/

namespace EscapeAudit

/-- The receiver of deprecated calls. -/
def blockAccessor : String := "$block"

/-- The class that the header has to name. -/
def escaperClass : String := "Magento\\Framework\\Escaper"

/-- The declaration that the header should hold. -/
def escaperDeclaration : String := "/** @var \\Magento\\Framework\\Escaper $escaper */\n"

namespace Stream

/-- The escaping methods in the statement that a token opens. -/
def escapeCalls (s : Stream) (rules : RuleSet) (entry : Nat) : List Nat :=
  (List.range' entry (s.statementEnd entry - entry)).filter fun i =>
    rules.isLegacyEscapeMethod (s.text i)

/-- Whether a token is `$block` or the escaper. -/
def isReceiver (s : Stream) (rules : RuleSet) (i : Nat) : Bool :=
  s.text i == blockAccessor || s.text i == rules.escaperAccessor

/-- The `$block` that a call is made on, if it is made on one. -/
def blockReceiver? (s : Stream) (rules : RuleSet) (entry call : Nat) : Option Nat :=
  match lastIn (s.isReceiver rules) entry call with
  | some i => if s.text i == blockAccessor then some i else none
  | none => none

/-- The end of the header: the first close tag. -/
def headerEnd (s : Stream) : Nat :=
  (s.findNext (· == .closeTag) 0 s.size).getD s.size

/-- Whether the header lacks the declaration of the escaper. -/
def lacksDeclaration (s : Stream) : Bool :=
  s.kind? 0 == some .openTag &&
    (firstIn (fun i => Text.contains (s.text i) escaperClass) 0 s.headerEnd).isNone

/-- The finding about a call on `$block`. -/
def aliasFinding (s : Stream) (rules : RuleSet) (receiver : Nat) : Finding :=
  ⟨.at_ s .deprecatedEscape receiver, some ⟨[.replace receiver rules.escaperAccessor]⟩⟩

/-- The finding about the header. -/
def headerFinding (s : Stream) : Finding :=
  ⟨.at_ s .missingDeclaration 0, some ⟨[.insertAfter 0 escaperDeclaration]⟩⟩

/-- What there is to say about escaping calls in the statement that a token opens, and whether the
header has been looked at after it. -/
def legacySteps (s : Stream) (rules : RuleSet) (headerChecked : Bool) (entry : Nat) :
    List Step × Bool :=
  let calls := s.escapeCalls rules entry
  let aliases := (calls.filterMap (s.blockReceiver? rules entry)).map fun receiver =>
    Step.found (s.aliasFinding rules receiver)
  if calls.isEmpty || headerChecked then (aliases, headerChecked)
  else if s.lacksDeclaration then (aliases ++ [.found s.headerFinding], true)
  else (aliases, true)

end Stream

end EscapeAudit
