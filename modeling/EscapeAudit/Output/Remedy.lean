import EscapeAudit.Edit.Basic
import EscapeAudit.Output.Markup

/-!
# Remedies

How an output that is not escaped is mended.  The name of the output comes first: data in JSON is
marked as exempt, because escaping would break it, and an address is escaped as one.  Any other
output is escaped as the markup around it asks.

The mark of an `echo` statement stands before the keyword, where the statement looks for it.  Any
other mark stands before the leaf.
-/

namespace EscapeAudit

/-- The ways to mend an output. -/
inductive Remedy where
  /-- Nothing is to be done. -/
  | nothing
  /-- A comment exempts the statement. -/
  | mark
  /-- A call escapes the output. -/
  | wrap (f : EscapeFunction)
  deriving DecidableEq, Repr

/-- How one leaf is mended. -/
structure Decision where
  /-- The first token of the leaf. -/
  first : Nat
  /-- The last token of the leaf. -/
  last : Nat
  /-- The token that names the output. -/
  named : Nat
  /-- The token that a mark stands before. -/
  markerAt : Nat
  /-- The way to mend it. -/
  remedy : Remedy
  deriving DecidableEq, Repr

/-- The comment that exempts a statement. -/
def exemption : String := "/* @noEscape */ "

/-- The way to mend an output with a name. -/
def Stream.remedyFor (s : Stream) (rules : RuleSet) (first : Nat) (name : String) : Remedy :=
  let name := Text.lowercase name
  if Text.contains name "json" then .mark
  else if Text.contains name "url" then .wrap .url
  else .wrap (Markup.escapeFunction rules (s.markupBefore first))

/-- Decides how to mend the leaf from `first` to `last` in the statement that `entry` opens. -/
def Stream.decide (s : Stream) (rules : RuleSet) (entry first last named : Nat) : Decision where
  first := first
  last := last
  named := named
  markerAt := if s.kind? entry == some .echo then entry else first
  remedy := s.remedyFor rules first (s.text named)

/-- The edits of a decision. -/
def Decision.changeset? (rules : RuleSet) (d : Decision) : Option Changeset :=
  match d.remedy with
  | .nothing => none
  | .mark => some ⟨[.insertBefore d.markerAt exemption]⟩
  | .wrap f =>
    some ⟨[.insertBefore d.first (rules.escaperAccessor ++ "->" ++ f.method ++ "("),
           .insertAfter d.last ")"]⟩

end EscapeAudit
