/-!
# Edits

An edit puts a text before, behind or in place of one token, which it names by its index.  A
changeset is a list of edits that are made together or not at all.
-/

namespace EscapeAudit

/-- A change at one token. -/
inductive Edit where
  /-- Puts a text before the token. -/
  | insertBefore (token : Nat) (text : String)
  /-- Puts a text behind the token. -/
  | insertAfter (token : Nat) (text : String)
  /-- Puts a text in place of the token's own. -/
  | replace (token : Nat) (text : String)
  deriving DecidableEq, Repr

namespace Edit

/-- The token that an edit is about. -/
def token : Edit → Nat
  | insertBefore token _ => token
  | insertAfter token _ => token
  | replace token _ => token

/-- The text that an edit brings. -/
def text : Edit → String
  | insertBefore _ text => text
  | insertAfter _ text => text
  | replace _ text => text

end Edit

/-- Edits that are made together or not at all. -/
structure Changeset where
  /-- The edits in order. -/
  edits : List Edit
  deriving DecidableEq, Repr

end EscapeAudit
