import EscapeAudit.RuleSet
import EscapeAudit.Text.Blank
import EscapeAudit.Token.Stream

/-!
# The markup around an output

Which escape function an output needs is read off the markup before it, all of it joined.  Inside a
script element it is the one for scripts.  Inside the value of an attribute between double quotes it
depends on the name of the attribute and on the beginning of the value.  Elsewhere it is the one for
text.

The open attribute is read backward from the end of the markup: the value holds no double quote
and no `>`, and before it stand the double quote, `=`, the name, and a blank.  Blanks may stand
around the `=`.  So there is at most one.
-/

namespace EscapeAudit

/-- The ways to escape. -/
inductive EscapeFunction where
  /-- For text. -/
  | html
  /-- For the value of an attribute. -/
  | htmlAttr
  /-- For a script. -/
  | js
  /-- For an address. -/
  | url
  deriving DecidableEq, Repr

/-- The method that escapes. -/
def EscapeFunction.method : EscapeFunction → String
  | html => "escapeHtml"
  | htmlAttr => "escapeHtmlAttr"
  | js => "escapeJs"
  | url => "escapeUrl"

namespace Markup

/-- The beginning of a script element. -/
def scriptOpening : List Char := "<script".toList

/-- The end of a script element. -/
def scriptClosing : List Char := "</script>".toList

/-- Whether the last script tag of a text in lower case opens an element.  `isOpen` says so of what
came before. -/
def scriptOpenFrom : List Char → (isOpen : Bool) → Bool
  | [], isOpen => isOpen
  | c :: cs, isOpen =>
    if scriptOpening.isPrefixOf (c :: cs) then scriptOpenFrom cs true
    else if scriptClosing.isPrefixOf (c :: cs) then scriptOpenFrom cs false
    else scriptOpenFrom cs isOpen

/-- Whether the markup ends inside a script element. -/
def inScript (markup : String) : Bool :=
  scriptOpenFrom (markup.toList.map Char.toLower) false

/-- The characters of a value that is still open. -/
def isValueChar (c : Char) : Bool := c != '"' && c != '>'

/-- The characters of the name of an attribute. -/
def isNameChar (c : Char) : Bool :=
  !Text.isBlank c && c != '"' && c != '\'' && c != '>' && c != '/' && c != '='

/-- The name of the attribute before a reversed text that ends in front of `=`. -/
def nameBefore? (reversed : List Char) : Option (List Char) :=
  let padded := reversed.dropWhile Text.isBlank
  let name := padded.takeWhile isNameChar
  match name, padded.dropWhile isNameChar with
  | [], _ => none
  | _, [] => none
  | _, c :: _ => if Text.isBlank c then some name.reverse else none

/-- The name and the value of the attribute that a text ends in. -/
def openAttribute? (markup : List Char) : Option (List Char × List Char) :=
  let reversed := markup.reverse
  match reversed.dropWhile isValueChar with
  | '"' :: before =>
    match before.dropWhile Text.isBlank with
    | '=' :: before =>
      (nameBefore? before).map fun name => (name, (reversed.takeWhile isValueChar).reverse)
    | _ => none
  | _ => none

/-- The escape function for the value of an attribute. -/
def functionForAttribute (rules : RuleSet) (name value : String) : EscapeFunction :=
  let name := Text.lowercase name
  let value := Text.lowercase value
  if Text.contains value "url(" then .url
  else if Text.contains value "javascript:" then .js
  else if rules.isUrlAttribute name then .url
  else if Text.startsWith name "on" then .js
  else .htmlAttr

/-- The escape function behind a markup, with a given way to find the attribute that it ends in. -/
def escapeFunctionBy (find : List Char → Option (List Char × List Char)) (rules : RuleSet)
    (markup : String) : EscapeFunction :=
  if inScript markup then .js
  else
    match find markup.toList with
    | none => .html
    | some (name, value) =>
      functionForAttribute rules (String.ofList name) (String.ofList value)

/-- The escape function behind a markup. -/
def escapeFunction (rules : RuleSet) (markup : String) : EscapeFunction :=
  escapeFunctionBy openAttribute? rules markup

end Markup

/-- All markup before a token, joined. -/
def Stream.markupBefore (s : Stream) (anchor : Nat) : String :=
  s.tokens.foldl (fun acc t => if t.kind == .inlineHtml then acc ++ t.text else acc) ""
    0 (min anchor s.size)

end EscapeAudit
