import EscapeAudit.Text.Basic
import EscapeAudit.Text.Lowercase

/-!
# Rule sets

The tables that the rules ask: which members and functions give safe output, which comments exempt a
statement, which attributes hold addresses, and which methods escape through the block.
-/

namespace EscapeAudit

/-- The tables of the rules. -/
structure RuleSet where
  /-- Members that escape their argument. -/
  allowedMethods : List String
  /-- A member whose name holds this text counts as escaping.  Case does not matter, and the empty
  text matches nothing. -/
  methodNameContains : String
  /-- Functions whose result needs no escaping. -/
  allowedFunctions : List String
  /-- The markers in a comment that exempt a statement. -/
  allowedAnnotations : List String
  /-- Attributes whose value is an address. -/
  urlAttributeNames : List String
  /-- Methods that escape when called through the block. -/
  legacyEscapeMethods : List String
  /-- The receiver of escaping calls. -/
  escaperAccessor : String
  deriving DecidableEq, Repr

namespace RuleSet

/-- The tables that hold unless the settings say otherwise. -/
def standard : RuleSet where
  allowedMethods :=
    ["escapeUrl", "escapeJsQuote", "escapeQuote", "escapeXssInUrl", "escapeJs", "escapeCss",
     "getJsLayout"]
  methodNameContains := "html"
  allowedFunctions := ["count"]
  allowedAnnotations := ["@noEscape"]
  urlAttributeNames :=
    ["action", "archive", "background", "cite", "classid", "codebase", "data", "dsync",
     "formaction", "href", "icon", "longdesc", "manifest", "poster", "profile", "src", "usemap"]
  legacyEscapeMethods :=
    ["escapeUrl", "escapeHtml", "escapeHtmlAttr", "escapeJsQuote", "escapeQuote",
     "escapeXssInUrl", "escapeJs", "escapeCss", "getJsLayout"]
  escaperAccessor := "$escaper"

/-- Whether a member escapes its argument. -/
def isAllowedMethod (r : RuleSet) (name : String) : Bool :=
  r.allowedMethods.contains name ||
    (r.methodNameContains != "" &&
      Text.contains (Text.lowercase name) (Text.lowercase r.methodNameContains))

/-- Whether the result of a function needs no escaping. -/
def isAllowedFunction (r : RuleSet) (name : String) : Bool :=
  r.allowedFunctions.contains name

/-- Whether a comment holds a marker. -/
def isExemption (r : RuleSet) (comment : String) : Bool :=
  r.allowedAnnotations.any (Text.contains comment)

/-- Whether an attribute, in lower case, holds an address. -/
def isUrlAttribute (r : RuleSet) (name : String) : Bool :=
  r.urlAttributeNames.contains name

/-- Whether a method escapes when called through the block. -/
def isLegacyEscapeMethod (r : RuleSet) (name : String) : Bool :=
  r.legacyEscapeMethods.contains name

end RuleSet

end EscapeAudit
