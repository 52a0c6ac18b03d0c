import EscapeAudit.Token.Kind
import EscapeAudit.Text.Basic

/-!
# Words

A bare word of code is an identifier unless it is reserved.  Upper and lower case of ASCII letters
do not matter.
-/

namespace EscapeAudit

/-- The reserved words that have no kind of their own, in lower case. -/
def reservedWords : List String :=
  ["abstract", "and", "array", "as", "break", "callable", "case", "catch", "class", "clone",
   "const", "continue", "declare", "default", "die", "do", "else", "elseif", "empty",
   "enddeclare", "endfor", "endforeach", "endif", "endswitch", "endwhile", "enum", "eval", "exit",
   "extends", "final", "finally", "fn", "for", "foreach", "function", "global", "goto", "if",
   "implements", "include", "include_once", "instanceof", "insteadof", "interface", "isset",
   "list", "match", "namespace", "new", "or", "private", "protected", "public", "readonly",
   "require", "require_once", "return", "static", "switch", "throw", "trait", "try", "unset",
   "use", "var", "while", "xor", "yield",
   "self", "parent", "__line__", "__file__", "__dir__", "__class__", "__function__",
   "__method__", "__namespace__", "__trait__"]

/-- The kind of a bare word. -/
def Kind.ofWord (word : String) : Kind :=
  let lower := Text.asciiLower word
  if lower == "echo" then .echo
  else if lower == "print" then .print
  else if lower == "true" then .trueWord
  else if lower == "false" then .falseWord
  else if lower == "null" then .nullWord
  else if reservedWords.contains lower then .keyword
  else .identifier

end EscapeAudit
