import EscapeAudit.Token.Kind

/-!
# Operators

The longest operator in front wins: three characters, then two, then one.  `?`, `:` and `;` depend
on the ternaries that are open and are left to the scanner.
-/

namespace EscapeAudit.Lexer

/-- The operators of three characters. -/
def operatorOfThree? : Char → Char → Char → Option Kind
  | '=', '=', '=' => some .comparison
  | '!', '=', '=' => some .comparison
  | '<', '=', '>' => some .comparison
  | '*', '*', '=' => some .assignmentOperator
  | '<', '<', '=' => some .assignmentOperator
  | '>', '>', '=' => some .assignmentOperator
  | '?', '?', '=' => some .assignmentOperator
  | '?', '-', '>' => some .nullsafeObjectOperator
  | '.', '.', '.' => some .other
  | _, _, _ => none

/-- The operators of two characters. -/
def operatorOfTwo? : Char → Char → Option Kind
  | '-', '>' => some .objectOperator
  | '=', '>' => some .doubleArrow
  | ':', ':' => some .doubleColon
  | '=', '=' => some .comparison
  | '!', '=' => some .comparison
  | '<', '>' => some .comparison
  | '<', '=' => some .comparison
  | '>', '=' => some .comparison
  | '&', '&' => some .booleanOperator
  | '|', '|' => some .booleanOperator
  | '?', '?' => some .coalesce
  | '+', '+' => some .incrementDecrement
  | '-', '-' => some .incrementDecrement
  | '+', '=' => some .assignmentOperator
  | '-', '=' => some .assignmentOperator
  | '*', '=' => some .assignmentOperator
  | '/', '=' => some .assignmentOperator
  | '%', '=' => some .assignmentOperator
  | '&', '=' => some .assignmentOperator
  | '|', '=' => some .assignmentOperator
  | '^', '=' => some .assignmentOperator
  | '.', '=' => some .concatEqual
  | '<', '<' => some .bitwise
  | '>', '>' => some .bitwise
  | '*', '*' => some .pow
  | _, _ => none

/-- The kind of a character that stands for itself. -/
def operatorOfOne : Char → Kind
  | '+' => .plus
  | '-' => .minus
  | '*' => .multiply
  | '/' => .divide
  | '%' => .modulus
  | '.' => .concat
  | '=' => .equal
  | '<' => .comparison
  | '>' => .comparison
  | '!' => .booleanNot
  | '&' => .bitwise
  | '|' => .bitwise
  | '^' => .bitwise
  | '~' => .bitwise
  | '(' => .openParenthesis
  | ')' => .closeParenthesis
  | '[' => .openSquareBracket
  | ']' => .closeSquareBracket
  | '{' => .openCurlyBracket
  | '}' => .closeCurlyBracket
  | ',' => .comma
  | _ => .other

end EscapeAudit.Lexer
