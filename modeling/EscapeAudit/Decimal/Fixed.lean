/-!
# Decimals with a fixed number of places

A quotient of two naturals rounded to the nearest integer, with a half going to the even neighbour,
and the text of a quotient with a given number of decimal places.
-/

namespace EscapeAudit.Decimal

/-- The integer nearest to `num / den`.  A half goes to the even neighbour. -/
def roundHalfEven (num den : Nat) : Nat :=
  let q := num / den
  let r := num % den
  if 2 * r < den then q
  else if den < 2 * r then q + 1
  else if q % 2 == 0 then q
  else q + 1

/-- The decimal digits of a number, with zeros in front up to the width. -/
def padded (width n : Nat) : List Char :=
  let digits := Nat.toDigits 10 n
  List.replicate (width - digits.length) '0' ++ digits

/-- `num / den` with the given number of decimal places. -/
def fixed (places num den : Nat) : String :=
  let n := roundHalfEven (num * Nat.pow 10 places) den
  let whole := Nat.toDigits 10 (n / Nat.pow 10 places)
  if places == 0 then String.ofList whole
  else String.ofList (whole ++ '.' :: padded places (n % Nat.pow 10 places))

end EscapeAudit.Decimal
