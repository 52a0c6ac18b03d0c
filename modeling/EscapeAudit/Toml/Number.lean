import EscapeAudit.Toml.Quoted

/-!
# Numbers and dates

A number is a whole number of 64 bits, in decimal or with the mark of another base, or a decimal
fraction, which may not be too large to be a finite one of double precision.  Single underscores
may stand between digits.  A date has a month and a day of that month, and a time may follow it or
stand alone.
-/

namespace EscapeAudit.Toml

open Reader

/-- Takes digits that pass the test, with single underscores between them. -/
def digits (test : Char → Bool) : Reader (List Char) := do
  let first ← one test
  let rest ← many (one test <|> (do exactly "_"; one test))
  return first :: rest

/-- Takes a sign, and says whether it is a minus. -/
def sign : Reader Bool := do
  return (← optional (one fun c => c == '+' || c == '-')) == some '-'

/-- Takes the digits of a decimal whole number.  Only a single zero begins with zero. -/
def decimalDigits : Reader (List Char) := do
  match ← next with
  | some '0' => return [← one (· == '0')]
  | _ => digits Char.isDigit

/-- The value of digits in a base. -/
def valueOf (base : Nat) (ds : List Char) : Nat :=
  ds.foldl (fun n d => base * n + (hexValue? d).getD 0) 0

/-- Takes a whole number with the mark of a base. -/
def basedInteger (mark : String) (base : Nat) : Reader Unit := do
  exactly mark
  let ds ← digits fun c => match hexValue? c with
    | some v => v < base
    | none => false
  guard (valueOf base ds < Nat.pow 2 63)

/-- Takes a decimal whole number. -/
def decimalInteger : Reader Unit := do
  let negative ← sign
  let n := valueOf 10 (← decimalDigits)
  guard (if negative then n ≤ Nat.pow 2 63 else n < Nat.pow 2 63)

/-- Takes an exponent and gives its value. -/
def exponent : Reader Int := do
  let _ ← one fun c => c == 'e' || c == 'E'
  let negative ← sign
  let n := valueOf 10 (← digits Char.isDigit)
  return if negative then -(n : Int) else n

/-- Takes the digits behind a decimal point. -/
def fraction : Reader (List Char) := do
  exactly "."
  digits Char.isDigit

/-- Whether `mantissa * 10 ^ e` is rounded to a finite number of double precision. -/
def isFinite (mantissa : Nat) (e : Int) : Bool :=
  let digits := (toString mantissa).length
  if mantissa == 0 || (digits : Int) + e < 308 then true
  else if 310 < (digits : Int) + e then false
  else
    let bound := Nat.pow 2 1024 - Nat.pow 2 970
    if e < 0 then mantissa < bound * Nat.pow 10 e.natAbs else mantissa * Nat.pow 10 e.toNat < bound

/-- Takes a decimal fraction. -/
def decimalFraction : Reader Unit := do
  let negative ← sign
  let whole ← decimalDigits
  let part ← optional fraction
  let e ← match part with
    | some _ => (·.getD 0) <$> optional exponent
    | none => exponent
  let places := (part.getD []).length
  guard (negative || isFinite (valueOf 10 (whole ++ part.getD [])) (e - places))

/-- Takes infinity or what is no number. -/
def specialNumber : Reader Unit := do
  let _ ← sign
  exactly "inf" <|> exactly "nan"

/-- Takes a given number of decimal digits with a value in a range. -/
def field (width low high : Nat) : Reader Nat := do
  let n := valueOf 10 (← times Char.isDigit width)
  guard (low ≤ n && n ≤ high)
  return n

/-- The number of days of a month. -/
def daysOf (year month : Nat) : Nat :=
  let leap := year % 4 == 0 && (year % 100 != 0 || year % 400 == 0)
  if month == 2 then (if leap then 29 else 28)
  else if month == 4 || month == 6 || month == 9 || month == 11 then 30
  else 31

/-- Takes a date. -/
def calendarDate : Reader Unit := do
  let year ← field 4 0 9999
  exactly "-"
  let month ← field 2 1 12
  exactly "-"
  let _ ← field 2 1 (daysOf year month)

/-- Takes a time of day. -/
def clockTime : Reader Unit := do
  let _ ← field 2 0 23
  exactly ":"
  let _ ← field 2 0 59
  exactly ":"
  let _ ← field 2 0 60
  let _ ← optional (do
    exactly "."
    let _ ← one Char.isDigit
    run Char.isDigit)

/-- Takes the distance of a time from universal time. -/
def timeOffset : Reader Unit :=
  (do let _ ← one fun c => c == 'Z' || c == 'z') <|>
  (do
    let _ ← one fun c => c == '+' || c == '-'
    let _ ← field 2 0 23
    exactly ":"
    let _ ← field 2 0 59)

/-- Takes a date, a time, or both. -/
def dateTime : Reader Unit :=
  (do
    calendarDate
    let _ ← optional (do
      let _ ← one fun c => c == 'T' || c == 't' || c == ' '
      clockTime
      optional timeOffset)) <|>
  clockTime

/-- Takes a number. -/
def number : Reader Unit :=
  decimalFraction <|> specialNumber <|> basedInteger "0x" 16 <|> basedInteger "0o" 8 <|>
  basedInteger "0b" 2 <|> decimalInteger

end EscapeAudit.Toml
