import EscapeAudit.Decimal.Binary

/-!
# Shortest decimals

The text of a binary fraction with the fewest digits that still round to it.  For 1, 2, up to 17
digits the two decimals next to the value are tried.  The first number of digits with a decimal that
rounds to the value wins, and of two such decimals the nearer.

The point stands inside the digits when the number has at most 16 digits before it or fewer than
five zeros behind it, and at least one digit stands behind the point.  Other numbers are written
with an exponent that has a sign.
-/

namespace EscapeAudit.Decimal

/-- Digits `0.d₁d₂…dₙ * 10 ^ point`. -/
structure Digits where
  /-- The digits as a number. -/
  value : Nat
  /-- How many digits it has. -/
  count : Nat
  /-- Where the decimal point stands, counted from the first digit. -/
  point : Int
  deriving DecidableEq, Repr

/-- `n / d < 10 ^ k` for an exponent of either sign. -/
def belowPower (n d : Nat) (k : Int) : Bool :=
  if k < 0 then n * Nat.pow 10 k.natAbs < d else n < d * Nat.pow 10 k.toNat

/-- The least `k` with `n / d < 10 ^ k`, searched upward from a lower bound. -/
def pointFrom (n d : Nat) : (tries : Nat) → Int → Int
  | 0, k => k
  | tries + 1, k => if belowPower n d k then k else pointFrom n d tries (k + 1)

/-- The number of digits in front of the decimal point of `n / d`. -/
def pointOf (n d : Nat) : Int :=
  let low : Int := ((Nat.toDigits 10 n).length : Int) - ((Nat.toDigits 10 d).length : Int)
  pointFrom n d 3 low

/-- Whether the decimal `v * 10 ^ k` rounds to the binary fraction. -/
def roundsTo (b : Binary) (v : Nat) (k : Int) : Bool :=
  if k < 0 then Binary.ofRatio v (Nat.pow 10 k.natAbs) == b
  else Binary.ofRatio (v * Nat.pow 10 k.toNat) 1 == b

/-- The decimal of `count` digits that rounds to the binary fraction, if there is one.  Of two the
nearer is taken, and at the same distance the even one. -/
def digitsOf? (b : Binary) (point : Int) (count : Nat) : Option Digits :=
  let (n, d) := b.ratio
  let k : Int := point - count
  let (n, d) := if k < 0 then (n * Nat.pow 10 k.natAbs, d) else (n, d * Nat.pow 10 k.toNat)
  let low := n / d
  let near := roundHalfEven n d
  let far := if near == low then low + 1 else low
  if roundsTo b near k then some ⟨near, count, point⟩
  else if roundsTo b far k then some ⟨far, count, point⟩
  else none

/-- The first number of digits, from `count` on, that gives the value back. -/
def shortestFrom (b : Binary) (point : Int) : (tries count : Nat) → Option Digits
  | 0, _ => none
  | tries + 1, count =>
    match digitsOf? b point count with
    | some digits => some digits
    | none => shortestFrom b point tries (count + 1)

/-- The digits of a decimal whose rounding carried into one more place. -/
def Digits.normal (d : Digits) : Digits :=
  if d.value == Nat.pow 10 d.count then ⟨d.value / 10, d.count, d.point + 1⟩ else d

/-- The text of an exponent. -/
def exponentText (e : Int) : String :=
  (if e < 0 then "e-" else "e+") ++ toString e.natAbs

/-- The shortest text of a binary fraction. -/
def shortest (b : Binary) : String :=
  if b.mantissa == 0 then "0.0"
  else
    let (n, d) := b.ratio
    match (shortestFrom b (pointOf n d) 18 1).map Digits.normal with
    | none => fixed 1 n d
    | some digits =>
      let ds := padded digits.count digits.value
      let k := digits.point
      if (digits.count : Int) ≤ k && k ≤ 16 then
        String.ofList (ds ++ List.replicate (k.toNat - digits.count) '0' ++ ['.', '0'])
      else if 0 < k && k ≤ 16 then
        String.ofList (ds.take k.toNat ++ '.' :: ds.drop k.toNat)
      else if -5 < k && k ≤ 0 then
        String.ofList (['0', '.'] ++ List.replicate k.natAbs '0' ++ ds)
      else
        let exponent := exponentText (k - 1)
        match ds with
        | [c] => String.ofList [c] ++ exponent
        | c :: cs => String.ofList (c :: '.' :: cs) ++ exponent
        | [] => exponent

end EscapeAudit.Decimal
