import EscapeAudit.Decimal.Fixed

/-!
# Binary fractions of 53 bits

Sizes and durations are worked out in numbers `mantissa * 2 ^ exponent` whose mantissa has 53 bits.
Every operation takes the exact quotient and rounds it to the nearest such number, with a half going
to the even mantissa.  All numbers here are at least zero, and none is so large or so small that the
exponent matters.
-/

namespace EscapeAudit.Decimal

/-- The number `mantissa * 2 ^ exponent`.  The mantissa is 0 or has 53 bits. -/
structure Binary where
  /-- The leading bits. -/
  mantissa : Nat
  /-- The power of two they are taken to. -/
  exponent : Int
  deriving DecidableEq, Repr, Inhabited

namespace Binary

/-- The exact value as a quotient. -/
def ratio (b : Binary) : Nat × Nat :=
  if b.exponent < 0 then (b.mantissa, Nat.pow 2 b.exponent.natAbs)
  else (b.mantissa * Nat.pow 2 b.exponent.toNat, 1)

/-- `num / den` as a multiple of `2 ^ e`, rounded. -/
def scaled (num den : Nat) (e : Int) : Nat :=
  if e < 0 then roundHalfEven (num * Nat.pow 2 e.natAbs) den
  else roundHalfEven num (den * Nat.pow 2 e.toNat)

/-- The number nearest to `num / den`. -/
def ofRatio (num den : Nat) : Binary :=
  if num == 0 || den == 0 then ⟨0, 0⟩
  else
    -- The quotient lies between `2 ^ (guess + 52)` and `2 ^ (guess + 54)`.
    let guess : Int := (num.log2 : Int) - (den.log2 : Int) - 53
    let m := scaled num den guess
    if m < Nat.pow 2 53 then ⟨m, guess⟩
    else
      let m := scaled num den (guess + 1)
      if m < Nat.pow 2 53 then ⟨m, guess + 1⟩ else ⟨m / 2, guess + 2⟩

/-- The number nearest to a natural number. -/
def ofNat (n : Nat) : Binary := ofRatio n 1

/-- The sum, rounded. -/
def add (a b : Binary) : Binary :=
  let (n, d) := a.ratio
  let (m, e) := b.ratio
  ofRatio (n * e + m * d) (d * e)

/-- The product, rounded. -/
def mul (a b : Binary) : Binary :=
  let (n, d) := a.ratio
  let (m, e) := b.ratio
  ofRatio (n * m) (d * e)

/-- The quotient, rounded. -/
def div (a b : Binary) : Binary :=
  let (n, d) := a.ratio
  let (m, e) := b.ratio
  ofRatio (n * e) (d * m)

/-- The exact value with a fixed number of decimal places. -/
def fixed (places : Nat) (b : Binary) : String :=
  let (n, d) := b.ratio
  Decimal.fixed places n d

end Binary

end EscapeAudit.Decimal
