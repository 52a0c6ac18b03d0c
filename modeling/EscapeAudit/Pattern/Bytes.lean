import EscapeAudit.Text.CharSet

/-!
# Characters as bytes

A range of characters is a choice between sequences of ranges of bytes, when the characters are
written in UTF-8.  The sequences are in increasing order.  A range is halved until all its
characters have the same number of bytes, and until each byte takes all values of a range whatever
the bytes before it are.
-/

namespace EscapeAudit

open Text (CharRange CharSet)

/-- The bytes from one to another. -/
structure ByteRange where
  /-- The first byte. -/
  lo : Nat
  /-- The last byte. -/
  hi : Nat
  deriving DecidableEq, Repr

namespace ByteRange

/-- The bytes of the character with a number. -/
def bytesOf (n : Nat) : List Nat :=
  if n < 0x80 then [n]
  else if n < 0x800 then [0xC0 + n / 0x40, 0x80 + n % 0x40]
  else if n < 0x10000 then [0xE0 + n / 0x1000, 0x80 + n / 0x40 % 0x40, 0x80 + n % 0x40]
  else [0xF0 + n / 0x40000, 0x80 + n / 0x1000 % 0x40, 0x80 + n / 0x40 % 0x40, 0x80 + n % 0x40]

/-- The last numbers of the characters of one, two and three bytes. -/
def lastOfLength : List Nat := [0x7F, 0x7FF, 0xFFFF]

/-- The numbers of characters that share all but the last one, two and three bytes come in blocks of
these sizes. -/
def blocks : List Nat := [0x40, 0x1000, 0x40000]

/-- Where a range has to be cut so that it fits to blocks of a size: the last number of its first
part and the first number of its second part. -/
def blockCut? (lo hi block : Nat) : Option (Nat × Nat) :=
  if lo / block == hi / block then none
  else if lo % block != 0 then
    let first := lo - lo % block + block
    some (first - 1, first)
  else if hi % block != block - 1 then
    let last := hi - hi % block
    some (last - 1, last)
  else none

/-- Where a range of characters has to be cut. -/
def cut? (lo hi : Nat) : Option (Nat × Nat) :=
  if lo < 0xE000 && 0xD7FF < hi then some (0xD7FF, 0xE000)
  else
    match lastOfLength.find? fun last => lo ≤ last && last < hi with
    | some last => some (last, last + 1)
    | none => if hi < 0x80 then none else blocks.findSome? (blockCut? lo hi)

/-- The sequences of ranges of bytes of a range of characters.  `fuel` bounds how often it is
cut. -/
def sequences : (fuel : Nat) → (lo hi : Nat) → List (List ByteRange)
  | 0, _, _ => []
  | fuel + 1, lo, hi =>
    if hi < lo then []
    else
      match cut? lo hi with
      | some (last, first) => sequences fuel lo last ++ sequences fuel first hi
      | none => [(bytesOf lo).zipWith ByteRange.mk (bytesOf hi)]

/-- A range is never cut more often than this, one part inside another. -/
def cutDepth : Nat := 32

/-- The sequences of ranges of bytes of a set of characters. -/
def ofSet (set : CharSet) : List (List ByteRange) :=
  set.ranges.toList.flatMap fun r => sequences cutDepth r.lo r.hi

end ByteRange

end EscapeAudit
