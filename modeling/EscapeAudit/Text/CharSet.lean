import EscapeAudit.Text.Ranges

/-!
# Sets of characters

A set of characters is kept as the ranges of the numbers of its characters.  The ranges are in
increasing order, and between two of them at least one number is left out.  `ofRanges` brings ranges
into this form.

The numbers from D800 to DFFF stand for no character, so the character behind D7FF is E000.  All
ends of ranges that are computed here are characters.

A long set is written as a text of ranges, `41-5A 61-7A`, with the numbers in hexadecimal.  A single
character is written by its number alone, and in `100-12E/2` only every second one is meant.
-/

namespace EscapeAudit.Text

/-- The characters from one number to another. -/
structure CharRange where
  /-- The first number. -/
  lo : Nat
  /-- The last number. -/
  hi : Nat
  deriving DecidableEq, Repr

namespace CharRange

/-- The range between two ends, in whatever order they are given. -/
def between (a b : Nat) : CharRange := ⟨min a b, max a b⟩

/-- The range of one number. -/
def single (n : Nat) : CharRange := ⟨n, n⟩

/-- Joins ranges that meet or have no number between them.  The ranges are in increasing order,
and `r` is the one before all others. -/
def join (r : CharRange) : List CharRange → List CharRange
  | [] => [r]
  | s :: rest =>
    if s.lo ≤ r.hi + 1 then join ⟨r.lo, max r.hi s.hi⟩ rest
    else r :: join s rest

/-- The number of the character behind a character. -/
def next (n : Nat) : Nat := if n == 0xD7FF then 0xE000 else n + 1

/-- The number of the character before a character. -/
def previous (n : Nat) : Nat := if n == 0xE000 then 0xD7FF else n - 1

/-- The largest number of a character. -/
def largest : Nat := 0x10FFFF

/-- The ranges between some ranges, and the one behind them.  `r` is the first of them.  Between a
range that ends with D7FF and one that begins with E000 there is no character, and these two
characters are then taken for what is between them. -/
def gaps (r : CharRange) : List CharRange → List CharRange
  | [] => if r.hi < largest then [⟨next r.hi, largest⟩] else []
  | s :: rest => between (next r.hi) (previous s.lo) :: gaps s rest

/-- What two lists of ranges have in common. -/
def meet : List CharRange → List CharRange → List CharRange
  | [], _ => []
  | _, [] => []
  | a :: as, b :: bs =>
    let rest := if a.hi < b.hi then meet as (b :: bs) else meet (a :: as) bs
    let lo := max a.lo b.lo
    let hi := min a.hi b.hi
    if lo ≤ hi then ⟨lo, hi⟩ :: rest else rest
termination_by as bs => as.length + bs.length

/-- What is in the ranges of the first list only. -/
def remove : List CharRange → List CharRange → List CharRange
  | [], _ => []
  | as, [] => as
  | a :: as, b :: bs =>
    if a.hi < b.lo then a :: remove as (b :: bs)
    else if b.hi < a.lo then remove (a :: as) bs
    else
      let rest :=
        if b.hi < a.hi then remove (⟨next b.hi, a.hi⟩ :: as) bs else remove as (b :: bs)
      if a.lo < b.lo then ⟨a.lo, previous b.lo⟩ :: rest else rest
termination_by as bs => as.length + bs.length

end CharRange

/-- A set of characters. -/
structure CharSet where
  /-- The ranges of the set. -/
  ranges : Array CharRange
  deriving DecidableEq, Repr

namespace CharSet

/-- The set of the characters of some ranges. -/
def ofRanges (ranges : List CharRange) : CharSet :=
  match ranges.mergeSort fun r s => r.lo ≤ s.lo with
  | [] => ⟨#[]⟩
  | r :: rest => ⟨(r.join rest).toArray⟩

/-- Whether the character with a number is in a set. -/
def has (set : CharSet) (n : Nat) : Bool :=
  match entryOf? CharRange.lo set.ranges n with
  | some r => r.lo ≤ n && n ≤ r.hi
  | none => false

/-- Whether a character is in a set. -/
def mem (set : CharSet) (c : Char) : Bool := set.has c.toNat

/-- No character. -/
def empty : CharSet := ⟨#[]⟩

/-- Whether a set has no character. -/
def isEmpty (set : CharSet) : Bool := set.ranges.isEmpty

/-- The characters from one number to another. -/
def range (lo hi : Nat) : CharSet := ⟨#[⟨lo, hi⟩]⟩

/-- All characters. -/
def any : CharSet := range 0 CharRange.largest

/-- The set of one character. -/
def single (c : Char) : CharSet := range c.toNat c.toNat

/-- The only character of a set, if it has just one. -/
def single? (set : CharSet) : Option Char :=
  match set.ranges.toList with
  | [r] => if r.lo == r.hi then some (Char.ofNat r.lo) else none
  | _ => none

/-- Whether a set holds characters of ASCII only. -/
def isAscii (set : CharSet) : Bool := set.ranges.all fun r => r.hi < 0x80

/-- The characters of one of some sets. -/
def unions (sets : List CharSet) : CharSet := ofRanges (sets.flatMap fun set => set.ranges.toList)

/-- The characters of one set or of the other. -/
def union (a b : CharSet) : CharSet := unions [a, b]

/-- The characters of both sets. -/
def inter (a b : CharSet) : CharSet := ⟨(CharRange.meet a.ranges.toList b.ranges.toList).toArray⟩

/-- The characters of the first set that are not in the second. -/
def minus (a b : CharSet) : CharSet := ⟨(CharRange.remove a.ranges.toList b.ranges.toList).toArray⟩

/-- The characters of one set but not of both. -/
def difference (a b : CharSet) : CharSet := (a.union b).minus (a.inter b)

/-- All other characters. -/
def compl (set : CharSet) : CharSet :=
  match set.ranges.toList with
  | [] => any
  | r :: rest =>
    let behind := r.gaps rest
    ⟨(if 0 < r.lo then ⟨0, CharRange.previous r.lo⟩ :: behind else behind).toArray⟩

/-- The value of a hexadecimal digit, and nothing for any other character. -/
def digitValue (c : Char) : Nat :=
  if c.isDigit then c.toNat - '0'.toNat
  else if 'A' ≤ c && c ≤ 'F' then c.toNat - 'A'.toNat + 10
  else 0

/-- The number with some hexadecimal digits. -/
def numberOf (digits : List Char) : Nat := digits.foldl (fun n c => 16 * n + digitValue c) 0

/-- The ranges that a word of a text stands for. -/
def rangesOf (word : List Char) : List CharRange :=
  let (first, behind) := word.span (· != '-')
  let (last, step) := (behind.drop 1).span (· != '/')
  let lo := numberOf first
  let hi := if last.isEmpty then lo else numberOf last
  match numberOf (step.drop 1) with
  | 0 => [⟨lo, hi⟩]
  | step => (List.range ((hi - lo) / step + 1)).map fun i => .single (lo + step * i)

/-- The ranges that a text stands for.  `word` is the word that is being read, the last character
first. -/
def rangesOfText (word : List Char) : List Char → List CharRange
  | [] => if word.isEmpty then [] else rangesOf word.reverse
  | c :: cs =>
    if c == ' ' || c == '\n' then
      if word.isEmpty then rangesOfText [] cs
      else rangesOf word.reverse ++ rangesOfText [] cs
    else rangesOfText (c :: word) cs

/-- The set that a text of ranges stands for. -/
def ofText (text : String) : CharSet := ofRanges (rangesOfText [] text.toList)

end CharSet

end EscapeAudit.Text
