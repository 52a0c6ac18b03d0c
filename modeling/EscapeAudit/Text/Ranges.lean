/-!
# Ranges of characters

A property of characters is kept as a table of ranges of character numbers, first and last.  In a
long table whose entries are in increasing order the entry of a number is found by halving.
-/

namespace EscapeAudit.Text

/-- Whether a number lies in one of the ranges. -/
def inRanges (ranges : Array (Nat × Nat)) (n : Nat) : Bool :=
  ranges.any fun r => r.1 ≤ n && n ≤ r.2

/-- The place of the last entry, from `lo` on and before `hi`, that does not begin behind a
number.  If there is none, `lo`.  The entries are in increasing order, and `fuel` bounds the
number of halvings. -/
def lastBegun {α : Type} (first : α → Nat) (entries : Array α) (n : Nat) :
    (fuel lo hi : Nat) → Nat
  | 0, lo, _ => lo
  | fuel + 1, lo, hi =>
    let middle := (lo + hi) / 2
    if hi ≤ lo + 1 then lo
    else
      match entries[middle]? with
      | some entry =>
        if first entry ≤ n then lastBegun first entries n fuel middle hi
        else lastBegun first entries n fuel lo middle
      | none => lo

/-- The last entry of a table in increasing order that does not begin behind a number.  If all do,
the first one. -/
def entryOf? {α : Type} (first : α → Nat) (entries : Array α) (n : Nat) : Option α :=
  entries[lastBegun first entries n entries.size 0 entries.size]?

end EscapeAudit.Text
