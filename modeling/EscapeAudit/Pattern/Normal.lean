import EscapeAudit.Pattern.Test

/-!
# Patterns in normal form

Patterns are put together by `oneOf`, `sequence`, `choice` and `times`, which keep them simple.
The new pattern fits the same pieces as the plain one would.

* A set with one character is that character.
* A sequence holds no sequence and no empty piece, and no two literals stand side by side in it.
* A choice holds no choice.  A choice between sets is one set, and what all branches begin with is
  taken out of it.
* What is only ever empty is not repeated more than once.
-/

namespace EscapeAudit

open Text (CharSet)

/-- The sum of some numbers. -/
def sumOf (ns : List Nat) : Nat := ns.foldl (· + ·) 0

/-- The number of bytes of the character with a number. -/
def utf8Length (n : Nat) : Nat :=
  if n < 0x80 then 1 else if n < 0x800 then 2 else if n < 0x10000 then 3 else 4

namespace Test

/-- The number of bytes of some characters. -/
def bytesIn (chars : List Char) : Nat := sumOf (chars.map Char.utf8Size)

/-- The number of bytes of the shortest piece that a test takes, if it takes any. -/
def shortest? : Test → Option Nat
  | literal chars => some (bytesIn chars)
  | one set _ => set.ranges[0]?.map fun r => utf8Length r.lo
  | look _ => some 0

/-- The number of bytes of the longest piece that a test takes, if it takes any. -/
def longest? : Test → Option Nat
  | literal chars => some (bytesIn chars)
  | one set _ => set.ranges.back?.map fun r => utf8Length r.hi
  | look _ => some 0

end Test

namespace Pattern

variable {τ : Type}

/-- The sum of two lengths, if both are known. -/
def plus? : Option Nat → Option Nat → Option Nat
  | some m, some n => some (m + n)
  | _, _ => none

mutual

/-- The length of the shortest piece, given those of the tests.  It is not known if some test
takes nothing. -/
def shortestBy (leaf : τ → Option Nat) : Pattern τ → Option Nat
  | empty => some 0
  | test t => leaf t
  | repeated p times => (p.shortestBy leaf).map (· * times.least)
  | group _ p => p.shortestBy leaf
  | seq ps => shortestSeq leaf ps
  | either ps => shortestEither leaf ps

/-- The length of the shortest sequence. -/
def shortestSeq (leaf : τ → Option Nat) : List (Pattern τ) → Option Nat
  | [] => some 0
  | p :: ps => plus? (p.shortestBy leaf) (shortestSeq leaf ps)

/-- The length of the shortest of some kinds of pieces. -/
def shortestEither (leaf : τ → Option Nat) : List (Pattern τ) → Option Nat
  | [] => none
  | [p] => p.shortestBy leaf
  | p :: ps =>
    match p.shortestBy leaf, shortestEither leaf ps with
    | some m, some n => some (min m n)
    | _, _ => none

end

mutual

/-- The length in bytes of the longest piece, if there is one. -/
def longest? : Pattern Test → Option Nat
  | empty => some 0
  | test t => t.longest?
  | repeated p times => times.most.bind fun most => p.longest?.map (· * most)
  | group _ p => p.longest?
  | seq ps => longestSeq? ps
  | either ps => longestEither? ps

/-- The length of the longest sequence. -/
def longestSeq? : List (Pattern Test) → Option Nat
  | [] => some 0
  | p :: ps => plus? p.longest? (longestSeq? ps)

/-- The length of the longest of some kinds of pieces. -/
def longestEither? : List (Pattern Test) → Option Nat
  | [] => none
  | [p] => p.longest?
  | p :: ps =>
    match p.longest?, longestEither? ps with
    | some m, some n => some (max m n)
    | _, _ => none

end

mutual

/-- Whether two patterns are made in the same way. -/
def same : Pattern Test → Pattern Test → Bool
  | empty, empty => true
  | test t, test u => t == u
  | repeated p times, repeated q times' => times == times' && p.same q
  | group place p, group place' q => place == place' && p.same q
  | seq ps, seq qs => sameAll ps qs
  | either ps, either qs => sameAll ps qs
  | _, _ => false

/-- Whether the patterns of two lists are made in the same way. -/
def sameAll : List (Pattern Test) → List (Pattern Test) → Bool
  | [], [] => true
  | p :: ps, q :: qs => p.same q && sameAll ps qs
  | _, _ => false

end

/-- A literal. -/
def literal (chars : List Char) : Pattern Test := .test (.literal chars)

/-- The pattern that fits nothing. -/
def never : Pattern Test := .test (.one .empty true)

/-- The pattern of one character of a set. -/
def oneOf (set : CharSet) (bytes : Bool) : Pattern Test :=
  match set.single? with
  | some c => literal [c]
  | none => if set.isEmpty then never else .test (.one set bytes)

/-- A pattern, so often. -/
def times (p : Pattern Test) (times : Times) : Pattern Test :=
  let times :=
    if p.longest? == some 0 then
      { times with least := min times.least 1, most := some (min (times.most.getD 1) 1) }
    else times
  match times.least, times.most with
  | 0, some 0 => .empty
  | 1, some 1 => p
  | _, _ => .repeated p times

/-- The parts of a pattern that is a part of a sequence. -/
def parts : Pattern Test → List (Pattern Test)
  | empty => []
  | seq ps => ps
  | p => [p]

/-- Joins literals that stand side by side. -/
def joinLiterals : List (Pattern Test) → List (Pattern Test)
  | [] => []
  | p :: ps =>
    match p, joinLiterals ps with
    | test (.literal cs), test (.literal ds) :: rest => literal (cs ++ ds) :: rest
    | p, rest => p :: rest

/-- The pattern with some parts, none of which is a sequence. -/
def ofParts : List (Pattern Test) → Pattern Test
  | [] => .empty
  | [p] => p
  | ps => .seq ps

/-- Pieces of some patterns one behind another. -/
def sequence (ps : List (Pattern Test)) : Pattern Test := ofParts (joinLiterals (ps.flatMap parts))

/-- The branches of a pattern that is a branch of a choice. -/
def branches : Pattern Test → List (Pattern Test)
  | either ps => ps
  | p => [p]

/-- The only character of a pattern that is just this character. -/
def char? : Pattern Test → Option Char
  | test (.literal [c]) => some c
  | _ => none

/-- The set of a pattern that is just a set. -/
def set? : Pattern Test → Option CharSet
  | test (.one set _) => some set
  | _ => none

/-- The one set of a choice between characters or between sets. -/
def choiceSet? (ps : List (Pattern Test)) : Option CharSet :=
  match ps.mapM char?, ps.mapM set? with
  | some cs, _ => some (.unions (cs.map .single))
  | none, some sets => some (.unions sets)
  | none, none => none

/-- The parts of a pattern that is a sequence. -/
def seqParts? : Pattern Test → Option (List (Pattern Test))
  | seq ps => some ps
  | _ => none

/-- What two sequences both begin with. -/
def commonFront : List (Pattern Test) → List (Pattern Test) → List (Pattern Test)
  | p :: ps, q :: qs => if p.same q then p :: commonFront ps qs else []
  | _, _ => []

/-- What some sequences all begin with. -/
def commonFrontAll : List (List (Pattern Test)) → List (Pattern Test)
  | [] => []
  | ps :: rest => rest.foldl commonFront ps

/-- The choice between patterns, none of which is a choice.  `fuel` bounds how often something is
taken out of it. -/
def choiceOf : (fuel : Nat) → List (Pattern Test) → Pattern Test
  | _, [] => never
  | _, [p] => p
  | 0, ps => .either ps
  | fuel + 1, ps =>
    match choiceSet? ps, ps.mapM seqParts? with
    | some set, _ => oneOf set false
    | none, some seqs =>
      match commonFrontAll seqs with
      | [] => .either ps
      | front =>
        let rests := seqs.map fun parts => ofParts (parts.drop front.length)
        sequence (front ++ [choiceOf fuel (rests.flatMap branches)])
    | none, none => .either ps

/-- The number of the parts of a pattern that is a sequence. -/
def partCount (p : Pattern Test) : Nat := (p.seqParts?.getD []).length

/-- Pieces of one of some patterns. -/
def choice (ps : List (Pattern Test)) : Pattern Test :=
  let ps := ps.flatMap branches
  choiceOf (sumOf (ps.map partCount) + 1) ps

mutual

/-- Whether a look is always asked for before a character is taken. -/
def asksFirst (l : Look) : Pattern Test → Bool
  | test (.look l') => l == l'
  | repeated p times => 0 < times.least && p.asksFirst l
  | group _ p => p.asksFirst l
  | seq ps => asksFirstSeq l ps
  | either ps => asksFirstEither l ps
  | _ => false

/-- Whether a sequence always asks for a look before a character is taken. -/
def asksFirstSeq (l : Look) : List (Pattern Test) → Bool
  | [] => false
  | p :: ps => p.asksFirst l || (p.longest? == some 0 && asksFirstSeq l ps)

/-- Whether all branches ask for a look before a character is taken. -/
def asksFirstEither (l : Look) : List (Pattern Test) → Bool
  | [] => true
  | p :: ps => p.asksFirst l && asksFirstEither l ps

end

mutual

/-- Whether a look is always asked for behind the last character. -/
def asksLast (l : Look) : Pattern Test → Bool
  | test (.look l') => l == l'
  | repeated p times => 0 < times.least && p.asksLast l
  | group _ p => p.asksLast l
  | seq ps => asksLastSeq l ps
  | either ps => asksLastEither l ps
  | _ => false

/-- Whether a sequence always asks for a look behind the last character. -/
def asksLastSeq (l : Look) : List (Pattern Test) → Bool
  | [] => false
  | p :: ps => asksLastSeq l ps || (longestSeq? ps == some 0 && p.asksLast l)

/-- Whether all branches ask for a look behind the last character. -/
def asksLastEither (l : Look) : List (Pattern Test) → Bool
  | [] => true
  | p :: ps => p.asksLast l && asksLastEither l ps

end

end Pattern

end EscapeAudit
