/-!
# Patterns

A pattern describes pieces of a text.  It is made of single tests by sequence, choice and
repetition.  Only the question whether a text holds a piece that fits is asked, so it does not
matter in which order the choices are tried or how far a repetition reaches out.

A set of places of a text is kept as a number whose bits stand for the places, so that bit `i` is
set when the place before the character `i` is in the set.  A test on the text is then a list of
*moves*: a move keeps the places at which it holds, and if it takes a character it goes on to the
next place.  `reach` gives the places behind all pieces that fit and begin at one of the given
places.

A repetition is tried at most as often as the text has places.  Repeating once more than that
reaches nothing new: among so many rounds there is one that takes no character, and it can be left
out or done again.
-/

namespace EscapeAudit

/-- How often a piece is repeated. -/
structure Times where
  /-- At least so often. -/
  least : Nat
  /-- At most so often, if there is a bound. -/
  most : Option Nat
  /-- Whether it is repeated as often as possible, and not as rarely as possible. -/
  greedy : Bool
  deriving DecidableEq, Repr

/-- A description of pieces of a text, made of tests. -/
inductive Pattern (τ : Type) where
  /-- The empty piece. -/
  | empty
  /-- A single test. -/
  | test (t : τ)
  /-- Pieces one behind another, so many. -/
  | repeated (p : Pattern τ) (times : Times)
  /-- The pieces of a group, which is known by the place of its parenthesis. -/
  | group (place : Nat) (p : Pattern τ)
  /-- Pieces of some kinds one behind another. -/
  | seq (ps : List (Pattern τ))
  /-- Pieces of one of some kinds. -/
  | either (ps : List (Pattern τ))
  deriving Repr

/-- A set of places of a text, as bits. -/
abbrev Places := Nat

/-- What a test does to a set of places. -/
structure Move where
  /-- The places at which the test holds. -/
  holds : Places
  /-- Whether it takes a character. -/
  takes : Bool
  deriving DecidableEq, Repr

/-- The places that a move leads to. -/
def Move.apply (places : Places) (m : Move) : Places :=
  let kept := places &&& m.holds
  if m.takes then kept <<< 1 else kept

namespace Places

/-- All places of a text of a given length. -/
def all (length : Nat) : Places := 1 <<< (length + 1) - 1

/-- Goes on `rounds` times, or until nothing changes. -/
def iterate (step : Places → Places) : (rounds : Nat) → Places → Places
  | 0, places => places
  | rounds + 1, places =>
    let next := step places
    if next == places then places else iterate step rounds next

end Places

/-- The number of rounds of a repetition beyond the least that can matter. -/
def Times.rounds (times : Times) (length : Nat) : Nat :=
  match times.most with
  | none => length + 1
  | some most => min (most - times.least) (length + 1)

namespace Pattern

variable {τ σ : Type}

mutual

/-- The pattern with other tests. -/
def map (f : τ → σ) : Pattern τ → Pattern σ
  | empty => .empty
  | test t => .test (f t)
  | repeated p times => .repeated (p.map f) times
  | group place p => .group place (p.map f)
  | seq ps => .seq (mapAll f ps)
  | either ps => .either (mapAll f ps)

/-- The patterns with other tests. -/
def mapAll (f : τ → σ) : List (Pattern τ) → List (Pattern σ)
  | [] => []
  | p :: ps => p.map f :: mapAll f ps

end

mutual

/-- The places behind the pieces that fit and begin at one of the given places. -/
def reach (length : Nat) : Pattern (List Move) → Places → Places
  | empty, places => places
  | test moves, places => moves.foldl Move.apply places
  | repeated p times, places =>
    let needed := Places.iterate (p.reach length) (min times.least (length + 1)) places
    Places.iterate (fun ps => ps ||| p.reach length ps) (times.rounds length) needed
  | group _ p, places => p.reach length places
  | seq ps, places => reachSeq length ps places
  | either ps, places => reachEither length ps places

/-- The places behind pieces one behind another. -/
def reachSeq (length : Nat) : List (Pattern (List Move)) → Places → Places
  | [], places => places
  | p :: ps, places => reachSeq length ps (p.reach length places)

/-- The places behind pieces of one of some kinds. -/
def reachEither (length : Nat) : List (Pattern (List Move)) → Places → Places
  | [], _ => 0
  | p :: ps, places => p.reach length places ||| reachEither length ps places

end

/-- Whether a text of the given length holds a piece that fits. -/
def fits (length : Nat) (p : Pattern (List Move)) : Bool :=
  p.reach length (Places.all length) != 0

end Pattern

end EscapeAudit
