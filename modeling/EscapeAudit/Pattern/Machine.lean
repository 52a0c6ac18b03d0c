import EscapeAudit.Pattern.Bytes
import EscapeAudit.Pattern.Normal
import Std.Data.HashMap

/-!
# The size of machines

A text is searched by two machines, one that runs forward and one that runs backward.  A machine
has states, and it reads bytes.  The size of a machine is counted in bytes of memory: every state
needs `stateSize` of them, a state that chooses by the next byte needs `arrowSize` more for every
range of bytes, and a state that branches without reading needs `branchSize` more for every
branch.  A machine must not be larger than `limit`.

Only the size is of interest here, so a machine is known by its counts.  `Machine.branching` tells
whether the part that was placed last ends with a state that branches, because going on from there
costs another branch.

The sets of characters beyond ASCII are the hard part.  Their bytes are read by a tree of states,
and states that do the same are shared if they are found in a table.  The table has a fixed number
of slots, a state is kept in the slot that its hash tells, and it pushes out what was there
before.  The states are numbered in the order in which they are made, and the numbers go into the
hash.
-/

namespace EscapeAudit

/-- The counts of a machine that is being built. -/
structure Machine where
  /-- The number of states. -/
  states : Nat
  /-- The bytes that are needed beyond those of every state. -/
  extra : Nat
  /-- Whether the part that was placed last ends with a state that branches. -/
  branching : Bool
  deriving DecidableEq, Repr

namespace Machine

/-- The most bytes that a machine may need. -/
def limit : Nat := 10485760

/-- The bytes of a state. -/
def stateSize : Nat := 32

/-- The bytes of a range of bytes that a state chooses by. -/
def arrowSize : Nat := 8

/-- The bytes of a branch. -/
def branchSize : Nat := 4

/-- No states yet. -/
def empty : Machine := ⟨0, 0, false⟩

/-- The size of a machine. -/
def size (m : Machine) : Nat := stateSize * m.states + m.extra

/-- The machine, unless it is too large. -/
def check (m : Machine) : Option Machine := if limit < m.size then none else some m

/-- Adds some states with the bytes that they need beyond those of every state. -/
def addBlock (m : Machine) (states extra : Nat) : Option Machine :=
  check ⟨m.states + states, m.extra + extra, false⟩

/-- Adds a state. -/
def add (m : Machine) : Option Machine := m.addBlock 1 0

/-- Adds a state that branches, without its branches. -/
def addBranching (m : Machine) : Option Machine := check ⟨m.states + 1, m.extra, true⟩

/-- Adds some branches to states that are there. -/
def addBranches (m : Machine) (count : Nat) : Option Machine :=
  check { m with extra := m.extra + branchSize * count }

/-- The branches that are needed to go on behind the part that was placed last. -/
def onward (m : Machine) : Nat := if m.branching then 1 else 0

/-- The machine before anything is placed that can be gone on from. -/
def fresh (m : Machine) : Machine := { m with branching := false }

/-! ## Sets of characters beyond ASCII -/

/-- A step of the hash. -/
def stir (hash : UInt64) (n : Nat) : UInt64 := (hash ^^^ n.toUInt64) * 1099511628211

/-- The hash of nothing. -/
def seed : UInt64 := 14695981039346656037

/-- A range of bytes with the number of the state behind it. -/
structure Arrow where
  /-- The bytes. -/
  bytes : ByteRange
  /-- The number of the state behind them. -/
  target : Nat
  deriving DecidableEq, Repr

/-- A step of the hash over an arrow. -/
def Arrow.stir (hash : UInt64) (a : Arrow) : UInt64 :=
  Machine.stir (Machine.stir (Machine.stir hash a.bytes.lo) a.bytes.hi) a.target

/-- A machine with the states that may be shared, by their slots. -/
structure Sharing (κ : Type) where
  /-- The machine. -/
  machine : Machine
  /-- The states in their slots: what they do, and their numbers. -/
  slots : Std.HashMap Nat (κ × Nat)

/-- The number of a state that does what is asked for.  It is taken from its slot, or it is made
with the bytes that it needs beyond those of every state. -/
def Sharing.state {κ : Type} [DecidableEq κ] (s : Sharing κ) (slot : Nat) (key : κ) (extra : Nat) :
    Option (Nat × Sharing κ) :=
  let made (_ : Unit) :=
    (s.machine.addBlock 1 extra).map fun machine =>
      (s.machine.states, ⟨machine, s.slots.insert slot (key, s.machine.states)⟩)
  match s.slots[slot]? with
  | some (key', number) => if key' = key then some (number, s) else made ()
  | none => made ()

/-- A state of the tree that is not complete. -/
structure Unfinished where
  /-- The arrows that are complete. -/
  arrows : Array Arrow
  /-- The bytes of the last arrow, whose state is not made yet. -/
  last : Option ByteRange
  deriving Repr

namespace Unfinished

/-- The number of slots for the states of trees. -/
def slotCount : UInt64 := 10000

/-- A state whose only arrow is not complete. -/
def start (bytes : ByteRange) : Unfinished := ⟨#[], some bytes⟩

/-- Completes the last arrow. -/
def finish (u : Unfinished) (target : Nat) : Unfinished :=
  match u.last with
  | some bytes => ⟨u.arrows.push ⟨bytes, target⟩, none⟩
  | none => u

/-- Makes the state. -/
def make (u : Unfinished) (s : Sharing (Array Arrow)) : Option (Nat × Sharing (Array Arrow)) :=
  let slot := (u.arrows.foldl Arrow.stir seed % slotCount).toNat
  s.state slot u.arrows (arrowSize * u.arrows.size)

/-- Makes the states of a path, the deepest one first.  The last one leads to `goal`. -/
def makeAll (goal : Nat) :
    List Unfinished → Sharing (Array Arrow) → Option (Nat × Sharing (Array Arrow))
  | [], s => some (goal, s)
  | u :: path, s =>
    match makeAll goal path s with
    | none => none
    | some (target, s) => (u.finish target).make s

/-- Adds a sequence of ranges of bytes.  The path leads along the sequence before it, and the
states of that are made where the two part. -/
def addSequence (goal : Nat) : List ByteRange → List Unfinished → Sharing (Array Arrow) →
    Option (List Unfinished × Sharing (Array Arrow))
  | [], path, s => some (path, s)
  | bytes :: rest, [], s => some (start bytes :: rest.map start, s)
  | bytes :: rest, u :: path, s =>
    if u.last == some bytes then
      match addSequence goal rest path s with
      | none => none
      | some (path, s) => some (u :: path, s)
    else
      match makeAll goal path s with
      | none => none
      | some (target, s) =>
        some ({ u.finish target with last := some bytes } :: rest.map start, s)

/-- Adds sequences, and makes all states that are left. -/
def addSequences (goal : Nat) : List (List ByteRange) → List Unfinished → Sharing (Array Arrow) →
    Option Machine
  | [], path, s => (makeAll goal path s).map fun made => made.2.machine.fresh
  | sequence :: rest, path, s =>
    match addSequence goal sequence path s with
    | none => none
    | some (path, s) => addSequences goal rest path s

end Unfinished

/-- Places the states that read a character forward. -/
def addForward (sequences : List (List ByteRange)) (m : Machine) : Option Machine :=
  m.add.bind fun machine =>
    Unfinished.addSequences m.states sequences [⟨#[], none⟩] ⟨machine, ∅⟩

/-- The number of slots for the states that read a character backward. -/
def backwardSlotCount : UInt64 := 1000

/-- Places the states that read a sequence of bytes backward, from the state with a number on. -/
def addBackwardSequence : (target : Nat) → List ByteRange → Sharing Arrow → Option (Sharing Arrow)
  | _, [], s => (s.machine.addBranches 1).map fun machine => { s with machine }
  | target, bytes :: rest, s =>
    let hash := stir (stir (stir seed target) bytes.lo) bytes.hi
    match s.state (hash % backwardSlotCount).toNat ⟨bytes, target⟩ 0 with
    | none => none
    | some (number, s) => addBackwardSequence number rest s

/-- Places the states that read some sequences of bytes backward. -/
def addBackwardSequences (target : Nat) : List (List ByteRange) → Sharing Arrow → Option Machine
  | [], s => some s.machine.fresh
  | sequence :: rest, s =>
    match addBackwardSequence target sequence s with
    | none => none
    | some s => addBackwardSequences target rest s

/-- Places the states that read a character backward. -/
def addBackward (sequences : List (List ByteRange)) (m : Machine) : Option Machine :=
  (m.addBranching.bind Machine.add).bind fun machine =>
    addBackwardSequences (m.states + 1) sequences ⟨machine, ∅⟩

/-! ## Choices between literals -/

/-- The literals that share a state, as they are added to it one by one. -/
structure Fork where
  /-- For each group of branches that is closed, the literals behind each first byte. -/
  closed : List (List (Nat × List (List Nat)))
  /-- The literals behind each first byte of the group that is open. -/
  opened : List (Nat × List (List Nat))
  deriving Repr

namespace Fork

/-- Adds the rest of a literal behind its first byte. -/
def insert (byte : Nat) (rest : List Nat) :
    List (Nat × List (List Nat)) → List (Nat × List (List Nat))
  | [] => [(byte, [rest])]
  | (b, rests) :: others =>
    if b == byte then (b, rests ++ [rest]) :: others else (b, rests) :: insert byte rest others

/-- Adds a literal.  One that ends here closes the group, because it comes before what is added
later.  Where nothing goes on, it has to end only once. -/
def push (f : Fork) : List Nat → Fork
  | byte :: rest => { f with opened := insert byte rest f.opened }
  | [] =>
    if f.opened.isEmpty && !f.closed.isEmpty && f.closed.all List.isEmpty then f
    else ⟨f.closed ++ [f.opened], []⟩

/-- The fork of some literals. -/
def ofLiterals (literals : List (List Nat)) : Fork := literals.foldl push ⟨[], []⟩

/-- The groups of branches. -/
def groups (f : Fork) : List (List (Nat × List (List Nat))) := f.closed ++ [f.opened]

/-- The bytes that a state needs beyond those of every state to choose between some branches. -/
def choosing (count : Nat) : Nat := if count < 2 then 0 else arrowSize * count

/-- The number of branches of the state in front of all groups.  It leads to every group that is
not empty, and to the end between two groups. -/
def branchCount (f : Fork) : Nat :=
  (f.groups.filter fun group => !group.isEmpty).length + f.closed.length

end Fork

/-- The states, and the bytes beyond those of every state, that are needed to read one of some
literals, without the state at the end.  `fuel` bounds the length of the literals. -/
def literalBlock : (fuel : Nat) → List (List Nat) → Nat × Nat
  | 0, _ => (0, 0)
  | fuel + 1, literals =>
    let fork := Fork.ofLiterals literals
    let groups := fork.groups.filter fun group => !group.isEmpty
    let rests := groups.flatten.map Prod.snd
    let longer := rests.filter fun rest => rest.any fun bytes => !bytes.isEmpty
    let inner := longer.map (literalBlock fuel)
    let choosing := sumOf (groups.map fun group => Fork.choosing group.length)
    (sumOf (inner.map Prod.fst) + groups.length + 1,
      sumOf (inner.map Prod.snd) + choosing + branchSize * fork.branchCount)

/-! ## Patterns -/

/-- What is placed for a test. -/
structure Piece where
  /-- The bytes of the shortest piece that is read, if any is. -/
  shortest : Option Nat
  /-- The states, and the bytes that they need beyond those of every state. -/
  block : Nat × Nat
  /-- The sequences of bytes of a set of characters beyond ASCII. -/
  sequences : List (List ByteRange)
  deriving Repr

namespace Piece

/-- What is placed for a test. -/
def ofTest (t : Test) : Piece :=
  match t with
  | .literal chars => ⟨t.shortest?, (Test.bytesIn chars, 0), []⟩
  | .look _ => ⟨some 0, (1, 0), []⟩
  | .one set _ =>
    if set.isAscii then ⟨t.shortest?, (2, arrowSize * set.ranges.size), []⟩
    else ⟨t.shortest?, (0, 0), ByteRange.ofSet set⟩

/-- What is placed for a choice between literals. -/
def ofLiterals (literals : List (List Nat)) : Piece :=
  let longest := (literals.map List.length).foldl max 0
  let (states, extra) := literalBlock (longest + 1) literals
  ⟨(literals.map List.length).min?, (states + 1, extra), []⟩

/-- Places what is placed for a test. -/
def place (backward : Bool) (piece : Piece) (m : Machine) : Option Machine :=
  if piece.sequences.isEmpty then m.addBlock piece.block.1 piece.block.2
  else if backward then m.addBackward piece.sequences
  else m.addForward piece.sequences

end Piece

/-- The bytes of a pattern that is a literal. -/
def literalBytes? : Pattern Test → Option (List Nat)
  | .test (.literal chars) => some (chars.flatMap fun c => ByteRange.bytesOf c.toNat)
  | _ => none

mutual

/-- The pattern with what is placed for its tests.  A choice between literals is placed as one
piece. -/
def pieces (backward : Bool) : Pattern Test → Pattern Piece
  | .empty => .empty
  | .test t => .test (.ofTest t)
  | .repeated p times => .repeated (pieces backward p) times
  | .group n p => .group n (pieces backward p)
  | .seq ps => .seq (piecesAll backward ps)
  | .either ps =>
    match ps.mapM literalBytes? with
    | some literals =>
      .test (.ofLiterals (if backward then literals.map List.reverse else literals))
    | none => .either (piecesAll backward ps)

/-- The patterns with what is placed for their tests. -/
def piecesAll (backward : Bool) : List (Pattern Test) → List (Pattern Piece)
  | [] => []
  | p :: ps => pieces backward p :: piecesAll backward ps

end

/-- Places a part behind the part that was placed last. -/
def andThen (part : Machine → Option Machine) (m : Machine) : Option Machine :=
  match part m with
  | some next => next.addBranches m.onward
  | none => none

/-- Places a part so many times, each behind the one before. -/
def copies (part : Machine → Option Machine) : (count : Nat) → Machine → Option Machine
  | 0, m => some m
  | count + 1, m =>
    match m.andThen part with
    | some m => copies part count m
    | none => none

/-- Places a part just so often. -/
def exactly (part : Machine → Option Machine) (count : Nat) (m : Machine) : Option Machine :=
  if count == 0 then m.add else copies part count m.fresh

/-- Places a part that may be passed over. -/
def optional (part : Machine → Option Machine) (m : Machine) : Option Machine := do
  let placed ← part (← m.addBranching)
  (← placed.add).addBranches (2 + placed.onward)

/-- Places a part that is repeated at least once. -/
def loop (part : Machine → Option Machine) (m : Machine) : Option Machine := do
  let placed ← part m
  (← placed.addBranching).addBranches (1 + placed.onward)

/-- Places a part that is repeated as often as wanted.  Where the part can be empty, passing it
over takes a state of its own. -/
def anyTimes (part : Machine → Option Machine) (canBeEmpty : Bool) (m : Machine) : Option Machine :=
  if canBeEmpty then do
    let placed ← part m
    (← (← (← placed.addBranching).addBranching).add).addBranches (4 + placed.onward)
  else do
    let placed ← part (← m.addBranching)
    return { ← placed.addBranches (1 + placed.onward) with branching := true }

/-- Places a part so often at most, each behind the one before.  `onward` counts the branches that
are needed to go on behind what was placed before. -/
def upTo (part : Machine → Option Machine) : (count onward : Nat) → Machine → Option Machine
  | 0, onward, m => m.fresh.addBranches onward
  | count + 1, onward, m =>
    match m.addBranching with
    | none => none
    | some m =>
      match part m with
      | none => none
      | some placed =>
        match placed.addBranches (2 + onward) with
        | none => none
        | some next => upTo part count placed.onward next

/-- Places a repetition. -/
def repetition (part : Machine → Option Machine) (canBeEmpty : Bool) (times : Times) (m : Machine) :
    Option Machine :=
  match times.least, times.most with
  | 0, some 1 => optional part m
  | 0, none => anyTimes part canBeEmpty m
  | 1, none => loop part m
  | least + 2, none => do
    let placed ← exactly part (least + 1) m
    (← placed.loop part).addBranches placed.onward
  | least, some most => do
    let placed ← exactly part least m
    if least == most then return placed
    upTo part (most - least) placed.onward (← placed.add)

mutual

/-- Places the states of a pattern. -/
def place (backward : Bool) : Pattern Piece → Machine → Option Machine
  | .empty, m => m.add
  | .test piece, m => piece.place backward m
  | .repeated p times, m =>
    let canBeEmpty := !((p.shortestBy Piece.shortest).any (0 < ·))
    repetition (place backward p) canBeEmpty times m
  | .group _ p, m =>
    if backward then place backward p m
    else do
      let placed ← place backward p (← m.add)
      (← placed.add).addBranches placed.onward
  | .seq ps, m => placeSeq backward ps m.fresh
  | .either [], m => m.addBlock 2 0
  | .either [p], m => place backward p m
  | .either (p :: q :: ps), m => do
    let first ← place backward p m
    let second ← place backward q first
    let fork ← (← second.addBranching).add
    placeRest backward ps (← fork.addBranches (2 + first.onward + second.onward))

/-- Places the states of patterns one behind another. -/
def placeSeq (backward : Bool) : List (Pattern Piece) → Machine → Option Machine
  | [], m => some m
  | p :: ps, m =>
    if backward then (placeSeq backward ps m).bind (·.andThen (place backward p))
    else (m.andThen (place backward p)).bind (placeSeq backward ps)

/-- Places the states of further branches. -/
def placeRest (backward : Bool) : List (Pattern Piece) → Machine → Option Machine
  | [], m => some m.fresh
  | p :: ps, m => do
    let placed ← place backward p m
    placeRest backward ps (← placed.addBranches (1 + placed.onward))

end

/-- The states in front of a pattern that pass over what is before the piece. -/
def passing (m : Machine) : Option Machine := do
  let reading ← (← (← m.addBranching).add).addBlock 1 arrowSize
  reading.addBranches 2

/-- The machine that looks for a pattern.  It passes over nothing where the piece has to begin at an
end of the text. -/
def ofPattern (backward : Bool) (p : Pattern Test) : Option Machine := do
  let bound := if backward then p.asksLast .textEnd else p.asksFirst .textStart
  let front ← if bound then empty.add else empty.passing
  let placed ← place backward (.group 0 (pieces backward p)) front
  (← placed.add).addBranches placed.onward

end Machine

/-- Whether the machines that look for a pattern are small enough. -/
def Pattern.hasMachines (p : Pattern Test) : Bool :=
  (Machine.ofPattern false p).isSome && (Machine.ofPattern true p).isSome

end EscapeAudit
