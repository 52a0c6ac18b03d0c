import EscapeAudit.Pattern.Bytes
import EscapeAudit.Pattern.Normal

/-!
# What pieces begin with

All pieces that fit a pattern begin with one of some texts, its *leads*.  Where there would be too
many of them, or where they would be too long, they are cut short or given up.  A lead is *whole*
if it is all of the piece.

When all leads are whole, the text can be searched for them, and no machine is needed.  This is
asked after the leads have been made fewer: a few short ones, or one that all have in common, are
found faster than many.
-/

namespace EscapeAudit

/-- A text that pieces begin with. -/
structure Lead where
  /-- The bytes of the text. -/
  bytes : List Nat
  /-- Whether it is all of the piece. -/
  whole : Bool
  deriving DecidableEq, Repr

namespace Lead

/-- The empty text, which is all of the piece. -/
def empty : Lead := ⟨[], true⟩

/-- The lead as a lead of longer pieces. -/
def opened (l : Lead) : Lead := { l with whole := false }

/-- The first bytes of a lead, so many. -/
def keep (count : Nat) (l : Lead) : Lead :=
  if l.bytes.length ≤ count then l else ⟨l.bytes.take count, false⟩

/-- A lead behind a whole one. -/
def behind (front l : Lead) : Lead := ⟨front.bytes ++ l.bytes, l.whole⟩

/-- Puts leads of one text that stand side by side together.  `l` is the one before all others. -/
def distinctFrom (l : Lead) : List Lead → List Lead
  | [] => [l]
  | m :: rest =>
    if l.bytes == m.bytes then distinctFrom ⟨l.bytes, l.whole && m.whole⟩ rest
    else l :: distinctFrom m rest

/-- Puts leads of one text that stand side by side together. -/
def distinct : List Lead → List Lead
  | [] => []
  | l :: rest => distinctFrom l rest

/-- Leaves out the leads that begin with an earlier one. -/
def fewest (leads : List Lead) : List Lead :=
  leads.foldl (fun kept l => if kept.any fun k => k.bytes.isPrefixOf l.bytes then kept
    else kept ++ [l]) []

/-- The bytes that two texts both begin with. -/
def commonBytes : List Nat → List Nat → List Nat
  | a :: as, b :: bs => if a == b then a :: commonBytes as bs else []
  | _, _ => []

/-- The bytes that all leads begin with. -/
def common : List Lead → List Nat
  | [] => []
  | l :: rest => rest.foldl (fun bytes m => commonBytes bytes m.bytes) l.bytes

/-- Whether a byte is often the first one of a word or of a character. -/
def isFrequent (byte : Nat) : Bool :=
  0x80 ≤ byte || "\n\r (),-./0129:_abcdefghilmnoprstuvxy|".toList.contains (Char.ofNat byte)

/-- Whether a lead is found almost everywhere. -/
def isEverywhere (l : Lead) : Bool :=
  match l.bytes with
  | [] => true
  | [byte] => 0x80 ≤ byte || " et".toList.contains (Char.ofNat byte)
  | _ => false

end Lead

/-- The leads of a pattern, unless its pieces can begin with anything. -/
abbrev Leads := Option (List Lead)

namespace Leads

/-- The most characters of a set whose leads are listed. -/
def setLimit : Nat := 10

/-- How often a repetition is followed. -/
def repeatLimit : Nat := 10

/-- The most bytes of a lead. -/
def lengthLimit : Nat := 100

/-- The most leads. -/
def countLimit : Nat := 250

/-- The one lead that is all of the empty piece. -/
def nothing : Leads := some [.empty]

/-- Whether all leads are whole. -/
def isWhole (leads : Leads) : Bool := leads.any fun ls => ls.all Lead.whole

/-- Whether no lead is whole. -/
def isOpen (leads : Leads) : Bool := leads.all fun ls => ls.all fun l => !l.whole

/-- The leads as leads of longer pieces. -/
def opened (leads : Leads) : Leads := leads.map fun ls => ls.map Lead.opened

/-- The first bytes of the leads, so many. -/
def keep (count : Nat) (leads : Leads) : Leads := leads.map fun ls => ls.map (Lead.keep count)

/-- The leads of pieces one behind another, before they are cut short. -/
def join : Leads → Leads → Leads
  | some ls, none => if ls.any (·.bytes.isEmpty) then none else opened (some ls)
  | some ls, some ms =>
    some (Lead.distinct (ls.flatMap fun l => if l.whole then ms.map l.behind else [l]))
  | none, _ => none

/-- The leads of pieces one behind another. -/
def andThen (front back : Leads) : Leads :=
  let tooMany : Bool := match front, back with
    | some ls, some ms => countLimit < ls.length * ms.length
    | _, _ => false
  keep lengthLimit (join front (if tooMany then none else back))

/-- The leads of pieces of two kinds, unless there are too many. -/
def both (a b : Leads) : Leads :=
  match a, b with
  | some ls, some ms =>
    if countLimit < ls.length + ms.length then none else some (Lead.distinct (ls ++ ms))
  | _, _ => none

/-- The leads of pieces of a kind, cut short to make room for others. -/
def brief (leads : List Lead) : Leads := some (Lead.distinct (leads.map (Lead.keep 4)))

/-- The leads of pieces of two kinds.  If there are too many, they are cut short first. -/
def orElse (a b : Leads) : Leads :=
  match a, b with
  | some ls, some ms =>
    if countLimit < ls.length + ms.length then both (brief ls) (brief ms) else both a b
  | _, _ => none

/-- The leads of pieces of a kind behind others, so many times. -/
def repeatFrom (piece : Leads) : (count : Nat) → Leads → Leads
  | 0, leads => leads
  | count + 1, leads =>
    if leads.isOpen then leads else repeatFrom piece count (leads.andThen piece)

/-- The leads of a repetition. -/
def repeated (piece : Leads) (times : Times) : Leads :=
  if times.least == 0 then
    let piece := if times.most == some 1 then piece else piece.opened
    if times.greedy then piece.orElse nothing else nothing.orElse piece
  else
    let leads := repeatFrom piece (min times.least repeatLimit) nothing
    if times.most == some times.least && times.least ≤ repeatLimit then leads else leads.opened

/-- The leads of a test. -/
def ofTest : Test → Leads
  | .literal chars =>
    keep lengthLimit (some [⟨chars.flatMap fun c => ByteRange.bytesOf c.toNat, true⟩])
  | .one set _ =>
    let count := sumOf (set.ranges.toList.map fun r => r.hi - r.lo + 1)
    if setLimit < count then none
    else
      let numbers := set.ranges.toList.flatMap fun r => List.range' r.lo (r.hi - r.lo + 1)
      some (numbers.map fun n => ⟨ByteRange.bytesOf n, true⟩)
  | .look _ => nothing

mutual

/-- The leads of a pattern. -/
def ofPattern : Pattern Test → Leads
  | .empty => nothing
  | .test t => ofTest t
  | .repeated p times => repeated (ofPattern p) times
  | .group _ p => ofPattern p
  | .seq ps => ofSeq nothing ps
  | .either ps => ofEither (some []) ps

/-- The leads of pieces one behind another, behind others. -/
def ofSeq : Leads → List (Pattern Test) → Leads
  | leads, [] => leads
  | leads, p :: ps => if leads.isOpen then leads else ofSeq (leads.andThen (ofPattern p)) ps

/-- The leads of pieces of one of some kinds, beside others. -/
def ofEither : Leads → List (Pattern Test) → Leads
  | leads, [] => leads
  | leads, p :: ps => ofEither (leads.orElse (ofPattern p)) ps

end

/-- The steps by which leads are made fewer: how many bytes are kept when there are more leads
than so many. -/
def steps : List (Nat × Nat) := [(5, 10), (4, 10), (3, 64), (2, 64), (1, 10)]

/-- Cuts leads short as long as there are too many. -/
def shorten (leads : List Lead) : List (Nat × Nat) → List Lead
  | [] => leads
  | (count, limit) :: rest =>
    if leads.length ≤ limit then leads
    else shorten (Lead.fewest (leads.map (Lead.keep count))) rest

/-- Makes leads fewer.  Whole leads are kept if the fewer ones would be found too often. -/
def settle (leads : List Lead) : Leads :=
  let shorter := shorten leads steps
  let good := !shorter.any Lead.isEverywhere
  if isWhole (some leads) then
    if good && !shorter.isEmpty && shorter.all (3 ≤ ·.bytes.length) && shorter.length ≤ 64 then
      some shorter
    else some leads
  else if good then some shorter else none

/-- Makes leads fewer, by what all of them begin with if that is worth it.  `count` is the number
of leads before those were left out that begin with others. -/
def reduce (count : Nat) (leads : List Lead) : Leads :=
  let common := Lead.common leads
  let isRare := common.head?.any fun byte => !Lead.isFrequent byte
  if 1 < count && common.length ≤ 3 && isRare then some (Lead.distinct (leads.map (Lead.keep 1)))
  else
    let isFast := isWhole (some leads) && leads.length ≤ 16
    let isWorth := 4 < common.length || (1 < common.length && !isFast)
    settle (if isWorth then Lead.distinct (leads.map (Lead.keep common.length)) else leads)

/-- The leads that are looked for. -/
def best : Leads → Leads
  | none => none
  | some leads =>
    if leads.any (·.bytes.isEmpty) then none else reduce leads.length (Lead.fewest leads)

end Leads

namespace Pattern

mutual

/-- Whether a pattern has no groups and no looks. -/
def hasOnlyTests : Pattern Test → Bool
  | empty => true
  | test (.look _) => false
  | test _ => true
  | repeated p _ => p.hasOnlyTests
  | group _ _ => false
  | seq ps | either ps => haveOnlyTests ps

/-- Whether patterns have no groups and no looks. -/
def haveOnlyTests : List (Pattern Test) → Bool
  | [] => true
  | p :: ps => p.hasOnlyTests && haveOnlyTests ps

end

/-- Whether a pattern can be found by looking for some texts. -/
def isTexts (p : Pattern Test) : Bool :=
  let leads := (Leads.ofPattern p).best
  p.hasOnlyTests && leads.isWhole && leads.any (!·.isEmpty)

end Pattern

end EscapeAudit
