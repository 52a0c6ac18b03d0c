import EscapeAudit.Text.CaseTable
import EscapeAudit.Text.Property

/-!
# Letters up to case

Two letters are the same up to case when they fold to the same letter.  A letter folds to its
lower-case letter, and the letters of `foldings`, which are variants of others, fold to those.  A
*family* holds all letters that fold to the same one.  Letters that the sixteenth edition of the
character database does not know have no family.
-/

namespace EscapeAudit.Text

/-- The letters that fold to another than their lower-case letter, with the letter they fold to. -/
def foldings : List (Nat × Nat) := [
  (0xB5, 0x3BC), (0x17F, 0x73), (0x345, 0x3B9), (0x3C2, 0x3C3), (0x3D0, 0x3B2), (0x3D1, 0x3B8),
  (0x3D5, 0x3C6), (0x3D6, 0x3C0), (0x3F0, 0x3BA), (0x3F1, 0x3C1), (0x3F5, 0x3B5), (0x1C80, 0x432),
  (0x1C81, 0x434), (0x1C82, 0x43E), (0x1C83, 0x441), (0x1C84, 0x442), (0x1C85, 0x442),
  (0x1C86, 0x44A), (0x1C87, 0x463), (0x1C88, 0xA64B), (0x1E9B, 0x1E61), (0x1FBE, 0x3B9),
  (0x1FD3, 0x390), (0x1FE3, 0x3B0), (0xFB06, 0xFB05)]

/-- The letters of ASCII in upper case, with those in lower case. -/
def asciiFoldings : List (Nat × Nat) := (List.range 26).map fun i => (0x41 + i, 0x61 + i)

/-- The letters of a run, with their lower-case letters. -/
def runFoldings (run : Nat × Nat × Nat × Nat) : List (Nat × Nat) :=
  let (first, last, distance, lower) := run
  (List.range ((last - first) / distance + 1)).map fun i =>
    (first + distance * i, lower + distance * i)

/-- All letters that fold to others, with the letters they fold to. -/
def allFoldings : List (Nat × Nat) :=
  asciiFoldings ++ loweringRuns.toList.flatMap runFoldings ++ foldings

/-- Puts the letters that fold to the same letter together.  The pairs are in increasing order of
their second letters, and `family` is the family of the letter `n`. -/
def gather (n : Nat) (family : List Nat) : List (Nat × Nat) → List (List Nat)
  | [] => [n :: family]
  | (a, m) :: rest =>
    if m == n then gather n (a :: family) rest
    else (n :: family) :: gather m [a] rest

/-- The families of some letters, given with the letters they fold to. -/
def familiesOf (pairs : List (Nat × Nat)) : List (List Nat) :=
  match pairs.mergeSort fun p q => p.2 ≤ q.2 with
  | [] => []
  | (a, n) :: rest => gather n [a] rest

/-- The families of the letters of ASCII among themselves. -/
def asciiFamilies : List (List Nat) := familiesOf asciiFoldings

/-- All families. -/
def families : List (List Nat) :=
  (familiesOf allFoldings).map fun family => family.filter CharSet.assigned.has

namespace CharSet

/-- The set with all letters of the families that it holds a letter of. -/
def foldedBy (families : List (List Nat)) (set : CharSet) : CharSet :=
  let met := families.filter fun family => family.any set.has
  set.union (ofRanges (met.flatten.map .single))

/-- The characters that are in a set up to case. -/
def folded (set : CharSet) : CharSet := set.foldedBy families

/-- The characters that are in a set up to case of ASCII letters. -/
def asciiFolded (set : CharSet) : CharSet := set.foldedBy asciiFamilies

end CharSet

end EscapeAudit.Text
