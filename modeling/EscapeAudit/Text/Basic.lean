/-!
# Text as characters and as bytes

A template is text.  Offsets and sizes count its UTF-8 bytes, columns count its characters, and the
scanners walk over its list of characters.  This module holds the few operations on lists of
characters that the rest of the library shares: the byte length, how many characters some bytes hold,
what stands behind a given beginning, and whether a pattern occurs.

The walks carry their result along, so that a template of many megabytes needs no deep call stack.
-/

namespace EscapeAudit.Text

/-- The number of UTF-8 bytes of a list of characters. -/
def byteLength (cs : List Char) : Nat :=
  cs.foldl (fun n c => n + c.utf8Size) 0

/-- The number of characters that end within the first bytes of a text, counted on from `n`. -/
def charsWithin : (size : Nat) → List Char → (n : Nat) → Nat
  | _, [], n => n
  | size, c :: cs, n =>
    if c.utf8Size ≤ size then charsWithin (size - c.utf8Size) cs (n + 1) else n

theorem byteLength_cons (c : Char) (cs : List Char) :
    byteLength (c :: cs) = c.utf8Size + byteLength cs := by
  have hcount : ∀ (cs : List Char) (n : Nat),
      cs.foldl (fun n c => n + c.utf8Size) n = n + byteLength cs := by
    intro cs
    induction cs with
    | nil => intro n; rfl
    | cons d cs ih =>
      intro n
      rw [byteLength, List.foldl_cons, List.foldl_cons, ih, ih]
      omega
  rw [byteLength, List.foldl_cons, hcount, Nat.zero_add]

theorem byteLength_eq (cs : List Char) : byteLength cs = (String.ofList cs).utf8ByteSize := by
  induction cs with
  | nil => rfl
  | cons c cs ih =>
    rw [byteLength_cons, ih, String.ofList_cons, String.utf8ByteSize_append,
      String.utf8ByteSize_singleton]

theorem byteLength_append (xs ys : List Char) :
    byteLength (xs ++ ys) = byteLength xs + byteLength ys := by
  induction xs with
  | nil => exact (Nat.zero_add _).symm
  | cons c xs ih => rw [List.cons_append, byteLength_cons, byteLength_cons, ih, Nat.add_assoc]

/-- The bytes of a beginning of the text hold the characters of this beginning. -/
theorem charsWithin_append (xs ys : List Char) (n : Nat) :
    charsWithin (byteLength xs) (xs ++ ys) n = n + xs.length := by
  induction xs generalizing n with
  | nil =>
    cases ys with
    | nil => rfl
    | cons c ys => exact if_neg (Nat.not_le_of_lt (Char.utf8Size_pos c))
  | cons c xs ih =>
    rw [List.cons_append, byteLength_cons, charsWithin, if_pos (Nat.le_add_right _ _),
      Nat.add_sub_cancel_left, ih, List.length_cons]
    omega

/-- What stands behind `lead` when the text begins with it. -/
def dropLeading? : (lead : List Char) → List Char → Option (List Char)
  | [], cs => some cs
  | _ :: _, [] => none
  | l :: ls, c :: cs => if l == c then dropLeading? ls cs else none

/-- Whether the pattern stands somewhere in the text. -/
def occurs (pattern : List Char) : List Char → Bool
  | [] => pattern.isEmpty
  | c :: cs => pattern.isPrefixOf (c :: cs) || occurs pattern cs

/-- Whether the pattern stands somewhere in the text. -/
def contains (text pattern : String) : Bool :=
  occurs pattern.toList text.toList

theorem occurs_iff {pattern cs : List Char} : occurs pattern cs = true ↔ pattern <:+: cs := by
  induction cs with
  | nil => simp [occurs]
  | cons c cs ih => rw [occurs, Bool.or_eq_true, List.isPrefixOf_iff_prefix, ih, List.infix_cons_iff]

theorem contains_of_infix {text other pattern : String} (h : text.toList <:+: other.toList)
    (hcontains : contains text pattern = true) : contains other pattern = true :=
  occurs_iff.mpr ((occurs_iff.mp hcontains).trans h)

/-- Whether the text begins with the given characters. -/
def startsWith (text lead : String) : Bool :=
  lead.toList.isPrefixOf text.toList

/-- The ASCII letters in lower case, every other character as it is. -/
def asciiLower (text : String) : String :=
  String.ofList (text.toList.map Char.toLower)

/-- The text without the leading characters that equal `c`. -/
def dropLeadingChar (c : Char) (text : String) : String :=
  String.ofList (text.toList.dropWhile (· == c))

/-- The texts one after another. -/
def join (texts : List String) : String :=
  texts.foldl (· ++ ·) ""

/-- The texts one after another with a separator between neighbours. -/
def joinWith (separator : String) : List String → String
  | [] => ""
  | t :: ts => ts.foldl (fun acc u => acc ++ separator ++ u) t

/-- A character repeated. -/
def replicate (n : Nat) (c : Char) : String :=
  String.ofList (List.replicate n c)

/-- The pieces between the separators.  There is one piece more than there are separators. -/
def splitAt (separator : Char) (text : String) : List String :=
  (go text.toList [] []).map String.ofList
where
  go : List Char → List Char → List (List Char) → List (List Char)
    | [], piece, done => (piece.reverse :: done).reverse
    | c :: cs, piece, done =>
      if c == separator then go cs [] (piece.reverse :: done) else go cs (c :: piece) done

end EscapeAudit.Text
