import EscapeAudit.Check.Basic
import EscapeAudit.Proofs.Amendment
import EscapeAudit.Proofs.Leaf

/-!
# Fixes and what they make of a template

The changesets of an audit come in four forms, which are the four kinds of fixes.  The draft that
takes fixes has at each token the texts of the fixes that are about it (`shows_submitAll`).  So its
text is the text of the lexemes of the template with the lexemes of the fixes woven in
(`toList_text_submitAll`).

The declaration of the escaper has no place among the woven lexemes, because its last character
becomes part of the blank behind it.
-/

namespace EscapeAudit

open Lexer

/-- The four forms of changesets. -/
inductive Fix where
  /-- A call of the escaper around the tokens from `first` to `last`. -/
  | wrap (first last : Nat) (f : EscapeFunction)
  /-- A comment before a token exempts a statement. -/
  | mark (place : Nat)
  /-- The escaper takes the place of the block. -/
  | swap (place : Nat)
  /-- The declaration of the escaper behind the first token. -/
  | declare
  deriving DecidableEq, Repr

namespace Fix

/-- The changeset of a fix. -/
def changeset : Fix → Changeset
  | wrap first last f =>
    ⟨[.insertBefore first ("$escaper" ++ "->" ++ f.method ++ "("), .insertAfter last ")"]⟩
  | mark place => ⟨[.insertBefore place exemption]⟩
  | swap place => ⟨[.replace place "$escaper"]⟩
  | declare => ⟨[.insertAfter 0 escaperDeclaration]⟩

/-- The fix is about tokens of a template of a length. -/
def InRange (n : Nat) : Fix → Prop
  | wrap first last _ => first < n ∧ last < n
  | mark place => place < n
  | swap place => place < n
  | declare => 0 < n

/-- The text that a fix puts before a token. -/
def textBefore (i : Nat) : Fix → String
  | wrap first _ f => if first = i then "$escaper" ++ "->" ++ f.method ++ "(" else ""
  | mark place => if place = i then exemption else ""
  | _ => ""

/-- The text that a fix puts behind a token. -/
def textAfter (i : Nat) : Fix → String
  | wrap _ last _ => if last = i then ")" else ""
  | declare => if 0 = i then escaperDeclaration else ""
  | _ => ""

/-- Whether a fix exchanges a token. -/
def swaps (i : Nat) : Fix → Bool
  | swap place => place == i
  | _ => false

/-- The lexemes that a fix puts before a token. -/
def lexemesBefore (i : Nat) : Fix → List Lexeme
  | wrap first _ f => if first = i then escaperCall f else []
  | mark place => if place = i then exemptionMark else []
  | _ => []

/-- The lexemes that a fix puts behind a token. -/
def lexemesAfter (i : Nat) : Fix → List Lexeme
  | wrap _ last _ => if last = i then [closing] else []
  | _ => []

theorem chars_escaperCall (f : EscapeFunction) :
    chars (escaperCall f) = ("$escaper" ++ "->" ++ f.method ++ "(").toList := by
  cases f <;> rfl

theorem chars_lexemesBefore (i : Nat) (f : Fix) :
    chars (f.lexemesBefore i) = (f.textBefore i).toList := by
  cases f with
  | wrap first last g =>
    simp only [lexemesBefore, textBefore]
    split
    · exact chars_escaperCall g
    · rfl
  | mark place =>
    simp only [lexemesBefore, textBefore]
    split <;> rfl
  | swap => rfl
  | declare => rfl

theorem chars_lexemesAfter (i : Nat) {f : Fix} (hf : f ≠ .declare) :
    chars (f.lexemesAfter i) = (f.textAfter i).toList := by
  cases f with
  | wrap first last g =>
    simp only [lexemesAfter, textAfter]
    split <;> rfl
  | mark => rfl
  | swap => rfl
  | declare => exact absurd rfl hf

end Fix

/-! ## The patches of a draft -/

/-- The changes at a token that fixes make, the first fix innermost. -/
def patchAt (fixes : List Fix) (i : Nat) : Patch where
  before := .join (fixes.reverse.map (Fix.textBefore i))
  replacement := if fixes.any (Fix.swaps i) then some "$escaper" else none
  after := .join (fixes.map (Fix.textAfter i))

theorem patchAt_nil (i : Nat) : patchAt [] i = .none := rfl

/-- One more fix puts its texts around the others. -/
theorem patchAt_append (fixes : List Fix) (f : Fix) (i : Nat) :
    patchAt (fixes ++ [f]) i =
      f.changeset.edits.foldl (fun p e => if e.token = i then p.add e else p) (patchAt fixes i) := by
  cases f with
  | wrap first last g =>
    by_cases hfirst : first = i <;> by_cases hlast : last = i <;>
      simp [patchAt, Fix.changeset, Fix.textBefore, Fix.textAfter, Fix.swaps, Edit.token, Patch.add,
        hfirst, hlast, String.join_append]
  | mark place =>
    by_cases hplace : place = i <;>
      simp [patchAt, Fix.changeset, Fix.textBefore, Fix.textAfter, Fix.swaps, Edit.token, Patch.add,
        hplace]
  | swap place =>
    by_cases hplace : place = i <;>
      simp [patchAt, Fix.changeset, Fix.textBefore, Fix.textAfter, Fix.swaps, Edit.token, Patch.add,
        hplace]
  | declare =>
    by_cases hzero : 0 = i <;>
      simp [patchAt, Fix.changeset, Fix.textBefore, Fix.textAfter, Fix.swaps, Edit.token, Patch.add,
        hzero]

/-- What edits do to the changes at one token. -/
theorem getElem?_foldl_patched (edits : List Edit) (patches : Array Patch) (i : Nat) :
    (edits.foldl Draft.patched patches)[i]? =
      patches[i]?.map fun p => edits.foldl (fun p e => if e.token = i then p.add e else p) p := by
  induction edits generalizing patches with
  | nil => simp
  | cons e edits ih =>
    rw [List.foldl_cons, ih, Draft.patched, Array.getElem?_modify]
    by_cases he : e.token = i
    · rw [if_pos he, Option.map_map]
      simp [he, Function.comp_def]
    · rw [if_neg he]
      simp [he]

theorem size_foldl_patched (edits : List Edit) (patches : Array Patch) :
    (edits.foldl Draft.patched patches).size = patches.size := by
  induction edits generalizing patches with
  | nil => rfl
  | cons e edits ih =>
    rw [List.foldl_cons, ih, Draft.patched, Array.size_modify]

/-- A draft of a template has the changes of fixes. -/
structure Shows (d : Draft) (ls : List Lexeme) (fixes : List Fix) : Prop where
  stream : d.stream = .ofLexemes ls
  size : d.patches.size = ls.length
  patches : ∀ i < ls.length, d.patches[i]? = some (patchAt fixes i)

theorem shows_ofStream (ls : List Lexeme) : Shows (.ofStream (.ofLexemes ls)) ls [] := by
  refine ⟨rfl, by simp [Draft.ofStream], fun i hi => ?_⟩
  simp [Draft.ofStream, hi, patchAt_nil]

namespace Shows

variable {d : Draft} {ls : List Lexeme} {fixes : List Fix}

/-- A changeset without reason to refuse it is accepted. -/
theorem accept (h : Shows d ls fixes) {f : Fix} (hf : d.refusal? f.changeset = none) :
    Shows (d.submit f.changeset) ls (fixes ++ [f]) ∧
      (d.submit f.changeset).applied = d.applied + 1 ∧
      (d.submit f.changeset).rejected = d.rejected := by
  simp only [Draft.submit, hf, and_self, and_true]
  refine ⟨h.stream, ?_, fun i hi => ?_⟩
  · simp [size_foldl_patched, h.size]
  · simp only [getElem?_foldl_patched, h.patches i hi, Option.map_some, patchAt_append]

/-- Insertions are never refused. -/
theorem refusal?_insertion (h : Shows d ls fixes) {f : Fix} (hrange : f.InRange ls.length)
    (hf : ∀ place, f ≠ .swap place) : d.refusal? f.changeset = none := by
  cases f with
  | wrap first last g =>
    simp [Draft.refusal?, Fix.changeset, Draft.refusalFrom, Edit.token, h.patches _ hrange.1,
      h.patches _ hrange.2]
  | mark place =>
    simp [Draft.refusal?, Fix.changeset, Draft.refusalFrom, Edit.token, h.patches _ hrange]
  | swap place => exact absurd rfl (hf place)
  | declare =>
    simp [Draft.refusal?, Fix.changeset, Draft.refusalFrom, Edit.token, h.patches _ hrange]

/-- A token that is exchanged twice is exchanged once. -/
theorem submit (h : Shows d ls fixes) {f : Fix} (hrange : f.InRange ls.length) :
    Shows (d.submit f.changeset) ls (fixes ++ [f]) := by
  cases hrefusal : d.refusal? f.changeset with
  | none => exact (h.accept hrefusal).1
  | some refusal =>
    cases f with
    | swap place =>
      have hswapped : fixes.any (Fix.swaps place) = true := by
        cases hany : fixes.any (Fix.swaps place) with
        | true => rfl
        | false =>
          simp [Draft.refusal?, Fix.changeset, Draft.refusalFrom, Edit.token, h.patches _ hrange,
            patchAt, hany] at hrefusal
      simp only [Draft.submit, hrefusal]
      refine ⟨h.stream, h.size, fun i hi => ?_⟩
      rw [h.patches i hi, patchAt_append]
      by_cases hi' : place = i
      · subst hi'
        simp [Fix.changeset, Edit.token, Patch.add, patchAt, hswapped]
      · simp [Fix.changeset, Edit.token, hi']
    | wrap => rw [h.refusal?_insertion hrange (by simp)] at hrefusal; cases hrefusal
    | mark => rw [h.refusal?_insertion hrange (by simp)] at hrefusal; cases hrefusal
    | declare => rw [h.refusal?_insertion hrange (by simp)] at hrefusal; cases hrefusal

end Shows

/-- The draft that takes fixes has the changes of the fixes. -/
theorem Shows.submitAll {d : Draft} {ls : List Lexeme} {done : List Fix} (h : Shows d ls done)
    {fixes : List Fix} (hrange : ∀ f ∈ fixes, f.InRange ls.length) :
    Shows (d.submitAll (fixes.map Fix.changeset)) ls (done ++ fixes) := by
  induction fixes generalizing d done with
  | nil => simpa [Draft.submitAll] using h
  | cons f fixes ih =>
    have hstep := ih (h.submit (hrange f (by simp))) fun g hg => hrange g (by simp [hg])
    simpa [Draft.submitAll] using hstep

/-! ## The text of a draft -/

theorem toList_foldl_apply (zs : List (Token × Patch)) (acc : String) :
    (zs.foldl (fun acc (t, p) => acc ++ p.apply t.text) acc).toList =
      acc.toList ++ zs.flatMap fun (t, p) => (p.apply t.text).toList := by
  induction zs generalizing acc with
  | nil => simp
  | cons z zs ih =>
    rw [List.foldl_cons, ih]
    simp

/-- The text of a draft is that of its tokens, each with its changes. -/
theorem Shows.toList_text {d : Draft} {ls : List Lexeme} {fixes : List Fix} (h : Shows d ls fixes) :
    d.text.toList = (ls.zipIdx).flatMap fun (l, i) => ((patchAt fixes i).apply l.text).toList := by
  have hpatches : d.patches.toList = (List.range ls.length).map (patchAt fixes) := by
    refine List.ext_getElem? fun i => ?_
    by_cases hi : i < ls.length
    · simp [h.patches i hi, hi]
    · simp [h.size, Nat.le_of_not_lt hi]
  have htokens : d.stream.tokens.toList.map Token.lexeme = ls := by
    rw [h.stream]
    exact Stream.lexemes_ofLexemes ls
  rw [Draft.text, ← Array.foldl_toList, toList_foldl_apply, Array.toList_zip, hpatches]
  conv => rhs; rw [← htokens]
  have hlength : ls.length = d.stream.tokens.toList.length := by rw [← htokens, List.length_map]
  rw [hlength, List.range_eq_range', List.zip_map_right, ← List.zipIdx_eq_zip_range',
    List.zipIdx_map, List.flatMap_map, List.flatMap_map]
  rfl

/-- Every token of a template replaced by a chunk of lexemes, given the index of the first one. -/
def weave (chunk : Nat → Lexeme → List Lexeme) : Nat → List Lexeme → List Lexeme
  | _, [] => []
  | i, l :: ls => chunk i l ++ weave chunk (i + 1) ls

theorem weave_append (chunk : Nat → Lexeme → List Lexeme) (i : Nat) (ls ms : List Lexeme) :
    weave chunk i (ls ++ ms) = weave chunk i ls ++ weave chunk (i + ls.length) ms := by
  induction ls generalizing i with
  | nil => rfl
  | cons l ls ih =>
    rw [List.cons_append, weave, weave, ih, List.append_assoc, List.length_cons]
    congr 3
    omega

theorem weave_congr {chunk other : Nat → Lexeme → List Lexeme} {i : Nat}
    (h : ∀ j, i ≤ j → chunk j = other j) (ls : List Lexeme) : weave chunk i ls = weave other i ls := by
  induction ls generalizing i with
  | nil => rfl
  | cons l ls ih => rw [weave, weave, h i (Nat.le_refl i), ih fun j hj => h j (by omega)]

theorem mem_weave {chunk : Nat → Lexeme → List Lexeme} {i : Nat} {ls : List Lexeme} {m : Lexeme}
    (h : m ∈ weave chunk i ls) : ∃ j l, ls[j]? = some l ∧ m ∈ chunk (i + j) l := by
  induction ls generalizing i with
  | nil => cases h
  | cons l ls ih =>
    rcases List.mem_append.mp h with h | h
    · exact ⟨0, l, rfl, h⟩
    · obtain ⟨j, k, hk, h⟩ := ih h
      exact ⟨j + 1, k, hk, by rwa [← Nat.add_assoc, Nat.add_right_comm]⟩

/-- A token with the lexemes of fixes around it. -/
def chunkOf (fixes : List Fix) (i : Nat) (l : Lexeme) : List Lexeme :=
  fixes.reverse.flatMap (Fix.lexemesBefore i) ++
    (if fixes.any (Fix.swaps i) then escaperVariable else l) :: fixes.flatMap (Fix.lexemesAfter i)

theorem chars_flatMap {α : Type} (xs : List α) (f : α → List Lexeme) :
    chars (xs.flatMap f) = xs.flatMap fun x => chars (f x) := by
  induction xs with
  | nil => rfl
  | cons x xs ih => simp [ih]

theorem toList_join_map {α : Type} (xs : List α) (f : α → String) :
    (String.join (xs.map f)).toList = xs.flatMap fun x => (f x).toList := by
  simp [List.flatMap_map]

/-- The chunk of a token is spelled as the draft shows it. -/
theorem chars_chunkOf {fixes : List Fix} {i : Nat} (h : .declare ∈ fixes → i ≠ 0) (l : Lexeme) :
    chars (chunkOf fixes i l) = ((patchAt fixes i).apply l.text).toList := by
  have hafter : (fixes.flatMap fun f => chars (f.lexemesAfter i)) =
      fixes.flatMap fun f => (f.textAfter i).toList := by
    rw [List.flatMap_def, List.flatMap_def, List.map_congr_left]
    intro f hf
    by_cases hdeclare : f = .declare
    · subst hdeclare
      simp [Fix.lexemesAfter, Fix.textAfter, (h hf).symm]
    · exact f.chars_lexemesAfter i hdeclare
  have hown : ((if fixes.any (Fix.swaps i) then some "$escaper" else none).getD l.text) =
      (if fixes.any (Fix.swaps i) then escaperVariable else l).text := by
    split <;> rfl
  simp only [chunkOf, patchAt, Patch.apply, chars_append, chars_cons, chars_flatMap, hown,
    String.toList_append, toList_join_map, List.append_assoc, Fix.chars_lexemesBefore, hafter]

theorem chars_weave {fixes : List Fix} {i : Nat} (h : .declare ∈ fixes → i ≠ 0) (ls : List Lexeme) :
    chars (weave (chunkOf fixes) i ls) =
      (ls.zipIdx i).flatMap fun (l, i) => ((patchAt fixes i).apply l.text).toList := by
  induction ls generalizing i with
  | nil => rfl
  | cons l ls ih =>
    rw [weave, chars_append, chars_chunkOf h, ih (fun _ => by omega), List.zipIdx_cons,
      List.flatMap_cons]

/-- The text of a draft is that of the woven lexemes. -/
theorem Shows.toList_text_eq_chars {d : Draft} {ls : List Lexeme} {fixes : List Fix}
    (h : Shows d ls fixes) (hdeclare : .declare ∉ fixes) :
    d.text.toList = chars (weave (chunkOf fixes) 0 ls) := by
  rw [h.toList_text, chars_weave fun hmem => absurd hmem hdeclare]

/-! ## Fixes amend -/

/-- The tokens around a fix are such that it amends the template. -/
def Fix.Sound (ls : List Lexeme) : Fix → Prop
  | wrap first last _ => (∃ l, ls[first]? = some l ∧ Room l) ∧ Fresh (ls.take first) ∧
    last < ls.length ∧ Closable (ls.take (last + 1)) ∧ tame (ls.drop (last + 1)) = true
  | mark place => (∃ l, ls[place]? = some l ∧ Room l) ∧
    ∀ k, (ls.take place).getLast? = some k → k.text ≠ "/"
  | swap place => ls[place]? = some blockVariable
  | declare => ls ≠ []

theorem Fix.Sound.inRange {ls : List Lexeme} {f : Fix} (h : f.Sound ls) : f.InRange ls.length := by
  cases f with
  | wrap first last g =>
    obtain ⟨⟨l, hl, _⟩, _, hlast, _⟩ := h
    exact ⟨(List.getElem?_eq_some_iff.mp hl).1, hlast⟩
  | mark place =>
    obtain ⟨⟨l, hl, _⟩, _⟩ := h
    exact (List.getElem?_eq_some_iff.mp hl).1
  | swap place => exact (List.getElem?_eq_some_iff.mp h).1
  | declare => exact List.length_pos_iff.mpr h

/-- The fixes that put a parenthesis behind a token amend what follows. -/
theorem amends_after {ls ms : List Lexeme} {closers : List Fix} {i : Nat}
    (hsound : ∀ f ∈ closers, f.Sound ls)
    (h : Amends (ls.take (i + 1)) (ls.drop (i + 1)) ms) :
    Amends (ls.take (i + 1)) (ls.drop (i + 1))
      (closers.flatMap (Fix.lexemesAfter i) ++ ms) := by
  induction closers with
  | nil => exact h
  | cons f closers ih =>
    have hrest := ih fun g hg => hsound g (by simp [hg])
    rw [List.flatMap_cons, List.append_assoc]
    cases f with
    | wrap first last g =>
      simp only [Fix.lexemesAfter]
      split
      · rename_i hlast
        obtain ⟨_, _, _, hclosable, htame⟩ := hsound (.wrap first last g) (by simp)
        rw [hlast] at hclosable htame
        exact .close hclosable htame hrest
      · exact hrest
    | mark => exact hrest
    | swap => exact hrest
    | declare => exact hrest

/-- The fixes that put something before a token amend it. -/
theorem amends_before {ls rest ms : List Lexeme} {l : Lexeme} {openers : List Fix} {i : Nat}
    (hsound : ∀ f ∈ openers, f.Sound ls) (hl : ls[i]? = some l)
    (h : Amends (ls.take i) (l :: rest) ms) :
    Amends (ls.take i) (l :: rest) (openers.reverse.flatMap (Fix.lexemesBefore i) ++ ms) := by
  have hroom : ∀ {place : Nat}, (∃ k, ls[place]? = some k ∧ Room k) → place = i → Room l := by
    rintro place ⟨k, hk, hroom⟩ rfl
    rw [hl] at hk
    exact Option.some.inj hk ▸ hroom
  induction openers generalizing ms with
  | nil => exact h
  | cons f openers ih =>
    rw [List.reverse_cons, List.flatMap_append, List.append_assoc]
    refine ih (fun g hg => hsound g (by simp [hg])) ?_
    rw [List.flatMap_cons, List.flatMap_nil, List.append_nil]
    cases f with
    | wrap first last g =>
      simp only [Fix.lexemesBefore]
      split
      · rename_i hfirst
        obtain ⟨hplace, hfresh, _⟩ := hsound (.wrap first last g) (by simp)
        rw [hfirst] at hfresh
        exact .call g (hroom hplace hfirst) hfresh h
      · exact h
    | mark place =>
      simp only [Fix.lexemesBefore]
      split
      · rename_i hplace
        obtain ⟨hexists, hslash⟩ := hsound (.mark place) (by simp)
        rw [hplace] at hslash
        exact .mark (hroom hexists hplace) hslash h
      · exact h
    | swap => exact h
    | declare => exact h

/-- A template with sound fixes woven in is amended. -/
theorem amends_weave {ls : List Lexeme} {fixes : List Fix} (hsound : ∀ f ∈ fixes, f.Sound ls)
    (i : Nat) : Amends (ls.take i) (ls.drop i) (weave (chunkOf fixes) i (ls.drop i)) := by
  induction hn : ls.length - i generalizing i with
  | zero =>
    rw [List.drop_eq_nil_of_le (by omega)]
    exact .nil _
  | succ n ih =>
    have hlt : i < ls.length := by omega
    have hl : ls[i]? = some ls[i] := List.getElem?_eq_getElem hlt
    have hrest := amends_after hsound (ih (i + 1) (by omega))
    have htake : ls.take (i + 1) = ls.take i ++ [ls[i]] := by simp
    rw [List.drop_eq_getElem_cons hlt, weave, chunkOf, List.append_assoc, List.cons_append]
    refine amends_before hsound hl ?_
    rw [htake] at hrest
    split
    · rename_i hswap
      obtain ⟨f, hf, hplace⟩ := List.any_eq_true.mp hswap
      cases f with
      | swap place =>
        obtain rfl : place = i := by simpa [Fix.swaps] using hplace
        have hblock : ls[place]? = some blockVariable := hsound _ hf
        rw [hl] at hblock
        rw [Option.some.inj hblock] at hrest ⊢
        exact .swap hrest
      | wrap => cases hplace
      | mark => cases hplace
      | declare => cases hplace
    · exact .keep _ hrest

end EscapeAudit
