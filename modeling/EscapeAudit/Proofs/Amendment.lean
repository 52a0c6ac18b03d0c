import EscapeAudit.Legacy
import EscapeAudit.Proofs.Spelling

/-!
# Amended templates

The fixes of a template put lexemes between the tokens that are there, or exchange a variable.
`Amends` has one rule for each such change, with what it asks of the tokens around it.  Its main
result says that an amended template is spelled whenever the template is (`Amends.spells`).  So the
text of the amended template is read again without a fault, and the tokens that were there are read
as they were.

The changes are made from the end of the template to its beginning.  The tokens before a change are
then still those of the template itself.
-/

namespace EscapeAudit

namespace Lexer

/-! ## What is put in -/

/-- The beginning of a call of the escaper. -/
def escaperCall (f : EscapeFunction) : List Lexeme :=
  [⟨.variable, "$escaper"⟩, ⟨.objectOperator, "->"⟩, ⟨.identifier, f.method⟩, opening]

/-- The comment that exempts a statement, with the blank behind it. -/
def exemptionMark : List Lexeme := [⟨.comment, "/* @noEscape */"⟩, ⟨.whitespace, " "⟩]

/-- The variable whose methods are deprecated. -/
def blockVariable : Lexeme := ⟨.variable, "$block"⟩

/-- The variable that takes its place. -/
def escaperVariable : Lexeme := ⟨.variable, "$escaper"⟩

theorem Spells.next (kind : Kind) (c : Char) (more : List Char) (mode : Mode) {s t : State}
    {text : String} {tail : List Char} {ls : List Lexeme} (htext : text = String.ofList (c :: more))
    (hkind : kind ≠ .openParenthesis)
    (hcut : cutNext s c (more ++ (chars ls ++ tail)) = .ok ⟨kind, more.length, mode⟩)
    (h : Spells (s.after ⟨kind, more.length, mode⟩) ls tail t) :
    Spells s (⟨kind, text⟩ :: ls) tail t := by
  subst htext
  exact .step hkind hcut h

theorem spells_escaperCall {s : State} (hs : s.mode = .code) (hdue : s.memberDue = false)
    (f : EscapeFunction) (tail : List Char) : Spells s (escaperCall f) tail s := by
  obtain ⟨mode, pending, due⟩ := s
  obtain rfl : mode = .code := hs
  obtain rfl : due = false := hdue
  cases f
  · refine .next _ '$' "escaper".toList .code rfl (by decide) rfl ?_
    refine .next _ '-' [ '>'] .code rfl (by decide) rfl ?_
    refine .next _ 'e' "scapeHtml".toList .code rfl (by decide) rfl (.paren rfl (.done _ _))
  · refine .next _ '$' "escaper".toList .code rfl (by decide) rfl ?_
    refine .next _ '-' [ '>'] .code rfl (by decide) rfl ?_
    refine .next _ 'e' "scapeHtmlAttr".toList .code rfl (by decide) rfl (.paren rfl (.done _ _))
  · refine .next _ '$' "escaper".toList .code rfl (by decide) rfl ?_
    refine .next _ '-' [ '>'] .code rfl (by decide) rfl ?_
    refine .next _ 'e' "scapeJs".toList .code rfl (by decide) rfl (.paren rfl (.done _ _))
  · refine .next _ '$' "escaper".toList .code rfl (by decide) rfl ?_
    refine .next _ '-' [ '>'] .code rfl (by decide) rfl ?_
    refine .next _ 'e' "scapeUrl".toList .code rfl (by decide) rfl (.paren rfl (.done _ _))

theorem spells_closing {s : State} (hs : s.mode = .code) (tail : List Char) :
    Spells s [closing] tail ⟨.code, s.pending, false⟩ :=
  .next _ ')' [] .code rfl (by decide) (cutNext_closing hs _) (.done _ _)

theorem spells_exemptionMark {s : State} (hs : s.mode = .code) {tail : List Char}
    (htail : startsWith isSpace tail = false) : Spells s exemptionMark tail s := by
  obtain ⟨mode, pending, due⟩ := s
  obtain rfl : mode = .code := hs
  refine .next _ '/' "* @noEscape */".toList .code rfl (by decide) rfl ?_
  refine .next _ ' ' [] .code rfl (by decide) ?_ (.done _ _)
  rw [cutNext_space rfl rfl]
  have hrun : runLength isSpace ([] ++ (chars [] ++ tail)) = 0 := by
    cases tail with
    | nil => rfl
    | cons c tail => simp [runLength, show isSpace c = false from htail]
  rw [hrun]
  rfl

/-! ## Where it is put in -/

/-- Before a token of code that is no blank and no close tag there is room for more code. -/
structure Room (l : Lexeme) : Prop where
  code : l.kind.region = .code
  blank : l.kind ≠ .whitespace
  tag : l.kind ≠ .closeTag

/-- The last token before a place, blanks and comments apart, leads no member name. -/
def Fresh (before : List Lexeme) : Prop :=
  ∃ ls k trivia, before = ls ++ k :: trivia ∧ k.kind.isTrivia = false ∧
    k.kind.regionAfter = .code ∧ k.kind.leadsMember = false ∧ ∀ l ∈ trivia, l.kind.isTrivia = true

/-- The last token before a place ends an expression of code. -/
def Closable (before : List Lexeme) : Prop :=
  ∃ ls k, before = ls ++ [k] ∧ k.kind.isTrivia = false ∧ k.kind.regionAfter = .code ∧
    k.kind ≠ .openTag

/-- The first token, blanks and comments apart, is no word. -/
def tame : List Lexeme → Bool
  | [] => true
  | l :: ls => if l.kind.isTrivia then tame ls else !l.kind.isWord

/-- The tokens behind a place, and what they are amended to.  The tokens before the place come
first. -/
inductive Amends : List Lexeme → List Lexeme → List Lexeme → Prop where
  /-- The end of the template. -/
  | nil (before : List Lexeme) : Amends before [] []
  /-- A token stays. -/
  | keep {before ls ms : List Lexeme} (l : Lexeme) :
    Amends (before ++ [l]) ls ms → Amends before (l :: ls) (l :: ms)
  /-- A call of the escaper begins before a token. -/
  | call {before ls ms : List Lexeme} {l : Lexeme} (f : EscapeFunction) : Room l → Fresh before →
    Amends before (l :: ls) ms → Amends before (l :: ls) (escaperCall f ++ ms)
  /-- A call of the escaper ends behind a token. -/
  | close {before ls ms : List Lexeme} : Closable before → tame ls = true →
    Amends before ls ms → Amends before ls (closing :: ms)
  /-- A comment exempts the statement of a token. -/
  | mark {before ls ms : List Lexeme} {l : Lexeme} : Room l →
    (∀ k, before.getLast? = some k → k.text ≠ "/") →
    Amends before (l :: ls) ms → Amends before (l :: ls) (exemptionMark ++ ms)
  /-- The escaper takes the place of the block. -/
  | swap {before ls ms : List Lexeme} : Amends (before ++ [blockVariable]) ls ms →
    Amends before (blockVariable :: ls) (escaperVariable :: ms)

theorem Amends.refl (before ls : List Lexeme) : Amends before ls ls := by
  induction ls generalizing before with
  | nil => exact .nil before
  | cons l ls ih => exact .keep l (ih _)

theorem Amends.tame {before ls ms : List Lexeme} (h : Amends before ls ms)
    (htame : tame ls = true) : tame ms = true := by
  induction h with
  | nil => rfl
  | keep l _ ih =>
    unfold Lexer.tame at htame ⊢
    split
    · exact ih (by rwa [if_pos ‹_›] at htame)
    · rwa [if_neg ‹_›] at htame
  | call => rfl
  | close => rfl
  | mark _ _ _ ih => exact ih htame
  | swap => rfl

/-! ## Amended templates are spelled -/

/-- At the end of a line stands a blank or a close tag. -/
theorem Spells.kind_of_endsLine {s t : State} {l : Lexeme} {ls : List Lexeme} {tail : List Char}
    (h : Spells s (l :: ls) tail t) (hs : s.mode = .code)
    (hend : endsLine (chars (l :: ls) ++ tail) = true) :
    l.kind = .whitespace ∨ l.kind = .closeTag := by
  cases h with
  | paren => cases hend
  | @step _ _ c more _ kind mode _ _ hcut h =>
    simp only [chars_cons, String.toList_ofList, List.cons_append, endsLine, Bool.or_eq_true,
      Bool.and_eq_true, beq_iff_eq, List.append_assoc] at hend
    rcases hend with (rfl | rfl) | ⟨rfl, hgreater⟩
    · rw [cutNext_space hs rfl] at hcut
      exact .inl (congrArg Cut.kind (Except.ok.inj hcut)).symm
    · rw [cutNext_space hs rfl] at hcut
      exact .inl (congrArg Cut.kind (Except.ok.inj hcut)).symm
    · obtain ⟨n, htag⟩ := cutNext_question hs hgreater
      exact .inr (congrArg Cut.kind (Except.ok.inj (htag.symm.trans hcut))).symm

/-- Behind a line comment stands a blank or a close tag. -/
theorem Spells.after_lineComment {s t : State} {k l : Lexeme} {ls : List Lexeme} {tail : List Char}
    (h : Spells s (k :: l :: ls) tail t) (hk : isLineComment k = true) :
    l.kind = .whitespace ∨ l.kind = .closeTag := by
  obtain ⟨hkind, hline⟩ := Bool.and_eq_true_iff.mp hk
  obtain ⟨_, _, hregion, _⟩ := h.after_kind
  have hs : s.mode = .code := by
    rw [show k.kind = .comment by simpa using hkind] at hregion
    exact Mode.eq_code_of_region hregion
  cases h with
  | paren => cases hkind
  | @step _ _ c more _ kind mode _ _ hcut h =>
    simp only [String.toList_ofList] at hline
    have hbegin : beginsLineComment c (more ++ (chars (l :: ls) ++ tail)) = true := by
      cases more with
      | nil =>
        have hc : c = '#' := by simpa [beginsLineComment, startsWith] using hline
        simp [beginsLineComment, hc]
      | cons d more => exact hline
    have hcomment := cutNext_lineComment hs hbegin hcut
    obtain rfl : mode = .code := congrArg Cut.mode hcomment
    have hlength : more.length = lineCommentLength (more ++ (chars (l :: ls) ++ tail)) 0 :=
      congrArg Cut.more hcomment
    exact h.kind_of_endsLine rfl (h.endsLine_of_length hlength)

/-- Where there is room, the tokens before it let a barred text follow. -/
theorem Spells.firm {s t : State} {before ls : List Lexeme} {l : Lexeme} {tail other : List Char}
    (h : Spells s (before ++ l :: ls) [] t) (hroom : Room l) (htail : tail ≠ [])
    (hslash : ∀ k, before.getLast? = some k → k.text = "/" → startsWith (· == '/') other = false) :
    Firm before tail other := by
  refine ⟨?_, fun _ _ _ => htail, hslash⟩
  intro k hk
  obtain ⟨ms, rfl⟩ := List.getLast?_eq_some_iff.mp hk
  rw [List.append_assoc, List.singleton_append] at h
  obtain ⟨u, _, h⟩ := h.split
  cases hline : isLineComment k with
  | false => rfl
  | true =>
    rcases h.after_lineComment hline with hl | hl
    · exact absurd hl hroom.blank
    · exact absurd hl hroom.tag

/-- A piece can be put between lexemes where it is spelled. -/
theorem Spells.insert {s u v t : State} {before piece ls : List Lexeme}
    (hbefore : Spells s before (chars ls ++ []) u) (hu : u.mode = .code)
    (hbarred : Barred (chars (piece ++ ls) ++ []))
    (hfirm : Firm before (chars ls ++ []) (chars (piece ++ ls) ++ []))
    (hpiece : Spells u piece (chars ls ++ []) v) (hls : Spells v ls [] t) :
    Spells s (before ++ (piece ++ ls)) [] t :=
  (hbefore.exchange hu hbarred hfirm).append (hpiece.append hls)

/-- Where no word comes first, it does not matter whether a member name is due. -/
theorem Spells.of_tame {s t : State} {ls : List Lexeme} (h : Spells s ls [] t)
    (htame : tame ls = true) (due : Bool) :
    ∃ u, Spells { s with memberDue := due } ls [] u := by
  induction ls generalizing s with
  | nil => exact ⟨_, .done _ _⟩
  | cons l ls ih =>
    cases h with
    | paren hs h => exact ⟨t, .paren hs h⟩
    | @step _ _ c more _ kind mode _ hkind hcut h =>
      unfold tame at htame
      split at htame
      · rename_i htrivia
        have hword : kind.isWord = false := by
          revert htrivia
          cases kind <;> first | exact fun _ => rfl | exact fun h => by cases h
        have hafter : State.after { s with memberDue := due } ⟨kind, more.length, mode⟩ =
            { s.after ⟨kind, more.length, mode⟩ with memberDue := due } := by
          simp only [State.after]
          rw [show kind.isTrivia = true from htrivia]
          rfl
        obtain ⟨u, hu⟩ := ih h htame
        exact ⟨u, .step hkind (cutNext_memberDue hcut hword due) (hafter ▸ hu)⟩
      · rename_i hsolid
        have hword : kind.isWord = false := by simpa using htame
        have hafter : State.after { s with memberDue := due } ⟨kind, more.length, mode⟩ =
            s.after ⟨kind, more.length, mode⟩ := by
          simp only [State.after]
          rw [show kind.isTrivia = false from (Bool.not_eq_true _).mp hsolid]
          rfl
        exact ⟨t, .step hkind (cutNext_memberDue hcut hword due) (hafter ▸ h)⟩

theorem Spells.not_space {s t : State} {l : Lexeme} {ls : List Lexeme} {tail : List Char}
    (h : Spells s (l :: ls) tail t) (hs : s.mode = .code) (hl : l.kind ≠ .whitespace) :
    startsWith isSpace (chars (l :: ls) ++ tail) = false := by
  cases h with
  | paren => rfl
  | @step _ _ c more _ kind mode _ hkind hcut h =>
    cases hspace : isSpace c with
    | false => simpa [startsWith] using hspace
    | true =>
      rw [cutNext_space hs hspace] at hcut
      exact absurd (congrArg Cut.kind (Except.ok.inj hcut)).symm hl

/-- Where there is room before a token, there is room before what it is amended to. -/
theorem Amends.room {before ls ms : List Lexeme} {l : Lexeme} (h : Amends before (l :: ls) ms)
    (hroom : Room l) : ∃ m rest, ms = m :: rest ∧ Room m := by
  cases h with
  | keep => exact ⟨l, _, rfl, hroom⟩
  | call => exact ⟨_, _, rfl, rfl, by decide, by decide⟩
  | close => exact ⟨_, _, rfl, rfl, by decide, by decide⟩
  | mark => exact ⟨_, _, rfl, rfl, by decide, by decide⟩
  | swap => exact ⟨_, _, rfl, rfl, by decide, by decide⟩

/-- A call of the escaper is put in before a token. -/
theorem Spells.insert_call {s t u : State} {before ls ms : List Lexeme} {l : Lexeme}
    (h : Spells s (before ++ l :: ls) [] t) (hroom : Room l) (hfresh : Fresh before)
    (hms : Spells s (before ++ ms) [] u) (hne : ms ≠ []) (f : EscapeFunction) :
    Spells s (before ++ (escaperCall f ++ ms)) [] u := by
  obtain ⟨v, hbefore, hrest⟩ := hms.split
  obtain ⟨ks, k, trivia, rfl, hk, hafter, hmember, htrivia⟩ := hfresh
  obtain ⟨hcode, hdue⟩ := hbefore.after_solid hk hafter htrivia
  have htail : chars ms ++ [] ≠ [] := by
    cases ms with
    | nil => exact absurd rfl hne
    | cons m ms => simpa using hrest.chars_ne_nil
  exact hbefore.insert hcode rfl (h.firm hroom htail fun _ _ _ => rfl)
    (spells_escaperCall hcode (hdue.trans hmember) f _) hrest

/-- A call of the escaper is closed behind a token. -/
theorem Spells.insert_close {s t : State} {before ms : List Lexeme} (hclosable : Closable before)
    (hms : Spells s (before ++ ms) [] t) (htame : Lexer.tame ms = true) :
    ∃ u, Spells s (before ++ closing :: ms) [] u := by
  obtain ⟨v, hbefore, hrest⟩ := hms.split
  obtain ⟨ks, k, rfl, hk, hafter, htag⟩ := hclosable
  obtain ⟨hcode, _⟩ := hbefore.after_solid hk hafter (by simp)
  obtain ⟨u, hrest⟩ := hrest.of_tame htame false
  rw [hcode] at hrest
  have hlast : ∀ m, (ks ++ [k]).getLast? = some m → m = k := by
    intro m hm
    simpa using hm.symm
  have hbarred : Barred (chars ([closing] ++ ms) ++ []) := rfl
  refine ⟨u, hbefore.insert hcode hbarred ⟨?_, ?_, fun _ _ _ => rfl⟩ (spells_closing hcode _) hrest⟩
  · intro m hm
    rw [hlast m hm, isLineComment]
    have hcomment : (k.kind == .comment) = false := by
      revert hk
      cases k.kind <;> simp [Kind.isTrivia]
    rw [hcomment, Bool.false_and]
  · intro m hm htag'
    rw [hlast m hm] at htag'
    exact absurd htag' htag

/-- A comment that exempts a statement is put in before a token. -/
theorem Spells.insert_mark {s t u : State} {before ls ms : List Lexeme} {l m : Lexeme}
    (h : Spells s (before ++ l :: ls) [] t) (hroom : Room l)
    (hslash : ∀ k, before.getLast? = some k → k.text ≠ "/") (hroom' : Room m)
    (hms : Spells s (before ++ m :: ms) [] u) :
    Spells s (before ++ (exemptionMark ++ m :: ms)) [] u := by
  obtain ⟨v, hbefore, hrest⟩ := hms.split
  obtain ⟨_, _, hregion, _⟩ := hrest.after_kind
  have hcode : v.mode = .code := Mode.eq_code_of_region (hregion.trans hroom'.code)
  have htail : chars (m :: ms) ++ [] ≠ [] := by simpa using hrest.chars_ne_nil
  exact hbefore.insert hcode rfl
    (h.firm hroom htail fun k hk htext => absurd htext (hslash k hk))
    (spells_exemptionMark hcode (by simpa using hrest.not_space hcode hroom'.blank)) hrest

/-- Before the same text the one variable is spelled when the other is. -/
theorem Spells.escaper_of_block {s t : State} {ls : List Lexeme} {tail : List Char}
    (h : Spells s (blockVariable :: ls) tail t) (hs : s.mode = .code) :
    Spells s (escaperVariable :: ls) tail t := by
  obtain ⟨c, more, mode, htext, hcut, h⟩ := h.inversion (by decide)
  obtain ⟨rfl, rfl⟩ := List.cons_eq_cons.mp htext
  have hmode : Mode.code = mode := by
    rw [cutNext, hs] at hcut
    exact congrArg Cut.mode (Except.ok.inj hcut)
  have hrun : runLength isNamePart ("block".toList ++ (chars ls ++ tail)) = "block".toList.length := by
    rw [cutNext, hs] at hcut
    exact congrArg Cut.more (Except.ok.inj hcut)
  subst hmode
  refine .next .variable '$' "escaper".toList .code rfl (by decide) ?_ h
  have hstop : startsWith isNamePart (chars ls ++ tail) = false := by
    cases hstart : startsWith isNamePart (chars ls ++ tail) with
    | false => rfl
    | true =>
      rw [runLength_append (List.all_eq_true.mp (by decide))] at hrun
      have := runLength_pos hstart
      omega
  have hrun' : runLength isNamePart ("escaper".toList ++ (chars ls ++ tail)) =
      "escaper".toList.length := by
    rw [runLength, takeWhile_append_stop (List.all_eq_true.mp (by decide)) hstop]
  rw [cutNext, hs, ← hrun']
  rfl

/-- The escaper takes the place of the block. -/
theorem Spells.swap_block {s t u : State} {before ls ms : List Lexeme}
    (h : Spells s (before ++ blockVariable :: ls) [] t)
    (hms : Spells s (before ++ blockVariable :: ms) [] u) :
    Spells s (before ++ escaperVariable :: ms) [] u := by
  obtain ⟨v, hbefore, hrest⟩ := hms.split
  obtain ⟨_, _, hregion, _⟩ := hrest.after_kind
  have hcode : v.mode = .code := Mode.eq_code_of_region hregion
  have htail : chars (blockVariable :: ms) ++ [] ≠ [] := by simpa using hrest.chars_ne_nil
  have hroom : Room blockVariable := ⟨rfl, by decide, by decide⟩
  refine (hbefore.exchange hcode ?_ (h.firm hroom htail fun _ _ _ => ?_)).append
    (hrest.escaper_of_block hcode)
  · rfl
  · rfl

/-- An amended template is spelled when the template is. -/
theorem Amends.spells {s t : State} {before ls ms : List Lexeme} (h : Amends before ls ms)
    (hold : Spells s (before ++ ls) [] t) : ∃ u, Spells s (before ++ ms) [] u := by
  induction h generalizing t with
  | nil => exact ⟨t, hold⟩
  | keep l _ ih =>
    rw [List.append_cons] at hold ⊢
    exact ih hold
  | call f hroom hfresh h ih =>
    obtain ⟨u, hms⟩ := ih hold
    obtain ⟨m, ms, rfl, _⟩ := h.room hroom
    exact ⟨u, hold.insert_call hroom hfresh hms (by simp) f⟩
  | close hclosable htame h ih =>
    obtain ⟨u, hms⟩ := ih hold
    exact hms.insert_close hclosable (h.tame htame)
  | mark hroom hslash h ih =>
    obtain ⟨u, hms⟩ := ih hold
    obtain ⟨m, ms, rfl, hroom'⟩ := h.room hroom
    exact ⟨u, hold.insert_mark hroom hslash hroom' hms⟩
  | swap h ih =>
    obtain ⟨u, hms⟩ := ih (by rwa [List.append_assoc, List.singleton_append])
    rw [List.append_assoc, List.singleton_append] at hms
    exact ⟨u, hold.swap_block hms⟩

end Lexer

end EscapeAudit
