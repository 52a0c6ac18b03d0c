import Mathlib.Data.List.Induction
import EscapeAudit.Proofs.ClosingLine
import EscapeAudit.Proofs.Layout
import EscapeAudit.Token.Search

/-!
# Kinds that depend on what stands before

Two things that the scanner remembers decide about kinds.  Behind `->`, `?->` and `::` a reserved
word is a plain name, with blanks and comments between them or not.  A `:` belongs to a ternary when
one is open in the statement, and stands for itself otherwise.

Both are told by the kinds of the tokens before (`memberDue_of_trivia`, `pending_balance`).  So the
kinds of a stream fit together, whatever the template is (`kinds_in_context`).
-/

namespace EscapeAudit

open Lexer

/-- The kinds of reserved words. -/
def Kind.isReserved : Kind → Bool
  | echo | print | trueWord | falseWord | nullWord | keyword => true
  | _ => false

theorem Kind.isWord_of_isReserved {k : Kind} (h : k.isReserved = true) : k.isWord = true := by
  cases k <;> first | rfl | cases h

namespace Lexer

/-! ## Reserved words -/

/-- A reserved word is none where a member name is due. -/
theorem not_memberDue_of_isReserved {s : State} {c : Char} {rest : List Char} {cut : Cut}
    (h : cutNext s c rest = .ok cut) (hreserved : cut.kind.isReserved = true) :
    s.memberDue = false := by
  obtain rfl := Except.ok.inj (cutName_of_cutNext h (Kind.isWord_of_isReserved hreserved))
  cases hdue : s.memberDue with
  | false => rfl
  | true =>
    dsimp only at hreserved
    rw [hdue, Bool.true_or, if_pos rfl] at hreserved
    cases hreserved

/-- Blanks and comments leave it open whether a member name is due. -/
theorem memberDue_of_trivia {s t : State} {cs ds : List Char} {ls : List Lexeme}
    (h : Reads s cs ls t ds) (htrivia : ∀ l ∈ ls, l.kind.isTrivia = true) :
    t.memberDue = s.memberDue := by
  induction h with
  | done => rfl
  | @step s t c rest left cut ls hcut _ ih =>
    have hcut : cut.kind.isTrivia = true := htrivia _ List.mem_cons_self
    rw [ih fun l hl => htrivia l (List.mem_cons_of_mem _ hl)]
    exact if_pos hcut

/-- Behind the last token that is not trivia, a member name is due if that token leads one. -/
theorem memberDue_of_solid {s t : State} {cs ds : List Char} {before trivia : List Lexeme}
    {l : Lexeme} (h : Reads s cs (before ++ l :: trivia) t ds) (hsolid : l.kind.isTrivia = false)
    (htrivia : ∀ m ∈ trivia, m.kind.isTrivia = true) : t.memberDue = l.kind.leadsMember := by
  obtain ⟨u, left, _, hbehind⟩ := h.split
  cases hbehind with
  | step hcut hrest =>
    rw [memberDue_of_trivia hrest htrivia]
    exact if_neg (Bool.eq_false_iff.mp hsolid)

/-! ## Ternaries -/

/-- The kinds of the statement that is open behind some kinds, the last one first. -/
def openStatement (kinds : List Kind) : List Kind :=
  kinds.reverse.takeWhile fun k => !Stream.endsStatement k

theorem openStatement_append (kinds : List Kind) (k : Kind) :
    openStatement (kinds ++ [k]) =
      if Stream.endsStatement k then [] else k :: openStatement kinds := by
  rw [openStatement, List.reverse_append, List.reverse_singleton, List.singleton_append,
    List.takeWhile_cons]
  cases Stream.endsStatement k <;> rfl

/-- The `?` of the open statement that wait for their `:` are those without one. -/
def Pends (pending : Nat) (kinds : List Kind) : Prop :=
  pending + (openStatement kinds).count .inlineElse = (openStatement kinds).count .inlineThen

theorem Pends.append {pending : Nat} {kinds : List Kind} (h : Pends pending kinds) {k : Kind}
    (helse : k = .inlineElse → pending ≠ 0) : Pends (pendingAfter pending k) (kinds ++ [k]) := by
  rw [Pends] at h
  rw [Pends, openStatement_append]
  cases k
  case inlineElse =>
    have hpending := helse rfl
    simp [pendingAfter, Stream.endsStatement]
    omega
  case inlineThen =>
    simp [pendingAfter, Stream.endsStatement]
    omega
  case semicolon | closeTag => rfl
  all_goals simpa [pendingAfter, Stream.endsStatement] using h

theorem pending_of_kindOfSign {s : State} {c : Char} (h : kindOfSign s c = .inlineElse) :
    s.pending ≠ 0 := by
  intro hpending
  rw [kindOfSign, hpending] at h
  split at h
  · cases h
  split at h
  · exact absurd h (by decide)
  split at h
  · cases h
  · exact (isSign_operatorOfOne c).2 h

/-- The `:` of a ternary is one only where a `?` waits for it. -/
theorem pending_of_inlineElse {s : State} {c : Char} {rest : List Char} {cut : Cut}
    (h : cutNext s c rest = .ok cut) (helse : cut.kind = .inlineElse) : s.pending ≠ 0 := by
  have htoken : cutToken s c rest = .ok cut := by
    refine cutToken_of_cutNext h ?_ ?_ <;> rw [helse]
    · rfl
    · decide
  cases tokenCut htoken with
  | operator hcut =>
    obtain ⟨_, hcase, hr⟩ := exists_operatorCase hcut
    cases hcase with
    | three _ hthree =>
      cases hr
      exact absurd helse (isSign_operatorOfThree? hthree).2.2
    | two _ htwo =>
      cases hr
      exact absurd helse (isSign_operatorOfTwo? htwo).2.2
    | one =>
      cases hr
      exact pending_of_kindOfSign helse
  | block _ hcut =>
    rcases kind_of_cutBlockComment hcut with hk | hk <;> rw [hk] at helse <;> cases helse
  | quote hcut => rcases kind_of_cutString hcut with hk | hk <;> rw [hk] at helse <;> cases helse
  | heredoc _ hcut =>
    rcases kind_of_cutHeredoc hcut with hk | hk <;> rw [hk] at helse <;> cases helse
  | name hcut =>
    have hword := (isWord_of_cutName hcut).1
    rw [helse] at hword
    cases hword
  | blank hcut | line hcut | dollar hcut | cast _ hcut | opening _ hcut | number _ hcut =>
    rw [hcut] at helse
    cases helse

/-- Reading a template counts the `?` of the open statement that wait for their `:`. -/
theorem pending_balance {t : State} {cs ds : List Char} {ls : List Lexeme}
    (h : Reads .initial cs ls t ds) : Pends t.pending (ls.map Lexeme.kind) := by
  -- By induction from the end, because the last kind decides what the open statement is.
  induction ls using List.reverseRecOn generalizing t ds with
  | nil =>
    cases h
    rfl
  | append_singleton ls l ih =>
    obtain ⟨u, left, hbefore, hlast⟩ := h.split
    cases hlast with
    | step hcut hend =>
      rw [← hend.eq_of_nil, List.map_append]
      exact (ih hbefore).append (pending_of_inlineElse hcut)

/-! ## Colons -/

/-- No part of a heredoc is a `:` alone. -/
theorem not_colon_of_holds {body closer : Nat} {rest : List Char} {cut : Cut}
    (hholds : (Mode.heredoc body closer).Holds (':' :: rest))
    (h : cutHeredocPart body closer ':' rest = .ok cut) : rest.take cut.more ≠ [] := by
  obtain ⟨text, padding, label, behind, hsplit, hlength, hstart, hpadding, hlabel, _⟩ := hholds
  cases text with
  | nil =>
    -- The closing label begins with a blank or with the beginning of a name.
    cases padding with
    | nil =>
      obtain ⟨c, name, rfl, hc⟩ := startsWith_iff.mp hlabel.start
      obtain rfl : ':' = c := (List.cons_eq_cons.mp hsplit).1
      exact absurd hc (by decide)
    | cons c padding =>
      obtain rfl : ':' = c := (List.cons_eq_cons.mp hsplit).1
      exact absurd (hpadding ':' List.mem_cons_self) (by decide)
  | cons c text =>
    -- The body would be one character, and yet end with a line feed.
    obtain ⟨rfl, rfl⟩ := List.cons_eq_cons.mp hsplit
    subst hlength
    rw [cutHeredocPart, if_neg (by simp)] at h
    dsimp only at h
    split at h
    · cases h
    · cases h
      intro htake
      obtain rfl : text = [] := by simpa using htake
      cases hstart

/-- A `:` outside the markup is that of a ternary exactly where a `?` waits for it. -/
theorem kind_of_colon {s : State} {rest : List Char} {cut : Cut}
    (hholds : s.mode.Holds (':' :: rest)) (h : cutNext s ':' rest = .ok cut)
    (htake : rest.take cut.more = []) (hmarkup : cut.kind ≠ .inlineHtml) :
    cut.kind = if s.pending = 0 then .other else .inlineElse := by
  rw [cutNext] at h
  cases hmode : s.mode with
  | markup =>
    rw [hmode] at h
    cases h
    exact absurd rfl hmarkup
  | heredoc body closer =>
    rw [hmode] at h hholds
    exact absurd htake (not_colon_of_holds hholds h)
  | code =>
    rw [hmode] at h
    have hoperator : cutOperator s ':' rest = .ok cut := h
    obtain ⟨_, hcase, hr⟩ := exists_operatorCase hoperator
    cases hcase with
    | three hrest _ =>
      cases hr
      rw [hrest] at htake
      cases htake
    | two hrest _ =>
      cases hr
      rw [hrest] at htake
      cases htake
    | one =>
      cases hr
      show (if (s.pending == 0) = true then Kind.other else .inlineElse) = _
      simp only [beq_iff_eq]

end Lexer

/-! ## Every stream -/

/-- The kinds of the tokens before an index, back to the last `;` or close tag. -/
def Stream.statementBefore (s : Stream) (i : Nat) : List Kind :=
  openStatement ((s.tokens.toList.take i).map Token.kind)

theorem Stream.statementBefore_eq (s : Stream) (i : Nat) :
    s.statementBefore i = openStatement ((s.lexemes.take i).map Lexeme.kind) := by
  rw [statementBefore, lexemes, ← List.map_take, List.map_map]
  rfl

/-- Behind the tokens before an index a member name is due if the last of them that is not trivia
leads one. -/
theorem memberDue_of_token {source : String} {s : Stream} {i : Nat} {state : State}
    {ds : List Char} (h : Reads .initial source.toList (s.lexemes.take i) state ds) {j : Nat}
    {u : Token} (hlt : j < i) (hu : s.tokens[j]? = some u) (hsolid : u.kind.isTrivia = false)
    (htrivia : ∀ k v, j < k → k < i → s.tokens[k]? = some v → v.kind.isTrivia = true) :
    state.memberDue = u.kind.leadsMember := by
  have hj : (s.lexemes.take i)[j]? = some u.lexeme := by
    rw [List.getElem?_take_of_lt hlt, s.getElem?_lexemes, hu]
    rfl
  obtain ⟨hbound, hget⟩ := List.getElem?_eq_some_iff.mp hj
  rw [← List.take_append_drop j (s.lexemes.take i), List.drop_eq_getElem_cons hbound, hget] at h
  refine memberDue_of_solid h hsolid ?_
  intro m hm
  obtain ⟨k, hk⟩ := List.mem_iff_getElem?.mp hm
  rw [List.getElem?_drop] at hk
  have hbehind : j + 1 + k < i := by
    have hlength := (List.getElem?_eq_some_iff.mp hk).1
    rw [List.length_take] at hlength
    omega
  rw [List.getElem?_take_of_lt hbehind, s.getElem?_lexemes] at hk
  obtain ⟨v, hv, rfl⟩ := Option.map_eq_some_iff.mp hk
  exact htrivia (j + 1 + k) v (by omega) hbehind hv

/-- Kinds are right in their context.  The last token before a reserved word that is not trivia leads
no member.  In the statement before a token there are never more `:` than `?` of ternaries, and a `:`
that is no markup is one of a ternary exactly where there are fewer. -/
theorem kinds_in_context {source : String} {s : Stream} (h : tokenize source = .ok s) :
    (∀ (i : Nat) (t : Token), s.tokens[i]? = some t → t.kind.isReserved = true →
      ∀ (j : Nat) (u : Token), j < i → s.tokens[j]? = some u → u.kind.isTrivia = false →
      (∀ (k : Nat) (v : Token), j < k → k < i → s.tokens[k]? = some v → v.kind.isTrivia = true) →
      u.kind.leadsMember = false) ∧
    (∀ i, (s.statementBefore i).count .inlineElse ≤ (s.statementBefore i).count .inlineThen) ∧
    (∀ (i : Nat) (t : Token), s.tokens[i]? = some t → t.text = ":" → t.kind ≠ .inlineHtml →
      t.kind = if (s.statementBefore i).count .inlineElse = (s.statementBefore i).count .inlineThen
        then .other else .inlineElse) := by
  refine ⟨?_, ?_, ?_⟩
  · intro i t ht hreserved j u hlt hu hsolid htrivia
    obtain ⟨state, c, rest, cut, hreads, hcut, hlexeme, _⟩ := exists_cut_of_token h ht
    rw [show t.kind = cut.kind from congrArg Lexeme.kind hlexeme] at hreserved
    rw [← memberDue_of_token hreads hlt hu hsolid htrivia]
    exact not_memberDue_of_isReserved hcut hreserved
  · intro i
    obtain ⟨state, ds, hreads⟩ := exists_reads_take h i
    have hbalance : Pends _ _ := pending_balance hreads
    rw [Pends, ← s.statementBefore_eq] at hbalance
    omega
  · intro i t ht htext hmarkup
    obtain ⟨state, c, rest, cut, hreads, hcut, hlexeme, _⟩ := exists_cut_of_token h ht
    have hkind : t.kind = cut.kind := congrArg Lexeme.kind hlexeme
    have hchars : c :: rest.take cut.more = [':'] := by
      rw [← Cut.lexeme_chars, ← congrArg Lexeme.text hlexeme]
      exact (congrArg String.toList htext).trans (by decide)
    obtain ⟨rfl, htake⟩ := List.cons_eq_cons.mp hchars
    have hbalance : Pends _ _ := pending_balance hreads
    rw [Pends, ← s.statementBefore_eq] at hbalance
    have hzero : state.pending = 0 ↔
        (s.statementBefore i).count .inlineElse = (s.statementBefore i).count .inlineThen := by
      omega
    rw [hkind] at hmarkup ⊢
    rw [kind_of_colon (hreads.holds True.intro) hcut htake hmarkup]
    exact if_congr hzero rfl rfl

/-- The ternary that the first statement leaves open does not reach the `:` of the second. -/
theorem kinds_in_context_second_statement :
    tokenize "<?php $a ? 1; case 2: ?>" = .ok (Lexed.ofSource "<?php $a ? 1; case 2: ?>").stream ∧
    ∃ t, (Lexed.ofSource "<?php $a ? 1; case 2: ?>").stream.tokens[11]? = some t ∧
      t.text = ":" ∧ t.kind = .other := by
  have hok : tokenize "<?php $a ? 1; case 2: ?>" =
      .ok (Lexed.ofSource "<?php $a ? 1; case 2: ?>").stream :=
    tokenize_of_fault_eq_none (by decide +kernel)
  have hcolon : (Lexed.ofSource "<?php $a ? 1; case 2: ?>").stream.tokens[11]?.map Token.lexeme =
      some ⟨.other, ":"⟩ := by
    decide +kernel
  have hstatement : (Lexed.ofSource "<?php $a ? 1; case 2: ?>").stream.statementBefore 11 =
      [.number, .whitespace, .keyword, .whitespace] := by
    decide +kernel
  obtain ⟨t, ht, hlexeme⟩ := Option.map_eq_some_iff.mp hcolon
  have htext : t.text = ":" := congrArg Lexeme.text hlexeme
  have hmarkup : t.kind ≠ .inlineHtml := by
    rw [show t.kind = .other from congrArg Lexeme.kind hlexeme]
    decide
  refine ⟨hok, t, ht, htext, ?_⟩
  rw [(kinds_in_context hok).2.2 11 t ht htext hmarkup, hstatement]
  rfl

end EscapeAudit
