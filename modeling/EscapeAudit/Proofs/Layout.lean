import EscapeAudit.Proofs.Reading
import Mathlib.Algebra.Group.Nat.Defs

/-!
# Where tokens stand

A stream lays its lexemes one behind the other.  `layout` says so without the stack of parentheses:
each lexeme covers the text from the place that the one before it reached.  Building a stream only
ever changes the partner of a token that is already there, so the tokens of a stream are the layout
of its lexemes (`placed_ofLexemes`).

Together with the reading of a template this gives the main result.  The tokens of a template tile
it (`tokens_tile`).
-/

namespace EscapeAudit

/-! ## Places behind texts -/

namespace Position

theorem advanceText_eq (p : Position) (text : String) :
    p.advanceText text = text.toList.foldl advance p := by
  simp [advanceText]

@[simp] theorem advanceText_empty (p : Position) : p.advanceText "" = p := by
  simp [advanceText]

theorem advanceText_append (p : Position) (a b : String) :
    p.advanceText (a ++ b) = (p.advanceText a).advanceText b := by
  simp [advanceText]

/-- The characters behind the last line feed. -/
def lastLine (text : String) : List Char :=
  (text.toList.reverse.takeWhile (· != '\n')).reverse

theorem natCast_succ (n : Nat) : ((n + 1 : Nat) : UInt32) = (n : UInt32) + 1 :=
  UInt32.ofNat_add n 1

/-- The place behind a text from the beginning on: its bytes, its line feeds and the characters of
its last line, each counted. -/
theorem start_advanceText (text : String) :
    start.advanceText text =
      ⟨text.utf8ByteSize, ↑(text.toList.count '\n' + 1), ↑((lastLine text).length + 1)⟩ := by
  -- From the right, because the last character decides whether a new line begins.
  obtain ⟨cs, rfl⟩ : ∃ cs, text = String.ofList (List.reverse cs) :=
    ⟨text.toList.reverse, by simp⟩
  rw [advanceText_eq]
  simp only [lastLine, String.toList_ofList, List.reverse_reverse, List.length_reverse,
    List.count_reverse]
  induction cs with
  | nil => rfl
  | cons c cs ih =>
    rw [List.reverse_cons, List.foldl_append, ih]
    by_cases hc : c = '\n'
    · subst hc
      simp [advance, natCast_succ]
      exact ⟨rfl, rfl⟩
    · simp [advance, hc, natCast_succ]

theorem line_start_advanceText (text : String) :
    (start.advanceText text).line = (text.toList.count '\n' + 1) % 2 ^ 32 := by
  rw [start_advanceText]
  exact UInt32.toNat_ofNat'

theorem column_start_advanceText (text : String) :
    (start.advanceText text).column = ((lastLine text).length + 1) % 2 ^ 32 := by
  rw [start_advanceText]
  exact UInt32.toNat_ofNat'

end Position

namespace Stream

/-! ## The layout of lexemes -/

/-- Lexemes one behind the other from a place on, each with the span it covers. -/
def layout : Position → List Lexeme → List (Lexeme × Span)
  | _, [] => []
  | p, l :: ls => (l, .covering p l.text) :: layout (p.advanceText l.text) ls

/-- The text of lexemes, one after another. -/
def textOf (ls : List Lexeme) : String := .join (ls.map Lexeme.text)

theorem textOf_cons (l : Lexeme) (ls : List Lexeme) : textOf (l :: ls) = l.text ++ textOf ls := by
  simp [textOf]

theorem toList_textOf (ls : List Lexeme) : (textOf ls).toList = Lexer.chars ls := by
  simp [textOf, Lexer.chars, List.flatMap_map]

/-- A lexeme of a layout begins where the text of the lexemes before it ends. -/
theorem getElem?_layout (p : Position) (ls : List Lexeme) (i : Nat) :
    (layout p ls)[i]? =
      ls[i]?.map fun l => (l, .covering (p.advanceText (textOf (ls.take i))) l.text) := by
  induction ls generalizing p i with
  | nil => simp [layout]
  | cons l ls ih =>
    cases i with
    | zero => simp [layout, textOf]
    | succ i =>
      simp only [layout, List.getElem?_cons_succ, List.take_succ_cons]
      rw [ih, textOf_cons, Position.advanceText_append]

/-! ## Building lays out -/

theorem source_eq_join (s : Stream) : s.source = .join (s.tokens.toList.map Token.text) := by
  rw [source, textBetween, String.join, List.foldl_map, Array.foldl_toList, Nat.min_self]
  rfl

/-- The token with its place and without its partner. -/
def placed (t : Token) : Lexeme × Span := (t.lexeme, t.span)

/-- Changing partners does not move tokens. -/
theorem map_placed_modify (tokens : List Token) (i : Nat) (partner : Option Nat) :
    (tokens.modify i fun t => { t with partner := partner }).map placed = tokens.map placed := by
  induction tokens generalizing i with
  | nil => simp
  | cons t tokens ih =>
    cases i with
    | zero => rfl
    | succ i => simp [ih]

namespace Builder

theorem placed_push (b : Builder) (l : Lexeme) :
    (b.push l).tokens.toList.map placed =
      b.tokens.toList.map placed ++ [(l, .covering b.position l.text)] := by
  unfold push
  split
  · simp [placed, Token.lexeme]
  · simp [placed, Token.lexeme, map_placed_modify]
  · simp [placed, Token.lexeme]
  · simp [placed, Token.lexeme]

theorem position_push (b : Builder) (l : Lexeme) :
    (b.push l).position = b.position.advanceText l.text := by
  unfold push
  split <;> rfl

theorem placed_pushAll (b : Builder) (ls : List Lexeme) :
    (b.pushAll ls).tokens.toList.map placed =
      b.tokens.toList.map placed ++ layout b.position ls := by
  induction ls generalizing b with
  | nil => simp [pushAll, layout]
  | cons l ls ih =>
    have hstep : b.pushAll (l :: ls) = (b.push l).pushAll ls := rfl
    rw [hstep, ih, placed_push, position_push, layout, List.append_assoc, List.singleton_append]

end Builder

/-- The tokens of a stream are its lexemes laid out from the beginning on. -/
theorem placed_ofLexemes (ls : List Lexeme) :
    (ofLexemes ls).tokens.toList.map placed = layout .start ls := by
  have h := Builder.placed_pushAll .empty ls
  simpa [ofLexemes, Builder.build, Builder.empty] using h

/-- The lexemes of a stream. -/
def lexemes (s : Stream) : List Lexeme := s.tokens.toList.map Token.lexeme

theorem map_fst_layout (p : Position) (ls : List Lexeme) : (layout p ls).map Prod.fst = ls := by
  induction ls generalizing p with
  | nil => rfl
  | cons l ls ih => simp [layout, ih]

@[simp] theorem lexemes_ofLexemes (ls : List Lexeme) : (ofLexemes ls).lexemes = ls := by
  calc (ofLexemes ls).lexemes
      = ((ofLexemes ls).tokens.toList.map placed).map Prod.fst := by simp [lexemes, placed]
    _ = ls := by rw [placed_ofLexemes, map_fst_layout]

/-- A token of a stream is its lexeme, at the place that the text before it reaches. -/
theorem token_ofLexemes {ls : List Lexeme} {i : Nat} {t : Token}
    (h : (ofLexemes ls).tokens[i]? = some t) :
    ls[i]? = some t.lexeme ∧
      t.span = .covering (Position.start.advanceText (textOf (ls.take i))) t.text := by
  have hplaced : ((ofLexemes ls).tokens.toList.map placed)[i]? = some (placed t) := by
    rw [List.getElem?_map, Array.getElem?_toList, h]
    rfl
  rw [placed_ofLexemes, getElem?_layout] at hplaced
  obtain ⟨l, hl, hpair⟩ := Option.map_eq_some_iff.mp hplaced
  simp only [placed, Prod.mk.injEq] at hpair
  obtain ⟨rfl, hspan⟩ := hpair
  exact ⟨hl, hspan.symm⟩

end Stream

/-! ## The tokens of a template -/

open Lexer

/-- The text of the tokens before an index. -/
def Stream.textBefore (s : Stream) (i : Nat) : String :=
  .join ((s.tokens.toList.take i).map Token.text)

theorem Stream.map_text_ofLexemes (ls : List Lexeme) :
    (Stream.ofLexemes ls).tokens.toList.map Token.text = ls.map Lexeme.text := by
  conv => rhs; rw [← Stream.lexemes_ofLexemes ls]
  simp [Stream.lexemes, Token.lexeme]

theorem Stream.textBefore_ofLexemes (ls : List Lexeme) (i : Nat) :
    (Stream.ofLexemes ls).textBefore i = Stream.textOf (ls.take i) := by
  rw [textBefore, textOf, List.map_take, List.map_take, map_text_ofLexemes]

theorem Stream.length_textBefore (s : Stream) (i : Nat) :
    (s.textBefore i).length = (chars (s.lexemes.take i)).length := by
  rw [← String.length_toList, textBefore, String.toList_join]
  simp [chars, lexemes, Token.lexeme, ← List.map_take, List.flatMap_map]

theorem Stream.getElem?_lexemes (s : Stream) (i : Nat) :
    s.lexemes[i]? = s.tokens[i]?.map Token.lexeme := by
  rw [lexemes, List.getElem?_map, Array.getElem?_toList]

/-- The tokens of a template before an index are read from its beginning on. -/
theorem exists_reads_take {source : String} {s : Stream} (h : tokenize source = .ok s) (i : Nat) :
    ∃ t ds, Reads .initial source.toList (s.lexemes.take i) t ds := by
  obtain ⟨ls, t, hreads, _, rfl⟩ := (tokenize_eq_ok_iff source s).mp h
  rw [Stream.lexemes_ofLexemes]
  rw [← List.take_append_drop i ls] at hreads
  obtain ⟨u, ds, hbefore, _⟩ := hreads.split
  exact ⟨u, ds, hbefore⟩

/-- A token of a template is cut from what the tokens before it leave, and the tokens up to it are
read to its end. -/
theorem exists_cut_of_token {source : String} {s : Stream} (h : tokenize source = .ok s) {i : Nat}
    {t : Token} (ht : s.tokens[i]? = some t) :
    ∃ u c rest cut, Reads .initial source.toList (s.lexemes.take i) u (c :: rest) ∧
      cutNext u c rest = .ok cut ∧ t.lexeme = cut.lexeme c rest ∧
      Reads .initial source.toList (s.lexemes.take (i + 1)) (u.after cut) (rest.drop cut.more) := by
  obtain ⟨ls, state, hreads, _, rfl⟩ := (tokenize_eq_ok_iff source s).mp h
  obtain ⟨hi, _⟩ := Stream.token_ofLexemes ht
  obtain ⟨u, c, rest, cut, hbefore, hcut, hlexeme⟩ := hreads.exists_cut hi
  rw [Stream.lexemes_ofLexemes]
  refine ⟨u, c, rest, cut, hbefore, hcut, hlexeme, ?_⟩
  have hread := hbefore.trans (.step hcut (.done _ _))
  rwa [← hlexeme, ← Option.toList_some, ← hi, ← List.take_add_one] at hread

/-- The tokens of a template tile it.  Their texts join to the template and none is empty.  The
first begins at the beginning, each next one begins where the one before ends, and each begins
where the text before it ends, in bytes, lines and characters.  Lines and characters are counted
modulo `2 ^ 32`.

A cut takes one character and `Cut.more` further ones, and so many are there (`cutNext_bounds`).  Where
the first character is taken off the length of a number or of a part of a heredoc, this length is
positive (`numberLength_pos`, `more_of_cutHeredocPart`). -/
theorem tokens_tile {source : String} {s : Stream} (h : tokenize source = .ok s) :
    String.join (s.tokens.toList.map Token.text) = source ∧
    (∀ t ∈ s.tokens, t.text ≠ "") ∧
    (∀ t, s.tokens[0]? = some t → t.span.start = ⟨0, 1, 1⟩) ∧
    (∀ i t u, s.tokens[i]? = some t → s.tokens[i + 1]? = some u → t.span.stop = u.span.start) ∧
    (∀ i t, s.tokens[i]? = some t →
      t.span.start = Position.start.advanceText (s.textBefore i) ∧
      t.span.start.offset = (s.textBefore i).utf8ByteSize ∧
      t.span.start.line = ((s.textBefore i).toList.count '\n' + 1) % 2 ^ 32 ∧
      t.span.start.column = ((Position.lastLine (s.textBefore i)).length + 1) % 2 ^ 32) := by
  obtain ⟨ls, state, hreads, _, rfl⟩ := (tokenize_eq_ok_iff source s).mp h
  have htexts : (Stream.ofLexemes ls).tokens.toList.map Token.text = ls.map Lexeme.text := by
    conv => rhs; rw [← Stream.lexemes_ofLexemes ls]
    simp [Stream.lexemes, Token.lexeme]
  have hstart : ∀ i t, (Stream.ofLexemes ls).tokens[i]? = some t →
      t.span.start = Position.start.advanceText ((Stream.ofLexemes ls).textBefore i) := by
    intro i t ht
    rw [(Stream.token_ofLexemes ht).2, Stream.textBefore_ofLexemes]
    rfl
  refine ⟨?_, ?_, ?_, ?_, ?_⟩
  · rw [htexts, ← String.toList_inj]
    have hchars := hreads.chars_eq
    rw [List.append_nil] at hchars
    rw [hchars]
    exact Stream.toList_textOf ls
  · intro t ht hempty
    have hmem : t.lexeme ∈ ls := by
      rw [← Stream.lexemes_ofLexemes ls]
      exact List.mem_map_of_mem (Array.mem_toList_iff.mpr ht)
    exact hreads.text_ne_nil _ hmem (by simp [Token.lexeme, hempty])
  · intro t ht
    rw [hstart 0 t ht]
    simp [Stream.textBefore, Position.start]
  · intro i t u ht hu
    obtain ⟨hi, hspan⟩ := Stream.token_ofLexemes ht
    rw [hstart (i + 1) u hu, hspan, Stream.textBefore_ofLexemes, List.take_add_one, hi]
    simp [Stream.textOf, Span.covering, Position.advanceText_append, Token.lexeme]
  · intro i t ht
    rw [hstart i t ht]
    refine ⟨rfl, ?_, Position.line_start_advanceText _, Position.column_start_advanceText _⟩
    rw [Position.start_advanceText]

/-- A variable on the second line, behind a letter of two bytes. -/
theorem tokens_tile_second_line :
    tokenize "é\n<?= $a ?>" = .ok (Lexed.ofSource "é\n<?= $a ?>").stream ∧
    ∃ t, (Lexed.ofSource "é\n<?= $a ?>").stream.tokens[3]? = some t ∧ t.text = "$a" ∧
      t.span.start.offset = 7 ∧ t.span.start.line = 2 ∧ t.span.start.column = 5 := by
  have hok : tokenize "é\n<?= $a ?>" = .ok (Lexed.ofSource "é\n<?= $a ?>").stream :=
    tokenize_of_fault_eq_none (by decide +kernel)
  have htext : (Lexed.ofSource "é\n<?= $a ?>").stream.tokens[3]?.map Token.text = some "$a" := by
    decide +kernel
  have hbefore : (Lexed.ofSource "é\n<?= $a ?>").stream.textBefore 3 = "é\n<?= " := by
    decide +kernel
  obtain ⟨t, ht, hname⟩ := Option.map_eq_some_iff.mp htext
  obtain ⟨_, hoffset, hline, hcolumn⟩ := (tokens_tile hok).2.2.2.2 3 t ht
  rw [hbefore] at hoffset hline hcolumn
  exact ⟨hok, t, ht, hname, hoffset, hline, hcolumn⟩

end EscapeAudit
