import EscapeAudit.Proofs.Layout
import EscapeAudit.Proofs.Spelling

/-!
# The grammar of a template

The kinds of the tokens of a template form a sentence of a small grammar.  A *region* is an open tag
with the code behind it, and markup may stand before the tag.  Between two regions there is a close
tag.  Inside the code a heredoc stands whole: its first line, its body if it has one, and its closing
label.

What may follow depends on the mode of the scanner only (`Mode.Expects`).  One cut puts its kind in
front of what is expected behind it (`expects_cutNext`), so a template that is read to its end is a
sentence (`Reads.expects`).

The other half is about markup.  No open tag begins inside it, because markup goes on only as long
as none does (`openTag?_inside_markup`).  `template_grammar` has both.
-/

namespace EscapeAudit

/-! ## Sentences -/

namespace Kind

/-- A token of code that stands for itself: it is no markup, no tag and no part of a heredoc. -/
def standsAlone : Kind → Bool
  | inlineHtml | openTag | openTagWithEcho | closeTag => false
  | startHeredoc | startNowdoc | heredocBody | endHeredoc => false
  | _ => true

theorem Inner.standsAlone {k : Kind} (h : k.Inner) : k.standsAlone = true := by
  obtain ⟨hregion, hafter⟩ := h
  cases k <;> first | rfl | exact absurd hregion (by decide) | exact absurd hafter (by decide)

end Kind

/-- The code of a region. -/
inductive IsCode : List Kind → Prop where
  /-- No code. -/
  | nil : IsCode []
  /-- A token that stands for itself, and more code. -/
  | plain {k : Kind} {ks : List Kind} : k.standsAlone = true → IsCode ks → IsCode (k :: ks)
  /-- A heredoc with or without a body, and more code. -/
  | heredoc {first : Kind} {body ks : List Kind} :
    first = .startHeredoc ∨ first = .startNowdoc → body = [] ∨ body = [.heredocBody] →
    IsCode ks → IsCode (first :: (body ++ .endHeredoc :: ks))

/-- A region: an open tag with its code, and the markup before it. -/
inductive IsRegion : List Kind → Prop where
  /-- Nothing stands before the tag. -/
  | bare {tag : Kind} {code : List Kind} :
    tag = .openTag ∨ tag = .openTagWithEcho → IsCode code → IsRegion (tag :: code)
  /-- Markup stands before the tag. -/
  | led {tag : Kind} {code : List Kind} :
    tag = .openTag ∨ tag = .openTagWithEcho → IsCode code → IsRegion (.inlineHtml :: tag :: code)

/-- A template: regions with close tags between them, and markup at the end. -/
inductive IsTemplate : List Kind → Prop where
  /-- Nothing. -/
  | nil : IsTemplate []
  /-- Markup to the end. -/
  | markup : IsTemplate [.inlineHtml]
  /-- A region that goes on to the end. -/
  | unclosed {region : List Kind} : IsRegion region → IsTemplate region
  /-- A region, its close tag and the rest of the template. -/
  | closed {region rest : List Kind} :
    IsRegion region → IsTemplate rest → IsTemplate (region ++ .closeTag :: rest)

/-- What may follow inside a region: code to the end, or code, a close tag and the rest of the
template. -/
def IsTail (ks : List Kind) : Prop :=
  ∃ code, IsCode code ∧ (ks = code ∨ ∃ rest, IsTemplate rest ∧ ks = code ++ .closeTag :: rest)

theorem IsTail.plain {k : Kind} {ks : List Kind} (h : IsTail ks) (hk : k.standsAlone = true) :
    IsTail (k :: ks) := by
  obtain ⟨code, hcode, rfl | ⟨rest, hrest, rfl⟩⟩ := h
  · exact ⟨_, .plain hk hcode, .inl rfl⟩
  · exact ⟨_, .plain hk hcode, .inr ⟨rest, hrest, rfl⟩⟩

theorem IsTail.heredoc {first : Kind} {body ks : List Kind} (h : IsTail ks)
    (hfirst : first = .startHeredoc ∨ first = .startNowdoc)
    (hbody : body = [] ∨ body = [.heredocBody]) : IsTail (first :: (body ++ .endHeredoc :: ks)) := by
  obtain ⟨code, hcode, rfl | ⟨rest, hrest, rfl⟩⟩ := h
  · exact ⟨_, .heredoc hfirst hbody hcode, .inl rfl⟩
  · exact ⟨_, .heredoc hfirst hbody hcode, .inr ⟨rest, hrest, by simp⟩⟩

theorem IsTail.closeTag {ks : List Kind} (h : IsTemplate ks) : IsTail (.closeTag :: ks) :=
  ⟨[], .nil, .inr ⟨ks, h, rfl⟩⟩

/-- A tag begins a region. -/
theorem IsTail.template {tag : Kind} {ks : List Kind} (h : IsTail ks)
    (htag : tag = .openTag ∨ tag = .openTagWithEcho) : IsTemplate (tag :: ks) := by
  obtain ⟨code, hcode, rfl | ⟨rest, hrest, rfl⟩⟩ := h
  · exact .unclosed (.bare htag hcode)
  · exact .closed (.bare htag hcode) hrest

/-- Markup may stand before a template that does not begin with markup. -/
theorem IsTemplate.markup_cons {ks : List Kind} (h : IsTemplate ks)
    (hhead : ks.head? ≠ some .inlineHtml) : IsTemplate (.inlineHtml :: ks) := by
  cases h with
  | nil => exact .markup
  | markup => exact absurd rfl hhead
  | unclosed hregion =>
    cases hregion with
    | bare htag hcode => exact .unclosed (.led htag hcode)
    | led => exact absurd rfl hhead
  | closed hregion hrest =>
    cases hregion with
    | bare htag hcode => exact .closed (.led htag hcode) hrest
    | led => exact absurd rfl hhead

/-! ## Reading gives sentences -/

namespace Lexer

/-- The kinds that may follow in a mode. -/
def Mode.Expects (ks : List Kind) : Mode → Prop
  | .markup => IsTemplate ks
  | .code => IsTail ks
  | .heredoc body _ => ∃ rest, IsTail rest ∧
    ks = (if body = 0 then [] else [.heredocBody]) ++ .endHeredoc :: rest

theorem expects_cutMarkup {c : Char} {rest : List Char} {ks : List Kind}
    (h : (cutMarkup c rest).mode.Expects ks)
    (hhead : (cutMarkup c rest).kind = .inlineHtml → ks.head? ≠ some .inlineHtml) :
    IsTemplate ((cutMarkup c rest).kind :: ks) := by
  unfold cutMarkup at h hhead ⊢
  split
  · rename_i kind more hopen
    rw [hopen] at h
    refine IsTail.template h ?_
    rcases openTag?_eq_some_iff.mp hopen with ⟨_, _, rfl, _⟩ | ⟨_, _, _, _, _, _, rfl, _⟩
    · exact .inr rfl
    · exact .inl rfl
  · rename_i hopen
    rw [hopen] at h hhead
    exact IsTemplate.markup_cons h (hhead rfl)

theorem expects_cutCode {s : State} {c : Char} {rest : List Char} {cut : Cut} {ks : List Kind}
    (hcut : cutCode s c rest = .ok cut) (h : cut.mode.Expects ks) : IsTail (cut.kind :: ks) := by
  unfold cutCode at hcut
  split at hcut
  · cases hcut
    exact .closeTag h
  · rcases cutToken_cases hcut with ⟨hinner, hmode, _⟩ | ⟨hfirst, hmode⟩
    · rw [hmode] at h
      exact IsTail.plain h hinner.standsAlone
    · cases hheredoc : cut.mode with
      | markup => rw [hheredoc] at hmode; cases hmode
      | code => rw [hheredoc] at hmode; cases hmode
      | heredoc body closer =>
        rw [hheredoc] at h
        obtain ⟨tail, htail, rfl⟩ := h
        refine htail.heredoc hfirst ?_
        split
        · exact .inl rfl
        · exact .inr rfl

theorem expects_cutHeredocPart {body closer : Nat} {c : Char} {rest : List Char} {cut : Cut}
    {ks : List Kind} (hcut : cutHeredocPart body closer c rest = .ok cut)
    (h : cut.mode.Expects ks) : (Mode.heredoc body closer).Expects (cut.kind :: ks) := by
  unfold cutHeredocPart at hcut
  split at hcut
  · rename_i hbody
    cases hcut
    have hzero : body = 0 := by simpa using hbody
    exact ⟨ks, h, by rw [if_pos hzero]; rfl⟩
  · rename_i hbody
    dsimp only at hcut
    split at hcut <;> cases hcut
    obtain ⟨tail, htail, rfl⟩ := h
    have hpos : body ≠ 0 := by simpa using hbody
    exact ⟨tail, htail, by rw [if_neg hpos]; rfl⟩

/-- A cut puts its kind in front of what is expected behind it.  Two pieces of markup do not follow
each other. -/
theorem expects_cutNext {s : State} {c : Char} {rest : List Char} {cut : Cut} {ks : List Kind}
    (hcut : cutNext s c rest = .ok cut) (h : cut.mode.Expects ks)
    (hhead : cut.kind = .inlineHtml → ks.head? ≠ some .inlineHtml) :
    s.mode.Expects (cut.kind :: ks) := by
  unfold cutNext at hcut
  split at hcut <;> rename_i hmode <;> rw [hmode]
  · cases hcut
    exact expects_cutMarkup h hhead
  · exact expects_cutCode hcut h
  · exact expects_cutHeredocPart hcut h

/-- A piece of markup is the next cut of markup. -/
theorem cutNext_inlineHtml {s : State} {c : Char} {rest : List Char} {cut : Cut}
    (h : cutNext s c rest = .ok cut) (hkind : cut.kind = .inlineHtml) :
    s.mode = .markup ∧ cut = ⟨.inlineHtml, markupLength rest 0, .markup⟩ ∧
      openTag? (c :: rest) = none := by
  have hregion := (cutNext_region h).1
  rw [hkind] at hregion
  have hs : s.mode = .markup := by
    cases hmode : s.mode with
    | markup => rfl
    | code => rw [hmode] at hregion; cases hregion
    | heredoc => rw [hmode] at hregion; cases hregion
  rw [cutNext, hs] at h
  obtain rfl : cutMarkup c rest = cut := Except.ok.inj h
  exact ⟨hs, cutMarkup_inlineHtml hkind⟩

/-- Behind a piece of markup, no other one is cut. -/
theorem Reads.head?_behind_markup {s t u : State} {c : Char} {rest : List Char} {cut : Cut}
    {ls : List Lexeme} (hcut : cutNext s c rest = .ok cut) (hkind : cut.kind = .inlineHtml)
    (h : Reads t (rest.drop cut.more) ls u []) :
    (ls.map Lexeme.kind).head? ≠ some .inlineHtml := by
  obtain ⟨_, rfl, _⟩ := cutNext_inlineHtml hcut hkind
  have hbound := (markupLength_bounds rest 0).2
  have hopen : rest.drop (markupLength rest 0) = [] ∨
      (openTag? (rest.drop (markupLength rest 0))).isSome = true := by
    refine openTag?_behind_markup (x := rest.take (markupLength rest 0)) (n := 0) ?_
    rw [List.take_append_drop, List.length_take]
    omega
  generalize rest.drop (markupLength rest 0) = cs at h hopen
  cases h with
  | done => simp
  | step hnext _ =>
    intro hhead
    obtain ⟨_, _, hnone⟩ := cutNext_inlineHtml hnext (Option.some.inj hhead)
    rcases hopen with hnil | hsome
    · cases hnil
    · rw [hnone] at hsome
      cases hsome

/-- What is read to the end is expected. -/
theorem Reads.expects {s t : State} {cs : List Char} {ls : List Lexeme} (h : Reads s cs ls t [])
    (hfits : s.mode.Fits cs.length) : s.mode.Expects (ls.map Lexeme.kind) := by
  induction ls generalizing s cs with
  | nil =>
    cases h
    cases hmode : t.mode with
    | markup => exact .nil
    | code => exact ⟨[], .nil, .inl rfl⟩
    | heredoc body closer =>
      -- No heredoc is open where nothing is left.
      rw [hmode] at hfits
      obtain ⟨hpos, hle⟩ := hfits
      simp only [List.length_nil] at hle
      omega
  | cons l ls ih =>
    cases h with
    | @step _ _ c rest _ cut _ hcut hreads =>
      have hrest : cut.mode.Expects (ls.map Lexeme.kind) := by
        refine ih hreads ?_
        rw [List.length_drop]
        exact (cutNext_bounds hfits hcut).2
      exact expects_cutNext hcut hrest fun hkind => hreads.head?_behind_markup hcut hkind

/-! ## No open tag inside markup -/

/-- An open tag in front: `<?=`, or `<?` with or without the letters of `php` before a blank or the
end of the template. -/
def BeginsOpenTag (cs : List Char) : Prop :=
  ∃ rest, cs = '<' :: '?' :: rest ∧
    (rest.head? = some '=' ∨ ∃ word behind, rest = word ++ behind ∧ (word = [] ∨ IsWordPhp word) ∧
      (behind = [] ∨ startsWith isSpace behind = true))

theorem isSome_tagEnd?_iff (cs : List Char) :
    (tagEnd? cs).isSome = true ↔ cs = [] ∨ startsWith isSpace cs = true := by
  cases cs with
  | nil => simp [tagEnd?]
  | cons c cs =>
    rw [show tagEnd? (c :: cs) = leadingSpace? (c :: cs) from rfl, isSome_leadingSpace?]
    simp [startsWith]

theorem isSome_openTag?_iff (cs : List Char) : (openTag? cs).isSome = true ↔ BeginsOpenTag cs := by
  constructor
  · intro h
    obtain ⟨⟨kind, more⟩, hopen⟩ := Option.isSome_iff_exists.mp h
    rcases openTag?_eq_some_iff.mp hopen with
      ⟨rest, rfl, _⟩ | ⟨word, rest, n, rfl, hword, hend, _⟩
    · exact ⟨_, rfl, .inl rfl⟩
    · exact ⟨_, rfl, .inr ⟨word, rest, rfl, hword, (isSome_tagEnd?_iff rest).mp (by rw [hend]; rfl)⟩⟩
  · rintro ⟨rest, rfl, hhead | ⟨word, behind, rfl, hword, hend⟩⟩
    · obtain ⟨tail, rfl⟩ := List.head?_eq_some_iff.mp hhead
      rfl
    · obtain ⟨n, hn⟩ := Option.isSome_iff_exists.mp ((isSome_tagEnd?_iff behind).mpr hend)
      rw [openTag?_eq_some_iff.mpr (.inr ⟨word, behind, n, rfl, hword, hn, rfl, rfl⟩)]
      rfl

/-- Markup goes on as long as no open tag begins. -/
theorem openTag?_inside_markup {cs : List Char} {n k : Nat} (h : n + k < markupLength cs n) :
    openTag? (cs.drop k) = none := by
  induction cs generalizing n k with
  | nil =>
    rw [markupLength] at h
    omega
  | cons c cs ih =>
    rw [markupLength] at h
    split at h
    · omega
    · rename_i hopen
      cases k with
      | zero => simpa using hopen
      | succ k => exact ih (n := n + 1) (k := k) (by omega)

/-- No open tag begins at a character of a piece of markup that is read. -/
theorem Reads.not_beginsOpenTag {s t : State} {cs : List Char} {l : Lexeme} {ls : List Lexeme}
    (h : Reads s cs (l :: ls) t []) (hl : l.kind = .inlineHtml) {k : Nat}
    (hk : k < l.text.toList.length) : ¬ BeginsOpenTag (cs.drop k) := by
  rw [← isSome_openTag?_iff]
  cases h with
  | @step _ _ c rest _ cut _ hcut _ =>
    obtain ⟨_, rfl, hnone⟩ := cutNext_inlineHtml hcut hl
    cases k with
    | zero => rw [List.drop_zero, hnone]; simp
    | succ k =>
      rw [Cut.lexeme_chars, List.length_cons, List.length_take] at hk
      dsimp only at hk
      rw [List.drop_succ_cons, openTag?_inside_markup (n := 0) (by omega)]
      simp

end Lexer

open Lexer

/-- The kinds of the tokens of a template are a sentence of its grammar, and at no character of a
piece of markup does an open tag begin. -/
theorem template_grammar {source : String} {s : Stream} (h : tokenize source = .ok s) :
    IsTemplate (s.tokens.toList.map Token.kind) ∧
    ∀ i t, s.tokens[i]? = some t → t.kind = .inlineHtml →
      ∀ n, (s.textBefore i).length ≤ n → n < (s.textBefore (i + 1)).length →
        ¬ BeginsOpenTag (source.toList.drop n) := by
  obtain ⟨ls, state, hreads, _, rfl⟩ := (tokenize_eq_ok_iff source s).mp h
  refine ⟨?_, fun i t ht hkind n hle hlt => ?_⟩
  · have hkinds : (Stream.ofLexemes ls).tokens.toList.map Token.kind = ls.map Lexeme.kind := by
      conv => rhs; rw [← Stream.lexemes_ofLexemes ls]
      simp [Stream.lexemes, Token.lexeme]
    rw [hkinds]
    exact hreads.expects trivial
  · obtain ⟨hi, _⟩ := Stream.token_ofLexemes ht
    obtain ⟨hbound, hget⟩ := List.getElem?_eq_some_iff.mp hi
    -- The reading is taken apart before the piece of markup.
    have hsplit : ls = ls.take i ++ t.lexeme :: ls.drop (i + 1) := by
      rw [← hget, ← List.drop_eq_getElem_cons hbound, List.take_append_drop]
    rw [hsplit] at hreads
    obtain ⟨u, ds, hbefore, hbehind⟩ := hreads.split
    rw [Stream.textBefore_ofLexemes, ← String.length_toList, Stream.toList_textOf] at hle hlt
    rw [List.take_add_one, hi] at hlt
    simp only [chars_append, Option.toList_some, chars_cons, chars_nil, List.append_nil,
      List.length_append] at hlt
    rw [hbefore.chars_eq, List.drop_append, List.drop_eq_nil_of_le hle, List.nil_append]
    exact hbehind.not_beginsOpenTag hkind (by omega)

/-- An XML declaration is markup, and a heredoc stands whole in its region. -/
theorem template_grammar_heredoc :
    ∃ s, tokenize "<?xml ?><?= <<<A\nx\nA ?>b" = .ok s ∧
      s.tokens.toList.map Token.kind = [.inlineHtml, .openTagWithEcho, .whitespace, .startHeredoc,
        .heredocBody, .endHeredoc, .whitespace, .closeTag, .inlineHtml] ∧
      IsTemplate (s.tokens.toList.map Token.kind) ∧
      ¬ BeginsOpenTag ("<?xml ?><?= <<<A\nx\nA ?>b".toList.drop 0) := by
  have hok : tokenize "<?xml ?><?= <<<A\nx\nA ?>b" =
      .ok (Lexed.ofSource "<?xml ?><?= <<<A\nx\nA ?>b").stream :=
    tokenize_of_fault_eq_none (by decide +kernel)
  have hkind : (Lexed.ofSource "<?xml ?><?= <<<A\nx\nA ?>b").stream.tokens[0]?.map Token.kind =
      some .inlineHtml := by
    decide +kernel
  obtain ⟨t, ht, hmarkup⟩ := Option.map_eq_some_iff.mp hkind
  obtain ⟨hgrammar, hopen⟩ := template_grammar hok
  exact ⟨_, hok, by decide +kernel, hgrammar,
    hopen 0 t ht hmarkup 0 (by decide +kernel) (by decide +kernel)⟩

end EscapeAudit
