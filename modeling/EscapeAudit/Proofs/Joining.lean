import EscapeAudit.Proofs.Matching
import EscapeAudit.Proofs.Window.Append

/-!
# Joining templates at a close tag

Behind a close tag nothing of the template before is remembered.  The lexer is in the state in which
it begins, and no parenthesis waits for its partner.  So a template that ends with a close tag can be
put before another one: the tokens of the two stand one behind the other (`tokenize_append`).

*Lexemes.*  Every lexeme of the first template has the last close tag behind it, so it stays as it
is (`Reads.append_closed`).  The close tag itself takes one line end with it, which is why the other
template must not bring it that line end.

*Tokens.*  The tokens of the other template are built behind those of the first as they are built
alone, with every index moved by the same number (`Builder.Shifted`).
-/

namespace EscapeAudit

namespace Lexer

/-! ## The lexemes before a close tag -/

theorem Closes.of_drop_le {cs : List Char} {m n : Nat} (h : Closes (cs.drop n)) (hle : m ≤ n) :
    Closes (cs.drop m) := by
  obtain ⟨k, rfl⟩ := Nat.exists_eq_add_of_le hle
  rw [← List.drop_drop] at h
  exact h.of_drop

/-- A close tag is cut from code, with the line end behind it. -/
theorem cutNext_closeTag {s : State} {c : Char} {rest : List Char} {cut : Cut}
    (h : cutNext s c rest = .ok cut) (hkind : cut.kind = .closeTag) :
    s.mode = .code ∧ c = '?' ∧
      ∃ more, rest = '>' :: more ∧ cut = ⟨.closeTag, 1 + lineEndLength more, .markup⟩ := by
  have hmode : s.mode = .code := by
    have hregion := (cutNext_region h).1
    rw [hkind] at hregion
    exact Mode.eq_code_of_region hregion
  unfold cutNext at h
  simp only [hmode] at h
  unfold cutCode at h
  split at h
  · rename_i n htag
    cases h
    split at htag
    · rename_i hc
      refine ⟨hmode, by simpa using hc, ?_⟩
      unfold closeTag? at htag
      split at htag
      · rename_i more
        cases htag
        exact ⟨more, rfl, rfl⟩
      · cases htag
    · cases htag
  · rcases cutToken_cases h with ⟨⟨_, hafter⟩, _⟩ | ⟨hstart, _⟩
    · rw [hkind] at hafter
      cases hafter
    · rw [hkind] at hstart
      rcases hstart with hstart | hstart <;> cases hstart

/-- A lexeme of a heredoc takes no more than what was still to come of it. -/
theorem cutNext_ahead {s : State} {c : Char} {rest : List Char} {cut : Cut}
    (hfits : s.mode.Fits (rest.length + 1)) (h : cutNext s c rest = .ok cut) :
    s.mode.ahead ≤ 1 + cut.more + cut.mode.ahead := by
  unfold cutNext at h
  cases hmode : s.mode with
  | markup => simp [Mode.ahead]
  | code => simp [Mode.ahead]
  | heredoc body closer =>
    rw [hmode] at hfits
    simp only [hmode] at h
    unfold cutHeredocPart at h
    split at h
    · rename_i hbody
      cases h
      obtain rfl : body = 0 := by simpa using hbody
      simp only [Mode.ahead]
      omega
    · rename_i hbody
      have hpos : 0 < body := Nat.pos_of_ne_zero (by simpa using hbody)
      dsimp only at h
      split at h
      · cases h
      · cases h
        simp only [Mode.ahead]
        omega

namespace Reads

/-- A reading that ends with a close tag has one behind the heredoc that it begins in. -/
theorem closes {s t : State} {cs : List Char} {ls : List Lexeme} {last : Lexeme}
    (h : Reads s cs ls t []) (hfits : s.mode.Fits cs.length) (hlast : ls.getLast? = some last)
    (hkind : last.kind = .closeTag) : Closes (cs.drop s.mode.ahead) := by
  generalize hleft : ([] : List Char) = left at h
  induction h with
  | done s cs => cases hlast
  | @step s t c rest left cut ls hcut hreads ih =>
    cases ls with
    | nil =>
      obtain rfl : cut.lexeme c rest = last := by simpa using hlast
      obtain ⟨hmode, rfl, more, rfl, _⟩ := cutNext_closeTag hcut hkind
      rw [hmode]
      exact ⟨[], more, rfl⟩
    | cons l ls =>
      obtain ⟨hmore, hfits'⟩ := cutNext_bounds hfits hcut
      have hbehind := ih (by rwa [List.length_drop]) (by simpa using hlast) hleft
      rw [List.drop_drop, ← List.drop_succ_cons (a := c)] at hbehind
      refine hbehind.of_drop_le ?_
      have := cutNext_ahead hfits hcut
      show s.mode.ahead ≤ cut.more + cut.mode.ahead + 1
      omega

/-- A reading that ends with a close tag reads the same lexemes when the template goes on, and begins
anew behind them. -/
theorem append_closed {s t : State} {cs : List Char} {ls : List Lexeme} {last : Lexeme}
    (h : Reads s cs ls t []) (hfits : s.mode.Fits cs.length) (hlast : ls.getLast? = some last)
    (hkind : last.kind = .closeTag) {other : List Char}
    (hline : last.text.toList.getLast? = some '\n' ∨ lineEndLength other = 0) :
    Reads s (cs ++ other) ls .initial other := by
  generalize hleft : ([] : List Char) = left at h
  induction h with
  | done s cs => cases hlast
  | @step s t c rest left cut ls hcut hreads ih =>
    obtain ⟨hmore, hfits'⟩ := cutNext_bounds hfits hcut
    have hlexeme : cut.lexeme c (rest ++ other) = cut.lexeme c rest := by
      rw [Cut.lexeme, Cut.lexeme, List.take_append_of_le_length hmore]
    rw [List.cons_append, ← hlexeme]
    cases ls with
    | nil =>
      obtain rfl : cut.lexeme c rest = last := by simpa using hlast
      have hend : rest.drop cut.more = [] := by
        rw [← hleft] at hreads
        simpa using hreads.chars_eq
      rw [Cut.lexeme_chars, List.take_of_length_le (List.drop_eq_nil_iff.mp hend)] at hline
      obtain ⟨hmode, rfl, more, rfl, rfl⟩ := cutNext_closeTag hcut hkind
      have hsame : lineEndLength (more ++ other) = lineEndLength more := by
        -- All that stands behind the tag is the line end that it takes with it.
        replace hend : more.drop (lineEndLength more) = [] := by
          rwa [Nat.add_comm, List.drop_succ_cons] at hend
        unfold lineEndLength at hend ⊢
        split at hend
        · rfl
        · rfl
        · obtain rfl : more = [] := hend
          rcases hline with hline | hline
          · cases hline
          · exact hline
      have hnew : cutNext s '?' ('>' :: more ++ other) =
          .ok ⟨.closeTag, 1 + lineEndLength more, .markup⟩ := by
        simp only [cutNext, hmode, cutCode, List.cons_append, closeTag?, hsame]
        rfl
      refine .step hnew ?_
      rw [List.drop_append_of_le_length hmore, hend, List.nil_append]
      exact .done .initial other
    | cons l ls =>
      replace hlast : (l :: ls).getLast? = some last := by simpa using hlast
      subst hleft
      have hclose := hreads.closes (by rwa [List.length_drop]) hlast hkind
      rw [List.drop_drop] at hclose
      refine .step (cutNext_append hfits hcut hclose other) ?_
      rw [List.drop_append_of_le_length hmore]
      exact ih (by rwa [List.length_drop]) hlast rfl

end Reads

end Lexer

namespace Stream

/-! ## The tokens behind a close tag -/

namespace Builder

theorem pushAll_append (b : Builder) (ls ms : List Lexeme) :
    b.pushAll (ls ++ ms) = (b.pushAll ls).pushAll ms := List.foldl_append

/-- Behind a close tag no parenthesis waits. -/
theorem openings_pushAll_closed (b : Builder) {ls : List Lexeme} {last : Lexeme}
    (hlast : ls.getLast? = some last) (hkind : last.kind = .closeTag) :
    (b.pushAll ls).openings = [] := by
  obtain ⟨ms, rfl⟩ := List.getLast?_eq_some_iff.mp hlast
  rw [pushAll_append]
  show ((b.pushAll ms).push last).openings = []
  unfold push
  simp only [hkind]

/-- A token that does not wait for its partner stays as it is. -/
theorem getElem?_push {b : Builder} {i : Nat} (hi : i < b.tokens.size) (hwait : i ∉ b.openings)
    (l : Lexeme) : (b.push l).tokens[i]? = b.tokens[i]? := by
  unfold push
  split
  · rw [Array.getElem?_push, if_neg (by omega)]
  · rename_i opener openings hkind hopen
    have hne : opener ≠ i := by
      rintro rfl
      exact hwait (by simp [hopen])
    rw [Array.getElem?_push, Array.size_modify, if_neg (by omega), Array.getElem?_modify, if_neg hne]
  · rw [Array.getElem?_push, if_neg (by omega)]
  · rw [Array.getElem?_push, if_neg (by omega)]

theorem getElem?_pushAll {b : Builder} {i : Nat} (hi : i < b.tokens.size) (hwait : i ∉ b.openings)
    (ls : List Lexeme) : (b.pushAll ls).tokens[i]? = b.tokens[i]? := by
  induction ls generalizing b with
  | nil => rfl
  | cons l ls ih =>
    have hstill : i ∉ (b.push l).openings := (partner?_pushAll hi hwait [l]).2
    rw [show b.pushAll (l :: ls) = (b.push l).pushAll ls from rfl,
      ih (by rw [size_push]; omega) hstill, getElem?_push hi hwait l]

/-- The second builder has tokens of its own in front, and behind them what the first one has. -/
structure Shifted (n : Nat) (b behind : Builder) : Prop where
  size : behind.tokens.size = n + b.tokens.size
  openings : behind.openings = b.openings.map (n + ·)
  partner : ∀ i, behind.partner? (n + i) = (b.partner? i).map (n + ·)

theorem Shifted.push {n : Nat} {b behind : Builder} (h : Shifted n b behind) (l : Lexeme) :
    Shifted n (b.push l) (behind.push l) := by
  have hsize : (behind.push l).tokens.size = n + (b.push l).tokens.size := by
    rw [size_push, size_push, h.size]
    omega
  have hkeep : (∀ i, (b.push l).partner? i = b.partner? i) →
      (∀ i, (behind.push l).partner? i = behind.partner? i) →
      ∀ i, (behind.push l).partner? (n + i) = ((b.push l).partner? i).map (n + ·) := by
    intro hsame hsame' i
    rw [hsame, hsame', h.partner]
  -- The stacks have the same shape, so both builders take the same way.
  rcases push_cases b l with ⟨hk, hopen, hsame⟩ | ⟨o, os, hk, hstack, hopen, hsame⟩ |
    ⟨hk, hopen, hsame⟩ | ⟨hk, htag, hnone, hopen, hsame⟩
  · obtain ⟨hopen', hsame'⟩ := push_of_opening behind hk
    refine ⟨hsize, ?_, hkeep hsame hsame'⟩
    rw [hopen, hopen', h.openings, h.size, List.map_cons]
  · have hstack' : behind.openings = (n + o) :: os.map (n + ·) := by
      rw [h.openings, hstack, List.map_cons]
    obtain ⟨hopen', hsame'⟩ := push_of_closing hk hstack'
    refine ⟨hsize, by rw [hopen, hopen'], fun i => ?_⟩
    rw [hsame, hsame', h.size, h.partner]
    by_cases hi : i = b.tokens.size
    · rw [if_pos hi, if_pos (by omega), Option.map_some]
    · rw [if_neg hi, if_neg (by omega)]
      by_cases ho : i = o ∧ i < b.tokens.size
      · rw [if_pos ho, if_pos (by omega), Option.map_some]
      · rw [if_neg ho, if_neg (by omega)]
  · obtain ⟨hopen', hsame'⟩ := push_of_closeTag behind hk
    exact ⟨hsize, by rw [hopen, hopen', List.map_nil], hkeep hsame hsame'⟩
  · have hnone' : l.kind = .closeParenthesis → behind.openings = [] := fun hclose => by
      rw [h.openings, hnone hclose, List.map_nil]
    obtain ⟨hopen', hsame'⟩ := push_of_other hk htag hnone'
    exact ⟨hsize, by rw [hopen, hopen', h.openings], hkeep hsame hsame'⟩

theorem Shifted.pushAll {n : Nat} {b behind : Builder} (h : Shifted n b behind)
    (ls : List Lexeme) : Shifted n (b.pushAll ls) (behind.pushAll ls) := by
  induction ls generalizing b behind with
  | nil => exact h
  | cons l ls ih => exact ih (h.push l)

end Builder

/-- The place behind the last token. -/
def stop (s : Stream) : Position := (s.tokens.back?.map fun t => t.span.stop).getD .start

/-- The end of a stream is where its text ends. -/
theorem stop_ofLexemes (ls : List Lexeme) :
    (ofLexemes ls).stop = Position.start.advanceText (textOf ls) := by
  rcases List.eq_nil_or_concat ls with rfl | ⟨ms, l, rfl⟩
  · exact (Position.advanceText_empty .start).symm
  · rw [List.concat_eq_append]
    obtain ⟨t, ht⟩ : ∃ t, (ofLexemes (ms ++ [l])).tokens[ms.length]? = some t := by
      have hsize := size_ofLexemes (ms ++ [l])
      rw [List.length_append, List.length_singleton] at hsize
      exact ⟨_, Array.getElem?_eq_getElem (by rw [← size, hsize]; omega)⟩
    have hback : (ofLexemes (ms ++ [l])).tokens.back? = some t := by
      rw [Array.back?, ← size, size_ofLexemes, List.length_append]
      exact ht
    obtain ⟨hl, hspan⟩ := token_ofLexemes ht
    rw [List.getElem?_concat_length] at hl
    rw [List.take_left] at hspan
    have htext : textOf (ms ++ [l]) = textOf ms ++ l.text := by simp [textOf]
    have hname : t.text = l.text := congrArg Lexeme.text (Option.some.inj hl).symm
    rw [stop, hback, Option.map_some, Option.getD_some, hspan, htext, Position.advanceText_append,
      hname]
    rfl

/-- Behind lexemes that end with a close tag, other lexemes become the tokens that they are alone,
moved on by what stands before them. -/
theorem getElem?_ofLexemes_append {ls ms : List Lexeme} {last : Lexeme}
    (hlast : ls.getLast? = some last) (hkind : last.kind = .closeTag) {i : Nat} {t : Token}
    (ht : (ofLexemes ms).tokens[i]? = some t) :
    (ofLexemes (ls ++ ms)).tokens[ls.length + i]? =
      some ⟨t.kind, t.text, .covering ((ofLexemes ls).stop.advanceText ((ofLexemes ms).textBefore i))
        t.text, t.partner.map (ls.length + ·)⟩ := by
  have hshift : Builder.Shifted ls.length .empty (Builder.empty.pushAll ls) := by
    refine ⟨?_, Builder.openings_pushAll_closed .empty hlast hkind, fun i => ?_⟩
    · rw [Builder.size_pushAll, Nat.add_comm]
    · rw [Builder.partner?_of_le (by rw [Builder.size_pushAll]; simp [Builder.empty])]
      rfl
  have hpartner := (hshift.pushAll ms).partner i
  rw [← Builder.pushAll_append] at hpartner
  obtain ⟨u, hu⟩ : ∃ u, (ofLexemes (ls ++ ms)).tokens[ls.length + i]? = some u := by
    have hi := (Array.getElem?_eq_some_iff.mp ht).1
    have hsize := size_ofLexemes (ls ++ ms)
    have hsize' := size_ofLexemes ms
    rw [List.length_append] at hsize
    unfold size at hsize hsize'
    exact ⟨_, Array.getElem?_eq_getElem (by omega)⟩
  obtain ⟨hl, hspan⟩ := token_ofLexemes hu
  obtain ⟨hm, _⟩ := token_ofLexemes ht
  rw [List.getElem?_append_right (by omega), Nat.add_sub_cancel_left, hm] at hl
  have hsame : t.lexeme = u.lexeme := Option.some.inj hl
  have hname : t.kind = u.kind ∧ t.text = u.text := by simpa [Token.lexeme] using hsame
  have htext : textOf (ls ++ ms.take i) = textOf ls ++ textOf (ms.take i) := by simp [textOf]
  rw [List.take_length_add_append, htext, Position.advanceText_append, ← stop_ofLexemes,
    ← textBefore_ofLexemes, ← hname.2] at hspan
  have hu' : (Builder.empty.pushAll (ls ++ ms)).tokens[ls.length + i]? = some u := hu
  have ht' : (Builder.empty.pushAll ms).tokens[i]? = some t := ht
  rw [Builder.partner?, hu', Builder.partner?, ht'] at hpartner
  obtain ⟨uk, ut, us, up⟩ := u
  rw [hu, hname.1, hname.2]
  simp only [Option.bind_some] at hpartner
  simp only [hname.2] at hspan
  rw [hpartner, hspan]

end Stream

/-- Two templates are joined at a close tag.  The first ends with one, which has its line end or does
not get one from the second.  Then the tokens of the joined template are those of the first and
behind them those of the second, with the partners moved by the number of tokens before and the
places counted on from the end of the first. -/
theorem tokenize_append {source rest : String} {s r : Stream} {last : Token}
    (hs : tokenize source = .ok s) (hr : tokenize rest = .ok r)
    (hlast : s.tokens.back? = some last) (hclose : last.kind = .closeTag)
    (hline : last.text.toList.getLast? = some '\n' ∨
      ¬ ['\n'] <+: rest.toList ∧ ¬ ['\r', '\n'] <+: rest.toList)
    (hcount : s.size + r.size ≤ Limits.tokenCount) :
    ∃ u, tokenize (source ++ rest) = .ok u ∧ u.size = s.size + r.size ∧
      (∀ i < s.size, u.tokens[i]? = s.tokens[i]?) ∧
      ∀ i t, r.tokens[i]? = some t → u.tokens[s.size + i]? =
        some ⟨t.kind, t.text, .covering (s.stop.advanceText (r.textBefore i)) t.text,
          t.partner.map (s.size + ·)⟩ := by
  obtain ⟨ls, state, hreads, _, rfl⟩ := (tokenize_eq_ok_iff source s).mp hs
  obtain ⟨ms, state', hreads', _, rfl⟩ := (tokenize_eq_ok_iff rest r).mp hr
  rw [Stream.size_ofLexemes, Stream.size_ofLexemes] at hcount
  have hlast' : ls.getLast? = some last.lexeme := by
    conv => lhs; rw [← Stream.lexemes_ofLexemes ls]
    simp [Stream.lexemes, List.getLast?_map, Array.getLast?_toList, hlast]
  have hother : last.lexeme.text.toList.getLast? = some '\n' ∨
      Lexer.lineEndLength rest.toList = 0 := by
    refine hline.imp id fun hne => ?_
    unfold Lexer.lineEndLength
    split
    · rename_i heq
      exact absurd (by simp [heq]) hne.2
    · rename_i heq
      exact absurd (by simp [heq]) hne.1
    · rfl
  have hjoined := (hreads.append_closed trivial hlast' hclose hother).trans hreads'
  rw [← String.toList_append] at hjoined
  refine ⟨.ofLexemes (ls ++ ms), ?_, ?_, fun i hi => ?_, fun i t ht => ?_⟩
  · exact (tokenize_eq_ok_iff _ _).mpr
      ⟨ls ++ ms, state', hjoined, by rwa [List.length_append], rfl⟩
  · simp only [Stream.size_ofLexemes, List.length_append]
  · show (Stream.Builder.empty.pushAll (ls ++ ms)).tokens[i]? = _
    rw [Stream.Builder.pushAll_append]
    refine Stream.Builder.getElem?_pushAll hi ?_ ms
    rw [Stream.Builder.openings_pushAll_closed .empty hlast' hclose]
    exact List.not_mem_nil
  · rw [Stream.size_ofLexemes]
    exact Stream.getElem?_ofLexemes_append hlast' hclose ht

/-- The parentheses of the second template are the partners that they were, five tokens on. -/
theorem tokenize_append_parentheses :
    let s := (Lexed.ofSource "<?= 1 ?>\n").stream
    let r := (Lexed.ofSource "<?= f(2) ?>").stream
    (tokenize "<?= 1 ?>\n" = .ok s ∧ tokenize "<?= f(2) ?>" = .ok r ∧ s.size = 5) ∧
    r.partner? 3 = some 5 ∧
    ∃ u, tokenize ("<?= 1 ?>\n" ++ "<?= f(2) ?>") = .ok u ∧ u.size = 13 ∧ u.partner? 8 = some 10 := by
  intro s r
  have hs : tokenize "<?= 1 ?>\n" = .ok s := tokenize_of_fault_eq_none (by decide +kernel)
  have hr : tokenize "<?= f(2) ?>" = .ok r := tokenize_of_fault_eq_none (by decide +kernel)
  have hsize : s.size = 5 ∧ r.size = 8 := by decide +kernel
  have hback : s.tokens.back?.map Token.lexeme = some ⟨.closeTag, "?>\n"⟩ := by decide +kernel
  obtain ⟨last, hlast, hlexeme⟩ := Option.map_eq_some_iff.mp hback
  have hclose : last.kind = .closeTag := congrArg Lexeme.kind hlexeme
  have htext : last.text = "?>\n" := congrArg Lexeme.text hlexeme
  have hpartner : r.partner? 3 = some 5 := by decide +kernel
  obtain ⟨t, ht, htp⟩ := Option.bind_eq_some_iff.mp hpartner
  obtain ⟨u, hu, husize, _, hmoved⟩ := tokenize_append hs hr hlast hclose
    (.inl (by rw [htext]; decide)) (by rw [hsize.1, hsize.2]; decide)
  rw [hsize.1, hsize.2] at husize
  have hat := hmoved 3 t ht
  rw [hsize.1] at hat
  refine ⟨⟨hs, hr, hsize.1⟩, hpartner, u, hu, husize, ?_⟩
  rw [Stream.partner?, hat]
  simp [htp]

end EscapeAudit
