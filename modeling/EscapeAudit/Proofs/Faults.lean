import EscapeAudit.Proofs.ClosingLine
import EscapeAudit.Proofs.Joining
import EscapeAudit.Proofs.Languages

/-!
# Why scanning fails, and what it allows

A template that cannot be cut into tokens is reported with a cause and a place.  The place is the
end of the tokens found so far.  The cause is told by the characters behind it: there is a string, a
block comment or a heredoc that is opened and never closed (`Fault.Arises`).

A template that is cut into tokens keeps to the limits (`Kind.Allows`).  The main result says both
(`tokenize_explained`).
-/

namespace EscapeAudit

/-! ## Sizes -/

/-- The sizes that a text of a kind may have. -/
def Kind.Allows : Kind → String → Prop
  | comment, text | docComment, text => text.length ≤ Limits.commentLength
  | constantString, text | doubleQuotedString, text | heredocBody, text =>
    text.utf8ByteSize ≤ Limits.stringSize
  | _, _ => True

/-- Besides comments and strings only the body of a heredoc has a limit. -/
theorem Kind.allows_of_not_hasLanguage {k : Kind} (h : k.hasLanguage = false)
    (hregion : k.region ≠ .heredoc) (text : String) : k.Allows text := by
  cases k <;> first | exact True.intro | exact absurd rfl hregion | cases h

namespace Lexer

theorem length_lexeme_le (cut : Cut) (c : Char) (rest : List Char) :
    (cut.lexeme c rest).text.length ≤ cut.more + 1 := by
  rw [← String.length_toList, Cut.lexeme_chars, List.length_cons]
  exact Nat.succ_le_succ (List.length_take_le _ _)

theorem more_of_cutComment {kind : Kind} {more : Nat} {cut : Cut}
    (h : cutComment kind more = .ok cut) : cut.more + 1 ≤ Limits.commentLength := by
  rw [cutComment] at h
  split at h
  · cases h
  · rename_i hlimit
    obtain rfl := Except.ok.inj h
    exact Nat.not_lt.mp hlimit

theorem more_of_cutBlockComment {inside : List Char} {cut : Cut}
    (h : cutBlockComment inside = .ok cut) : cut.more + 1 ≤ Limits.commentLength := by
  rw [cutBlockComment] at h
  split at h
  · cases h
  · exact more_of_cutComment h

theorem size_of_cutString {quote : Char} {rest : List Char} {cut : Cut}
    (h : cutString quote rest = .ok cut) :
    (cut.lexeme quote rest).text.utf8ByteSize ≤ Limits.stringSize := by
  rw [cutString] at h
  split at h
  · cases h
  · dsimp only at h
    split at h
    · cases h
    · rename_i hlimit
      obtain rfl := Except.ok.inj h
      rw [Cut.lexeme, String.ofList_cons, String.utf8ByteSize_append,
        String.utf8ByteSize_singleton, ← Text.byteLength_eq]
      exact Nat.not_lt.mp hlimit

theorem allows_cutToken {s : State} {c : Char} {rest : List Char} {cut : Cut}
    (h : cutToken s c rest = .ok cut) : cut.kind.Allows (cut.lexeme c rest).text := by
  have hlength := length_lexeme_le cut c rest
  obtain ⟨_, hcase, hr⟩ := exists_tokenCase h
  cases hcase with
  | line _ =>
    have hmore := more_of_cutComment hr
    obtain rfl := cutComment_eq_ok hr
    exact Nat.le_trans hlength hmore
  | block _ _ =>
    have hmore := more_of_cutBlockComment hr
    rcases kind_of_cutBlockComment hr with hk | hk <;> rw [hk] <;>
      exact Nat.le_trans hlength hmore
  | quote _ =>
    have hsize := size_of_cutString hr
    rcases kind_of_cutString hr with hk | hk <;> rw [hk] <;> exact hsize
  | heredoc _ _ => rcases kind_of_cutHeredoc hr with hk | hk <;> rw [hk] <;> exact True.intro
  | name _ =>
    have hword := (isWord_of_cutName hr).1
    refine Kind.allows_of_not_hasLanguage (Kind.not_hasLanguage_of_isWord hword) ?_ _
    rw [(Kind.Inner.of_isWord hword).1]
    decide
  | operator =>
    have hsign := (isSign_of_cutOperator hr).1
    refine Kind.allows_of_not_hasLanguage (Kind.not_hasLanguage_of_isSign hsign) ?_ _
    rw [(Kind.Inner.of_isSign hsign).1]
    decide
  | blank _ | dollar _ _ | cast _ _ | opening _ | number _ =>
    obtain rfl := Except.ok.inj hr
    exact True.intro

/-- Every cut keeps to the limit of its kind. -/
theorem allows_cutNext {s : State} {c : Char} {rest : List Char} {cut : Cut}
    (h : cutNext s c rest = .ok cut) : cut.kind.Allows (cut.lexeme c rest).text := by
  have hregion := (cutNext_region h).1
  rw [cutNext] at h
  cases hmode : s.mode with
  | markup =>
    rw [hmode] at hregion
    have hcode : cut.kind.region ≠ .code := by rw [← hregion]; decide
    refine Kind.allows_of_not_hasLanguage (Kind.not_hasLanguage_of_region hcode) ?_ _
    rw [← hregion]
    decide
  | code =>
    rw [hmode] at h
    dsimp only at h
    rw [cutCode] at h
    split at h
    · obtain rfl := Except.ok.inj h
      exact True.intro
    · exact allows_cutToken h
  | heredoc body closer =>
    rw [hmode] at h
    dsimp only at h
    rw [cutHeredocPart] at h
    split at h
    · obtain rfl := Except.ok.inj h
      exact True.intro
    · dsimp only at h
      split at h
      · cases h
      · rename_i hlimit
        obtain rfl := Except.ok.inj h
        rw [Text.byteLength_eq] at hlimit
        exact Nat.not_lt.mp hlimit

theorem Reads.allows {s t : State} {cs ds : List Char} {ls : List Lexeme} (h : Reads s cs ls t ds) :
    ∀ l ∈ ls, l.kind.Allows l.text := by
  induction h with
  | done => intro l hl; cases hl
  | step hcut _ ih =>
    intro l hl
    rcases List.mem_cons.mp hl with rfl | hl
    · exact allows_cutNext hcut
    · exact ih l hl

/-! ## What is never closed -/

/-- A quote, and every quote of its kind behind it is hidden. -/
def OpensString (cs : List Char) : Prop :=
  ∃ quote rest, cs = quote :: rest ∧ (quote = '\'' ∨ quote = '"') ∧ NeverCloses quote rest

/-- `/*`, and no `*/` behind it. -/
def OpensComment (cs : List Char) : Prop :=
  ∃ inside, cs = '/' :: '*' :: inside ∧ ¬ ['*', '/'] <:+: inside

/-- The first line of a heredoc, and none of the lines behind it closes the heredoc. -/
def OpensHeredoc (label : String) (cs : List Char) : Prop :=
  ∃ line header body, cs = '<' :: '<' :: '<' :: (line ++ body) ∧ IsHeader line header ∧
    header.label = label.toList ∧
    ∀ before behind, body = before ++ behind → startsLine true before = true →
      ¬ ClosesHeredoc header.label behind

end Lexer

open Lexer

/-- How the characters begin at which a fault arises. -/
def Fault.Arises (cs : List Char) : Fault → Prop
  | unterminatedString => OpensString cs
  | unterminatedComment => OpensComment cs
  | unterminatedHeredoc label => OpensHeredoc label cs
  | _ => True

namespace Lexer

theorem arises_cutComment {kind : Kind} {more : Nat} {fault : Fault}
    (h : cutComment kind more = .error fault) (cs : List Char) : fault.Arises cs := by
  rw [cutComment] at h
  split at h <;> cases h
  exact True.intro

theorem arises_cutBlockComment {inside : List Char} {fault : Fault}
    (h : cutBlockComment inside = .error fault) : fault.Arises ('/' :: '*' :: inside) := by
  rw [cutBlockComment] at h
  split at h
  · rename_i hend
    cases h
    exact ⟨inside, rfl, commentEnd?_eq_none_iff.mp hend⟩
  · exact arises_cutComment h _

theorem arises_cutString {quote : Char} (hquote : quote = '\'' ∨ quote = '"') {rest : List Char}
    {fault : Fault} (h : cutString quote rest = .error fault) : fault.Arises (quote :: rest) := by
  have hslash : quote ≠ '\\' := by rcases hquote with rfl | rfl <;> decide
  rw [cutString] at h
  split at h
  · rename_i hend
    cases h
    exact ⟨quote, rest, rfl, hquote, (closingQuote?_eq_none_iff hslash).mp hend⟩
  · dsimp only at h
    split at h <;> cases h
    exact True.intro

theorem arises_cutHeredoc {rest body : List Char} {header : HeredocHeader}
    (hat : heredocAt? rest = some (header, body)) {fault : Fault}
    (h : cutHeredoc header body = .error fault) : fault.Arises ('<' :: rest) := by
  obtain ⟨behind, rfl, hheader, rfl⟩ := heredocAt?_eq_some_iff.mp hat
  obtain ⟨line, body, rfl, hform⟩ := heredocHeader?_eq_some_iff.mp hheader
  rw [cutHeredoc, hform.length, List.drop_left] at h
  split at h
  · rename_i hnone
    cases h
    refine ⟨line, header, body, rfl, hform, String.toList_ofList.symm, ?_⟩
    exact (heredocCloser?_eq_none_iff hform.label.startsPart).mp hnone
  · cases h

theorem cutOperator_ne_error (s : State) (c : Char) (rest : List Char) (fault : Fault) :
    cutOperator s c rest ≠ .error fault := by
  intro h
  obtain ⟨_, hcase, hr⟩ := exists_operatorCase h
  cases hcase <;> cases hr

/-- A cut that fails says why. -/
theorem arises_cutNext {s : State} {c : Char} {rest : List Char} {fault : Fault}
    (h : cutNext s c rest = .error fault) : fault.Arises (c :: rest) := by
  rw [cutNext] at h
  split at h
  · cases h
  · rw [cutCode] at h
    split at h
    · cases h
    · obtain ⟨_, hcase, hr⟩ := exists_tokenCase h
      cases hcase with
      | line _ => exact arises_cutComment hr _
      | block hc hrest =>
        subst hc hrest
        exact arises_cutBlockComment hr
      | quote hc => exact arises_cutString hc hr
      | heredoc hc hat =>
        subst hc
        exact arises_cutHeredoc hat hr
      | operator => exact absurd hr (cutOperator_ne_error s c rest fault)
      | blank _ | dollar _ _ | cast _ _ | opening _ | name _ | number _ => cases hr
  · rw [cutHeredocPart] at h
    split at h
    · cases h
    · dsimp only at h
      split at h <;> cases h
      exact True.intro

end Lexer

/-! ## The whole template -/

namespace Lexed

/-- The text of the tokens found. -/
def foundText (l : Lexed) : String := .join (l.stream.tokens.toList.map Token.text)

theorem foundText_eq {l : Lexed} {ls : List Lexeme} (h : l.stream = .ofLexemes ls) :
    l.foundText = Stream.textOf ls := by
  rw [foundText, h, Stream.map_text_ofLexemes, Stream.textOf]

/-- The place behind the text of the tokens found is the end of the last one. -/
theorem place_eq_stop (source : String) :
    (ofSource source).place = (ofSource source).stream.stop := by
  rw [place, Stream.source_eq_join, ofSource, ofScan, Stream.stop_ofLexemes,
    Stream.map_text_ofLexemes, Stream.textOf]

/-- Scanning stops at the limit of tokens, or at a cut that fails behind the tokens found. -/
theorem exists_reads_of_fault {source : String} {fault : Fault}
    (h : (ofSource source).fault = some fault) :
    (∃ n, fault = .tooManyTokens n) ∨
    ∃ ls s c rest, Reads .initial source.toList ls s (c :: rest) ∧
      cutNext s c rest = .error fault ∧ (ofSource source).stream = .ofLexemes ls := by
  obtain ⟨ls, s, left, hreads, hfound, hend⟩ := scanFrom_reads .initial source.toList #[]
  have hlexemes : (scanFrom .initial source.toList #[]).lexemes = ls.toArray := by
    simpa using hfound
  rw [ofSource, Lexer.scan, Scan.capped] at h ⊢
  split at h
  · rename_i hsize
    rw [if_pos hsize, ofScan, hlexemes]
    rcases hend with ⟨_, hnone⟩ | ⟨c, rest, fault', rfl, hcut, hsome⟩
    · rw [ofScan, hnone] at h
      cases h
    · rw [ofScan, hsome] at h
      obtain rfl := Option.some.inj h
      exact .inr ⟨ls, s, c, rest, hreads, hcut, rfl⟩
  · exact .inl ⟨_, (Option.some.inj h).symm⟩

end Lexed

theorem tokenize_of_fault {source : String} {fault : Fault}
    (h : (Lexed.ofSource source).fault = some fault) :
    tokenize source = .error (fault.locate (Lexed.ofSource source).stream.stop) := by
  rw [tokenize, Lexed.result, Lexed.error?, h, Lexed.place_eq_stop]
  rfl

/-- An error stands at the end of the tokens found, and what is left of the template says why. -/
theorem exists_fault_of_tokenize {source : String} {e : LexError} (h : tokenize source = .error e) :
    (∃ n, e = .tooManyTokens n) ∨
    ∃ (fault : Fault) (behind : List Char),
      e = fault.locate (Position.start.advanceText (Lexed.ofSource source).foundText) ∧
      source = (Lexed.ofSource source).foundText ++ String.ofList behind ∧ fault.Arises behind := by
  cases hfault : (Lexed.ofSource source).fault with
  | none =>
    rw [tokenize_of_fault_eq_none hfault] at h
    cases h
  | some fault =>
    rw [tokenize_of_fault hfault] at h
    obtain rfl := Except.error.inj h
    rcases Lexed.exists_reads_of_fault hfault with
      ⟨n, rfl⟩ | ⟨ls, s, c, rest, hreads, hcut, hstream⟩
    · exact .inl ⟨n, rfl⟩
    · refine .inr ⟨fault, c :: rest, ?_, ?_, arises_cutNext hcut⟩
      · rw [Lexed.foundText_eq hstream, hstream, Stream.stop_ofLexemes]
      · rw [Lexed.foundText_eq hstream, ← String.toList_inj, String.toList_append,
          Stream.toList_textOf, String.toList_ofList]
        exact hreads.chars_eq

/-- The errors of a template are sound and located.  Where a string, a comment or a heredoc is said
to be never closed, the template is the text of the tokens found and then a text that opens one which
is never closed, and the line and the column reported are those behind the tokens found.  A template
without an error keeps to the limits. -/
theorem tokenize_explained (source : String) :
    (∀ line column, tokenize source = .error (.unterminatedString line column) →
      ∃ behind, source = (Lexed.ofSource source).foundText ++ String.ofList behind ∧
        OpensString behind ∧
        line = (Position.start.advanceText (Lexed.ofSource source).foundText).line ∧
        column = (Position.start.advanceText (Lexed.ofSource source).foundText).column) ∧
    (∀ line column, tokenize source = .error (.unterminatedComment line column) →
      ∃ behind, source = (Lexed.ofSource source).foundText ++ String.ofList behind ∧
        OpensComment behind ∧
        line = (Position.start.advanceText (Lexed.ofSource source).foundText).line ∧
        column = (Position.start.advanceText (Lexed.ofSource source).foundText).column) ∧
    (∀ label line, tokenize source = .error (.unterminatedHeredoc label line) →
      ∃ behind, source = (Lexed.ofSource source).foundText ++ String.ofList behind ∧
        OpensHeredoc label behind ∧
        line = (Position.start.advanceText (Lexed.ofSource source).foundText).line) ∧
    (∀ s, tokenize source = .ok s →
      s.size ≤ Limits.tokenCount ∧ ∀ t ∈ s.tokens,
        (t.kind = .comment ∨ t.kind = .docComment → t.text.length ≤ Limits.commentLength) ∧
        (t.kind = .constantString ∨ t.kind = .doubleQuotedString ∨ t.kind = .heredocBody →
          t.text.utf8ByteSize ≤ Limits.stringSize)) := by
  refine ⟨?_, ?_, ?_, ?_⟩
  · intro line column h
    rcases exists_fault_of_tokenize h with ⟨n, he⟩ | ⟨fault, behind, he, hsplit, harises⟩
    · cases he
    · cases fault <;> cases he
      exact ⟨behind, hsplit, harises, rfl, rfl⟩
  · intro line column h
    rcases exists_fault_of_tokenize h with ⟨n, he⟩ | ⟨fault, behind, he, hsplit, harises⟩
    · cases he
    · cases fault <;> cases he
      exact ⟨behind, hsplit, harises, rfl, rfl⟩
  · intro label line h
    rcases exists_fault_of_tokenize h with ⟨n, he⟩ | ⟨fault, behind, he, hsplit, harises⟩
    · cases he
    · cases fault <;> cases he
      exact ⟨behind, hsplit, harises, rfl⟩
  · intro s h
    obtain ⟨ls, state, hreads, hlimit, rfl⟩ := (tokenize_eq_ok_iff source s).mp h
    refine ⟨by rwa [Stream.size_ofLexemes], ?_⟩
    intro t ht
    have hmem : t.lexeme ∈ ls := by
      rw [← Stream.lexemes_ofLexemes ls]
      exact List.mem_map_of_mem (Array.mem_toList_iff.mpr ht)
    have hallows : t.kind.Allows t.text := hreads.allows _ hmem
    constructor
    · rintro (hk | hk) <;> rw [hk] at hallows <;> exact hallows
    · rintro (hk | hk | hk) <;> rw [hk] at hallows <;> exact hallows

/-- A string on the second line whose only other quote is hidden. -/
theorem tokenize_explained_second_line :
    tokenize "é\n<?= 'a\\' ?>" = .error (.unterminatedString 2 5) ∧
    ∃ behind, "é\n<?= 'a\\' ?>" = "é\n<?= " ++ String.ofList behind ∧ OpensString behind := by
  have hfault : (Lexed.ofSource "é\n<?= 'a\\' ?>").fault = some .unterminatedString := by
    decide +kernel
  have hfound : (Lexed.ofSource "é\n<?= 'a\\' ?>").foundText = "é\n<?= " := by decide +kernel
  have herror := tokenize_of_fault hfault
  obtain ⟨behind, hsplit, hopens, hline, hcolumn⟩ := (tokenize_explained _).1 _ _ herror
  rw [hfound] at hsplit
  rw [hfound, Position.start_advanceText] at hline hcolumn
  rw [Fault.locate, hline, hcolumn] at herror
  exact ⟨herror, behind, hsplit, hopens⟩

end EscapeAudit
