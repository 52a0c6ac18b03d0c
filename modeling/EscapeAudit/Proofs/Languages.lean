import EscapeAudit.Proofs.Layout
import EscapeAudit.Proofs.Literals
import EscapeAudit.Proofs.Region

/-!
# The language of a kind

The kind of a token says what its text looks like.  For blanks, comments, strings and variables
this is said by `Kind.Language`, which knows nothing of the scanner.  Blanks and variables moreover
go on as far as they can (`Kind.Stops`).

Every cut keeps to this (`language_cutNext`), and so does every token of a template
(`tokens_in_language`).
-/

namespace EscapeAudit

namespace Lexer

/-! ## Comments and strings -/

/-- `#` or `//`, and neither a line end nor a close tag. -/
structure IsLineComment (text : List Char) : Prop where
  opening : ['#'] <+: text ∨ ['/', '/'] <+: text
  lineFeed : '\n' ∉ text
  carriageReturn : '\r' ∉ text
  closeTag : ¬ ['?', '>'] <:+: text

/-- `/*`, and the first `*/` behind it is the end. -/
def IsBlockComment (text : List Char) : Prop :=
  ∃ inside, text = '/' :: '*' :: (inside ++ ['*', '/']) ∧ ¬ ['*', '/'] <:+: inside ++ ['*']

/-- How a block comment begins that is a documentation, and not just `/**/`. -/
def Documents (text : List Char) : Prop :=
  ['/', '*', '*'] <+: text ∧ text ≠ ['/', '*', '*', '/']

/-- A quote, and the first one of its kind behind it that is not hidden is the end. -/
def IsString (quote : Char) (text : List Char) : Prop :=
  ∃ content, text = quote :: (content ++ [quote]) ∧ hidesNext content = false ∧
    NeverCloses quote content

end Lexer

open Lexer

namespace Kind

/-- The kinds that say what their texts look like. -/
def hasLanguage : Kind → Bool
  | whitespace | comment | docComment | constantString | doubleQuotedString | .variable => true
  | _ => false

/-- What the text of a kind looks like. -/
def Language : Kind → List Char → Prop
  | whitespace, text => ∀ c ∈ text, isSpace c = true
  | comment, text => IsLineComment text ∨ IsBlockComment text ∧ ¬ Documents text
  | docComment, text => IsBlockComment text ∧ Documents text
  | constantString, text => IsString '\'' text ∨ IsString '"' text ∧ ¬ FillsIn text
  | doubleQuotedString, text => IsString '"' text ∧ FillsIn text
  | .variable, text => ∃ name, text = '$' :: name ∧ IsLabel name
  | _, _ => True

/-- What cannot stand behind a text of a kind, because it would belong to it. -/
def Stops : Kind → List Char → Prop
  | whitespace, behind => startsWith isSpace behind = false
  | .variable, behind => startsWith isNamePart behind = false
  | _, _ => True

theorem language_of_not_hasLanguage {k : Kind} (h : k.hasLanguage = false) (text : List Char) :
    k.Language text := by
  cases k <;> first | exact True.intro | cases h

theorem stops_of_not_hasLanguage {k : Kind} (h : k.hasLanguage = false) (behind : List Char) :
    k.Stops behind := by
  cases k <;> first | exact True.intro | cases h

theorem not_hasLanguage_of_isWord {k : Kind} (h : k.isWord = true) : k.hasLanguage = false := by
  cases k <;> first | rfl | cases h

theorem not_hasLanguage_of_isSign {k : Kind} (h : k.isSign = true) : k.hasLanguage = false := by
  cases k <;> first | rfl | cases h

theorem not_hasLanguage_of_region {k : Kind} (h : k.region ≠ .code) : k.hasLanguage = false := by
  cases k <;> first | rfl | exact absurd rfl h

end Kind

namespace Lexer

/-! ## Runs -/

theorem language_blank {c : Char} (hc : isSpace c = true) (rest : List Char) :
    Kind.Language .whitespace (c :: rest.take (runLength isSpace rest)) := by
  intro d hd
  rw [take_runLength] at hd
  rcases List.mem_cons.mp hd with rfl | hd
  · exact hc
  · exact List.all_eq_true.mp List.all_takeWhile d hd

theorem language_variable {rest : List Char} (h : startsWith isNameStart rest = true) :
    Kind.Language .variable ('$' :: rest.take (runLength isNamePart rest)) := by
  rw [take_runLength]
  refine ⟨_, rfl, ?_, List.all_eq_true.mp List.all_takeWhile⟩
  obtain ⟨c, name, rfl, hc⟩ := startsWith_iff.mp h
  rw [List.takeWhile_cons_of_pos (isNamePart_of_isNameStart hc)]
  exact hc

/-! ## Comments -/

theorem isLineComment_of_begins {c : Char} {rest : List Char}
    (h : beginsLineComment c rest = true) :
    IsLineComment (c :: rest.take (lineCommentLength rest 0)) := by
  obtain ⟨inside, behind, rfl, hlength, hfeed, hreturn, htag, hbehind⟩ :=
    lineCommentLength_spec rest 0
  rw [hlength, Nat.zero_add, List.take_left]
  have hopening : ['#'] <+: c :: inside ∨ ['/', '/'] <+: c :: inside := by
    rcases Bool.or_eq_true_iff.mp h with hhash | hslashes
    · obtain rfl := beq_iff_eq.mp hhash
      exact .inl ⟨inside, rfl⟩
    · obtain ⟨hslash, hsecond⟩ := Bool.and_eq_true_iff.mp hslashes
      obtain rfl := beq_iff_eq.mp hslash
      cases inside with
      | cons d inside =>
        obtain rfl := beq_iff_eq.mp hsecond
        exact .inr ⟨inside, rfl⟩
      | nil =>
        -- The comment would end before its second slash.
        obtain ⟨d, rest, rfl, hd⟩ := startsWith_iff.mp hsecond
        obtain rfl := beq_iff_eq.mp hd
        rcases hbehind with hnil | hend
        · cases hnil
        · cases hend
  have hfirst : c = '#' ∨ c = '/' := by
    rcases hopening with ⟨_, hsplit⟩ | ⟨_, hsplit⟩
    · exact .inl (List.cons_eq_cons.mp hsplit).1.symm
    · exact .inr (List.cons_eq_cons.mp hsplit).1.symm
  have hplain : c ≠ '\n' ∧ c ≠ '\r' ∧ c ≠ '?' := by
    rcases hfirst with rfl | rfl <;> decide
  refine ⟨hopening, ?_, ?_, ?_⟩
  · exact fun hmem => (List.mem_cons.mp hmem).elim (fun he => hplain.1 he.symm) hfeed
  · exact fun hmem => (List.mem_cons.mp hmem).elim (fun he => hplain.2.1 he.symm) hreturn
  · rw [List.infix_cons_iff, not_or]
    refine ⟨?_, htag⟩
    rintro ⟨_, hsplit⟩
    exact hplain.2.2 (List.cons_eq_cons.mp hsplit).1.symm

/-- A block comment documents when a star and more than the end follows its beginning. -/
theorem documents_iff {inside : List Char} :
    Documents ('/' :: '*' :: (inside ++ ['*', '/'])) ↔
      inside.length ≠ 0 ∧ startsWith (· == '*') inside = true := by
  cases inside with
  | nil => simp [Documents]
  | cons c inside =>
    constructor
    · rintro ⟨⟨_, hsplit⟩, _⟩
      obtain rfl : '*' = c := by
        simp only [List.cons_append, List.cons.injEq] at hsplit
        exact hsplit.2.2.1
      exact ⟨Nat.succ_ne_zero _, rfl⟩
    · rintro ⟨_, hstar⟩
      obtain rfl := beq_iff_eq.mp hstar
      refine ⟨⟨inside ++ ['*', '/'], rfl⟩, fun heq => ?_⟩
      have hlength := congrArg List.length heq
      simp at hlength

theorem language_cutBlockComment {inside : List Char} {cut : Cut}
    (h : cutBlockComment inside = .ok cut) :
    cut.kind.Language ('/' :: ('*' :: inside).take cut.more) := by
  rw [cutBlockComment] at h
  cases hend : commentEnd? inside 0 with
  | none =>
    rw [hend] at h
    cases h
  | some n =>
    rw [hend] at h
    obtain rfl := cutComment_eq_ok h
    obtain ⟨text, after, rfl, hn, hfirst⟩ := commentEnd?_eq_some hend
    have htake : ('*' :: (text ++ '*' :: '/' :: after)).take (n + 3) =
        '*' :: (text ++ ['*', '/']) := by
      rw [hn, Nat.zero_add, List.take_succ_cons, List.take_length_add_append]
      rfl
    have hblock : IsBlockComment ('/' :: '*' :: (text ++ ['*', '/'])) := ⟨text, rfl, hfirst⟩
    dsimp only
    rw [htake]
    have hdocuments : (n != 0 && startsWith (· == '*') (text ++ '*' :: '/' :: after)) = true ↔
        Documents ('/' :: '*' :: (text ++ ['*', '/'])) := by
      rw [documents_iff, Bool.and_eq_true, bne_iff_ne, hn, Nat.zero_add]
      refine and_congr_right fun hlength => ?_
      have hne : text ≠ [] := List.ne_nil_of_length_pos (Nat.pos_of_ne_zero hlength)
      rw [startsWith_append_of_ne_nil hne _ _ [], List.append_nil]
    split
    · rename_i hdoc
      exact ⟨hblock, hdocuments.mp hdoc⟩
    · rename_i hdoc
      exact .inr ⟨hblock, fun hd => hdoc (hdocuments.mpr hd)⟩

/-! ## Strings -/

theorem fillsIn_quote {quote : Char} (hquote : quote = '\'' ∨ quote = '"') (cs : List Char) :
    FillsIn (quote :: cs) ↔ FillsIn cs := by
  have hplain : quote ≠ '\\' ∧ quote ≠ '$' ∧ quote ≠ '{' := by
    rcases hquote with rfl | rfl <;> decide
  rw [fillsIn_cons hplain.1, or_iff_right]
  rintro ⟨_, _, _, ⟨hdollar, _⟩ | ⟨hbrace, _⟩⟩
  · exact hplain.2.1 hdollar
  · exact hplain.2.2 hbrace

theorem language_cutString {quote : Char} {rest : List Char} {cut : Cut}
    (hquote : quote = '\'' ∨ quote = '"') (h : cutString quote rest = .ok cut) :
    cut.kind.Language (quote :: rest.take cut.more) := by
  have hslash : quote ≠ '\\' := by rcases hquote with rfl | rfl <;> decide
  obtain ⟨hclose, _⟩ := cutString_eq_ok h
  obtain ⟨content, after, hrest, hmore, hopen, hnever⟩ := closingQuote?_eq_some hslash hclose
  have htake : rest.take cut.more = content ++ [quote] := by
    rw [hrest, hmore, Nat.zero_add, List.take_length_add_append]
    rfl
  have hstring : IsString quote (quote :: (content ++ [quote])) := ⟨content, rfl, hopen, hnever⟩
  rw [cutString, hclose] at h
  dsimp only at h
  split at h
  · cases h
  · have hkind := congrArg Cut.kind (Except.ok.inj h)
    dsimp only at hkind
    rw [← hkind, htake]
    have hfills := interpolates_iff.trans (fillsIn_quote hquote (content ++ [quote])).symm
    rcases hquote with rfl | rfl
    · exact .inl hstring
    · cases hfilled : interpolates (content ++ ['"']) with
      | true => exact ⟨hstring, hfills.mp hfilled⟩
      | false =>
        refine .inr ⟨hstring, fun hin => ?_⟩
        rw [hfills.mpr hin] at hfilled
        cases hfilled

/-! ## Every cut -/

theorem language_cutToken {s : State} {c : Char} {rest : List Char} {cut : Cut}
    (h : cutToken s c rest = .ok cut) :
    cut.kind.Language (c :: rest.take cut.more) ∧ cut.kind.Stops (rest.drop cut.more) := by
  have hother : cut.kind.hasLanguage = false →
      cut.kind.Language (c :: rest.take cut.more) ∧ cut.kind.Stops (rest.drop cut.more) :=
    fun hk => ⟨Kind.language_of_not_hasLanguage hk _, Kind.stops_of_not_hasLanguage hk _⟩
  obtain ⟨_, hcase, hr⟩ := exists_tokenCase h
  cases hcase with
  | blank hc =>
    obtain rfl := Except.ok.inj hr
    exact ⟨language_blank hc rest, startsWith_drop_runLength isSpace rest⟩
  | line hbegins =>
    obtain rfl := cutComment_eq_ok hr
    exact ⟨.inl (isLineComment_of_begins hbegins), True.intro⟩
  | block hc hrest =>
    subst hc hrest
    refine ⟨language_cutBlockComment hr, ?_⟩
    rcases kind_of_cutBlockComment hr with hk | hk <;> rw [hk] <;> exact True.intro
  | dollar hc hname =>
    obtain rfl := Except.ok.inj hr
    subst hc
    exact ⟨language_variable hname, startsWith_drop_runLength isNamePart rest⟩
  | quote hc =>
    refine ⟨language_cutString hc hr, ?_⟩
    rcases kind_of_cutString hr with hk | hk <;> rw [hk] <;> exact True.intro
  | heredoc _ _ =>
    refine hother ?_
    rcases kind_of_cutHeredoc hr with hk | hk <;> rw [hk] <;> rfl
  | name _ => exact hother (Kind.not_hasLanguage_of_isWord (isWord_of_cutName hr).1)
  | operator => exact hother (Kind.not_hasLanguage_of_isSign (isSign_of_cutOperator hr).1)
  | cast _ _ | opening _ | number _ =>
    obtain rfl := Except.ok.inj hr
    exact hother rfl

/-- Every cut is a text of its kind, and it goes on as far as its kind goes. -/
theorem language_cutNext {s : State} {c : Char} {rest : List Char} {cut : Cut}
    (h : cutNext s c rest = .ok cut) :
    cut.kind.Language (c :: rest.take cut.more) ∧ cut.kind.Stops (rest.drop cut.more) := by
  by_cases hlanguage : cut.kind.hasLanguage = false
  · exact ⟨Kind.language_of_not_hasLanguage hlanguage _, Kind.stops_of_not_hasLanguage hlanguage _⟩
  · -- Only code has such kinds, and a close tag is none of them.
    refine language_cutToken (cutToken_of_cutNext h ?_ ?_)
    · exact Decidable.byContradiction fun hr => hlanguage (Kind.not_hasLanguage_of_region hr)
    · intro hclose
      rw [hclose] at hlanguage
      exact hlanguage rfl

end Lexer

/-! ## Every token -/

/-- The text of every token belongs to the language of its kind.  No two tokens of blanks stand side
by side, and no character that could go on the name of a variable stands behind it. -/
theorem tokens_in_language {source : String} {s : Stream} (h : tokenize source = .ok s) {i : Nat}
    {t : Token} (ht : s.tokens[i]? = some t) :
    t.kind.Language t.text.toList ∧
    (t.kind = .whitespace → ∀ u, s.tokens[i + 1]? = some u → u.kind ≠ .whitespace) ∧
    (t.kind = .variable →
      startsWith isNamePart (source.toList.drop (s.textBefore (i + 1)).length) = false) := by
  obtain ⟨u, c, rest, cut, _, hcut, hlexeme, hread⟩ := exists_cut_of_token h ht
  obtain ⟨hlanguage, hstops⟩ := language_cutNext hcut
  have hkind : t.kind = cut.kind := congrArg Lexeme.kind hlexeme
  have htext : t.text.toList = c :: rest.take cut.more := by
    rw [show t.text = (cut.lexeme c rest).text from congrArg Lexeme.text hlexeme, Cut.lexeme_chars]
  rw [hkind, htext]
  refine ⟨hlanguage, ?_, ?_⟩
  · intro hblank v hv hblank'
    rw [hblank] at hstops
    obtain ⟨_, d, rest', cut', hbefore, hcut', hlexeme', _⟩ := exists_cut_of_token h hv
    have hleft : rest.drop cut.more = d :: rest' := hread.drop_eq.symm.trans hbefore.drop_eq
    obtain ⟨hlanguage', _⟩ := language_cutNext hcut'
    rw [← show v.kind = cut'.kind from congrArg Lexeme.kind hlexeme', hblank'] at hlanguage'
    have hspace : isSpace d = true := hlanguage' d List.mem_cons_self
    have hnot : startsWith isSpace (d :: rest') = false := hleft ▸ hstops
    exact Bool.false_ne_true (hnot.symm.trans hspace)
  · intro hvariable
    rw [hvariable] at hstops
    rw [Stream.length_textBefore, hread.drop_eq]
    exact hstops

/-- A string with a hidden quote, in which a variable is filled in. -/
theorem tokens_in_language_hidden_quote :
    tokenize "<?= \"\\\"$a\" ?>" = .ok (Lexed.ofSource "<?= \"\\\"$a\" ?>").stream ∧
    ∃ t, (Lexed.ofSource "<?= \"\\\"$a\" ?>").stream.tokens[2]? = some t ∧
      t.text = "\"\\\"$a\"" ∧ IsString '"' t.text.toList ∧ FillsIn t.text.toList := by
  have hok : tokenize "<?= \"\\\"$a\" ?>" = .ok (Lexed.ofSource "<?= \"\\\"$a\" ?>").stream :=
    tokenize_of_fault_eq_none (by decide +kernel)
  have hlexeme : (Lexed.ofSource "<?= \"\\\"$a\" ?>").stream.tokens[2]?.map Token.lexeme =
      some ⟨.doubleQuotedString, "\"\\\"$a\""⟩ := by
    decide +kernel
  obtain ⟨t, ht, hquoted⟩ := Option.map_eq_some_iff.mp hlexeme
  have hkind : t.kind = .doubleQuotedString := congrArg Lexeme.kind hquoted
  obtain ⟨hlanguage, _⟩ := tokens_in_language hok ht
  rw [hkind] at hlanguage
  exact ⟨hok, t, ht, congrArg Lexeme.text hquoted, hlanguage.1, hlanguage.2⟩

end EscapeAudit
