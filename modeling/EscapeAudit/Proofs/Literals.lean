import EscapeAudit.Proofs.Window.Literal

/-!
# What comments and strings look like

The scanners of comments and strings walk over the characters and say how far a lexeme reaches.
Here it is said without a walk what they find.

*Strings.*  A character is hidden when an odd number of backslashes stands right before it
(`hidesNext`).  A string goes on to the first quote of its kind that is not hidden
(`closingQuote?_eq_some`), and it has no end exactly when every such quote is hidden
(`closingQuote?_eq_none_iff`).  A variable is filled in when one of three pairs of characters stands
somewhere, the first of them not hidden (`interpolates_iff`).

*Comments.*  A block comment goes on to the first `*/`, and has no end exactly when there is none
(`commentEnd?_eq_some`, `commentEnd?_eq_none_iff`).  A line comment holds no line end and no close
tag, and one of them follows it (`lineCommentLength_spec`).
-/

namespace EscapeAudit.Lexer

/-! ## Hidden characters -/

/-- Whether the character behind a text is hidden, because an odd number of backslashes stands right
before it. -/
def hidesNext (before : List Char) : Bool :=
  (before.reverse.takeWhile (· == '\\')).length % 2 == 1

/-- Only the backslashes at the end of a text count. -/
theorem hidesNext_cons {c : Char} (hc : c ≠ '\\') (before : List Char) :
    hidesNext (c :: before) = hidesNext before := by
  have hstop : [c].takeWhile (· == '\\') = [] := by simp [hc]
  rw [hidesNext, hidesNext, List.reverse_cons, List.takeWhile_append, hstop, List.append_nil]
  split
  · rename_i hall
    rw [← hall]
  · rfl

/-- A backslash and the character that it hides do not count, even if that is a backslash too. -/
theorem hidesNext_pair (d : Char) (before : List Char) :
    hidesNext ('\\' :: d :: before) = hidesNext before := by
  rw [hidesNext, hidesNext, List.reverse_cons, List.reverse_cons, List.append_assoc,
    List.takeWhile_append]
  split
  · rename_i hall
    -- All of them are backslashes, so two more or none more leave the parity as it is.
    rw [List.length_append, ← hall]
    by_cases hd : d = '\\'
    · simp [hd, Nat.add_mod_right]
    · simp [hd]
  · rfl

/-- A character that is neither a backslash at the end nor one before another character is none. -/
theorem ne_backslash {c : Char} {cs : List Char} (hlast : c = '\\' → cs = [] → False)
    (hpair : ∀ d ds, c = '\\' → cs = d :: ds → False) : c ≠ '\\' := by
  rintro rfl
  cases cs with
  | nil => exact hlast rfl rfl
  | cons d cs => exact hpair d cs rfl rfl

/-! ## Strings -/

/-- Every quote of the kind is hidden. -/
def NeverCloses (quote : Char) (cs : List Char) : Prop :=
  ∀ before after, cs = before ++ quote :: after → hidesNext before = true

theorem neverCloses_nil (quote : Char) : NeverCloses quote [] := by
  intro before after h
  simp at h

theorem neverCloses_cons {quote c : Char} (hquote : c ≠ quote) (hc : c ≠ '\\') (cs : List Char) :
    NeverCloses quote (c :: cs) ↔ NeverCloses quote cs := by
  constructor
  · intro h before after hsplit
    rw [← hidesNext_cons hc]
    exact h (c :: before) after (by rw [hsplit, List.cons_append])
  · intro h before after hsplit
    cases before with
    | nil => exact absurd (List.cons_eq_cons.mp hsplit).1 hquote
    | cons d before =>
      obtain ⟨rfl, hrest⟩ := List.cons_eq_cons.mp hsplit
      rw [hidesNext_cons hc]
      exact h before after hrest

theorem neverCloses_pair {quote : Char} (hquote : quote ≠ '\\') (d : Char) (cs : List Char) :
    NeverCloses quote ('\\' :: d :: cs) ↔ NeverCloses quote cs := by
  constructor
  · intro h before after hsplit
    rw [← hidesNext_pair d]
    exact h ('\\' :: d :: before) after (by rw [hsplit, List.cons_append, List.cons_append])
  · intro h before after hsplit
    cases before with
    | nil => exact absurd (List.cons_eq_cons.mp hsplit).1.symm hquote
    | cons b before =>
      obtain ⟨rfl, hrest⟩ := List.cons_eq_cons.mp hsplit
      cases before with
      | nil => rfl
      | cons b before =>
        rw [hidesNext_pair]
        exact h before after (List.cons_eq_cons.mp hrest).2

theorem neverCloses_backslash {quote : Char} (hquote : quote ≠ '\\') :
    NeverCloses quote ['\\'] := by
  intro before after hsplit
  cases before with
  | nil => exact absurd (List.cons_eq_cons.mp hsplit).1.symm hquote
  | cons b before =>
    have hrest := (List.cons_eq_cons.mp hsplit).2
    simp at hrest

/-- A string has no end exactly when every quote of its kind is hidden. -/
theorem closingQuote?_eq_none_iff {quote : Char} (hquote : quote ≠ '\\') {cs : List Char}
    {n : Nat} : closingQuote? quote cs n = none ↔ NeverCloses quote cs := by
  fun_induction closingQuote? quote cs n with
  | case1 n => exact iff_of_true rfl (neverCloses_nil quote)
  | case2 n => exact iff_of_true rfl (neverCloses_backslash hquote)
  | case3 d cs n ih => rw [ih, neverCloses_pair hquote]
  | case4 c cs n _ _ hc =>
    obtain rfl : c = quote := by simpa using hc
    refine iff_of_false (by simp) fun h => ?_
    cases h [] cs rfl
  | case5 c cs n hlast hpair hc ih =>
    have hslash := ne_backslash hlast hpair
    rw [ih, neverCloses_cons (by simpa using hc) hslash]

/-- A string goes on to the first quote of its kind that is not hidden. -/
theorem closingQuote?_eq_some {quote : Char} (hquote : quote ≠ '\\') {cs : List Char} {n m : Nat}
    (h : closingQuote? quote cs n = some m) :
    ∃ content after, cs = content ++ quote :: after ∧ m = n + content.length + 1 ∧
      hidesNext content = false ∧ NeverCloses quote content := by
  fun_induction closingQuote? quote cs n with
  | case1 n => cases h
  | case2 n => cases h
  | case3 d cs n ih =>
    obtain ⟨content, after, rfl, rfl, hopen, hnever⟩ := ih h
    refine ⟨'\\' :: d :: content, after, rfl, by simp only [List.length_cons]; omega, ?_, ?_⟩
    · rw [hidesNext_pair, hopen]
    · exact (neverCloses_pair hquote d content).mpr hnever
  | case4 c cs n _ _ hc =>
    obtain rfl : c = quote := by simpa using hc
    obtain rfl := Option.some.inj h
    exact ⟨[], cs, rfl, rfl, rfl, neverCloses_nil c⟩
  | case5 c cs n hlast hpair hc ih =>
    have hslash := ne_backslash hlast hpair
    obtain ⟨content, after, rfl, rfl, hopen, hnever⟩ := ih h
    refine ⟨c :: content, after, rfl, by simp only [List.length_cons]; omega, ?_, ?_⟩
    · rw [hidesNext_cons hslash, hopen]
    · exact (neverCloses_cons (by simpa using hc) hslash content).mpr hnever

/-- Two characters with which a variable is filled in: a `$` before a name or a brace, or a brace
before a `$`. -/
def Fills (c d : Char) : Prop :=
  c = '$' ∧ (isNameStart d = true ∨ d = '{') ∨ c = '{' ∧ d = '$'

/-- Somewhere a variable is filled in by characters of which the first is not hidden. -/
def FillsIn (cs : List Char) : Prop :=
  ∃ before c d after, cs = before ++ c :: d :: after ∧ hidesNext before = false ∧ Fills c d

theorem not_fillsIn_of_length {cs : List Char} (h : cs.length ≤ 1) : ¬ FillsIn cs := by
  rintro ⟨before, c, d, after, rfl, _⟩
  simp at h
  omega

theorem fillsIn_cons {c : Char} (hc : c ≠ '\\') (cs : List Char) :
    FillsIn (c :: cs) ↔ (∃ d after, cs = d :: after ∧ Fills c d) ∨ FillsIn cs := by
  constructor
  · rintro ⟨before, c', d, after, hsplit, hopen, hfills⟩
    cases before with
    | nil =>
      obtain ⟨rfl, rfl⟩ := List.cons_eq_cons.mp hsplit
      exact .inl ⟨d, after, rfl, hfills⟩
    | cons b before =>
      obtain ⟨rfl, rfl⟩ := List.cons_eq_cons.mp hsplit
      rw [hidesNext_cons hc] at hopen
      exact .inr ⟨before, c', d, after, rfl, hopen, hfills⟩
  · rintro (⟨d, after, rfl, hfills⟩ | ⟨before, c', d, after, rfl, hopen, hfills⟩)
    · exact ⟨[], c, d, after, rfl, rfl, hfills⟩
    · exact ⟨c :: before, c', d, after, rfl, by rw [hidesNext_cons hc, hopen], hfills⟩

theorem fillsIn_pair (d : Char) (cs : List Char) : FillsIn ('\\' :: d :: cs) ↔ FillsIn cs := by
  constructor
  · rintro ⟨before, c, e, after, hsplit, hopen, hfills⟩
    cases before with
    | nil =>
      -- A backslash fills nothing in.
      obtain ⟨rfl, _⟩ := List.cons_eq_cons.mp hsplit
      rcases hfills with ⟨hc, _⟩ | ⟨hc, _⟩ <;> cases hc
    | cons b before =>
      obtain ⟨rfl, hrest⟩ := List.cons_eq_cons.mp hsplit
      cases before with
      | nil => cases hopen
      | cons b before =>
        rw [hidesNext_pair] at hopen
        exact ⟨before, c, e, after, (List.cons_eq_cons.mp hrest).2, hopen, hfills⟩
  · rintro ⟨before, c, e, after, rfl, hopen, hfills⟩
    exact ⟨'\\' :: d :: before, c, e, after, rfl, by rw [hidesNext_pair, hopen], hfills⟩

/-- A string is one in which variables are filled in exactly when there is a place for it. -/
theorem interpolates_iff {cs : List Char} : interpolates cs = true ↔ FillsIn cs := by
  fun_induction interpolates cs with
  | case1 => exact iff_of_false (by simp) (not_fillsIn_of_length (by simp))
  | case2 => exact iff_of_false (by simp) (not_fillsIn_of_length (by simp))
  | case3 d cs ih => rw [ih, fillsIn_pair]
  | case4 cs ih =>
    rw [Bool.or_eq_true, ih, fillsIn_cons (by decide), startsWith_iff]
    simp [Fills]
  | case5 cs ih =>
    rw [Bool.or_eq_true, ih, fillsIn_cons (by decide), startsWith_iff]
    simp [Fills]
  | case6 c cs hlast hpair hdollar hbrace ih =>
    have hslash := ne_backslash hlast hpair
    rw [ih, fillsIn_cons hslash, or_iff_right]
    rintro ⟨d, after, _, ⟨hc, _⟩ | ⟨hc, _⟩⟩
    · exact hdollar hc
    · exact hbrace hc

/-! ## Comments -/

/-- A block comment has no end exactly when there is no `*/`. -/
theorem commentEnd?_eq_none_iff {cs : List Char} {n : Nat} :
    commentEnd? cs n = none ↔ ¬ ['*', '/'] <:+: cs := by
  fun_induction commentEnd? cs n with
  | case1 cs n => exact iff_of_false (by simp) fun h => h ⟨[], cs, rfl⟩
  | case2 c cs n hend ih =>
    have hfront : ¬ ['*', '/'] <+: c :: cs := by
      rintro ⟨rest, hsplit⟩
      obtain ⟨rfl, rfl⟩ := List.cons_eq_cons.mp hsplit
      exact hend rest rfl rfl
    rw [ih, List.infix_cons_iff, not_or, and_iff_right hfront]
  | case3 n => exact iff_of_true rfl fun h => by cases List.infix_nil.mp h

/-- A block comment goes on to the first `*/`. -/
theorem commentEnd?_eq_some {cs : List Char} {n m : Nat} (h : commentEnd? cs n = some m) :
    ∃ inside after, cs = inside ++ '*' :: '/' :: after ∧ m = n + inside.length ∧
      ¬ ['*', '/'] <:+: inside ++ ['*'] := by
  fun_induction commentEnd? cs n with
  | case1 cs n =>
    obtain rfl := Option.some.inj h
    exact ⟨[], cs, rfl, rfl, fun hin => by simpa using hin.length_le⟩
  | case2 c cs n hend ih =>
    obtain ⟨inside, after, rfl, rfl, hnone⟩ := ih h
    refine ⟨c :: inside, after, rfl, by simp only [List.length_cons]; omega, fun hin => ?_⟩
    rw [List.cons_append, List.infix_cons_iff] at hin
    rcases hin with ⟨rest, hsplit⟩ | hin
    · -- The `/` in front would be the next character of the text too.
      obtain ⟨rfl, hslash⟩ := List.cons_eq_cons.mp hsplit
      cases inside with
      | nil => cases (List.cons_eq_cons.mp hslash).1
      | cons d inside =>
        obtain ⟨rfl, _⟩ := List.cons_eq_cons.mp hslash
        exact hend _ rfl rfl
    · exact hnone hin
  | case3 n => cases h

/-- A line comment goes on to the first line end or close tag. -/
theorem lineCommentLength_spec (cs : List Char) (n : Nat) :
    ∃ inside behind, cs = inside ++ behind ∧ lineCommentLength cs n = n + inside.length ∧
      '\n' ∉ inside ∧ '\r' ∉ inside ∧ ¬ ['?', '>'] <:+: inside ∧
      (behind = [] ∨ endsLine behind = true) := by
  induction cs generalizing n with
  | nil => exact ⟨[], [], rfl, rfl, by simp, by simp, by simp, .inl rfl⟩
  | cons c cs ih =>
    rw [lineCommentLength_cons]
    cases hend : endsLine (c :: cs) with
    | true => exact ⟨[], c :: cs, rfl, rfl, by simp, by simp, by simp, .inr hend⟩
    | false =>
      obtain ⟨inside, behind, rfl, hlength, hfeed, hreturn, htag, hbehind⟩ := ih (n + 1)
      simp only [endsLine, Bool.or_eq_false_iff, beq_eq_false_iff_ne] at hend
      obtain ⟨⟨hfeed', hreturn'⟩, htag'⟩ := hend
      refine ⟨c :: inside, behind, rfl, ?_, ?_, ?_, ?_, hbehind⟩
      · rw [if_neg Bool.false_ne_true, hlength, List.length_cons]
        omega
      · exact fun hmem => (List.mem_cons.mp hmem).elim (fun h => hfeed' h.symm) hfeed
      · exact fun hmem => (List.mem_cons.mp hmem).elim (fun h => hreturn' h.symm) hreturn
      · rw [List.infix_cons_iff, not_or]
        refine ⟨?_, htag⟩
        rintro ⟨rest, hsplit⟩
        obtain ⟨rfl, rfl⟩ := List.cons_eq_cons.mp hsplit
        cases htag'

end EscapeAudit.Lexer
