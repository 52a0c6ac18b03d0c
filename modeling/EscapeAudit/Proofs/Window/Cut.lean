import EscapeAudit.Proofs.Window.Heredoc

/-!
# The next lexeme before another text

The lemmas about the scanners come together here.  A cut takes no more characters than there are
(`cutNext_bounds`), and it stays as it is when the text behind it is exchanged for one that begins
with a barrier (`cutNext_exchange`).  The first characters of a token of code give its form, and the
form says how it is cut (`cutToken_eq`).  So it is enough that the form stays (`tokenForm_exchange`)
and each of the scanners gives the same length.  Some lexemes ask for more than that.

* A line comment has to be seen with the line end behind it.
* A `/` must not come to stand before another one.
* An opening parenthesis is left out, because a closing one can make it a cast.
* The first line of a heredoc has to be seen with the whole heredoc.
* Markup has to be seen with the open tag behind it, and an open tag without a blank stands at the
  end of the template only.
-/

namespace EscapeAudit.Lexer

/-! ## Operators -/

theorem operatorOfTwo?_barrier {d : Char} (hd : d = '$' ∨ d = ')' ∨ d = '/') (c : Char) :
    operatorOfTwo? c d = none := by
  unfold operatorOfTwo?
  rcases hd with rfl | rfl | rfl <;> split <;> first | rfl | simp_all

theorem operatorOfThree?_barrier {e : Char} (he : e = '$' ∨ e = ')' ∨ e = '/') (c d : Char) :
    operatorOfThree? c d e = none := by
  unfold operatorOfThree?
  rcases he with rfl | rfl | rfl <;> split <;> first | rfl | simp_all

theorem operatorOfThree?_second {d : Char} (hd : d = '$' ∨ d = ')' ∨ d = '/') (c e : Char) :
    operatorOfThree? c d e = none := by
  unfold operatorOfThree?
  rcases hd with rfl | rfl | rfl <;> split <;> first | rfl | simp_all

theorem cutOperator_one (s : State) (c d : Char) :
    cutOperator s c [d] =
      match operatorOfTwo? c d with
      | some kind => inCode kind 1
      | none => inCode (kindOfSign s c) 0 := by
  simp only [cutOperator]
  cases operatorOfTwo? c d <;> rfl

theorem cutOperator_two (s : State) (c d e : Char) (rest : List Char) :
    cutOperator s c (d :: e :: rest) =
      match operatorOfThree? c d e with
      | some kind => inCode kind 2
      | none => cutOperator s c [d] := by
  rw [cutOperator_one]
  simp only [cutOperator]
  cases operatorOfThree? c d e <;> cases operatorOfTwo? c d <;> rfl

/-- The ways in which an operator is cut: three characters by the table, two by the table, or one. -/
inductive OperatorCase (s : State) (c : Char) (rest : List Char) : Except Fault Cut → Prop where
  /-- Three characters. -/
  | three {d e : Char} {behind : List Char} {kind : Kind} : rest = d :: e :: behind →
    operatorOfThree? c d e = some kind → OperatorCase s c rest (inCode kind 2)
  /-- Two characters. -/
  | two {d : Char} {behind : List Char} {kind : Kind} : rest = d :: behind →
    operatorOfTwo? c d = some kind → OperatorCase s c rest (inCode kind 1)
  /-- One character. -/
  | one : OperatorCase s c rest (inCode (kindOfSign s c) 0)

theorem operatorCase (s : State) (c : Char) (rest : List Char) :
    OperatorCase s c rest (cutOperator s c rest) := by
  have hshort : ∀ {d behind}, rest = d :: behind → OperatorCase s c rest (cutOperator s c [d]) := by
    intro d behind hrest
    rw [cutOperator_one]
    split
    · exact .two hrest ‹_›
    · exact .one
  match rest with
  | [] => exact .one
  | [d] => exact hshort rfl
  | d :: e :: rest =>
    rw [cutOperator_two]
    split
    · exact .three rfl ‹_›
    · exact hshort rfl

/-- The result stands apart here, so that the cases can be told from it. -/
theorem exists_operatorCase {s : State} {c : Char} {rest : List Char} {r : Except Fault Cut}
    (h : cutOperator s c rest = r) : ∃ r', OperatorCase s c rest r' ∧ r' = r :=
  ⟨_, operatorCase s c rest, h⟩

theorem cutOperator_bounds {s : State} {c : Char} {rest : List Char} {cut : Cut}
    (h : cutOperator s c rest = .ok cut) : cut.mode = .code ∧ cut.more ≤ rest.length := by
  obtain ⟨_, hcase, hr⟩ := exists_operatorCase h
  cases hcase with
  | three hrest _ =>
    cases hr
    rw [hrest]
    exact ⟨rfl, Nat.le_add_left _ _⟩
  | two hrest _ =>
    cases hr
    rw [hrest]
    exact ⟨rfl, Nat.le_add_left _ _⟩
  | one =>
    cases hr
    exact ⟨rfl, Nat.zero_le _⟩

/-- No operator goes on with a barrier. -/
theorem cutOperator_barred (s : State) (c : Char) {other : List Char} (hother : Barred other) :
    cutOperator s c other = inCode (kindOfSign s c) 0 := by
  obtain ⟨d, rest, rfl, hd⟩ := hother.cases
  have hone : cutOperator s c [d] = inCode (kindOfSign s c) 0 := by
    rw [cutOperator_one, operatorOfTwo?_barrier hd]
  cases rest with
  | nil => exact hone
  | cons e rest => rw [cutOperator_two, operatorOfThree?_second hd, hone]

theorem cutOperator_exchange {s : State} {c : Char} {seen tail other : List Char} {cut : Cut}
    (hother : Barred other) (h : cutOperator s c (seen ++ tail) = .ok cut)
    (hlen : cut.more ≤ seen.length) : cutOperator s c (seen ++ other) = .ok cut := by
  have hshort : ∀ {d rest}, cutOperator s c (d :: rest) = .ok cut → cut.more = 0 →
      cutOperator s c [d] = .ok cut := by
    intro d rest h hzero
    cases rest with
    | nil => exact h
    | cons e rest =>
      rw [cutOperator_two] at h
      split at h
      · cases h; cases hzero
      · exact h
  match seen with
  | [] =>
    have hzero : cut.more = 0 := by simpa using hlen
    rw [List.nil_append, cutOperator_barred s c hother]
    cases tail with
    | nil => exact h
    | cons d tail =>
      have hone := hshort h hzero
      rw [cutOperator_one] at hone
      split at hone
      · cases hone; cases hzero
      · exact hone
  | [d] =>
    obtain ⟨e, rest, rfl, he⟩ := hother.cases
    rw [List.singleton_append, cutOperator_two, operatorOfThree?_barrier he]
    cases tail with
    | nil => exact h
    | cons e tail =>
      rw [List.singleton_append, cutOperator_two] at h
      split at h
      · cases h
        simp at hlen
      · exact h
  | d :: e :: seen =>
    simp only [List.cons_append, cutOperator_two] at h ⊢
    exact h

/-! ## Tags -/

theorem leadingSpace?_bounds {cs : List Char} {n : Nat} (h : leadingSpace? cs = some n) :
    0 < n ∧ n ≤ cs.length := by
  unfold leadingSpace? at h
  split at h
  · cases h; simp
  · split at h <;> cases h
    simp
  · cases h

theorem leadingSpace?_cons_of_ne {c : Char} (hc : c ≠ '\r') (cs : List Char) :
    leadingSpace? (c :: cs) = if isSpace c then some 1 else none := by
  rw [leadingSpace?]
  rintro rest rfl
  exact absurd rfl hc

theorem leadingSpace?_return {cs : List Char} (h : startsWith (· == '\n') cs = false) :
    leadingSpace? ('\r' :: cs) = some 1 := by
  rw [leadingSpace?]
  · rfl
  · rintro rest _ rfl
    cases h

theorem leadingSpace?_exchange {seen tail other : List Char} {n : Nat} (hother : Barred other)
    (h : leadingSpace? (seen ++ tail) = some n) (hlen : n ≤ seen.length) :
    leadingSpace? (seen ++ other) = some n := by
  cases seen with
  | nil =>
    have := leadingSpace?_bounds h
    simp at hlen
    omega
  | cons c seen =>
    by_cases hc : c = '\r'
    · subst hc
      have hsame : startsWith (· == '\n') (seen ++ other) = startsWith (· == '\n') (seen ++ tail) := by
        cases seen with
        | nil =>
          rw [List.nil_append, hother.startsWith_eq_false rfl rfl rfl]
          cases tail with
          | nil => rfl
          | cons d tail =>
            by_cases hd : d = '\n'
            · subst hd
              cases h
              simp at hlen
            · simp [startsWith, hd]
        | cons d seen => rfl
      cases hline : startsWith (· == '\n') (seen ++ tail) with
      | false =>
        rw [List.cons_append, leadingSpace?_return (hsame.trans hline)]
        rwa [List.cons_append, leadingSpace?_return hline] at h
      | true =>
        have htwo : ∀ cs, startsWith (· == '\n') cs = true → leadingSpace? ('\r' :: cs) = some 2 := by
          intro cs hcs
          cases cs with
          | nil => cases hcs
          | cons d cs =>
            obtain rfl : d = '\n' := by simpa [startsWith] using hcs
            rfl
        rw [List.cons_append, htwo _ (hsame.trans hline)]
        rwa [List.cons_append, htwo _ hline] at h
    · rw [List.cons_append, leadingSpace?_cons_of_ne hc] at h ⊢
      exact h

theorem lineEndLength_le (cs : List Char) : lineEndLength cs ≤ cs.length := by
  unfold lineEndLength
  split <;> simp

theorem lineEndLength_of_ne {c : Char} (hreturn : c ≠ '\r') (hline : c ≠ '\n') (cs : List Char) :
    lineEndLength (c :: cs) = 0 := by
  unfold lineEndLength
  split
  · rename_i heq; cases heq; exact absurd rfl hreturn
  · rename_i heq; cases heq; exact absurd rfl hline
  · rfl

theorem lineEndLength_exchange {seen tail other : List Char} (hother : Barred other)
    (hlen : lineEndLength (seen ++ tail) ≤ seen.length) :
    lineEndLength (seen ++ other) = lineEndLength (seen ++ tail) := by
  have hbarred : lineEndLength other = 0 := by
    obtain ⟨d, rest, rfl, rfl | rfl | rfl⟩ := hother.cases <;> rfl
  match seen with
  | [] =>
    rw [List.nil_append, List.nil_append, hbarred]
    simp at hlen
    exact hlen.symm
  | [c] =>
    by_cases hc : c = '\r'
    · subst hc
      have hnew : lineEndLength ('\r' :: other) = 0 := by
        obtain ⟨d, rest, rfl, rfl | rfl | rfl⟩ := hother.cases <;> rfl
      rw [List.singleton_append, List.singleton_append, hnew]
      unfold lineEndLength at hlen ⊢
      split
      · rename_i heq
        rw [List.singleton_append, heq] at hlen
        simp at hlen
      · rename_i heq; cases heq
      · rfl
    · by_cases hline : c = '\n'
      · subst hline
        rfl
      · rw [List.singleton_append, List.singleton_append, lineEndLength_of_ne hc hline,
          lineEndLength_of_ne hc hline]
  | c :: d :: seen =>
    simp only [List.cons_append]
    unfold lineEndLength
    split <;> simp_all

theorem isSome_leadingSpace? (c : Char) (cs : List Char) :
    (leadingSpace? (c :: cs)).isSome = isSpace c := by
  by_cases hc : c = '\r'
  · subst hc
    cases hline : startsWith (· == '\n') cs with
    | false => rw [leadingSpace?_return hline]; rfl
    | true =>
      cases cs with
      | nil => cases hline
      | cons d cs =>
        obtain rfl : d = '\n' := by simpa [startsWith] using hline
        rfl
  · rw [leadingSpace?_cons_of_ne hc]
    cases isSpace c <;> rfl

/-- The letters of the long open tag, in upper or lower case. -/
def IsWordPhp (word : List Char) : Prop :=
  ∃ a b c, word = [a, b, c] ∧ a.toLower = 'p' ∧ b.toLower = 'h' ∧ c.toLower = 'p'

theorem afterWordPhp?_eq_some_iff {cs rest : List Char} :
    afterWordPhp? cs = some rest ↔ ∃ word, cs = word ++ rest ∧ IsWordPhp word := by
  constructor
  · intro h
    unfold afterWordPhp? at h
    split at h
    · rename_i a b c rest
      split at h
      · rename_i hword
        cases h
        simp only [Bool.and_eq_true, beq_iff_eq] at hword
        exact ⟨[a, b, c], rfl, a, b, c, rfl, hword.1.1, hword.1.2, hword.2⟩
      · cases h
    · cases h
  · rintro ⟨_, rfl, a, b, c, rfl, ha, hb, hc⟩
    simp [afterWordPhp?, ha, hb, hc]

theorem IsWordPhp.cases {word : List Char} (h : IsWordPhp word) :
    ∃ a b c, word = [a, b, c] ∧ a ≠ '=' ∧ isSpace a = false := by
  obtain ⟨a, b, c, rfl, ha, _, _⟩ := h
  refine ⟨a, b, c, rfl, ?_, ?_⟩
  · rintro rfl
    exact absurd ha (by decide)
  · cases hspace : isSpace a with
    | false => rfl
    | true =>
      have hcases : a = ' ' ∨ a = '\t' ∨ a = '\n' ∨ a = '\r' ∨ a = '\x0b' ∨ a = '\x0c' := by
        simpa [isSpace, or_assoc] using hspace
      rcases hcases with rfl | rfl | rfl | rfl | rfl | rfl <;> exact absurd ha (by decide)

/-- The three open tags. -/
theorem openTag?_eq_some_iff {cs : List Char} {kind : Kind} {more : Nat} :
    openTag? cs = some (kind, more) ↔
      (∃ rest, cs = '<' :: '?' :: '=' :: rest ∧ kind = .openTagWithEcho ∧ more = 2) ∨
      (∃ word rest n, cs = '<' :: '?' :: (word ++ rest) ∧ (word = [] ∨ IsWordPhp word) ∧
        tagEnd? rest = some n ∧ kind = .openTag ∧ more = 1 + word.length + n) := by
  constructor
  · intro h
    unfold openTag? at h
    split at h
    · cases h
      exact .inl ⟨_, rfl, rfl, rfl⟩
    · rename_i rest _
      split at h
      · rename_i behind hword
        obtain ⟨n, hn, heq⟩ := Option.map_eq_some_iff.mp h
        cases heq
        obtain ⟨word, rfl, hform⟩ := afterWordPhp?_eq_some_iff.mp hword
        refine .inr ⟨word, behind, n, rfl, .inr hform, hn, rfl, ?_⟩
        obtain ⟨a, b, c, rfl, _⟩ := hform.cases
        rfl
      · obtain ⟨n, hn, heq⟩ := Option.map_eq_some_iff.mp h
        cases heq
        exact .inr ⟨[], rest, n, rfl, .inl rfl, hn, rfl, by simp⟩
    · cases h
  · rintro (⟨rest, rfl, rfl, rfl⟩ | ⟨word, rest, n, rfl, hword, hend, rfl, rfl⟩)
    · rfl
    · rcases hword with rfl | hword
      · -- A blank or the end of the template is neither `=` nor a letter.
        have hnone : afterWordPhp? rest = none := by
          cases hword : afterWordPhp? rest with
          | none => rfl
          | some behind =>
            obtain ⟨word, rfl, hform⟩ := afterWordPhp?_eq_some_iff.mp hword
            obtain ⟨a, b, c, rfl, _, hspace⟩ := hform.cases
            have hsome := isSome_leadingSpace? a ([b, c] ++ behind)
            rw [hspace] at hsome
            have hend : leadingSpace? (a :: ([b, c] ++ behind)) = some n := hend
            rw [hend] at hsome
            cases hsome
        rw [List.nil_append, openTag?, hnone, hend]
        · rfl
        · rintro rest rfl
          cases hend
      · have hsome : afterWordPhp? (word ++ rest) = some rest :=
          afterWordPhp?_eq_some_iff.mpr ⟨word, rfl, hword⟩
        obtain ⟨a, b, c, rfl, ha, _⟩ := hword.cases
        rw [openTag?, hsome]
        · simp [hend]
        · rintro rest heq
          cases heq
          exact absurd rfl ha

theorem openTag?_bounds {c : Char} {rest : List Char} {kind : Kind} {more : Nat}
    (h : openTag? (c :: rest) = some (kind, more)) : more ≤ rest.length := by
  rcases openTag?_eq_some_iff.mp h with ⟨behind, heq, rfl, rfl⟩ | ⟨word, behind, n, heq, _, hend, _, rfl⟩
  · cases heq
    simp
  · cases heq
    have hle : n ≤ behind.length := by
      cases behind with
      | nil => cases hend; simp
      | cons d behind => exact (leadingSpace?_bounds hend).2
    simp
    omega

/-- An open tag that is seen is one before every barred text, unless it stood at the end of the
template. -/
theorem openTag?_exchange {c : Char} {seen tail other : List Char} {kind : Kind} {more : Nat}
    (hother : Barred other) (h : openTag? (c :: (seen ++ tail)) = some (kind, more))
    (hlen : more ≤ seen.length) (hend : kind = .openTag → more < (seen ++ tail).length) :
    openTag? (c :: (seen ++ other)) = some (kind, more) := by
  rcases openTag?_eq_some_iff.mp h with
    ⟨rest, heq, rfl, rfl⟩ | ⟨word, rest, n, heq, hword, htag, rfl, rfl⟩
  · obtain ⟨rfl, hsplit⟩ := List.cons_eq_cons.mp heq
    replace hsplit : seen ++ tail = ['?', '='] ++ rest := hsplit
    obtain ⟨more, rfl, _⟩ := piece_seen hsplit (by simpa using hlen)
    rfl
  · obtain ⟨rfl, hsplit⟩ := List.cons_eq_cons.mp heq
    replace hsplit : seen ++ tail = ('?' :: word) ++ rest := hsplit
    have hbehind : rest ≠ [] := by
      rintro rfl
      have hlt := hend rfl
      rw [hsplit, List.append_nil, List.length_cons] at hlt
      cases htag
      omega
    obtain ⟨more, rfl, rfl⟩ := piece_seen hsplit (by simp; omega)
    have hspace : leadingSpace? (more ++ tail) = some n := by
      cases hcs : more ++ tail with
      | nil => exact absurd hcs hbehind
      | cons d ds => rw [hcs] at htag; exact htag
    have hnew : leadingSpace? (more ++ other) = some n :=
      leadingSpace?_exchange hother hspace (by simp at hlen; omega)
    have htag' : tagEnd? (more ++ other) = some n := by
      cases hcs : more ++ other with
      | nil => rw [hcs] at hnew; cases hnew
      | cons d ds => rw [hcs] at hnew; exact hnew
    exact openTag?_eq_some_iff.mpr
      (.inr ⟨word, more ++ other, n, by simp, hword, htag', rfl, rfl⟩)

/-! ## Markup -/

theorem tagEnd?_isSome_append {cs y z : List Char}
    (h : (tagEnd? (cs ++ '<' :: y)).isSome = true) : (tagEnd? (cs ++ '<' :: z)).isSome = true := by
  cases cs with
  | nil =>
    have hspace := isSome_leadingSpace? '<' y
    rw [show leadingSpace? ('<' :: y) = tagEnd? ([] ++ '<' :: y) from rfl, h] at hspace
    cases hspace
  | cons c cs =>
    have hspace := isSome_leadingSpace? c (cs ++ '<' :: y)
    rw [← isSome_leadingSpace? c (cs ++ '<' :: z)] at hspace
    exact hspace.symm.trans h

/-- What stands behind the `<` that comes next does not make an open tag here. -/
theorem openTag?_isSome_append {x y z : List Char} (hx : x ≠ [])
    (h : (openTag? (x ++ '<' :: y)).isSome = true) : (openTag? (x ++ '<' :: z)).isSome = true := by
  obtain ⟨⟨kind, more⟩, hsome⟩ := Option.isSome_iff_exists.mp h
  rcases openTag?_eq_some_iff.mp hsome with
    ⟨rest, heq, rfl, rfl⟩ | ⟨word, rest, n, heq, hword, htag, rfl, rfl⟩
  · match x, hx, heq with
    | [c], _, heq => cases heq
    | [c, d], _, heq => cases heq
    | c :: d :: e :: x, _, heq =>
      simp only [List.cons_append, List.cons.injEq] at heq
      obtain ⟨rfl, rfl, rfl, _⟩ := heq
      rfl
  · cases x with
    | nil => exact absurd rfl hx
    | cons c x =>
      obtain ⟨rfl, hsplit⟩ := List.cons_eq_cons.mp heq
      replace hsplit : x ++ '<' :: y = ('?' :: word) ++ rest := hsplit
      have hclear : ∀ c ∈ '?' :: word, (c == '<') = false := by
        intro c hc
        rcases List.mem_cons.mp hc with rfl | hc
        · rfl
        · rcases hword with rfl | ⟨p, q, r, rfl, hp, hq, hr⟩
          · cases hc
          · by_cases hlt : c = '<'
            · subst hlt
              simp only [List.mem_cons, List.not_mem_nil, or_false] at hc
              rcases hc with rfl | rfl | rfl
              · exact absurd hp (by decide)
              · exact absurd hq (by decide)
              · exact absurd hr (by decide)
            · simpa using hlt
      obtain ⟨more, rfl, rfl⟩ := piece_seen_of_stop rfl hsplit hclear
      obtain ⟨m, hm⟩ := Option.isSome_iff_exists.mp
        (tagEnd?_isSome_append (z := z) (htag ▸ rfl : (tagEnd? (more ++ '<' :: y)).isSome = true))
      refine Option.isSome_iff_exists.mpr ⟨_, openTag?_eq_some_iff.mpr
        (.inr ⟨word, more ++ '<' :: z, m, by simp, hword, hm, rfl, rfl⟩)⟩

theorem markupLength_bounds (cs : List Char) (n : Nat) :
    n ≤ markupLength cs n ∧ markupLength cs n ≤ n + cs.length := by
  induction cs generalizing n with
  | nil => simp [markupLength]
  | cons c cs ih =>
    rw [markupLength]
    split
    · simp
    · have := ih (n + 1)
      simp only [List.length_cons]
      omega

/-- Markup is followed by an open tag or by nothing. -/
theorem openTag?_behind_markup {x y : List Char} {n : Nat}
    (h : markupLength (x ++ y) n = n + x.length) :
    y = [] ∨ (openTag? y).isSome = true := by
  induction x generalizing n with
  | nil =>
    cases y with
    | nil => exact .inl rfl
    | cons c y =>
      rw [List.nil_append, markupLength] at h
      split at h
      · exact .inr ‹_›
      · have := (markupLength_bounds y (n + 1)).1
        simp at h
        omega
  | cons c x ih =>
    rw [List.cons_append, markupLength] at h
    split at h
    · simp at h
    · exact ih (n := n + 1) (by rw [h, List.length_cons]; omega)

/-- Markup ends where it does before every open tag. -/
theorem markupLength_exchange {x y z : List Char} {n : Nat}
    (h : markupLength (x ++ '<' :: y) n = n + x.length)
    (hopen : (openTag? ('<' :: z)).isSome = true) :
    markupLength (x ++ '<' :: z) n = n + x.length := by
  induction x generalizing n with
  | nil => simp [markupLength, hopen]
  | cons c x ih =>
    rw [List.cons_append, markupLength] at h ⊢
    split at h
    · simp at h
    · rename_i hnone
      have hnone' : ¬ (openTag? (c :: (x ++ '<' :: z))).isSome = true :=
        fun hsome => hnone (openTag?_isSome_append (x := c :: x) (by simp) hsome)
      rw [if_neg hnone', ih (by rw [h, List.length_cons]; omega), List.length_cons]
      omega

theorem cutMarkup_bounds (c : Char) (rest : List Char) : (cutMarkup c rest).more ≤ rest.length := by
  unfold cutMarkup
  split
  · exact openTag?_bounds ‹_›
  · have := (markupLength_bounds rest 0).2
    simpa using this

/-- A piece of markup is followed by an open tag, or it stands at the end. -/
theorem cutMarkup_inlineHtml {c : Char} {rest : List Char} (h : (cutMarkup c rest).kind = .inlineHtml) :
    cutMarkup c rest = ⟨.inlineHtml, markupLength rest 0, .markup⟩ ∧ openTag? (c :: rest) = none := by
  unfold cutMarkup at h ⊢
  split
  · rename_i kind more hopen
    rw [hopen] at h
    obtain rfl : kind = .inlineHtml := h
    rcases openTag?_eq_some_iff.mp hopen with ⟨_, _, hkind, _⟩ | ⟨_, _, _, _, _, _, hkind, _⟩ <;>
      cases hkind
  · exact ⟨rfl, ‹_›⟩

/-- A piece of markup that is seen with the open tag behind it stays as it is. -/
theorem cutMarkup_exchange {c : Char} {x y z : List Char}
    (h : cutMarkup c (x ++ '<' :: y) = ⟨.inlineHtml, x.length, .markup⟩)
    (hopen : (openTag? ('<' :: z)).isSome = true) :
    cutMarkup c (x ++ '<' :: z) = ⟨.inlineHtml, x.length, .markup⟩ := by
  obtain ⟨hcut, hnone⟩ := cutMarkup_inlineHtml (by rw [h])
  have hlength : markupLength (x ++ '<' :: y) 0 = 0 + x.length := by
    rw [h] at hcut
    simpa using (congrArg Cut.more hcut).symm
  have hnone' : openTag? (c :: (x ++ '<' :: z)) = none := by
    cases hnew : openTag? (c :: (x ++ '<' :: z)) with
    | none => rfl
    | some tag =>
      have hsome := openTag?_isSome_append (x := c :: x) (y := z) (z := y) (by simp)
        (by rw [List.cons_append, hnew]; rfl)
      rw [List.cons_append, hnone] at hsome
      cases hsome
  rw [cutMarkup, hnone', markupLength_exchange hlength hopen, Nat.zero_add]

/-! ## Code -/

/-- Whether a line comment begins with a character before others. -/
def beginsLineComment (c : Char) (rest : List Char) : Bool :=
  c == '#' || (c == '/' && startsWith (· == '/') rest)

theorem cutComment_eq_ok {kind : Kind} {more : Nat} {cut : Cut} (h : cutComment kind more = .ok cut) :
    cut = ⟨kind, more, .code⟩ := by
  unfold cutComment at h
  split at h
  · cases h
  · exact (Except.ok.inj h).symm

theorem cutBlockComment_eq_ok {inside : List Char} {cut : Cut}
    (h : cutBlockComment inside = .ok cut) :
    ∃ n, commentEnd? inside 0 = some n ∧ cut.more = n + 3 ∧ cut.mode = .code := by
  unfold cutBlockComment at h
  split at h
  · cases h
  · rename_i n hend
    obtain rfl := cutComment_eq_ok h
    exact ⟨n, hend, rfl, rfl⟩

theorem kind_of_cutBlockComment {inside : List Char} {cut : Cut}
    (h : cutBlockComment inside = .ok cut) : cut.kind = .comment ∨ cut.kind = .docComment := by
  unfold cutBlockComment at h
  split at h
  · cases h
  · obtain rfl := cutComment_eq_ok h
    dsimp only
    split
    · exact .inr rfl
    · exact .inl rfl

theorem cutBlockComment_exchange {seen tail : List Char} {cut : Cut} (other : List Char)
    (h : cutBlockComment (seen ++ tail) = .ok cut) (hlen : cut.more ≤ seen.length + 1) :
    cutBlockComment (seen ++ other) = .ok cut := by
  obtain ⟨n, hend, hmore, _⟩ := cutBlockComment_eq_ok h
  have hnew := commentEnd?_exchange other hend (by omega)
  have hne : seen ≠ [] := by rintro rfl; simp at hlen; omega
  rw [cutBlockComment, hend] at h
  rw [cutBlockComment, hnew, startsWith_append_of_ne_nil hne _ other tail]
  exact h

theorem cutString_eq_ok {quote : Char} {rest : List Char} {cut : Cut}
    (h : cutString quote rest = .ok cut) :
    closingQuote? quote rest 0 = some cut.more ∧ cut.mode = .code := by
  unfold cutString at h
  split at h
  · cases h
  · rename_i n hend
    dsimp only at h
    split at h
    · cases h
    · cases h
      exact ⟨hend, rfl⟩

theorem kind_of_cutString {quote : Char} {rest : List Char} {cut : Cut}
    (h : cutString quote rest = .ok cut) :
    cut.kind = .doubleQuotedString ∨ cut.kind = .constantString := by
  unfold cutString at h
  split at h
  · cases h
  · dsimp only at h
    split at h <;> cases h
    dsimp only
    split
    · exact .inl rfl
    · exact .inr rfl

theorem cutString_exchange {quote : Char} {seen tail : List Char} {cut : Cut} (other : List Char)
    (h : cutString quote (seen ++ tail) = .ok cut) (hlen : cut.more ≤ seen.length) :
    cutString quote (seen ++ other) = .ok cut := by
  obtain ⟨hend, _⟩ := cutString_eq_ok h
  have hnew := closingQuote?_exchange other hend (by omega)
  rw [cutString, hend] at h
  rw [cutString, hnew]
  dsimp only at h ⊢
  rw [List.take_append_of_le_length hlen] at h ⊢
  exact h

/-- A heredoc is cut at its first closing line. -/
theorem cutHeredoc_of_firstClosing {header : HeredocHeader} {body text padding rest : List Char}
    (hlabel : startsWith isNamePart header.label = true)
    (h : FirstClosing header.label body text padding rest) :
    cutHeredoc header body = .ok ⟨if header.nowdoc then .startNowdoc else .startHeredoc,
      header.length + 2, .heredoc text.length (padding ++ header.label).length⟩ := by
  have hbody : Text.charsWithin (Text.byteLength text) body 0 = text.length := by
    rw [h.split, Text.charsWithin_append, Nat.zero_add]
  have hcloser : Text.charsWithin (Text.byteLength (padding ++ header.label))
      (body.drop text.length) 0 = (padding ++ header.label).length := by
    rw [h.split, List.drop_left, ← List.append_assoc, Text.charsWithin_append, Nat.zero_add]
  rw [cutHeredoc, (heredocCloser?_eq_some_iff hlabel).mpr ⟨text, padding, rest, h, rfl, rfl⟩]
  dsimp only
  rw [hbody, hcloser]

theorem cutHeredoc_eq_ok {header : HeredocHeader} {body : List Char} {cut : Cut}
    (hlabel : startsWith isNamePart header.label = true) (h : cutHeredoc header body = .ok cut) :
    ∃ text padding rest, FirstClosing header.label body text padding rest ∧
      cut.mode = .heredoc text.length (padding ++ header.label).length := by
  cases hfound : heredocCloser? header.label true body 0 with
  | none =>
    rw [cutHeredoc, hfound] at h
    cases h
  | some found =>
    obtain ⟨text, padding, rest, hfirst, _⟩ := exists_firstClosing hlabel hfound
    rw [cutHeredoc_of_firstClosing hlabel hfirst] at h
    cases h
    exact ⟨text, padding, rest, hfirst, rfl⟩

theorem more_of_cutHeredoc {header : HeredocHeader} {body : List Char} {cut : Cut}
    (h : cutHeredoc header body = .ok cut) : cut.more = header.length + 2 := by
  unfold cutHeredoc at h
  split at h <;> cases h
  rfl

theorem kind_of_cutHeredoc {header : HeredocHeader} {body : List Char} {cut : Cut}
    (h : cutHeredoc header body = .ok cut) :
    cut.kind = .startHeredoc ∨ cut.kind = .startNowdoc := by
  unfold cutHeredoc at h
  split at h <;> cases h
  dsimp only
  split
  · exact .inr rfl
  · exact .inl rfl

theorem cutHeredoc_exchange {header : HeredocHeader} (hlabel : IsLabel header.label)
    {seen tail other : List Char} {cut : Cut} (hother : Barred other)
    (h : cutHeredoc header (seen ++ tail) = .ok cut)
    (hlen : ∀ body closer, cut.mode = .heredoc body closer → body + closer ≤ seen.length) :
    cutHeredoc header (seen ++ other) = .ok cut := by
  obtain ⟨text, padding, rest, hfirst, hmode⟩ := cutHeredoc_eq_ok hlabel.startsPart h
  have hends : ∀ more, rest = more ++ tail → startsWith isNamePart (more ++ other) = false := by
    rintro more rfl
    exact startsWith_barred hfirst.ends (hother.startsWith_eq_false rfl rfl rfl)
  obtain ⟨rest', hnew⟩ := hfirst.exchange hlabel (hlen _ _ hmode) hends
  rw [cutHeredoc_of_firstClosing hlabel.startsPart hfirst] at h
  rw [cutHeredoc_of_firstClosing hlabel.startsPart hnew]
  exact h

theorem cutName_exchange {s : State} {c : Char} {seen tail other : List Char} {cut : Cut}
    (hother : Barred other) (h : cutName s c (seen ++ tail) = .ok cut)
    (hlen : cut.more ≤ seen.length) : cutName s c (seen ++ other) = .ok cut := by
  have hmore : cut.more = nameLength (seen ++ tail) 0 := by
    cases h
    rfl
  have hname : nameLength (seen ++ other) 0 = nameLength (seen ++ tail) 0 :=
    nameLength_exchange hother (by omega)
  unfold cutName at h ⊢
  dsimp only at h ⊢
  rw [← hmore, List.take_append_of_le_length hlen] at h
  rw [hname, ← hmore, List.take_append_of_le_length hlen]
  exact h

theorem heredocAt?_eq_some_iff {cs body : List Char} {header : HeredocHeader} :
    heredocAt? cs = some (header, body) ↔ ∃ rest, cs = '<' :: '<' :: rest ∧
      heredocHeader? rest = some header ∧ body = rest.drop header.length := by
  constructor
  · intro h
    unfold heredocAt? at h
    split at h
    · obtain ⟨header', hheader, heq⟩ := Option.map_eq_some_iff.mp h
      cases heq
      exact ⟨_, rfl, hheader, rfl⟩
    · cases h
  · rintro ⟨rest, rfl, hheader, rfl⟩
    simp [heredocAt?, hheader]

theorem isLabel_of_heredocAt? {cs body : List Char} {header : HeredocHeader}
    (h : heredocAt? cs = some (header, body)) : IsLabel header.label := by
  obtain ⟨_, _, hheader, _⟩ := heredocAt?_eq_some_iff.mp h
  obtain ⟨_, _, _, hform⟩ := heredocHeader?_eq_some_iff.mp hheader
  exact hform.label

/-- The first line of a heredoc that is seen, with the text behind it. -/
theorem heredocAt?_exchange {seen tail other body : List Char} {header : HeredocHeader}
    (hother : Barred other) (h : heredocAt? (seen ++ tail) = some (header, body))
    (hlen : header.length + 2 ≤ seen.length) :
    ∃ more, body = more ++ tail ∧ heredocAt? (seen ++ other) = some (header, more ++ other) ∧
      header.length + 2 + more.length = seen.length := by
  obtain ⟨rest, hsplit, hheader, rfl⟩ := heredocAt?_eq_some_iff.mp h
  replace hsplit : seen ++ tail = ['<', '<'] ++ rest := hsplit
  obtain ⟨more, rfl, rfl⟩ := piece_seen hsplit (by simp; omega)
  have hle : header.length ≤ more.length := by simp at hlen; omega
  have hnew : heredocHeader? (more ++ other) = some header := by
    rw [← hheader]
    refine heredocHeader?_exchange hother fun h' hh' => ?_
    rw [hheader] at hh'
    exact Option.some.inj hh' ▸ hle
  refine ⟨more.drop header.length, List.drop_append_of_le_length hle,
    heredocAt?_eq_some_iff.mpr ⟨more ++ other, by simp, hnew, ?_⟩, by simp; omega⟩
  exact (List.drop_append_of_le_length hle).symm

theorem heredocAt?_eq_none {seen tail other : List Char} (hother : Barred other)
    (h : heredocAt? (seen ++ tail) = none) : heredocAt? (seen ++ other) = none := by
  cases hnew : heredocAt? (seen ++ other) with
  | none => rfl
  | some found =>
    obtain ⟨header, body⟩ := found
    obtain ⟨rest, hsplit, hheader, rfl⟩ := heredocAt?_eq_some_iff.mp hnew
    replace hsplit : seen ++ other = ['<', '<'] ++ rest := hsplit
    obtain ⟨more, rfl, rfl⟩ := piece_seen_of_stop hother hsplit (by simp [isBarrier])
    obtain ⟨text, rest, hsplit, hform⟩ := heredocHeader?_eq_some_iff.mp hheader
    obtain ⟨more, rfl, _⟩ := piece_seen_of_stop hother hsplit hform.not_isBarrier
    have hsome : heredocAt? (['<', '<'] ++ (text ++ more) ++ tail) = some (header, _) :=
      heredocAt?_eq_some_iff.mpr ⟨text ++ (more ++ tail), by simp,
        heredocHeader?_eq_some_iff.mpr ⟨text, more ++ tail, rfl, hform⟩, rfl⟩
    rw [h] at hsome
    cases hsome

/-! ## Forms of tokens -/

/-- What a token of code is by its first characters. -/
inductive TokenForm where
  /-- A run of blanks. -/
  | blank
  /-- A comment to the end of its line. -/
  | line
  /-- A comment with an end of its own. -/
  | block
  /-- A variable. -/
  | dollar
  /-- A string. -/
  | quote
  /-- `<`, which may open a heredoc. -/
  | less
  /-- `(`, which may begin a cast. -/
  | parenthesis
  /-- A name. -/
  | name
  /-- A number. -/
  | number
  /-- A sign. -/
  | operator

/-- The form of the next token of code. -/
def tokenForm (c : Char) (rest : List Char) : TokenForm :=
  if isSpace c then .blank
  else if beginsLineComment c rest then .line
  else if c == '/' && startsWith (· == '*') rest then .block
  else if c == '$' && startsWith isNameStart rest then .dollar
  else if c == '\'' || c == '"' then .quote
  else if c == '<' then .less
  else if c == '(' then .parenthesis
  else if isNameStart c || (c == '\\' && startsWith isNameStart rest) then .name
  else if c.isDigit || (c == '.' && startsWith Char.isDigit rest) then .number
  else .operator

/-- Cuts a token whose form is known. -/
def TokenForm.cut (s : State) (c : Char) (rest : List Char) : TokenForm → Except Fault Cut
  | blank => inCode .whitespace (runLength isSpace rest)
  | line => cutComment .comment (lineCommentLength rest 0)
  | block => cutBlockComment (rest.drop 1)
  | dollar => inCode .variable (runLength isNamePart rest)
  | quote => cutString c rest
  | less =>
    match heredocAt? rest with
    | some (header, body) => cutHeredoc header body
    | none => cutOperator s c rest
  | parenthesis =>
    match castLength? rest with
    | some n => inCode .cast n
    | none => inCode .openParenthesis 0
  | name => cutName s c rest
  | number => inCode .number (numberLength (c :: rest) - 1)
  | operator => cutOperator s c rest

/-- A token is cut by its form. -/
theorem cutToken_eq (s : State) (c : Char) (rest : List Char) :
    cutToken s c rest = (tokenForm c rest).cut s c rest := by
  simp only [tokenForm, apply_ite (TokenForm.cut s c rest)]
  rfl

theorem beginsLineComment_of_tokenForm {c : Char} {rest : List Char} (h : tokenForm c rest = .line) :
    beginsLineComment c rest = true := by
  unfold tokenForm at h
  grind

/-- Whether the first character of a token has its form from the next one. -/
def joinsNext (c : Char) (rest : List Char) : Bool :=
  (c == '/' && startsWith (· == '/') rest) || (c == '/' && startsWith (· == '*') rest) ||
    (c == '$' && startsWith isNameStart rest) || (c == '\\' && startsWith isNameStart rest) ||
    (c == '.' && startsWith Char.isDigit rest)

/-- Where the first character does not join the next one, it decides the form alone. -/
theorem tokenForm_congr {c : Char} {rest rest' : List Char} (h : joinsNext c rest = false)
    (h' : joinsNext c rest' = false) : tokenForm c rest = tokenForm c rest' := by
  simp only [joinsNext, Bool.or_eq_false_iff] at h h'
  obtain ⟨⟨⟨⟨hline, hblock⟩, hdollar⟩, hpath⟩, hpoint⟩ := h
  obtain ⟨⟨⟨⟨hline', hblock'⟩, hdollar'⟩, hpath'⟩, hpoint'⟩ := h'
  simp only [tokenForm, beginsLineComment, hline, hblock, hdollar, hpath, hpoint, hline', hblock',
    hdollar', hpath', hpoint']

/-- A token whose first character joins the next one takes that one, too. -/
theorem more_pos_of_joinsNext {s : State} {c : Char} {rest : List Char} {cut : Cut}
    (h : cutToken s c rest = .ok cut) (hjoins : joinsNext c rest = true) : 0 < cut.more := by
  simp only [joinsNext, Bool.or_eq_true, Bool.and_eq_true, beq_iff_eq] at hjoins
  rw [cutToken_eq] at h
  rcases hjoins with (((⟨rfl, hslash⟩ | ⟨rfl, hstar⟩) | ⟨rfl, hname⟩) | ⟨rfl, hname⟩) |
    ⟨rfl, hdigit⟩
  · have hform : tokenForm '/' rest = .line := by
      simp [tokenForm, beginsLineComment, hslash, isSpace]
    rw [hform] at h
    rw [cutComment_eq_ok h]
    exact lineCommentLength_pos hslash
  · obtain ⟨d, inside, rfl, hd⟩ := startsWith_iff.mp hstar
    obtain rfl : d = '*' := beq_iff_eq.mp hd
    obtain ⟨n, _, hmore, _⟩ := cutBlockComment_eq_ok (show cutBlockComment inside = _ from h)
    omega
  · have hform : tokenForm '$' rest = .dollar := by
      simp [tokenForm, beginsLineComment, hname, isSpace]
    rw [hform] at h
    cases h
    exact runLength_pos (startsWith_isNamePart hname)
  · have hform : tokenForm '\\' rest = .name := by
      simp [tokenForm, beginsLineComment, hname, isSpace]
    rw [hform] at h
    cases h
    exact lt_nameLength hname 0
  · have hform : tokenForm '.' rest = .number := by
      simp [tokenForm, beginsLineComment, hdigit, isSpace, isNameStart]
    rw [hform] at h
    cases h
    have := two_le_numberLength hdigit
    dsimp only
    omega

theorem Barred.joinsNext_eq_false {c : Char} {other : List Char} (hother : Barred other)
    (hslash : c = '/' → startsWith (· == '/') other = false) : joinsNext c other = false := by
  have hline : (c == '/' && startsWith (· == '/') other) = false := by
    by_cases hc : c = '/'
    · rw [hslash hc, Bool.and_false]
    · rw [beq_false_of_ne hc, Bool.false_and]
  rw [joinsNext, hline, hother.startsWith_eq_false rfl rfl rfl,
    hother.startsWith_eq_false rfl rfl rfl, hother.startsWith_eq_false rfl rfl rfl]
  simp only [Bool.and_false, Bool.or_false]

/-- The form of a token that is seen stays as it is before every barred text. -/
theorem tokenForm_exchange {s : State} {c : Char} {seen tail other : List Char} {cut : Cut}
    (hother : Barred other) (h : cutToken s c (seen ++ tail) = .ok cut)
    (hlen : cut.more ≤ seen.length)
    (hslash : c = '/' → seen = [] → startsWith (· == '/') other = false) :
    tokenForm c (seen ++ other) = tokenForm c (seen ++ tail) := by
  cases seen with
  | cons d seen => rfl
  | nil =>
    -- A token of one character does not join what stands behind it.
    refine tokenForm_congr (hother.joinsNext_eq_false fun hc => hslash hc rfl) ?_
    exact Bool.eq_false_iff.mpr fun hjoins => Nat.not_lt.mpr hlen (more_pos_of_joinsNext h hjoins)

/-- A lexeme of code that is seen stays as it is before every barred text. -/
theorem cutToken_exchange {s : State} {c : Char} {seen tail other : List Char} {cut : Cut}
    (hother : Barred other) (h : cutToken s c (seen ++ tail) = .ok cut)
    (hlen : cut.more ≤ seen.length) (hparen : cut.kind ≠ .openParenthesis)
    (hslash : c = '/' → seen = [] → startsWith (· == '/') other = false)
    (hcomment : beginsLineComment c (seen ++ tail) = true → endsLine (seen.drop cut.more) = true)
    (hheredoc : ∀ body closer, cut.mode = .heredoc body closer →
      cut.more + body + closer ≤ seen.length) :
    cutToken s c (seen ++ other) = .ok cut := by
  have hform := tokenForm_exchange hother h hlen hslash
  rw [cutToken_eq] at h ⊢
  rw [hform]
  generalize hc : tokenForm c (seen ++ tail) = form at h
  cases form with
  | blank =>
    cases h
    rw [TokenForm.cut, runLength_exchange hlen (hother.startsWith_eq_false rfl rfl rfl)]
    rfl
  | line =>
    have hend := hcomment (beginsLineComment_of_tokenForm hc)
    obtain rfl := cutComment_eq_ok h
    have hsame := lineCommentLength_exchange other (Nat.zero_add _).symm hend
    rw [Nat.zero_add] at hsame
    rw [TokenForm.cut, hsame]
    exact h
  | block =>
    obtain ⟨n, _, hmore, _⟩ := cutBlockComment_eq_ok h
    cases seen with
    | nil =>
      rw [hmore] at hlen
      cases hlen
    | cons d seen => exact cutBlockComment_exchange other h hlen
  | dollar =>
    cases h
    rw [TokenForm.cut, runLength_exchange hlen (hother.startsWith_eq_false rfl rfl rfl)]
    rfl
  | quote => exact cutString_exchange other h hlen
  | less =>
    rw [TokenForm.cut] at h ⊢
    split at h
    · rename_i header body hat
      have hmore := more_of_cutHeredoc h
      obtain ⟨more, rfl, hnew, hsize⟩ := heredocAt?_exchange hother hat (by omega)
      rw [hnew]
      refine cutHeredoc_exchange (isLabel_of_heredocAt? hat) hother h fun body closer hmode => ?_
      have := hheredoc body closer hmode
      omega
    · rename_i hat
      rw [heredocAt?_eq_none hother hat]
      exact cutOperator_exchange hother h hlen
  | parenthesis =>
    rw [TokenForm.cut] at h
    split at h
    · rename_i n hcast
      cases h
      rw [TokenForm.cut, castLength?_exchange other hcast hlen]
      rfl
    · cases h
      exact absurd rfl hparen
  | name => exact cutName_exchange hother h hlen
  | number =>
    have hmore : cut.more = numberLength (c :: (seen ++ tail)) - 1 := by cases h; rfl
    have hsame : numberLength (c :: seen ++ other) = numberLength (c :: seen ++ tail) :=
      numberLength_exchange hother (by simp) (by simp only [List.cons_append, List.length_cons]; omega)
    rw [TokenForm.cut, ← List.cons_append, hsame]
    exact h
  | operator => exact cutOperator_exchange hother h hlen

/-! ## Close tags -/

theorem closeTag?_bounds {rest : List Char} {n : Nat} (h : closeTag? rest = some n) :
    0 < n ∧ n ≤ rest.length := by
  unfold closeTag? at h
  split at h
  · rename_i rest
    cases h
    have := lineEndLength_le rest
    simp
    omega
  · cases h

theorem closeTag?_exchange {seen tail other : List Char} {n : Nat} (hother : Barred other)
    (h : closeTag? (seen ++ tail) = some n) (hlen : n ≤ seen.length) :
    closeTag? (seen ++ other) = some n := by
  cases seen with
  | nil =>
    have := closeTag?_bounds h
    simp at hlen
    omega
  | cons c seen =>
    by_cases hc : c = '>'
    · subst hc
      simp only [List.cons_append, closeTag?] at h ⊢
      have hsame : lineEndLength (seen ++ other) = lineEndLength (seen ++ tail) :=
        lineEndLength_exchange hother (by cases h; simp at hlen; omega)
      rw [hsame]
      exact h
    · simp [closeTag?, hc] at h

theorem closeTag?_eq_none {seen tail other : List Char} (hother : Barred other)
    (h : closeTag? (seen ++ tail) = none) : closeTag? (seen ++ other) = none := by
  cases seen with
  | nil => obtain ⟨d, rest, rfl, rfl | rfl | rfl⟩ := hother.cases <;> rfl
  | cons c seen =>
    by_cases hc : c = '>'
    · subst hc
      simp [closeTag?] at h
    · simp [closeTag?, hc]

/-! ## The next lexeme -/

/-- The parts of a heredoc that are still to come fit into the characters that are left. -/
def Mode.Fits (left : Nat) : Mode → Prop
  | .heredoc body closer => 0 < closer ∧ body + closer ≤ left
  | _ => True

theorem Mode.fits_of_eq_code {mode : Mode} (h : mode = .code) (left : Nat) : mode.Fits left := by
  rw [h]
  trivial

/-- The cases of scanning a token of code, each with what is asked of the characters in front. -/
inductive TokenCase (s : State) (c : Char) (rest : List Char) : Except Fault Cut → Prop where
  /-- A run of blanks. -/
  | blank : isSpace c = true → TokenCase s c rest (inCode .whitespace (runLength isSpace rest))
  /-- A comment to the end of its line. -/
  | line : beginsLineComment c rest = true →
    TokenCase s c rest (cutComment .comment (lineCommentLength rest 0))
  /-- A comment with an end of its own. -/
  | block {inside : List Char} : c = '/' → rest = '*' :: inside →
    TokenCase s c rest (cutBlockComment inside)
  /-- A variable. -/
  | dollar : c = '$' → startsWith isNameStart rest = true →
    TokenCase s c rest (inCode .variable (runLength isNamePart rest))
  /-- A string. -/
  | quote : c = '\'' ∨ c = '"' → TokenCase s c rest (cutString c rest)
  /-- The first line of a heredoc. -/
  | heredoc {header : HeredocHeader} {body : List Char} : c = '<' →
    heredocAt? rest = some (header, body) → TokenCase s c rest (cutHeredoc header body)
  /-- A cast. -/
  | cast {n : Nat} : c = '(' → castLength? rest = some n → TokenCase s c rest (inCode .cast n)
  /-- An opening parenthesis. -/
  | opening : c = '(' → TokenCase s c rest (inCode .openParenthesis 0)
  /-- A name. -/
  | name : isNameStart c = true ∨ c = '\\' → TokenCase s c rest (cutName s c rest)
  /-- A number. -/
  | number : c.isDigit = true ∨ c = '.' ∧ startsWith Char.isDigit rest = true →
    TokenCase s c rest (inCode .number (numberLength (c :: rest) - 1))
  /-- A sign. -/
  | operator : TokenCase s c rest (cutOperator s c rest)

theorem tokenCase (s : State) (c : Char) (rest : List Char) :
    TokenCase s c rest (cutToken s c rest) := by
  rw [cutToken_eq]
  fun_cases tokenForm c rest with
  | case1 hspace => exact .blank hspace
  | case2 _ hline => exact .line hline
  | case3 _ _ hblock =>
    obtain ⟨hc, hstar⟩ := Bool.and_eq_true_iff.mp hblock
    cases rest with
    | nil => cases hstar
    | cons d inside =>
      obtain rfl : d = '*' := beq_iff_eq.mp hstar
      exact .block (beq_iff_eq.mp hc) rfl
  | case4 _ _ _ hdollar =>
    obtain ⟨hc, hname⟩ := Bool.and_eq_true_iff.mp hdollar
    exact .dollar (beq_iff_eq.mp hc) hname
  | case5 _ _ _ _ hquote =>
    exact .quote ((Bool.or_eq_true_iff.mp hquote).imp beq_iff_eq.mp beq_iff_eq.mp)
  | case6 _ _ _ _ _ hless =>
    rw [TokenForm.cut]
    split
    · exact .heredoc (beq_iff_eq.mp hless) ‹_›
    · exact .operator
  | case7 _ _ _ _ _ _ hopening =>
    rw [TokenForm.cut]
    split
    · exact .cast (beq_iff_eq.mp hopening) ‹_›
    · exact .opening (beq_iff_eq.mp hopening)
  | case8 _ _ _ _ _ _ _ hname =>
    refine .name ((Bool.or_eq_true_iff.mp hname).imp_right fun hslash => ?_)
    exact beq_iff_eq.mp (Bool.and_eq_true_iff.mp hslash).1
  | case9 _ _ _ _ _ _ _ _ hnumber =>
    refine .number ((Bool.or_eq_true_iff.mp hnumber).imp_right fun hpoint => ?_)
    exact (Bool.and_eq_true_iff.mp hpoint).imp_left beq_iff_eq.mp
  | case10 => exact .operator

/-- The result stands apart here, so that the cases can be told from it. -/
theorem exists_tokenCase {s : State} {c : Char} {rest : List Char} {r : Except Fault Cut}
    (h : cutToken s c rest = r) : ∃ r', TokenCase s c rest r' ∧ r' = r :=
  ⟨_, tokenCase s c rest, h⟩

/-- The ways in which a token of code is cut. -/
inductive TokenCut (s : State) (c : Char) (rest : List Char) (cut : Cut) : Prop where
  /-- A run of blanks. -/
  | blank : cut = ⟨.whitespace, runLength isSpace rest, .code⟩ → TokenCut s c rest cut
  /-- A comment to the end of its line. -/
  | line : cut = ⟨.comment, lineCommentLength rest 0, .code⟩ → TokenCut s c rest cut
  /-- A comment with an end of its own. -/
  | block : startsWith (· == '*') rest = true → cutBlockComment (rest.drop 1) = .ok cut →
    TokenCut s c rest cut
  /-- A variable. -/
  | dollar : cut = ⟨.variable, runLength isNamePart rest, .code⟩ → TokenCut s c rest cut
  /-- A string. -/
  | quote : cutString c rest = .ok cut → TokenCut s c rest cut
  /-- The first line of a heredoc. -/
  | heredoc {header : HeredocHeader} {body : List Char} :
    heredocAt? rest = some (header, body) → cutHeredoc header body = .ok cut → TokenCut s c rest cut
  /-- A cast. -/
  | cast {n : Nat} : castLength? rest = some n → cut = ⟨.cast, n, .code⟩ → TokenCut s c rest cut
  /-- An opening parenthesis. -/
  | opening : c = '(' → cut = ⟨.openParenthesis, 0, .code⟩ → TokenCut s c rest cut
  /-- A name. -/
  | name : cutName s c rest = .ok cut → TokenCut s c rest cut
  /-- A number. -/
  | number {n : Nat} : numberLength (c :: rest) = n + 1 → cut = ⟨.number, n, .code⟩ →
    TokenCut s c rest cut
  /-- A sign. -/
  | operator : cutOperator s c rest = .ok cut → TokenCut s c rest cut

theorem tokenCut {s : State} {c : Char} {rest : List Char} {cut : Cut}
    (h : cutToken s c rest = .ok cut) : TokenCut s c rest cut := by
  obtain ⟨_, hcase, hr⟩ := exists_tokenCase h
  cases hcase with
  | blank => exact .blank (Except.ok.inj hr).symm
  | line => exact .line (cutComment_eq_ok hr)
  | block _ hrest =>
    subst hrest
    exact .block rfl hr
  | dollar => exact .dollar (Except.ok.inj hr).symm
  | quote => exact .quote hr
  | heredoc _ hat => exact .heredoc hat hr
  | cast _ hcast => exact .cast hcast (Except.ok.inj hr).symm
  | opening hc => exact .opening hc (Except.ok.inj hr).symm
  | name => exact .name hr
  | number hbegins =>
    have hpos := numberLength_pos hbegins
    exact .number (by omega) (Except.ok.inj hr).symm
  | operator => exact .operator hr

theorem cutToken_bounds {s : State} {c : Char} {rest : List Char} {cut : Cut}
    (h : cutToken s c rest = .ok cut) :
    cut.more ≤ rest.length ∧ cut.mode.Fits (rest.length - cut.more) := by
  cases tokenCut h with
  | blank hcut =>
    rw [hcut]
    exact ⟨runLength_le _ _, trivial⟩
  | line hcut =>
    rw [hcut]
    exact ⟨by simpa using (le_lineCommentLength rest 0).2, trivial⟩
  | block hblock hcut =>
    obtain ⟨n, hend, hmore, hmode⟩ := cutBlockComment_eq_ok hcut
    have hbound := (commentEnd?_bounds hend).2
    have hne : rest ≠ [] := by rintro rfl; cases hblock
    have := List.length_pos_iff.mpr hne
    simp only [List.length_drop] at hbound
    exact ⟨by omega, Mode.fits_of_eq_code hmode _⟩
  | dollar hcut =>
    rw [hcut]
    exact ⟨runLength_le _ _, trivial⟩
  | quote hcut =>
    obtain ⟨hend, hmode⟩ := cutString_eq_ok hcut
    have := (closingQuote?_bounds hend).2
    exact ⟨by omega, Mode.fits_of_eq_code hmode _⟩
  | heredoc hat hcut =>
    have hlabel := isLabel_of_heredocAt? hat
    obtain ⟨rest, rfl, hheader, rfl⟩ := heredocAt?_eq_some_iff.mp hat
    obtain ⟨text, padding, _, hfirst, hmode⟩ := cutHeredoc_eq_ok hlabel.startsPart hcut
    have hle := heredocHeader?_le hheader
    obtain ⟨hpos, hbound⟩ := hfirst.bounds hlabel
    simp only [List.length_drop] at hbound
    rw [more_of_cutHeredoc hcut, hmode]
    simp only [List.length_cons]
    exact ⟨by omega, hpos, by omega⟩
  | cast hcast hcut =>
    rw [hcut]
    exact ⟨castLength?_le hcast, trivial⟩
  | opening _ hcut =>
    rw [hcut]
    exact ⟨Nat.zero_le _, trivial⟩
  | name hcut =>
    cases hcut
    exact ⟨by simpa using (nameLength_bounds rest 0).2, trivial⟩
  | number hlength hcut =>
    have hle := numberLength_le (c :: rest)
    rw [hlength, List.length_cons] at hle
    rw [hcut]
    exact ⟨Nat.le_of_succ_le_succ hle, trivial⟩
  | operator hcut =>
    obtain ⟨hmode, hmore⟩ := cutOperator_bounds hcut
    exact ⟨hmore, Mode.fits_of_eq_code hmode _⟩

/-- Inside a heredoc the closing label is cut off, or the body if there is one. -/
theorem more_of_cutHeredocPart {body closer : Nat} {c : Char} {rest : List Char} {cut : Cut}
    (hpos : 0 < closer) (h : cutHeredocPart body closer c rest = .ok cut) :
    cut.more + 1 = (if body = 0 then closer else body) ∧
      (cut.mode = .code ∨ cut.mode = .heredoc 0 closer ∧ body ≠ 0) := by
  unfold cutHeredocPart at h
  by_cases hbody : body = 0
  · rw [if_pos (beq_iff_eq.mpr hbody)] at h
    cases h
    rw [if_pos hbody]
    exact ⟨Nat.sub_add_cancel hpos, .inl rfl⟩
  · rw [if_neg (by simpa using hbody)] at h
    dsimp only at h
    split at h <;> cases h
    rw [if_neg hbody]
    exact ⟨Nat.sub_add_cancel (Nat.pos_of_ne_zero hbody), .inr ⟨rfl, hbody⟩⟩

/-- A cut takes no more characters than there are, and a heredoc that it opens fits into the rest. -/
theorem cutNext_bounds {s : State} {c : Char} {rest : List Char} {cut : Cut}
    (hfits : s.mode.Fits (rest.length + 1)) (h : cutNext s c rest = .ok cut) :
    cut.more ≤ rest.length ∧ cut.mode.Fits (rest.length - cut.more) := by
  unfold cutNext at h
  split at h
  · cases h
    refine ⟨cutMarkup_bounds c rest, ?_⟩
    unfold cutMarkup
    split <;> trivial
  · unfold cutCode at h
    split at h
    · rename_i more hclose
      cases h
      split at hclose
      · exact ⟨(closeTag?_bounds hclose).2, trivial⟩
      · cases hclose
    · exact cutToken_bounds h
  · rename_i body closer hmode
    rw [hmode] at hfits
    obtain ⟨hpos, hbound⟩ := hfits
    obtain ⟨hmore, hcode | ⟨hclose, hbody⟩⟩ := more_of_cutHeredocPart hpos h
    · rw [hcode]
      refine ⟨?_, trivial⟩
      split at hmore <;> omega
    · rw [if_neg hbody] at hmore
      rw [hclose]
      exact ⟨by omega, hpos, by omega⟩

theorem cutCode_exchange {s : State} {c : Char} {seen tail other : List Char} {cut : Cut}
    (hother : Barred other) (h : cutCode s c (seen ++ tail) = .ok cut)
    (hlen : cut.more ≤ seen.length) (hparen : cut.kind ≠ .openParenthesis)
    (hslash : c = '/' → seen = [] → startsWith (· == '/') other = false)
    (hcomment : beginsLineComment c (seen ++ tail) = true → endsLine (seen.drop cut.more) = true)
    (hheredoc : ∀ body closer, cut.mode = .heredoc body closer →
      cut.more + body + closer ≤ seen.length) :
    cutCode s c (seen ++ other) = .ok cut := by
  unfold cutCode at h ⊢
  by_cases hc : (c == '?') = true
  · rw [if_pos hc] at h ⊢
    cases hclose : closeTag? (seen ++ tail) with
    | some more =>
      rw [hclose] at h
      cases h
      rw [closeTag?_exchange hother hclose hlen]
    | none =>
      rw [hclose] at h
      rw [closeTag?_eq_none hother hclose]
      exact cutToken_exchange hother h hlen hparen hslash hcomment hheredoc
  · rw [if_neg hc] at h ⊢
    exact cutToken_exchange hother h hlen hparen hslash hcomment hheredoc

theorem cutHeredocPart_exchange {body closer : Nat} {c : Char} {seen tail : List Char} {cut : Cut}
    (other : List Char) (h : cutHeredocPart body closer c (seen ++ tail) = .ok cut)
    (hlen : cut.more ≤ seen.length) : cutHeredocPart body closer c (seen ++ other) = .ok cut := by
  unfold cutHeredocPart at h ⊢
  split
  · rwa [if_pos ‹_›] at h
  · rw [if_neg ‹_›] at h
    have hmore : body - 1 ≤ seen.length := by
      dsimp only at h
      split at h <;> cases h
      exact hlen
    rw [List.take_append_of_le_length hmore] at h ⊢
    exact h

/-- A lexeme other than markup that is seen stays as it is before every barred text. -/
theorem cutNext_exchange {s : State} {c : Char} {seen tail other : List Char} {cut : Cut}
    (hother : Barred other) (h : cutNext s c (seen ++ tail) = .ok cut)
    (hlen : cut.more ≤ seen.length) (hparen : cut.kind ≠ .openParenthesis)
    (hmarkup : cut.kind ≠ .inlineHtml)
    (htag : cut.kind = .openTag → cut.more < (seen ++ tail).length)
    (hslash : c = '/' → seen = [] → startsWith (· == '/') other = false)
    (hcomment : s.mode = .code → beginsLineComment c (seen ++ tail) = true →
      endsLine (seen.drop cut.more) = true)
    (hheredoc : ∀ body closer, cut.mode = .heredoc body closer →
      cut.more + body + closer ≤ seen.length) :
    cutNext s c (seen ++ other) = .ok cut := by
  unfold cutNext at h ⊢
  cases hmode : s.mode with
  | markup =>
    simp only [hmode] at h ⊢
    cases h
    cases hopen : openTag? (c :: (seen ++ tail)) with
    | none =>
      unfold cutMarkup at hmarkup
      rw [hopen] at hmarkup
      exact absurd rfl hmarkup
    | some tag =>
      obtain ⟨kind, more⟩ := tag
      have hcut : cutMarkup c (seen ++ tail) = ⟨kind, more, .code⟩ := by rw [cutMarkup, hopen]
      rw [hcut] at hlen htag
      rw [hcut, cutMarkup, openTag?_exchange hother hopen hlen htag]
  | code =>
    simp only [hmode] at h ⊢
    exact cutCode_exchange hother h hlen hparen hslash (hcomment hmode) hheredoc
  | heredoc body closer =>
    simp only [hmode] at h ⊢
    exact cutHeredocPart_exchange other h hlen

end EscapeAudit.Lexer
