import EscapeAudit.Proofs.Window.Cut

/-!
# The next lexeme before a longer template

Here the template goes on behind its end.  A scanner that looks beyond its lexeme sees a close tag
before it sees the end, and no lookahead goes past the `>` of a close tag.  So the lexeme stays as it
is, whatever is appended (`cutNext_append`).

Runs, names and numbers stop at the `>`.  An open tag, the first line of a heredoc and a cast hold
none.  An operator has at most three characters, and a line comment ends before the close tag.  A
heredoc is the only lexeme whose length depends on characters far behind it, so the close tag has to
be seen behind its closing label.
-/

namespace EscapeAudit.Lexer

/-- A close tag stands somewhere in the text. -/
def Closes (cs : List Char) : Prop := ['?', '>'] <:+: cs

theorem Closes.mem {cs : List Char} (h : Closes cs) : '>' ∈ cs := h.subset (by simp)

theorem Closes.length {cs : List Char} (h : Closes cs) : 2 ≤ cs.length := h.length_le

theorem Closes.of_drop {cs : List Char} {n : Nat} (h : Closes (cs.drop n)) : Closes cs :=
  h.trans (List.drop_suffix n cs).isInfix

/-! ## Pieces and runs -/

/-- Behind a character that passes a test, one that does not pass is still to come. -/
theorem mem_behind_passing {test : Char → Bool} {c d : Char} {cs : List Char} (hc : c ∈ d :: cs)
    (hd : test d = true) (htest : test c = false) : c ∈ cs := by
  refine mem_behind_piece [d] hc fun hmem => ?_
  rw [List.mem_singleton.mp hmem, hd] at htest
  cases htest

theorem startsWith_append_left {cs : List Char} (h : cs ≠ []) (test : Char → Bool)
    (other : List Char) : startsWith test (cs ++ other) = startsWith test cs := by
  cases cs with
  | nil => exact absurd rfl h
  | cons c cs => rfl

/-- A run ends at the first character that does not pass. -/
theorem runLength_append_of_mem {test : Char → Bool} {c : Char} {cs : List Char} (hc : c ∈ cs)
    (htest : test c = false) (other : List Char) :
    runLength test (cs ++ other) = runLength test cs := by
  unfold runLength
  induction cs with
  | nil => cases hc
  | cons d cs ih =>
    rw [List.cons_append, List.takeWhile_cons, List.takeWhile_cons]
    split
    · rename_i hd
      rw [List.length_cons, List.length_cons, ih (mem_behind_passing hc hd htest)]
    · rfl

/-- A character that does not pass stands behind the run. -/
theorem mem_drop_runLength {test : Char → Bool} {c : Char} {cs : List Char} (hc : c ∈ cs)
    (htest : test c = false) : c ∈ cs.drop (runLength test cs) := by
  rw [drop_runLength]
  refine mem_behind_piece (cs.takeWhile test) ?_ fun hmem => ?_
  · rwa [List.takeWhile_append_dropWhile]
  · rw [List.all_eq_true.mp List.all_takeWhile c hmem] at htest
    cases htest

/-! ## Literals -/

/-- A line comment with something behind it ends where it does. -/
theorem lineCommentLength_append {cs : List Char}
    (h : cs.drop (lineCommentLength cs 0) ≠ []) (other : List Char) :
    lineCommentLength (cs ++ other) 0 = lineCommentLength cs 0 := by
  have hle := (le_lineCommentLength cs 0).2
  have hsplit : lineCommentLength (cs.take (lineCommentLength cs 0) ++
      cs.drop (lineCommentLength cs 0)) 0 = 0 + (cs.take (lineCommentLength cs 0)).length := by
    rw [List.take_append_drop, List.length_take]
    omega
  have hend : endsLine (cs.drop (lineCommentLength cs 0)) = true :=
    (endsLine_behind_comment hsplit).resolve_left h
  have hold : lineCommentLength (cs ++ []) 0 = 0 + lineCommentLength cs 0 := by
    rw [List.append_nil, Nat.zero_add]
  rw [lineCommentLength_exchange other hold hend, Nat.zero_add]

theorem hasRadix_append {cs : List Char} (h : '>' ∈ cs) (other : List Char) :
    hasRadix (cs ++ other) = hasRadix cs := by
  match cs, h with
  | [c], h =>
    obtain rfl : '>' = c := by simpa using h
    rfl
  | c :: d :: cs, _ =>
    simp only [List.cons_append]
    unfold hasRadix
    split <;> simp_all

theorem fractionLength_append {cs : List Char} (h : '>' ∈ cs) (other : List Char) :
    fractionLength (cs ++ other) = fractionLength cs := by
  match cs, h with
  | [c], h =>
    obtain rfl : '>' = c := by simpa using h
    rfl
  | c :: d :: cs, h =>
    by_cases hc : c = '.'
    · subst hc
      simp only [List.cons_append, fractionLength]
      split
      · rename_i hd
        have hmem : '>' ∈ cs := mem_behind_passing (mem_behind_piece ['.'] h (by simp)) hd rfl
        rw [runLength_append_of_mem hmem rfl]
      · rfl
    · simp only [List.cons_append, fractionLength_of_ne hc]

theorem signLength_append {cs : List Char} (h : cs ≠ []) (other : List Char) :
    signLength (cs ++ other) = signLength cs := by
  cases cs with
  | nil => exact absurd rfl h
  | cons c cs =>
    rw [List.cons_append]
    unfold signLength
    split <;> simp_all

/-- Behind a sign, a `>` is still to come. -/
theorem mem_drop_signLength {cs : List Char} (h : '>' ∈ cs) : '>' ∈ cs.drop (signLength cs) := by
  unfold signLength
  split
  · exact mem_behind_piece ['+'] h (by simp)
  · exact mem_behind_piece ['-'] h (by simp)
  · exact h

theorem exponentLength_append {cs : List Char} (h : '>' ∈ cs) (other : List Char) :
    exponentLength (cs ++ other) = exponentLength cs := by
  cases cs with
  | nil => cases h
  | cons c cs =>
    simp only [List.cons_append, exponentLength]
    split
    · rename_i hc
      have hmem : '>' ∈ cs := by
        refine mem_behind_piece [c] h fun hmem => ?_
        obtain rfl : '>' = c := by simpa using hmem
        exact absurd hc (by decide)
      have hle : signLength cs ≤ cs.length := signLength_le cs
      rw [signLength_append (List.ne_nil_of_mem hmem), List.drop_append_of_le_length hle,
        runLength_append_of_mem (mem_drop_signLength hmem) rfl]
    · rfl

/-- Behind a fraction, a `>` is still to come. -/
theorem mem_drop_fractionLength {cs : List Char} (h : '>' ∈ cs) :
    '>' ∈ cs.drop (fractionLength cs) := by
  unfold fractionLength
  split
  · rename_i d cs
    split
    · rename_i hd
      have hmem : '>' ∈ cs := mem_behind_passing (mem_behind_piece ['.'] h (by simp)) hd rfl
      rw [← List.drop_drop]
      exact mem_drop_runLength hmem rfl
    · exact h
  · exact h

theorem numberLength_append {cs : List Char} (h : '>' ∈ cs) (other : List Char) :
    numberLength (cs ++ other) = numberLength cs := by
  unfold numberLength
  rw [hasRadix_append h]
  split
  · rename_i hradix
    -- Neither the 0 nor the letter behind it is a `>`.
    have hmem : '>' ∈ cs.drop 2 ∧ 2 ≤ cs.length := by
      unfold hasRadix at hradix
      split at hradix
      · rename_i c cs
        refine ⟨mem_behind_piece ['0', c] h fun hmem => ?_, by simp⟩
        obtain rfl : '>' = c := by simpa using hmem
        cases hradix
      · cases hradix
    rw [List.drop_append_of_le_length hmem.2, runLength_append_of_mem hmem.1 rfl]
  · dsimp only
    rw [runLength_append_of_mem h rfl]
    have hle := runLength_le isDigitOrSeparator cs
    have hmem : '>' ∈ cs.drop (runLength isDigitOrSeparator cs) := mem_drop_runLength h rfl
    generalize runLength isDigitOrSeparator cs = whole at hle hmem ⊢
    have hfraction := fractionLength_le (cs.drop whole)
    have hmem' := mem_drop_fractionLength hmem
    rw [List.drop_append_of_le_length hle, fractionLength_append hmem]
    rw [List.drop_drop] at hmem'
    rw [List.length_drop] at hfraction
    generalize fractionLength (cs.drop whole) = fraction at hfraction hmem' ⊢
    rw [List.drop_append_of_le_length (by omega), exponentLength_append hmem']

theorem nameLength_append {cs : List Char} (h : '>' ∈ cs) (n : Nat) (other : List Char) :
    nameLength (cs ++ other) n = nameLength cs n := by
  induction cs generalizing n with
  | nil => cases h
  | cons c cs ih =>
    by_cases hc : c = '\\'
    · subst hc
      have hmem : '>' ∈ cs := mem_behind_piece ['\\'] h (by simp)
      simp only [List.cons_append, nameLength,
        startsWith_append_left (List.ne_nil_of_mem hmem), ih hmem]
    · simp only [List.cons_append, nameLength_cons hc]
      split
      · rename_i hpart
        exact ih (mem_behind_passing h hpart rfl) (n + 1)
      · rfl

theorem IsCast.not_mem {text : List Char} (h : IsCast text) : '>' ∉ text := by
  obtain ⟨before, word, after, rfl, hbefore, hword, hafter, _⟩ := h
  intro hmem
  simp only [List.mem_append, List.mem_singleton] at hmem
  rcases hmem with hmem | hmem | hmem | hmem
  · exact absurd (hbefore _ hmem) (by decide)
  · exact absurd (hword _ hmem) (by decide)
  · exact absurd (hafter _ hmem) (by decide)
  · exact absurd hmem (by decide)

theorem castLength?_append {cs : List Char} (h : '>' ∈ cs) (other : List Char) :
    castLength? (cs ++ other) = castLength? cs := by
  ext n
  simp only [castLength?_eq_some_iff]
  constructor
  · rintro ⟨text, tail, hsplit, hlength, hcast⟩
    obtain ⟨more, rfl, _⟩ := piece_within h hsplit hcast.not_mem
    exact ⟨text, more, rfl, hlength, hcast⟩
  · rintro ⟨text, tail, rfl, hlength, hcast⟩
    exact ⟨text, tail ++ other, by simp, hlength, hcast⟩

/-! ## Heredocs -/

theorem IsHeader.not_mem {text : List Char} {header : HeredocHeader} (h : IsHeader text header) :
    '>' ∉ text := by
  obtain ⟨padding, quote, lineEnd, rfl, hpadding, hquote, hform⟩ := h.text
  have hmarks : '>' ∉ quote := by
    rcases hquote with ⟨rfl, _⟩ | ⟨rfl, _⟩ | ⟨rfl, _⟩ <;> simp
  have hline : '>' ∉ lineEnd := by rcases hform with rfl | rfl <;> simp
  intro hmem
  simp only [List.mem_append] at hmem
  rcases hmem with hmem | hmem | hmem | hmem | hmem
  · exact absurd (hpadding _ hmem) (by decide)
  · exact hmarks hmem
  · exact absurd (h.label.part _ hmem) (by decide)
  · exact hmarks hmem
  · exact hline hmem

theorem heredocHeader?_append {cs : List Char} (h : '>' ∈ cs) (other : List Char) :
    heredocHeader? (cs ++ other) = heredocHeader? cs := by
  ext header
  simp only [heredocHeader?_eq_some_iff]
  constructor
  · rintro ⟨text, rest, hsplit, hheader⟩
    obtain ⟨more, rfl, _⟩ := piece_within h hsplit hheader.not_mem
    exact ⟨text, more, rfl, hheader⟩
  · rintro ⟨text, rest, rfl, hheader⟩
    exact ⟨text, rest ++ other, by simp, hheader⟩

theorem heredocAt?_append {cs : List Char} (h : '>' ∈ cs) (other : List Char) :
    heredocAt? (cs ++ other) = (heredocAt? cs).map fun found => (found.1, found.2 ++ other) := by
  match cs, h with
  | [c], h =>
    obtain rfl : '>' = c := by simpa using h
    rfl
  | c :: d :: cs, h =>
    by_cases hopen : c = '<' ∧ d = '<'
    · obtain ⟨rfl, rfl⟩ := hopen
      have hmem : '>' ∈ cs := mem_behind_piece ['<', '<'] h (by simp)
      simp only [List.cons_append, heredocAt?, heredocHeader?_append hmem]
      cases hheader : heredocHeader? cs with
      | none => rfl
      | some header => simp [List.drop_append_of_le_length (heredocHeader?_le hheader)]
    · have hnone : ∀ rest, heredocAt? (c :: d :: rest) = none := by
        intro rest
        rw [heredocAt?]
        rintro rest' heq
        cases heq
        exact hopen ⟨rfl, rfl⟩
      simp only [List.cons_append, hnone, Option.map_none]

/-! ## Tags -/

theorem tagEnd?_append {cs : List Char} (h : '>' ∈ cs) (other : List Char) :
    tagEnd? (cs ++ other) = tagEnd? cs := by
  match cs, h with
  | [c], h =>
    obtain rfl : '>' = c := by simpa using h
    rfl
  | c :: d :: cs, _ =>
    show leadingSpace? (c :: d :: (cs ++ other)) = leadingSpace? (c :: d :: cs)
    by_cases hpair : c = '\r' ∧ d = '\n'
    · obtain ⟨rfl, rfl⟩ := hpair
      rfl
    · have hone : ∀ rest, leadingSpace? (c :: d :: rest) = if isSpace c then some 1 else none := by
        intro rest
        rw [leadingSpace?]
        rintro rest' hc htail
        cases htail
        exact hpair ⟨hc, rfl⟩
      rw [hone, hone]

theorem IsWordPhp.not_mem {word : List Char} (h : word = [] ∨ IsWordPhp word) : '>' ∉ word := by
  rcases h with rfl | ⟨a, b, c, rfl, ha, hb, hc⟩
  · simp
  · intro hmem
    simp only [List.mem_cons, List.not_mem_nil, or_false] at hmem
    rcases hmem with rfl | rfl | rfl
    · exact absurd ha (by decide)
    · exact absurd hb (by decide)
    · exact absurd hc (by decide)

/-- Whether an open tag begins is decided before the next `>`. -/
theorem openTag?_append {cs : List Char} (h : '>' ∈ cs) (other : List Char) :
    openTag? (cs ++ other) = openTag? cs := by
  ext ⟨kind, more⟩
  simp only [openTag?_eq_some_iff]
  constructor
  · rintro (⟨rest, hsplit, hkind⟩ | ⟨word, rest, n, hsplit, hword, hend, hkind⟩)
    · replace hsplit : cs ++ other = ['<', '?', '='] ++ rest := hsplit
      obtain ⟨more, rfl, _⟩ := piece_within h hsplit (by simp)
      exact .inl ⟨more, rfl, hkind⟩
    · replace hsplit : cs ++ other = ('<' :: '?' :: word) ++ rest := hsplit
      have hclear : '>' ∉ '<' :: '?' :: word := by simpa using IsWordPhp.not_mem hword
      obtain ⟨more, rfl, rfl⟩ := piece_within h hsplit hclear
      rw [tagEnd?_append (mem_behind_piece _ h hclear)] at hend
      exact .inr ⟨word, more, n, rfl, hword, hend, hkind⟩
  · rintro (⟨rest, rfl, hkind⟩ | ⟨word, rest, n, rfl, hword, hend, hkind⟩)
    · exact .inl ⟨rest ++ other, rfl, hkind⟩
    · have hclear : '>' ∉ '<' :: '?' :: word := by simpa using IsWordPhp.not_mem hword
      have hmem : '>' ∈ rest := mem_behind_piece ('<' :: '?' :: word) h hclear
      exact .inr ⟨word, rest ++ other, n, by simp, hword, by rwa [tagEnd?_append hmem], hkind⟩

/-- Markup with a `>` behind it ends where it does. -/
theorem markupLength_append {cs : List Char} {n m : Nat} (h : markupLength cs n = n + m)
    (hmem : '>' ∈ cs.drop m) (other : List Char) : markupLength (cs ++ other) n = n + m := by
  induction cs generalizing n m with
  | nil => simp at hmem
  | cons c cs ih =>
    have hopen := openTag?_append (List.mem_of_mem_drop hmem) other
    rw [List.cons_append] at hopen
    rw [markupLength] at h
    rw [List.cons_append, markupLength, hopen]
    split at h
    · rwa [if_pos ‹_›]
    · rw [if_neg ‹_›]
      have hlt := (markupLength_bounds cs (n + 1)).1
      obtain ⟨m, rfl⟩ : ∃ k, m = k + 1 := ⟨m - 1, by omega⟩
      rw [ih (n := n + 1) (m := m) (by omega) hmem]
      omega

theorem lineEndLength_append {cs : List Char} (h : 2 ≤ cs.length) (other : List Char) :
    lineEndLength (cs ++ other) = lineEndLength cs := by
  match cs, h with
  | c :: d :: cs, _ =>
    simp only [List.cons_append]
    unfold lineEndLength
    split <;> simp_all

theorem closeTag?_append_eq_none {cs : List Char} (hne : cs ≠ []) (h : closeTag? cs = none)
    (other : List Char) : closeTag? (cs ++ other) = none := by
  cases cs with
  | nil => exact absurd rfl hne
  | cons c cs =>
    by_cases hc : c = '>'
    · subst hc
      simp [closeTag?] at h
    · simp [closeTag?, hc]

theorem closeTag?_append {cs : List Char} {n : Nat} (h : closeTag? cs = some n)
    (hlen : 2 ≤ (cs.drop n).length) (other : List Char) : closeTag? (cs ++ other) = some n := by
  cases cs with
  | nil => cases h
  | cons c cs =>
    by_cases hc : c = '>'
    · subst hc
      simp only [closeTag?, Option.some.injEq] at h
      have hlong : 2 ≤ cs.length := by
        simp only [List.length_drop, List.length_cons] at hlen
        omega
      simp only [List.cons_append, closeTag?, lineEndLength_append hlong, h]
    · simp [closeTag?, hc] at h

/-! ## The next lexeme -/

/-- How many characters of a heredoc are still to come. -/
def Mode.ahead : Mode → Nat
  | .heredoc body closer => body + closer
  | _ => 0

theorem cutOperator_append (s : State) (c : Char) {rest : List Char} (h : 2 ≤ rest.length)
    (other : List Char) : cutOperator s c (rest ++ other) = cutOperator s c rest := by
  match rest, h with
  | d :: e :: rest, _ => rfl

theorem cutName_append (s : State) (c : Char) {rest : List Char} (h : '>' ∈ rest)
    (other : List Char) : cutName s c (rest ++ other) = cutName s c rest := by
  have hle : nameLength rest 0 ≤ rest.length := by simpa using (nameLength_bounds rest 0).2
  simp only [cutName, nameLength_append h, List.take_append_of_le_length hle]

theorem tokenForm_append {rest : List Char} (h : rest ≠ []) (c : Char) (other : List Char) :
    tokenForm c (rest ++ other) = tokenForm c rest := by
  cases rest with
  | nil => exact absurd rfl h
  | cons d rest => rfl

/-- A heredoc stays as it is when a close tag is seen behind it. -/
theorem cutHeredoc_append {header : HeredocHeader} (hlabel : IsLabel header.label)
    {body : List Char} {cut : Cut} (h : cutHeredoc header body = .ok cut)
    (hclose : Closes (body.drop cut.mode.ahead)) (other : List Char) :
    cutHeredoc header (body ++ other) = .ok cut := by
  obtain ⟨text, padding, rest, hfirst, hmode⟩ := cutHeredoc_eq_ok hlabel.startsPart h
  obtain ⟨_, hbound⟩ := hfirst.bounds hlabel
  -- The close tag stands behind the closing label, so the label is seen to end.
  have hrest : rest ≠ [] := by
    have htwo := hclose.length
    rw [hmode, Mode.ahead, hfirst.split] at htwo
    rintro rfl
    simp at htwo
  have hends : ∀ more, rest = more ++ [] → startsWith isNamePart (more ++ other) = false := by
    rintro more rfl
    rw [List.append_nil] at hrest
    rw [startsWith_append_of_ne_nil hrest isNamePart other []]
    exact hfirst.ends
  rw [← List.append_nil body] at hfirst
  obtain ⟨rest', hnew⟩ := hfirst.exchange hlabel hbound hends
  rw [← List.append_nil body, cutHeredoc_of_firstClosing hlabel.startsPart hfirst] at h
  rw [cutHeredoc_of_firstClosing hlabel.startsPart hnew]
  exact h

/-- A token of code stays as it is when a close tag is seen behind it. -/
theorem cutToken_append {s : State} {c : Char} {rest : List Char} {cut : Cut}
    (h : cutToken s c rest = .ok cut) (hclose : Closes (rest.drop (cut.more + cut.mode.ahead)))
    (other : List Char) : cutToken s c (rest ++ other) = .ok cut := by
  have hmem : '>' ∈ rest := hclose.of_drop.mem
  have hlength : 2 ≤ rest.length := hclose.of_drop.length
  obtain ⟨hmore, _⟩ := cutToken_bounds h
  rw [cutToken_eq] at h ⊢
  rw [tokenForm_append (List.ne_nil_of_mem hmem)]
  generalize tokenForm c rest = form at h
  cases form with
  | blank => rwa [TokenForm.cut, runLength_append_of_mem hmem rfl]
  | line =>
    obtain rfl := cutComment_eq_ok h
    rw [← List.drop_drop] at hclose
    rwa [TokenForm.cut, lineCommentLength_append (List.ne_nil_of_mem hclose.of_drop.mem)]
  | block =>
    have hold : cutBlockComment (rest.drop 1 ++ []) = .ok cut := by rwa [List.append_nil]
    rw [TokenForm.cut, List.drop_append_of_le_length (by omega)]
    refine cutBlockComment_exchange other hold ?_
    rw [List.length_drop]
    omega
  | dollar => rwa [TokenForm.cut, runLength_append_of_mem hmem rfl]
  | quote =>
    have hold : cutString c (rest ++ []) = .ok cut := by rwa [List.append_nil]
    exact cutString_exchange other hold hmore
  | less =>
    rw [TokenForm.cut] at h ⊢
    rw [heredocAt?_append hmem]
    cases hat : heredocAt? rest with
    | none =>
      rw [hat] at h
      rwa [Option.map_none, cutOperator_append s c hlength]
    | some found =>
      obtain ⟨header, body⟩ := found
      rw [hat] at h
      have hlen := more_of_cutHeredoc h
      have hlabel := isLabel_of_heredocAt? hat
      obtain ⟨text, rfl, _, rfl⟩ := heredocAt?_eq_some_iff.mp hat
      refine cutHeredoc_append hlabel h ?_ other
      rw [hlen, show header.length + 2 + cut.mode.ahead = header.length + cut.mode.ahead + 1 + 1 by
        omega] at hclose
      rw [List.drop_drop]
      exact hclose
  | parenthesis => rwa [TokenForm.cut, castLength?_append hmem]
  | name => rwa [TokenForm.cut, cutName_append s c hmem]
  | number => rwa [TokenForm.cut, ← List.cons_append, numberLength_append (List.mem_cons_of_mem c hmem)]
  | operator => rwa [TokenForm.cut, cutOperator_append s c hlength]

theorem cutMarkup_append {c : Char} {rest : List Char}
    (hmem : '>' ∈ rest.drop (cutMarkup c rest).more) (other : List Char) :
    cutMarkup c (rest ++ other) = cutMarkup c rest := by
  have hopen := openTag?_append (List.mem_cons_of_mem c (List.mem_of_mem_drop hmem)) other
  rw [List.cons_append] at hopen
  unfold cutMarkup at hmem ⊢
  rw [hopen]
  cases htag : openTag? (c :: rest) with
  | some tag => rfl
  | none =>
    rw [htag] at hmem
    have hsame := markupLength_append (Nat.zero_add _).symm hmem other
    rw [Nat.zero_add] at hsame
    rw [hsame]

/-- A lexeme stays as it is when a close tag is seen behind it, and behind the whole heredoc if it
opens one. -/
theorem cutNext_append {s : State} {c : Char} {rest : List Char} {cut : Cut}
    (hfits : s.mode.Fits (rest.length + 1)) (h : cutNext s c rest = .ok cut)
    (hclose : Closes (rest.drop (cut.more + cut.mode.ahead))) (other : List Char) :
    cutNext s c (rest ++ other) = .ok cut := by
  obtain ⟨hmore, _⟩ := cutNext_bounds hfits h
  have hbehind : Closes (rest.drop cut.more) := by
    rw [← List.drop_drop] at hclose
    exact hclose.of_drop
  unfold cutNext at h ⊢
  cases hmode : s.mode with
  | markup =>
    simp only [hmode] at h ⊢
    obtain rfl : cutMarkup c rest = cut := Except.ok.inj h
    rw [cutMarkup_append hbehind.mem]
  | code =>
    simp only [hmode] at h ⊢
    unfold cutCode at h ⊢
    by_cases hc : (c == '?') = true
    · rw [if_pos hc] at h ⊢
      cases htag : closeTag? rest with
      | some n =>
        rw [htag] at h
        cases h
        rw [closeTag?_append htag hbehind.length]
      | none =>
        rw [htag] at h
        rw [closeTag?_append_eq_none (List.ne_nil_of_mem hbehind.of_drop.mem) htag]
        exact cutToken_append h hclose other
    · rw [if_neg hc] at h ⊢
      exact cutToken_append h hclose other
  | heredoc body closer =>
    simp only [hmode] at h ⊢
    have hold : cutHeredocPart body closer c (rest ++ []) = .ok cut := by rwa [List.append_nil]
    exact cutHeredocPart_exchange other hold hmore

end EscapeAudit.Lexer
