import EscapeAudit.Proofs.Reading

/-!
# How far the scanners look

Every scanner looks a little beyond the lexeme that it measures, to see that the lexeme does not go
on.  When the text behind a lexeme is exchanged, the lexeme stays as it is as long as the new text
does not go on with it.  A *barrier* is a character with which no lexeme goes on: `$`, `)` and `/`.
These are the characters with which insertions into code begin.

Each scanner has two lemmas here.  The first bounds its length by the characters there are.  The
second exchanges the text `tail` behind `seen` for another one, where `seen` holds at least the
lexeme.  Most scanners need the new text to begin with a barrier.  Those that find their end by
themselves need nothing.
-/

namespace EscapeAudit.Lexer

/-! ## Barriers -/

/-- A character with which no lexeme goes on. -/
def isBarrier (c : Char) : Bool := c == '$' || c == ')' || c == '/'

/-- The text begins with a barrier. -/
def Barred (cs : List Char) : Prop := startsWith isBarrier cs = true

theorem Barred.cases {cs : List Char} (h : Barred cs) :
    ∃ c rest, cs = c :: rest ∧ (c = '$' ∨ c = ')' ∨ c = '/') := by
  cases cs with
  | nil => cases h
  | cons c rest =>
    refine ⟨c, rest, rfl, ?_⟩
    have hc : isBarrier c = true := h
    simpa [isBarrier, or_assoc] using hc

/-- A test that fails at every barrier fails at the beginning of a barred text. -/
theorem Barred.startsWith_eq_false {cs : List Char} (h : Barred cs) {test : Char → Bool}
    (hdollar : test '$' = false) (hparen : test ')' = false) (hslash : test '/' = false) :
    startsWith test cs = false := by
  obtain ⟨c, rest, rfl, rfl | rfl | rfl⟩ := h.cases
  · exact hdollar
  · exact hparen
  · exact hslash

theorem startsWith_iff {test : Char → Bool} {cs : List Char} :
    startsWith test cs = true ↔ ∃ c rest, cs = c :: rest ∧ test c = true := by
  cases cs with
  | nil => simp [startsWith]
  | cons c cs => simp [startsWith]

theorem startsWith_append_of_ne_nil {seen : List Char} (h : seen ≠ []) (test : Char → Bool)
    (tail other : List Char) : startsWith test (seen ++ tail) = startsWith test (seen ++ other) := by
  cases seen with
  | nil => exact absurd rfl h
  | cons c seen => rfl

/-- A piece in front that is not longer than `seen` is seen. -/
theorem piece_seen {seen tail piece rest : List Char} (h : seen ++ tail = piece ++ rest)
    (hle : piece.length ≤ seen.length) : ∃ more, seen = piece ++ more ∧ rest = more ++ tail := by
  rcases List.append_eq_append_iff.mp h with ⟨more, rfl, hrest⟩ | ⟨more, rfl, hrest⟩
  · have hmore : more = [] := List.eq_nil_of_length_eq_zero (by
      rw [List.length_append] at hle
      omega)
    subst hmore
    exact ⟨[], by simp, by simpa using hrest.symm⟩
  · exact ⟨more, rfl, hrest⟩

/-- A piece in front does not reach into a text that begins with a character it does not hold. -/
theorem piece_seen_of_stop {test : Char → Bool} {seen other piece rest : List Char}
    (hother : startsWith test other = true) (h : seen ++ other = piece ++ rest)
    (hpiece : ∀ c ∈ piece, test c = false) : ∃ more, seen = piece ++ more ∧ rest = more ++ other := by
  rcases List.append_eq_append_iff.mp h with ⟨more, rfl, hrest⟩ | ⟨more, rfl, hrest⟩
  · cases more with
    | nil => exact ⟨[], by simp, by simpa using hrest.symm⟩
    | cons c more =>
      obtain rfl : other = c :: (more ++ rest) := hrest
      have hstop : test c = true := hother
      rw [hpiece c (by simp)] at hstop
      cases hstop
  · exact ⟨more, rfl, hrest⟩

/-- A piece in front does not reach over a character that it does not hold. -/
theorem piece_within {c : Char} {cs other piece rest : List Char} (hc : c ∈ cs)
    (h : cs ++ other = piece ++ rest) (hpiece : c ∉ piece) :
    ∃ more, cs = piece ++ more ∧ rest = more ++ other := by
  rcases List.append_eq_append_iff.mp h with ⟨more, rfl, _⟩ | ⟨more, rfl, hrest⟩
  · exact absurd (List.mem_append_left more hc) hpiece
  · exact ⟨more, rfl, hrest⟩

/-- Behind a piece that does not hold a character, the character is still to come. -/
theorem mem_behind_piece {c : Char} (piece : List Char) {more : List Char} (hc : c ∈ piece ++ more)
    (hpiece : c ∉ piece) : c ∈ more := by
  rcases List.mem_append.mp hc with hc | hc
  · exact absurd hc hpiece
  · exact hc

/-! ## Runs -/

theorem runLength_le (test : Char → Bool) (cs : List Char) : runLength test cs ≤ cs.length :=
  (List.takeWhile_sublist test).length_le

theorem runLength_pos {test : Char → Bool} {cs : List Char} (h : startsWith test cs = true) :
    0 < runLength test cs := by
  cases cs with
  | nil => cases h
  | cons c cs =>
    have hc : test c = true := h
    simp [runLength, hc]

/-- A run that ends within `seen` does so before every text that does not go on with it. -/
theorem takeWhile_exchange {test : Char → Bool} {seen tail other : List Char}
    (hlen : ((seen ++ tail).takeWhile test).length ≤ seen.length)
    (hstop : startsWith test other = false) :
    (seen ++ other).takeWhile test = (seen ++ tail).takeWhile test := by
  induction seen with
  | nil =>
    have htail : tail.takeWhile test = [] := List.eq_nil_of_length_eq_zero (by simpa using hlen)
    rw [List.nil_append, List.nil_append, htail]
    cases other with
    | nil => rfl
    | cons c other => simp [show test c = false from hstop]
  | cons c seen ih =>
    simp only [List.cons_append, List.takeWhile_cons] at hlen ⊢
    cases hc : test c with
    | false => simp
    | true =>
      simp only [hc, if_true, List.length_cons, Nat.add_le_add_iff_right] at hlen ⊢
      rw [ih hlen]

theorem runLength_exchange {test : Char → Bool} {seen tail other : List Char}
    (hlen : runLength test (seen ++ tail) ≤ seen.length) (hstop : startsWith test other = false) :
    runLength test (seen ++ other) = runLength test (seen ++ tail) := by
  unfold runLength at hlen ⊢
  rw [takeWhile_exchange hlen hstop]

/-- A run of characters that pass, up to one that does not. -/
theorem takeWhile_append_stop {test : Char → Bool} {run rest : List Char}
    (hrun : ∀ c ∈ run, test c = true) (hstop : startsWith test rest = false) :
    (run ++ rest).takeWhile test = run := by
  rw [List.takeWhile_append_of_pos hrun]
  cases rest with
  | nil => simp
  | cons c rest => simp [show test c = false from hstop]

theorem runLength_append {test : Char → Bool} {run : List Char}
    (hrun : ∀ c ∈ run, test c = true) (rest : List Char) :
    runLength test (run ++ rest) = run.length + runLength test rest := by
  simp [runLength, List.takeWhile_append_of_pos hrun]

theorem dropWhile_append_stop {test : Char → Bool} {run rest : List Char}
    (hrun : ∀ c ∈ run, test c = true) (hstop : startsWith test rest = false) :
    (run ++ rest).dropWhile test = rest := by
  rw [List.dropWhile_append_of_pos hrun]
  cases rest with
  | nil => simp
  | cons c rest => simp [show test c = false from hstop]

theorem startsWith_dropWhile (test : Char → Bool) (cs : List Char) :
    startsWith test (cs.dropWhile test) = false := by
  induction cs with
  | nil => rfl
  | cons c cs ih =>
    rw [List.dropWhile_cons]
    split
    · exact ih
    · rename_i hc
      simpa [startsWith] using hc

/-! ## Comments -/

/-- A line end or a close tag in front. -/
def endsLine : List Char → Bool
  | [] => false
  | c :: cs => c == '\n' || c == '\r' || (c == '?' && startsWith (· == '>') cs)

theorem lineCommentLength_cons (c : Char) (cs : List Char) (n : Nat) :
    lineCommentLength (c :: cs) n =
      if endsLine (c :: cs) then n else lineCommentLength cs (n + 1) := by
  rw [lineCommentLength, endsLine]
  by_cases hline : (c == '\n' || c == '\r') = true
  · rw [if_pos hline, hline, Bool.true_or, if_pos rfl]
  · rw [if_neg hline, (Bool.not_eq_true _).mp hline, Bool.false_or]

theorem le_lineCommentLength (cs : List Char) (n : Nat) :
    n ≤ lineCommentLength cs n ∧ lineCommentLength cs n ≤ n + cs.length := by
  induction cs generalizing n with
  | nil => simp [lineCommentLength]
  | cons c cs ih =>
    rw [lineCommentLength_cons]
    split
    · simp
    · have := ih (n + 1)
      simp only [List.length_cons]
      omega

/-- A line comment takes the second `/` with it. -/
theorem lineCommentLength_pos {cs : List Char} (h : startsWith (· == '/') cs = true) :
    0 < lineCommentLength cs 0 := by
  obtain ⟨c, cs, rfl, hc⟩ := startsWith_iff.mp h
  obtain rfl : c = '/' := beq_iff_eq.mp hc
  exact (le_lineCommentLength cs 1).1

/-- A line comment is followed by a line end, a close tag or nothing. -/
theorem endsLine_behind_comment {seen tail : List Char} {n : Nat}
    (h : lineCommentLength (seen ++ tail) n = n + seen.length) :
    tail = [] ∨ endsLine tail = true := by
  induction seen generalizing n with
  | nil =>
    cases tail with
    | nil => exact .inl rfl
    | cons c tail =>
      rw [List.nil_append, lineCommentLength_cons] at h
      split at h
      · exact .inr ‹_›
      · have := (le_lineCommentLength tail (n + 1)).1
        simp at h
        omega
  | cons c seen ih =>
    rw [List.cons_append, lineCommentLength_cons] at h
    split at h
    · simp at h
    · exact ih (n := n + 1) (by rw [h, List.length_cons]; omega)

/-- A line comment whose end is seen stays as it is. -/
theorem lineCommentLength_exchange {seen tail : List Char} {n m : Nat} (other : List Char)
    (h : lineCommentLength (seen ++ tail) n = n + m) (hend : endsLine (seen.drop m) = true) :
    lineCommentLength (seen ++ other) n = n + m := by
  induction seen generalizing n m with
  | nil => cases m <;> cases hend
  | cons c seen ih =>
    rw [List.cons_append, lineCommentLength_cons] at h ⊢
    cases m with
    | zero =>
      have hhere : endsLine (c :: (seen ++ other)) = true := by
        rw [List.drop_zero, endsLine] at hend
        cases seen with
        | nil =>
          have hline : (c == '\n' || c == '\r') = true := by simpa [startsWith] using hend
          rw [endsLine, hline, Bool.true_or]
        | cons d seen => exact hend
      rw [if_pos hhere]
      rfl
    | succ m =>
      rw [List.drop_succ_cons] at hend
      have hne : seen ≠ [] := by rintro rfl; cases m <;> cases hend
      have hsame : endsLine (c :: (seen ++ other)) = endsLine (c :: (seen ++ tail)) := by
        rw [endsLine, endsLine, startsWith_append_of_ne_nil hne _ other tail]
      rw [hsame]
      split at h
      · omega
      · rw [if_neg ‹_›]
        have := ih (n := n + 1) (m := m) (by omega) hend
        omega

theorem commentEnd?_bounds {cs : List Char} {n m : Nat} (h : commentEnd? cs n = some m) :
    n ≤ m ∧ m + 2 ≤ n + cs.length := by
  fun_induction commentEnd? cs n with
  | case1 cs n =>
    obtain rfl := Option.some.inj h
    simp
  | case2 n c cs _ ih =>
    have := ih h
    simp only [List.length_cons]
    omega
  | case3 n => cases h

theorem commentEnd?_exchange {seen tail : List Char} {n m : Nat} (other : List Char)
    (h : commentEnd? (seen ++ tail) n = some m) (hlen : m + 2 ≤ n + seen.length) :
    commentEnd? (seen ++ other) n = some m := by
  induction seen generalizing n with
  | nil =>
    have := commentEnd?_bounds h
    simp at hlen
    omega
  | cons c seen ih =>
    cases seen with
    | nil =>
      -- One character is not enough for the two of the end.
      have hbound : n ≤ m := (commentEnd?_bounds h).1
      simp at hlen
      omega
    | cons d seen =>
      by_cases hend : c = '*' ∧ d = '/'
      · obtain ⟨rfl, rfl⟩ := hend
        simpa [commentEnd?] using h
      · have hstep : ∀ rest, commentEnd? (c :: d :: rest) n = commentEnd? (d :: rest) (n + 1) := by
          intro rest
          rw [commentEnd?]
          rintro rest' rfl hrest
          cases hrest
          exact hend ⟨rfl, rfl⟩
        simp only [List.cons_append, hstep] at h ⊢
        exact ih h (by simp only [List.length_cons] at hlen ⊢; omega)

/-! ## Strings -/

theorem closingQuote?_bounds {quote : Char} {cs : List Char} {n m : Nat}
    (h : closingQuote? quote cs n = some m) : n < m ∧ m ≤ n + cs.length := by
  fun_induction closingQuote? quote cs n with
  | case1 n => cases h
  | case2 n => cases h
  | case3 c cs n ih =>
    have := ih h
    simp only [List.length_cons]
    omega
  | case4 c cs n _ _ hquote =>
    obtain rfl := Option.some.inj h
    simp
  | case5 c cs n _ _ hquote ih =>
    have := ih h
    simp only [List.length_cons]
    omega

theorem closingQuote?_cons {quote c : Char} (hc : c ≠ '\\') (cs : List Char) (n : Nat) :
    closingQuote? quote (c :: cs) n =
      if c == quote then some (n + 1) else closingQuote? quote cs (n + 1) := by
  rw [closingQuote?]
  · rintro rfl; exact absurd rfl hc
  · rintro _ _ rfl; exact absurd rfl hc

theorem closingQuote?_exchange {quote : Char} {seen tail : List Char} {n m : Nat}
    (other : List Char) (h : closingQuote? quote (seen ++ tail) n = some m)
    (hlen : m ≤ n + seen.length) : closingQuote? quote (seen ++ other) n = some m := by
  induction hk : seen.length using Nat.strongRecOn generalizing seen n with
  | _ k ih =>
    subst hk
    cases seen with
    | nil =>
      have := closingQuote?_bounds h
      simp at hlen
      omega
    | cons c seen =>
      by_cases hc : c = '\\'
      · subst hc
        cases seen with
        | nil =>
          -- A hidden character stands behind the backslash, beyond what is seen.
          cases tail with
          | nil => cases h
          | cons d tail =>
            have hbehind : closingQuote? quote tail (n + 2) = some m := h
            have := closingQuote?_bounds hbehind
            simp at hlen
            omega
        | cons d seen =>
          simp only [List.cons_append, closingQuote?] at h ⊢
          exact ih seen.length (by simp only [List.length_cons]; omega) h
            (by simp only [List.length_cons] at hlen; omega) rfl
      · rw [List.cons_append, closingQuote?_cons hc] at h ⊢
        split
        · rwa [if_pos ‹_›] at h
        · rw [if_neg ‹_›] at h
          exact ih seen.length (by simp) h (by simp at hlen; omega) rfl

/-! ## Numbers -/

theorem fractionLength_le (cs : List Char) : fractionLength cs ≤ cs.length := by
  unfold fractionLength
  split
  · split
    · have := runLength_le isDigitOrSeparator ‹_›
      simp only [List.length_cons]
      omega
    · simp
  · simp

theorem signLength_le (cs : List Char) : signLength cs ≤ cs.length := by
  unfold signLength
  split <;> simp

theorem exponentLength_le (cs : List Char) : exponentLength cs ≤ cs.length := by
  unfold exponentLength
  split
  · rename_i c cs
    have hsign := signLength_le cs
    have hdigits := runLength_le Char.isDigit (cs.drop (signLength cs))
    simp only [List.length_drop, List.length_cons] at hdigits ⊢
    repeat' split
    all_goals omega
  · simp

theorem numberLength_le (cs : List Char) : numberLength cs ≤ cs.length := by
  unfold numberLength
  split
  · rename_i hradix
    have hlong : 2 ≤ cs.length := by
      unfold hasRadix at hradix
      split at hradix
      · simp
      · cases hradix
    have := runLength_le (fun c => c.isAlphanum || c == '_') (cs.drop 2)
    simp only [List.length_drop] at this
    omega
  · have hwhole := runLength_le isDigitOrSeparator cs
    have hfraction := fractionLength_le (cs.drop (runLength isDigitOrSeparator cs))
    have hexponent := exponentLength_le (cs.drop (runLength isDigitOrSeparator cs +
      fractionLength (cs.drop (runLength isDigitOrSeparator cs))))
    simp only [List.length_drop] at hfraction hexponent
    dsimp only
    omega

theorem fractionLength_of_ne {c : Char} (hc : c ≠ '.') (cs : List Char) :
    fractionLength (c :: cs) = 0 := by
  rw [fractionLength]
  rintro d ds h
  cases h
  exact absurd rfl hc

theorem fractionLength_barred {cs : List Char} (h : Barred cs) : fractionLength cs = 0 := by
  obtain ⟨c, rest, rfl, hc⟩ := h.cases
  exact fractionLength_of_ne (by rcases hc with rfl | rfl | rfl <;> decide) rest

theorem fractionLength_exchange {seen tail other : List Char} (hother : Barred other)
    (hlen : fractionLength (seen ++ tail) ≤ seen.length) :
    fractionLength (seen ++ other) = fractionLength (seen ++ tail) := by
  match seen, hlen with
  | [], hlen =>
    rw [List.nil_append, fractionLength_barred hother]
    simp at hlen
    exact hlen.symm
  | [c], hlen =>
    by_cases hc : c = '.'
    · subst hc
      have hnew : fractionLength ('.' :: other) = 0 := by
        obtain ⟨d, rest, rfl, rfl | rfl | rfl⟩ := hother.cases <;> rfl
      have hold : fractionLength ('.' :: tail) = 0 := by
        cases tail with
        | nil => rfl
        | cons d tail =>
          simp only [List.singleton_append, fractionLength] at hlen ⊢
          split
          · rw [if_pos ‹_›] at hlen
            simp at hlen
            omega
          · rfl
      rw [List.singleton_append, List.singleton_append, hnew, hold]
    · rw [List.singleton_append, List.singleton_append, fractionLength_of_ne hc,
        fractionLength_of_ne hc]
  | c :: d :: seen, hlen =>
    by_cases hc : c = '.'
    · subst hc
      simp only [List.cons_append, fractionLength] at hlen ⊢
      split
      · rw [if_pos ‹_›] at hlen
        have hrun : runLength isDigitOrSeparator (seen ++ tail) ≤ seen.length := by
          simp at hlen
          omega
        rw [runLength_exchange hrun (hother.startsWith_eq_false rfl rfl rfl)]
      · rfl
    · simp only [List.cons_append, fractionLength_of_ne hc]

theorem signLength_exchange {seen tail other : List Char} (hother : Barred other)
    (hlen : signLength (seen ++ tail) ≤ seen.length) :
    signLength (seen ++ other) = signLength (seen ++ tail) := by
  cases seen with
  | nil =>
    have hold : signLength tail = 0 := by simpa using hlen
    rw [List.nil_append, List.nil_append, hold]
    obtain ⟨c, rest, rfl, rfl | rfl | rfl⟩ := hother.cases <;> rfl
  | cons c seen =>
    rw [List.cons_append, List.cons_append]
    unfold signLength
    split <;> simp_all

/-- The sign and the digits of an exponent that is seen. -/
theorem exponentDigits_exchange {seen tail other : List Char} (hother : Barred other)
    (hseen : signLength (seen ++ tail) ≤ seen.length)
    (hlen : signLength (seen ++ tail) +
      runLength Char.isDigit ((seen ++ tail).drop (signLength (seen ++ tail))) ≤ seen.length) :
    signLength (seen ++ other) = signLength (seen ++ tail) ∧
    runLength Char.isDigit ((seen ++ other).drop (signLength (seen ++ other))) =
      runLength Char.isDigit ((seen ++ tail).drop (signLength (seen ++ tail))) := by
  have hsign := signLength_exchange hother hseen
  refine ⟨hsign, ?_⟩
  rw [hsign, List.drop_append_of_le_length hseen, List.drop_append_of_le_length hseen]
  rw [List.drop_append_of_le_length hseen] at hlen
  exact runLength_exchange (by simp only [List.length_drop]; omega)
    (hother.startsWith_eq_false rfl rfl rfl)

theorem exponentLength_exchange {seen tail other : List Char} (hother : Barred other)
    (hlen : exponentLength (seen ++ tail) ≤ seen.length) :
    exponentLength (seen ++ other) = exponentLength (seen ++ tail) := by
  cases seen with
  | nil =>
    have hold : exponentLength tail = 0 := by simpa using hlen
    rw [List.nil_append, List.nil_append, hold]
    obtain ⟨c, rest, rfl, rfl | rfl | rfl⟩ := hother.cases <;> rfl
  | cons c seen =>
    simp only [List.cons_append, exponentLength] at hlen ⊢
    split
    · rw [if_pos ‹_›] at hlen
      cases seen with
      | nil =>
        -- Behind the letter e nothing is seen, so there was no exponent.
        have hnew : runLength Char.isDigit (other.drop (signLength other)) = 0 := by
          obtain ⟨d, rest, rfl, rfl | rfl | rfl⟩ := hother.cases <;> rfl
        simp only [List.nil_append, hnew, beq_self_eq_true, if_true]
        split
        · rfl
        · rename_i hdigits
          simp only [List.nil_append, hdigits, List.length_cons, List.length_nil] at hlen
          simp only [beq_iff_eq] at hdigits
          simp at hlen
          omega
      | cons d seen =>
        have hsign : signLength (d :: seen ++ tail) ≤ (d :: seen).length := by
          unfold signLength
          split <;> simp
        have hdigits : signLength (d :: seen ++ tail) + runLength Char.isDigit
            ((d :: seen ++ tail).drop (signLength (d :: seen ++ tail))) ≤ (d :: seen).length := by
          split at hlen
          · rename_i hzero
            simp only [beq_iff_eq] at hzero
            omega
          · simp only [List.length_cons] at hlen ⊢
            omega
        obtain ⟨hsame, hrun⟩ := exponentDigits_exchange hother hsign hdigits
        rw [hrun, hsame]
    · rfl

theorem hasRadix_exchange {seen tail other : List Char} (hother : Barred other) (hne : seen ≠ [])
    (hlen : hasRadix (seen ++ tail) = true → 2 ≤ seen.length) :
    hasRadix (seen ++ other) = hasRadix (seen ++ tail) := by
  match seen, hne, hlen with
  | [c], _, hlen =>
    have hold : hasRadix ([c] ++ tail) = false := by
      cases hr : hasRadix ([c] ++ tail) with
      | false => rfl
      | true => exact absurd (hlen hr) (by simp)
    rw [hold]
    obtain ⟨d, rest, rfl, hd⟩ := hother.cases
    rw [List.singleton_append, hasRadix.eq_def]
    split
    · rename_i heq
      cases heq
      rcases hd with rfl | rfl | rfl <;> rfl
    · rfl
  | c :: d :: seen, _, _ =>
    simp only [List.cons_append]
    unfold hasRadix
    split <;> simp_all

/-- A number that is seen stays as it is, part by part. -/
theorem numberLength_exchange {seen tail other : List Char} (hother : Barred other)
    (hne : seen ≠ []) (hlen : numberLength (seen ++ tail) ≤ seen.length) :
    numberLength (seen ++ other) = numberLength (seen ++ tail) := by
  have hradix : hasRadix (seen ++ other) = hasRadix (seen ++ tail) := by
    refine hasRadix_exchange hother hne fun hr => ?_
    rw [numberLength, if_pos hr] at hlen
    omega
  unfold numberLength at hlen ⊢
  rw [hradix]
  split
  · rw [if_pos ‹_›] at hlen
    have htwo : 2 ≤ seen.length := by omega
    rw [List.drop_append_of_le_length htwo] at hlen ⊢
    rw [List.drop_append_of_le_length htwo]
    have hrun : runLength (fun c => c.isAlphanum || c == '_') (seen.drop 2 ++ other) =
        runLength (fun c => c.isAlphanum || c == '_') (seen.drop 2 ++ tail) :=
      runLength_exchange (by simp only [List.length_drop]; omega)
        (hother.startsWith_eq_false rfl rfl rfl)
    rw [hrun]
  · rw [if_neg ‹_›] at hlen
    dsimp only at hlen ⊢
    have hwhole : runLength isDigitOrSeparator (seen ++ other) =
        runLength isDigitOrSeparator (seen ++ tail) :=
      runLength_exchange (by omega) (hother.startsWith_eq_false rfl rfl rfl)
    rw [hwhole]
    generalize runLength isDigitOrSeparator (seen ++ tail) = whole at hlen ⊢
    have hle : whole ≤ seen.length := by omega
    rw [List.drop_append_of_le_length hle] at hlen ⊢
    rw [List.drop_append_of_le_length hle]
    have hfraction : fractionLength (seen.drop whole ++ other) =
        fractionLength (seen.drop whole ++ tail) :=
      fractionLength_exchange hother (by simp only [List.length_drop]; omega)
    rw [hfraction]
    generalize fractionLength (seen.drop whole ++ tail) = fraction at hlen ⊢
    have hle : whole + fraction ≤ seen.length := by omega
    rw [List.drop_append_of_le_length hle] at hlen ⊢
    rw [List.drop_append_of_le_length hle]
    have hexponent : exponentLength (seen.drop (whole + fraction) ++ other) =
        exponentLength (seen.drop (whole + fraction) ++ tail) :=
      exponentLength_exchange hother (by simp only [List.length_drop]; omega)
    rw [hexponent]

/-- A number that begins with a point has a digit behind it. -/
theorem two_le_numberLength {cs : List Char} (h : startsWith Char.isDigit cs = true) :
    2 ≤ numberLength ('.' :: cs) := by
  cases cs with
  | nil => cases h
  | cons d cs =>
    have hd : d.isDigit = true := h
    have hwhole : runLength isDigitOrSeparator ('.' :: d :: cs) = 0 := rfl
    have hfraction : fractionLength ('.' :: d :: cs) = 2 + runLength isDigitOrSeparator cs := by
      simp [fractionLength, hd]
    rw [numberLength, if_neg (by simp [hasRadix]), hwhole]
    dsimp only
    rw [List.drop_zero, hfraction]
    omega

/-- A number has a character at least, whether it begins with a digit or with a point. -/
theorem numberLength_pos {c : Char} {cs : List Char}
    (h : c.isDigit = true ∨ c = '.' ∧ startsWith Char.isDigit cs = true) :
    0 < numberLength (c :: cs) := by
  rcases h with hdigit | ⟨rfl, hdigit⟩
  · have hwhole : 0 < runLength isDigitOrSeparator (c :: cs) :=
      runLength_pos (by simp [startsWith, isDigitOrSeparator, hdigit])
    rw [numberLength]
    split
    · omega
    · dsimp only
      omega
  · exact Nat.lt_of_lt_of_le Nat.zero_lt_two (two_le_numberLength hdigit)

/-! ## Names -/

theorem nameLength_bounds (cs : List Char) (n : Nat) :
    n ≤ nameLength cs n ∧ nameLength cs n ≤ n + cs.length := by
  fun_induction nameLength cs n with
  | case1 n => simp
  | case2 cs n _ ih => simp only [List.length_cons]; omega
  | case3 cs n _ => simp
  | case4 c cs n _ _ ih => simp only [List.length_cons]; omega
  | case5 c cs n _ _ => simp

theorem nameLength_cons {c : Char} (hc : c ≠ '\\') (cs : List Char) (n : Nat) :
    nameLength (c :: cs) n = if isNamePart c then nameLength cs (n + 1) else n := by
  rw [nameLength]
  rintro rfl
  exact absurd rfl hc

theorem nameLength_barred {cs : List Char} (h : Barred cs) (n : Nat) : nameLength cs n = n := by
  obtain ⟨c, rest, rfl, hc⟩ := h.cases
  rw [nameLength_cons (by rcases hc with rfl | rfl | rfl <;> decide)]
  rcases hc with rfl | rfl | rfl <;> rfl

theorem isNamePart_of_isNameStart {c : Char} (h : isNameStart c = true) : isNamePart c = true := by
  simp [isNamePart, h]

theorem startsWith_isNamePart {cs : List Char} (h : startsWith isNameStart cs = true) :
    startsWith isNamePart cs = true := by
  cases cs with
  | nil => cases h
  | cons c cs => exact isNamePart_of_isNameStart h

/-- A name goes on with the character with which a name may begin. -/
theorem lt_nameLength {cs : List Char} (h : startsWith isNameStart cs = true) (n : Nat) :
    n < nameLength cs n := by
  cases cs with
  | nil => cases h
  | cons c cs =>
    have hstart : isNameStart c = true := h
    have hc : c ≠ '\\' := by rintro rfl; exact absurd hstart (by decide)
    rw [nameLength_cons hc, if_pos (isNamePart_of_isNameStart hstart)]
    have := (nameLength_bounds cs (n + 1)).1
    omega

theorem nameLength_exchange {seen tail other : List Char} {n : Nat} (hother : Barred other)
    (hlen : nameLength (seen ++ tail) n ≤ n + seen.length) :
    nameLength (seen ++ other) n = nameLength (seen ++ tail) n := by
  induction seen generalizing n with
  | nil =>
    have := (nameLength_bounds tail n).1
    rw [List.nil_append, List.nil_append, nameLength_barred hother]
    simp at hlen
    omega
  | cons c seen ih =>
    by_cases hc : c = '\\'
    · subst hc
      simp only [List.cons_append, nameLength] at hlen ⊢
      have hstart : startsWith isNameStart (seen ++ other) = startsWith isNameStart (seen ++ tail) := by
        cases seen with
        | nil =>
          rw [List.nil_append, List.nil_append, hother.startsWith_eq_false rfl rfl rfl]
          cases ht : startsWith isNameStart tail with
          | false => rfl
          | true =>
            have := lt_nameLength ht (n + 1)
            simp [ht] at hlen
            omega
        | cons d seen => rfl
      rw [hstart]
      split
      · rw [if_pos ‹_›] at hlen
        exact ih (by simp only [List.length_cons] at hlen; omega)
      · rfl
    · simp only [List.cons_append, nameLength_cons hc] at hlen ⊢
      split
      · rw [if_pos ‹_›] at hlen
        exact ih (by simp only [List.length_cons] at hlen; omega)
      · rfl

/-! ## Casts -/

theorem drop_runLength (test : Char → Bool) (cs : List Char) :
    cs.drop (runLength test cs) = cs.dropWhile test := by
  have h : (cs.takeWhile test ++ cs.dropWhile test).drop (runLength test cs) = cs.dropWhile test :=
    List.drop_left
  rwa [List.takeWhile_append_dropWhile] at h

theorem take_runLength (test : Char → Bool) (cs : List Char) :
    cs.take (runLength test cs) = cs.takeWhile test := by
  have h : (cs.takeWhile test ++ cs.dropWhile test).take (runLength test cs) = cs.takeWhile test :=
    List.take_left
  rwa [List.takeWhile_append_dropWhile] at h

theorem startsWith_drop_runLength (test : Char → Bool) (cs : List Char) :
    startsWith test (cs.drop (runLength test cs)) = false := by
  rw [drop_runLength]
  exact startsWith_dropWhile test cs

/-- What may stand behind the opening parenthesis of a cast, its closing one included. -/
def IsCast (text : List Char) : Prop :=
  ∃ before word after, text = before ++ (word ++ (after ++ [')'])) ∧
    (∀ c ∈ before, isPadding c = true) ∧ (∀ c ∈ word, c.isAlpha = true) ∧
    (∀ c ∈ after, isPadding c = true) ∧
    castTypes.contains (String.ofList (word.map Char.toLower)) = true

theorem not_isPadding_of_isAlpha {c : Char} (h : c.isAlpha = true) : isPadding c = false := by
  cases hc : isPadding c with
  | false => rfl
  | true =>
    have hcases : c = ' ' ∨ c = '\t' := by simpa [isPadding] using hc
    rcases hcases with rfl | rfl <;> exact absurd h (by decide)

theorem not_isAlpha_of_isPadding {c : Char} (h : isPadding c = true) : c.isAlpha = false := by
  cases hc : c.isAlpha with
  | false => rfl
  | true => rw [not_isPadding_of_isAlpha hc] at h; cases h

theorem startsWith_append {test : Char → Bool} {cs ds : List Char}
    (h : ∀ c ∈ cs, test c = false) (hds : startsWith test ds = false) :
    startsWith test (cs ++ ds) = false := by
  cases cs with
  | nil => exact hds
  | cons c cs => exact h c (by simp)

/-- Every text begins with a run, up to a character that does not pass. -/
theorem exists_run (test : Char → Bool) (cs : List Char) :
    ∃ run rest, cs = run ++ rest ∧ (∀ c ∈ run, test c = true) ∧ startsWith test rest = false :=
  ⟨cs.takeWhile test, cs.dropWhile test, List.takeWhile_append_dropWhile.symm,
    List.all_eq_true.mp List.all_takeWhile, startsWith_dropWhile test cs⟩

/-- Looking for a cast takes apart the blanks, the letters and the blanks in front. -/
theorem castLength?_runs {before word after rest : List Char}
    (hbefore : ∀ c ∈ before, isPadding c = true) (hword : ∀ c ∈ word, c.isAlpha = true)
    (hafter : ∀ c ∈ after, isPadding c = true)
    (hstop : startsWith isPadding (word ++ (after ++ rest)) = false)
    (hend : startsWith Char.isAlpha (after ++ rest) = false)
    (hclose : startsWith isPadding rest = false) :
    castLength? (before ++ (word ++ (after ++ rest))) =
      if startsWith (· == ')') rest &&
          castTypes.contains (String.ofList (word.map Char.toLower)) then
        some (before.length + word.length + after.length + 1)
      else none := by
  have hone := takeWhile_append_stop hbefore hstop
  have htwo := takeWhile_append_stop hword hend
  have hthree := takeWhile_append_stop hafter hclose
  simp only [castLength?, runLength, hone, List.drop_left, htwo, hthree]

/-- A cast in front is recognized, and nothing else is. -/
theorem castLength?_eq_some_iff {cs : List Char} {n : Nat} :
    castLength? cs = some n ↔ ∃ text tail, cs = text ++ tail ∧ text.length = n ∧ IsCast text := by
  constructor
  · intro h
    obtain ⟨before, rest, rfl, hbefore, hstop⟩ := exists_run isPadding cs
    obtain ⟨word, rest, rfl, hword, hend⟩ := exists_run Char.isAlpha rest
    obtain ⟨after, rest, rfl, hafter, hclose⟩ := exists_run isPadding rest
    rw [castLength?_runs hbefore hword hafter hstop hend hclose] at h
    split at h
    · rename_i hfound
      obtain ⟨hparen, htype⟩ := Bool.and_eq_true_iff.mp hfound
      cases rest with
      | nil => cases hparen
      | cons c rest =>
        obtain rfl : c = ')' := by simpa [startsWith] using hparen
        refine ⟨before ++ (word ++ (after ++ [')'])), rest, by simp, ?_,
          before, word, after, rfl, hbefore, hword, hafter, htype⟩
        rw [← Option.some.inj h]
        simp [Nat.add_assoc]
    · cases h
  · rintro ⟨text, tail, rfl, rfl, before, word, after, rfl, hbefore, hword, hafter, htype⟩
    have hstop : startsWith isPadding (word ++ (after ++ ')' :: tail)) = false := by
      cases word with
      | nil => exact absurd htype (by decide)
      | cons c word => exact not_isPadding_of_isAlpha (hword c (by simp))
    have hend : startsWith Char.isAlpha (after ++ ')' :: tail) = false :=
      startsWith_append (fun c hc => not_isAlpha_of_isPadding (hafter c hc)) rfl
    have hruns := castLength?_runs hbefore hword hafter hstop hend rfl
    simp only [List.append_assoc, List.cons_append, List.nil_append, hruns, htype]
    simp [startsWith, Nat.add_assoc]

theorem castLength?_le {cs : List Char} {n : Nat} (h : castLength? cs = some n) :
    n ≤ cs.length := by
  obtain ⟨text, tail, rfl, rfl, _⟩ := castLength?_eq_some_iff.mp h
  simp

/-- A cast that is seen is a cast before every text. -/
theorem castLength?_exchange {seen tail : List Char} {n : Nat} (other : List Char)
    (h : castLength? (seen ++ tail) = some n) (hlen : n ≤ seen.length) :
    castLength? (seen ++ other) = some n := by
  obtain ⟨text, behind, hsplit, rfl, hcast⟩ := castLength?_eq_some_iff.mp h
  obtain ⟨more, rfl, _⟩ := piece_seen hsplit hlen
  exact castLength?_eq_some_iff.mpr ⟨text, more ++ other, by simp, rfl, hcast⟩

end EscapeAudit.Lexer
