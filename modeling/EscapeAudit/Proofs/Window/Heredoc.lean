import EscapeAudit.Proofs.Window.Literal

/-!
# How far a heredoc is looked for

A heredoc is found in two looks.  The first sees the line that opens it, the second goes over the
lines behind it until one closes it.  Both are put into words as decompositions of the text
(`heredocHeader?_eq_some_iff`, `heredocCloser?_eq_some_iff`).  Neither an opening line nor a closing
label holds a barrier, so a text that begins with one cannot complete what was not there.
-/

namespace EscapeAudit.Lexer

/-! ## The first line -/

/-- The labels of heredocs. -/
structure IsLabel (label : List Char) : Prop where
  start : startsWith isNameStart label = true
  part : ∀ c ∈ label, isNamePart c = true

/-- A text behind `<<<` that opens a heredoc, its line end included. -/
structure IsHeader (text : List Char) (h : HeredocHeader) : Prop where
  label : IsLabel h.label
  length : h.length = text.length
  text : ∃ padding quote lineEnd, text = padding ++ (quote ++ (h.label ++ (quote ++ lineEnd))) ∧
    (∀ c ∈ padding, isPadding c = true) ∧
    (quote = [] ∧ h.nowdoc = false ∨ quote = ['"'] ∧ h.nowdoc = false ∨
      quote = ['\''] ∧ h.nowdoc = true) ∧
    (lineEnd = ['\n'] ∨ lineEnd = ['\r', '\n'])

/-- A line end in front, in words. -/
theorem lineEndLength_ne_zero_iff {cs : List Char} :
    lineEndLength cs ≠ 0 ↔ ∃ lineEnd rest, cs = lineEnd ++ rest ∧
      lineEndLength cs = lineEnd.length ∧ (lineEnd = ['\n'] ∨ lineEnd = ['\r', '\n']) := by
  constructor
  · intro h
    unfold lineEndLength at h ⊢
    split at h
    · exact ⟨['\r', '\n'], _, rfl, rfl, .inr rfl⟩
    · exact ⟨['\n'], _, rfl, rfl, .inl rfl⟩
    · exact absurd rfl h
  · rintro ⟨lineEnd, rest, rfl, hlen, rfl | rfl⟩ <;> rw [hlen] <;> simp

theorem heredocLabel?_eq_some_iff {cs label rest : List Char} :
    heredocLabel? cs = some (label, rest) ↔
      cs = label ++ rest ∧ IsLabel label ∧ startsWith isNamePart rest = false := by
  constructor
  · intro h
    unfold heredocLabel? at h
    split at h
    · rename_i hstart
      simp only [Option.some.injEq, Prod.mk.injEq] at h
      obtain ⟨rfl, rfl⟩ := h
      refine ⟨List.takeWhile_append_dropWhile.symm, ⟨?_, List.all_eq_true.mp List.all_takeWhile⟩,
        startsWith_dropWhile _ _⟩
      cases cs with
      | nil => cases hstart
      | cons c cs =>
        have hc : isNameStart c = true := hstart
        rw [List.takeWhile_cons, isNamePart_of_isNameStart hc]
        exact hc
    · cases h
  · rintro ⟨rfl, hlabel, hstop⟩
    have hstart : startsWith isNameStart (label ++ rest) = true := by
      have h := hlabel.start
      cases label with
      | nil => cases h
      | cons c label => exact h
    rw [heredocLabel?, if_pos hstart, takeWhile_append_stop hlabel.part hstop,
      dropWhile_append_stop hlabel.part hstop]

/-- A label between quotes. -/
theorem labelLine?_quoted {n : Nat} {q : Char} {cs : List Char} {h : HeredocHeader}
    (hq : q = '\'' ∨ q = '"') :
    labelLine? n (q :: cs) = some h ↔ ∃ label lineEnd rest,
      cs = label ++ (q :: (lineEnd ++ rest)) ∧ IsLabel label ∧
      (lineEnd = ['\n'] ∨ lineEnd = ['\r', '\n']) ∧
      h = ⟨q == '\'', label, n + label.length + 2 + lineEnd.length⟩ := by
  have hquote : (q == '\'' || q == '"') = true := by rcases hq with rfl | rfl <;> rfl
  have hnot : isNamePart q = false := by rcases hq with rfl | rfl <;> rfl
  rw [labelLine?, if_pos hquote]
  constructor
  · intro hline
    split at hline
    · rename_i label p rest hlabel
      obtain ⟨rfl, hword, _⟩ := heredocLabel?_eq_some_iff.mp hlabel
      split at hline
      · rename_i hend
        simp only [Bool.and_eq_true, beq_iff_eq, bne_iff_ne] at hend
        obtain ⟨lineEnd, rest', rfl, hlen, hform⟩ := lineEndLength_ne_zero_iff.mp hend.2
        refine ⟨label, lineEnd, rest', by rw [hend.1], hword, hform, ?_⟩
        rw [← hlen]
        exact (Option.some.inj hline).symm
      · cases hline
    · cases hline
  · rintro ⟨label, lineEnd, rest, rfl, hword, hform, rfl⟩
    have hlabel : heredocLabel? (label ++ (q :: (lineEnd ++ rest))) =
        some (label, q :: (lineEnd ++ rest)) := heredocLabel?_eq_some_iff.mpr ⟨rfl, hword, hnot⟩
    have hlen : lineEndLength (lineEnd ++ rest) = lineEnd.length := by
      rcases hform with rfl | rfl <;> rfl
    have hne : lineEnd.length ≠ 0 := by rcases hform with rfl | rfl <;> simp
    rw [hlabel]
    simp [hlen, hne]

/-- A label without quotes. -/
theorem labelLine?_bare {n : Nat} {cs : List Char} {h : HeredocHeader}
    (hq : startsWith (fun c => c == '\'' || c == '"') cs = false) :
    labelLine? n cs = some h ↔ ∃ label lineEnd rest, cs = label ++ (lineEnd ++ rest) ∧
      IsLabel label ∧ (lineEnd = ['\n'] ∨ lineEnd = ['\r', '\n']) ∧
      h = ⟨false, label, n + label.length + lineEnd.length⟩ := by
  constructor
  · intro hline
    cases cs with
    | nil => cases hline
    | cons c cs =>
      have hc : ¬ (c == '\'' || c == '"') = true := by simpa [startsWith] using hq
      rw [labelLine?, if_neg hc] at hline
      split at hline
      · rename_i label rest hlabel
        obtain ⟨hsplit, hword, _⟩ := heredocLabel?_eq_some_iff.mp hlabel
        split at hline
        · rename_i hend
          simp only [bne_iff_ne] at hend
          obtain ⟨lineEnd, rest', rfl, hlen, hform⟩ := lineEndLength_ne_zero_iff.mp hend
          refine ⟨label, lineEnd, rest', hsplit, hword, hform, ?_⟩
          rw [← hlen]
          exact (Option.some.inj hline).symm
        · cases hline
      · cases hline
  · rintro ⟨label, lineEnd, rest, rfl, hword, hform, rfl⟩
    have hstop : startsWith isNamePart (lineEnd ++ rest) = false := by
      rcases hform with rfl | rfl <;> rfl
    have hlabel : heredocLabel? (label ++ (lineEnd ++ rest)) = some (label, lineEnd ++ rest) :=
      heredocLabel?_eq_some_iff.mpr ⟨rfl, hword, hstop⟩
    have hlen : lineEndLength (lineEnd ++ rest) = lineEnd.length := by
      rcases hform with rfl | rfl <;> rfl
    have hne : lineEnd.length ≠ 0 := by rcases hform with rfl | rfl <;> simp
    cases hcs : label ++ (lineEnd ++ rest) with
    | nil => simp at hcs; exact absurd (by rw [hcs.2.1]; rfl) hne
    | cons c cs =>
      rw [hcs] at hq hlabel
      have hc : ¬ (c == '\'' || c == '"') = true := by simpa [startsWith] using hq
      rw [labelLine?, if_neg hc, hlabel]
      simp [hlen, hne]

theorem not_isPadding_of_isNamePart {c : Char} (h : isNamePart c = true) :
    isPadding c = false := by
  cases hc : isPadding c with
  | false => rfl
  | true =>
    have hcases : c = ' ' ∨ c = '\t' := by simpa [isPadding] using hc
    rcases hcases with rfl | rfl <;> exact absurd h (by decide)

theorem not_isPadding_of_isNameStart {c : Char} (h : isNameStart c = true) :
    isPadding c = false :=
  not_isPadding_of_isNamePart (isNamePart_of_isNameStart h)

/-- The text behind the blanks of a header begins with a quote or with its label. -/
theorem IsLabel.startsWith_append {label : List Char} (h : IsLabel label) {test : Char → Bool}
    (htest : ∀ c, isNameStart c = true → test c = false) (rest : List Char) :
    startsWith test (label ++ rest) = false := by
  have hstart := h.start
  cases label with
  | nil => cases hstart
  | cons c label => exact htest c hstart

/-- A header in front is recognized, and nothing else is. -/
theorem heredocHeader?_eq_some_iff {cs : List Char} {h : HeredocHeader} :
    heredocHeader? cs = some h ↔ ∃ text rest, cs = text ++ rest ∧ IsHeader text h := by
  unfold heredocHeader?
  constructor
  · intro hheader
    obtain ⟨padding, cs, rfl, hpadding, hstop⟩ := exists_run isPadding cs
    rw [runLength, takeWhile_append_stop hpadding hstop,
      dropWhile_append_stop hpadding hstop] at hheader
    cases hq : startsWith (fun c => c == '\'' || c == '"') cs with
    | false =>
      obtain ⟨label, lineEnd, rest, rfl, hword, hform, rfl⟩ := (labelLine?_bare hq).mp hheader
      refine ⟨padding ++ (label ++ lineEnd), rest, by simp, hword, by simp; omega, ?_⟩
      exact ⟨padding, [], lineEnd, by simp, hpadding, .inl ⟨rfl, rfl⟩, hform⟩
    | true =>
      cases cs with
      | nil => cases hq
      | cons q cs =>
        replace hq : q = '\'' ∨ q = '"' := by simpa [startsWith] using hq
        obtain ⟨label, lineEnd, rest, rfl, hword, hform, rfl⟩ := (labelLine?_quoted hq).mp hheader
        refine ⟨padding ++ ([q] ++ (label ++ ([q] ++ lineEnd))), rest, by simp, hword,
          by simp; omega, padding, [q], lineEnd, rfl, hpadding, ?_, hform⟩
        rcases hq with rfl | rfl
        · exact .inr (.inr ⟨rfl, rfl⟩)
        · exact .inr (.inl ⟨rfl, rfl⟩)
  · rintro ⟨text, rest, rfl, hword, hlength, padding, quote, lineEnd, rfl, hpadding, hquote, hform⟩
    obtain ⟨nowdoc, label, length⟩ := h
    simp only at hword hlength hquote
    have hbare : ∀ c, isNameStart c = true → (c == '\'' || c == '"') = false := by
      intro c hc
      cases hcases : (c == '\'' || c == '"') with
      | false => rfl
      | true =>
        have hcases : c = '\'' ∨ c = '"' := by simpa using hcases
        rcases hcases with rfl | rfl <;> exact absurd hc (by decide)
    have hstop : startsWith isPadding (quote ++ (label ++ (quote ++ lineEnd)) ++ rest) = false := by
      rcases hquote with ⟨rfl, _⟩ | ⟨rfl, _⟩ | ⟨rfl, _⟩
      · simpa using hword.startsWith_append (fun c => not_isPadding_of_isNameStart) (lineEnd ++ rest)
      · rfl
      · rfl
    rw [List.append_assoc, runLength, takeWhile_append_stop hpadding hstop,
      dropWhile_append_stop hpadding hstop]
    rcases hquote with ⟨rfl, rfl⟩ | ⟨rfl, rfl⟩ | ⟨rfl, rfl⟩
    · refine (labelLine?_bare ?_).mpr ⟨label, lineEnd, rest, by simp, hword, hform, ?_⟩
      · simpa using hword.startsWith_append hbare (lineEnd ++ rest)
      · rw [hlength]; simp; omega
    · refine (labelLine?_quoted (.inr rfl)).mpr ⟨label, lineEnd, rest, by simp, hword, hform, ?_⟩
      rw [hlength]; simp; omega
    · refine (labelLine?_quoted (.inl rfl)).mpr ⟨label, lineEnd, rest, by simp, hword, hform, ?_⟩
      rw [hlength]; simp; omega

theorem not_isBarrier_of_isNamePart {c : Char} (h : isNamePart c = true) :
    isBarrier c = false := by
  cases hc : isBarrier c with
  | false => rfl
  | true =>
    have hcases : c = '$' ∨ c = ')' ∨ c = '/' := by simpa [isBarrier, or_assoc] using hc
    rcases hcases with rfl | rfl | rfl <;> exact absurd h (by decide)

theorem not_isBarrier_of_isPadding {c : Char} (h : isPadding c = true) :
    isBarrier c = false := by
  have hcases : c = ' ' ∨ c = '\t' := by simpa [isPadding] using h
  rcases hcases with rfl | rfl <;> rfl

theorem IsHeader.not_isBarrier {text : List Char} {h : HeredocHeader} (hheader : IsHeader text h) :
    ∀ c ∈ text, isBarrier c = false := by
  obtain ⟨padding, quote, lineEnd, rfl, hpadding, hquote, hform⟩ := hheader.text
  have hmarks : ∀ c ∈ quote, isBarrier c = false := by
    rcases hquote with ⟨rfl, _⟩ | ⟨rfl, _⟩ | ⟨rfl, _⟩ <;> simp [isBarrier]
  intro c hc
  simp only [List.mem_append] at hc
  rcases hc with hc | hc | hc | hc | hc
  · exact not_isBarrier_of_isPadding (hpadding c hc)
  · exact hmarks c hc
  · exact not_isBarrier_of_isNamePart (hheader.label.part c hc)
  · exact hmarks c hc
  · rcases hform with rfl | rfl
    · obtain rfl : c = '\n' := by simpa using hc
      rfl
    · have hcases : c = '\r' ∨ c = '\n' := by simpa using hc
      rcases hcases with rfl | rfl <;> rfl

theorem heredocHeader?_le {cs : List Char} {h : HeredocHeader} (hheader : heredocHeader? cs = some h) :
    h.length ≤ cs.length := by
  obtain ⟨text, rest, rfl, hform⟩ := heredocHeader?_eq_some_iff.mp hheader
  rw [hform.length]
  simp

/-- A header that is seen, and one that is missing, is so before every barred text. -/
theorem heredocHeader?_exchange {seen tail other : List Char} (hother : Barred other)
    (hlen : ∀ h, heredocHeader? (seen ++ tail) = some h → h.length ≤ seen.length) :
    heredocHeader? (seen ++ other) = heredocHeader? (seen ++ tail) := by
  cases hold : heredocHeader? (seen ++ tail) with
  | some h =>
    obtain ⟨text, rest, hsplit, hform⟩ := heredocHeader?_eq_some_iff.mp hold
    obtain ⟨more, rfl, _⟩ := piece_seen hsplit (hform.length ▸ hlen h hold)
    exact heredocHeader?_eq_some_iff.mpr ⟨text, more ++ other, List.append_assoc text more other, hform⟩
  | none =>
    cases hnew : heredocHeader? (seen ++ other) with
    | none => rfl
    | some h =>
      obtain ⟨text, rest, hsplit, hform⟩ := heredocHeader?_eq_some_iff.mp hnew
      obtain ⟨more, rfl, _⟩ := piece_seen_of_stop hother hsplit hform.not_isBarrier
      have hsome := heredocHeader?_eq_some_iff.mpr
        ⟨text, more ++ tail, List.append_assoc text more tail, hform⟩
      rw [hold] at hsome
      cases hsome

/-! ## The closing line -/

theorem dropLeading?_eq_some_iff {lead cs rest : List Char} :
    Text.dropLeading? lead cs = some rest ↔ cs = lead ++ rest := by
  induction lead generalizing cs with
  | nil => simp [Text.dropLeading?]
  | cons l lead ih =>
    cases cs with
    | nil => simp [Text.dropLeading?]
    | cons c cs =>
      rw [Text.dropLeading?]
      by_cases hc : l = c
      · simp [hc, ih]
      · simp [hc, Ne.symm hc]

theorem IsLabel.startsPart {label : List Char} (h : IsLabel label) :
    startsWith isNamePart label = true :=
  startsWith_isNamePart h.start

theorem IsLabel.length_pos {label : List Char} (h : IsLabel label) : 0 < label.length := by
  have hstart := h.start
  cases label with
  | nil => cases hstart
  | cons c label => simp

theorem IsLabel.not_newline {label : List Char} (h : IsLabel label) : '\n' ∉ label := by
  intro hmem
  exact absurd (h.part _ hmem) (by decide)

/-! ## Closing lines -/

/-- Whether a line begins behind a text.  Of no text, `lineStart` says so. -/
def startsLine (lineStart : Bool) (before : List Char) : Bool :=
  (before.getLast?.map (· == '\n')).getD lineStart

theorem startsLine_cons (lineStart : Bool) (c : Char) (before : List Char) :
    startsLine lineStart (c :: before) = startsLine (c == '\n') before := by
  cases before with
  | nil => rfl
  | cons d before =>
    rw [startsLine, startsLine, List.getLast?_cons_cons, List.getLast?_cons]
    rfl

/-- A line that begins behind some characters begins behind a line feed. -/
theorem mem_newline_of_startsLine {lineStart : Bool} {before more : List Char} (hmore : more ≠ [])
    (h : startsLine lineStart (before ++ more) = true) : '\n' ∈ more := by
  rw [startsLine, List.getLast?_append, List.getLast?_eq_some_getLast hmore] at h
  have hlast : more.getLast hmore = '\n' := by simpa using h
  exact hlast ▸ List.getLast_mem hmore

/-- The line in front closes a heredoc: blanks, its label, and no more of a name. -/
def ClosesHeredoc (label line : List Char) : Prop :=
  ∃ padding rest, line = padding ++ (label ++ rest) ∧ (∀ c ∈ padding, isPadding c = true) ∧
    startsWith isNamePart rest = false

/-- The text behind a header, cut at its first closing line: whole lines, the blanks before the
label, the label, and what follows it. -/
structure FirstClosing (label body text padding rest : List Char) : Prop where
  split : body = text ++ (padding ++ (label ++ rest))
  lines : startsLine true text = true
  blanks : ∀ c ∈ padding, isPadding c = true
  ends : startsWith isNamePart rest = false
  first : ∀ before line, body = before ++ line → before.length < text.length →
    startsLine true before = true → ¬ ClosesHeredoc label line

theorem FirstClosing.closes {label body text padding rest : List Char}
    (h : FirstClosing label body text padding rest) :
    ClosesHeredoc label (padding ++ (label ++ rest)) :=
  ⟨padding, rest, rfl, h.blanks, h.ends⟩

/-- The cut takes no more characters than there are, and one at least. -/
theorem FirstClosing.bounds {label body text padding rest : List Char}
    (h : FirstClosing label body text padding rest) (hlabel : IsLabel label) :
    0 < (padding ++ label).length ∧ text.length + (padding ++ label).length ≤ body.length := by
  have hpos := hlabel.length_pos
  rw [h.split]
  simp only [List.length_append]
  omega

section

variable {label : List Char} (hlabel : startsWith isNamePart label = true)

include hlabel

/-- The blanks of a closing line are all the blanks that it begins with. -/
theorem startsWith_isPadding_label (rest : List Char) :
    startsWith isPadding (label ++ rest) = false := by
  cases label with
  | nil => cases hlabel
  | cons c label => exact not_isPadding_of_isNamePart hlabel

/-- The line in front closes the heredoc when blanks, the label and no more of a name stand there.
Its size counts the bytes of the blanks and of the label. -/
theorem closerSize?_eq_some_iff {line : List Char} {size : Nat} :
    closerSize? label line = some size ↔ ∃ padding rest, line = padding ++ (label ++ rest) ∧
      (∀ c ∈ padding, isPadding c = true) ∧ startsWith isNamePart rest = false ∧
      size = Text.byteLength (padding ++ label) := by
  unfold closerSize?
  dsimp only
  constructor
  · intro h
    obtain ⟨padding, rest, rfl, hpadding, hstop⟩ := exists_run isPadding line
    rw [takeWhile_append_stop hpadding hstop, dropWhile_append_stop hpadding hstop] at h
    split at h
    · cases h
    · rename_i after hafter
      obtain rfl := dropLeading?_eq_some_iff.mp hafter
      split at h
      · cases h
      · rename_i hend
        exact ⟨padding, after, rfl, hpadding, (Bool.not_eq_true _).mp hend,
          (Option.some.inj h).symm.trans (Text.byteLength_append _ _).symm⟩
  · rintro ⟨padding, rest, rfl, hpadding, hend, rfl⟩
    have hstop := startsWith_isPadding_label hlabel rest
    rw [takeWhile_append_stop hpadding hstop, dropWhile_append_stop hpadding hstop,
      dropLeading?_eq_some_iff.mpr rfl]
    simp [hend, Text.byteLength_append]

theorem closerSize?_eq_none_iff {line : List Char} :
    closerSize? label line = none ↔ ¬ ClosesHeredoc label line := by
  constructor
  · rintro hnone ⟨padding, rest, hline, hpadding, hend⟩
    have hsome := (closerSize?_eq_some_iff hlabel).mpr ⟨padding, rest, hline, hpadding, hend, rfl⟩
    rw [hnone] at hsome
    cases hsome
  · intro hnot
    cases hclose : closerSize? label line with
    | none => rfl
    | some size =>
      obtain ⟨padding, rest, hline, hpadding, hend, _⟩ := (closerSize?_eq_some_iff hlabel).mp hclose
      exact absurd ⟨padding, rest, hline, hpadding, hend⟩ hnot

theorem not_closesHeredoc_nil : ¬ ClosesHeredoc label [] := by
  rintro ⟨padding, rest, hline, _⟩
  cases label with
  | nil => cases hlabel
  | cons c label => simp at hline

/-- A text is cut at its first closing line in one way only. -/
theorem FirstClosing.unique {body text padding rest text' padding' rest' : List Char}
    (h : FirstClosing label body text padding rest)
    (h' : FirstClosing label body text' padding' rest') :
    text = text' ∧ padding = padding' ∧ rest = rest' := by
  -- Neither closing line stands before the other.
  have hle : ¬ text.length < text'.length := fun hlt =>
    h'.first text _ h.split hlt h.lines h.closes
  have hge : ¬ text'.length < text.length := fun hlt =>
    h.first text' _ h'.split hlt h'.lines h'.closes
  obtain ⟨rfl, hline⟩ := List.append_inj (h.split.symm.trans h'.split) (by omega)
  have hpadding := takeWhile_append_stop h.blanks (startsWith_isPadding_label hlabel rest)
  rw [hline, takeWhile_append_stop h'.blanks (startsWith_isPadding_label hlabel rest')] at hpadding
  subst hpadding
  exact ⟨rfl, rfl, List.append_cancel_left (List.append_cancel_left hline)⟩

/-! ## The search for the closing line -/

omit hlabel in
theorem heredocCloser?_cons (lineStart : Bool) (c : Char) (cs : List Char) (offset : Nat) :
    heredocCloser? label lineStart (c :: cs) offset =
      match if lineStart then closerSize? label (c :: cs) else none with
      | some size => some (offset, size)
      | none => heredocCloser? label (c == '\n') cs (offset + c.utf8Size) := rfl

/-- The search looks at the line in front if one begins there, and then goes on behind the first
character. -/
theorem heredocCloser?_cons_eq_none_iff {lineStart : Bool} {c : Char} {cs : List Char}
    {offset : Nat} :
    heredocCloser? label lineStart (c :: cs) offset = none ↔
      (lineStart = true → ¬ ClosesHeredoc label (c :: cs)) ∧
        heredocCloser? label (c == '\n') cs (offset + c.utf8Size) = none := by
  rw [heredocCloser?_cons]
  cases lineStart with
  | false => simp
  | true =>
    rw [if_pos rfl, ← closerSize?_eq_none_iff hlabel]
    cases closerSize? label (c :: cs) with
    | none => simp
    | some size => simp

/-- A heredoc has no end exactly when none of its lines closes it. -/
theorem heredocCloser?_eq_none_iff {lineStart : Bool} {cs : List Char} {offset : Nat} :
    heredocCloser? label lineStart cs offset = none ↔
      ∀ before line, cs = before ++ line → startsLine lineStart before = true →
        ¬ ClosesHeredoc label line := by
  induction cs generalizing lineStart offset with
  | nil =>
    have hnone : closerSize? label [] = none :=
      (closerSize?_eq_none_iff hlabel).mpr (not_closesHeredoc_nil hlabel)
    refine iff_of_true (by simp [heredocCloser?, hnone]) ?_
    intro before line hsplit _
    obtain ⟨rfl, rfl⟩ := List.append_eq_nil_iff.mp hsplit.symm
    exact not_closesHeredoc_nil hlabel
  | cons c cs ih =>
    rw [heredocCloser?_cons_eq_none_iff hlabel, ih]
    constructor
    · rintro ⟨hhere, hbehind⟩ before line hsplit hstart
      cases before with
      | nil =>
        obtain rfl : c :: cs = line := hsplit
        exact hhere hstart
      | cons b before =>
        obtain ⟨rfl, hrest⟩ := List.cons_eq_cons.mp hsplit
        exact hbehind before line hrest (by rwa [startsLine_cons] at hstart)
    · intro h
      refine ⟨h [] (c :: cs) rfl, ?_⟩
      intro before line hsplit hstart
      exact h (c :: before) line (by rw [hsplit, List.cons_append]) (by rwa [startsLine_cons])

/-- A heredoc is closed by the first of its lines that can close it. -/
theorem heredocCloser?_eq_some {lineStart : Bool} {cs : List Char} {offset bodySize size : Nat}
    (h : heredocCloser? label lineStart cs offset = some (bodySize, size)) :
    ∃ text padding rest, cs = text ++ (padding ++ (label ++ rest)) ∧
      bodySize = offset + Text.byteLength text ∧ size = Text.byteLength (padding ++ label) ∧
      startsLine lineStart text = true ∧ (∀ c ∈ padding, isPadding c = true) ∧
      startsWith isNamePart rest = false ∧
      ∀ before line, cs = before ++ line → before.length < text.length →
        startsLine lineStart before = true → ¬ ClosesHeredoc label line := by
  induction cs generalizing lineStart offset with
  | nil =>
    have hnone : closerSize? label [] = none :=
      (closerSize?_eq_none_iff hlabel).mpr (not_closesHeredoc_nil hlabel)
    simp [heredocCloser?, hnone] at h
  | cons c cs ih =>
    rw [heredocCloser?_cons] at h
    split at h
    · rename_i m hm
      split at hm
      · rename_i hstart
        cases h
        obtain ⟨padding, rest, hline, hpadding, hend, rfl⟩ := (closerSize?_eq_some_iff hlabel).mp hm
        refine ⟨[], padding, rest, hline, rfl, rfl, hstart, hpadding, hend, ?_⟩
        intro before line _ hlt
        exact absurd hlt (Nat.not_lt_zero _)
      · cases hm
    · rename_i hhere
      obtain ⟨text, padding, rest, rfl, rfl, hsize, hstart, hpadding, hend, hfirst⟩ := ih h
      refine ⟨c :: text, padding, rest, rfl, ?_, hsize, ?_, hpadding, hend, ?_⟩
      · rw [Text.byteLength_cons, Nat.add_assoc]
      · rwa [startsLine_cons]
      · intro before line hsplit hlt hbefore
        cases before with
        | nil =>
          obtain rfl : lineStart = true := hbefore
          rw [if_pos rfl, closerSize?_eq_none_iff hlabel, hsplit] at hhere
          exact hhere
        | cons b before =>
          obtain ⟨rfl, hrest⟩ := List.cons_eq_cons.mp hsplit
          refine hfirst before line hrest ?_ (by rwa [startsLine_cons] at hbefore)
          simpa using hlt

/-- The search finds a closing line exactly when there is one. -/
theorem exists_heredocCloser?_iff {body : List Char} :
    (∃ found, heredocCloser? label true body 0 = some found) ↔
      ∃ before line, body = before ++ line ∧ startsLine true before = true ∧
        ClosesHeredoc label line := by
  rw [← Option.isSome_iff_exists, Option.isSome_iff_ne_none, Ne,
    heredocCloser?_eq_none_iff hlabel]
  simp only [Classical.not_forall, Classical.not_not, exists_prop]

/-- A closing line that is found is the first one. -/
theorem exists_firstClosing {body : List Char} {bodySize size : Nat}
    (h : heredocCloser? label true body 0 = some (bodySize, size)) :
    ∃ text padding rest, FirstClosing label body text padding rest ∧
      bodySize = Text.byteLength text ∧ size = Text.byteLength (padding ++ label) := by
  obtain ⟨text, padding, rest, hsplit, hbody, hsize, hlines, hblanks, hends, hfirst⟩ :=
    heredocCloser?_eq_some hlabel h
  exact ⟨text, padding, rest, ⟨hsplit, hlines, hblanks, hends, hfirst⟩,
    hbody.trans (Nat.zero_add _), hsize⟩

/-- The search finds the sizes in bytes of the cut at the first closing line. -/
theorem heredocCloser?_eq_some_iff {body : List Char} {bodySize size : Nat} :
    heredocCloser? label true body 0 = some (bodySize, size) ↔
      ∃ text padding rest, FirstClosing label body text padding rest ∧
        bodySize = Text.byteLength text ∧ size = Text.byteLength (padding ++ label) := by
  refine ⟨exists_firstClosing hlabel, ?_⟩
  rintro ⟨text, padding, rest, h, rfl, rfl⟩
  -- Some closing line is found, and there is only one way to cut at the first.
  obtain ⟨⟨bodySize, size⟩, hfound⟩ :=
    (exists_heredocCloser?_iff hlabel).mpr ⟨text, _, h.split, h.lines, h.closes⟩
  obtain ⟨text', padding', rest', h', rfl, rfl⟩ := exists_firstClosing hlabel hfound
  obtain ⟨rfl, rfl, rfl⟩ := h.unique hlabel h'
  exact hfound

end

/-! ## The closing line before another text -/

theorem startsWith_barred {test : Char → Bool} {seen tail other : List Char}
    (h : startsWith test (seen ++ tail) = false) (hother : startsWith test other = false) :
    startsWith test (seen ++ other) = false := by
  cases seen with
  | nil => exact hother
  | cons c seen => exact h

/-- A line that is seen with its line feed does not come to close the heredoc. -/
theorem not_closesHeredoc_exchange {label : List Char} (hlabel : IsLabel label)
    {seen tail : List Char} (other : List Char) (h : ¬ ClosesHeredoc label (seen ++ tail))
    (hline : '\n' ∈ seen) : ¬ ClosesHeredoc label (seen ++ other) := by
  rintro ⟨padding, rest, hsplit, hpadding, hend⟩
  -- Neither the blanks nor the label hold the line feed.
  have hclear : '\n' ∉ padding ++ label := by
    intro hmem
    rcases List.mem_append.mp hmem with hmem | hmem
    · exact absurd (hpadding _ hmem) (by decide)
    · exact hlabel.not_newline hmem
  rw [← List.append_assoc] at hsplit
  obtain ⟨more, rfl, rfl⟩ := piece_within hline hsplit hclear
  have hne : more ≠ [] := List.ne_nil_of_mem (mem_behind_piece _ hline hclear)
  refine h ⟨padding, more ++ tail, by simp, hpadding, ?_⟩
  rwa [startsWith_append_of_ne_nil hne isNamePart tail other]

/-- A closing label that is seen is the first one before every text that does not go on with it. -/
theorem FirstClosing.exchange {label seen tail other text padding rest : List Char}
    (hlabel : IsLabel label) (h : FirstClosing label (seen ++ tail) text padding rest)
    (hlen : text.length + (padding ++ label).length ≤ seen.length)
    (hends : ∀ more, rest = more ++ tail → startsWith isNamePart (more ++ other) = false) :
    ∃ rest', FirstClosing label (seen ++ other) text padding rest' := by
  have hsplit : seen ++ tail = (text ++ (padding ++ label)) ++ rest := by
    rw [h.split]
    simp only [List.append_assoc]
  obtain ⟨more, rfl, rfl⟩ := piece_seen hsplit (by rwa [List.length_append])
  refine ⟨more ++ other, ⟨by simp, h.lines, h.blanks, hends more rfl, ?_⟩⟩
  intro before line hother hlt hstart
  -- The line begins before the closing one, so its line feed is seen.
  rw [List.append_assoc, List.append_assoc] at hother
  obtain ⟨between, rfl, rfl⟩ := piece_seen hother (Nat.le_of_lt hlt)
  have hne : between ≠ [] := by
    rintro rfl
    simp at hlt
  have hline : '\n' ∈ between := mem_newline_of_startsLine hne h.lines
  have hold : ¬ ClosesHeredoc label (between ++ (padding ++ (label ++ (more ++ tail)))) :=
    h.first before _ (by simp only [List.append_assoc]) hlt hstart
  exact not_closesHeredoc_exchange hlabel _ hold hline

end EscapeAudit.Lexer
