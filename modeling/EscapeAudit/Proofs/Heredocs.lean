import EscapeAudit.Proofs.ClosingLine

/-!
# A heredoc is read to the end of its closing label

The first closing line cuts the text behind the header of a heredoc into the lines before it, the
blanks of the closing line, the label and the rest (`FirstClosing`).  The search for the closing line
finds the sizes of this cut in bytes (`heredocCloser?_eq_some_iff`), and the scanner cuts off so many
characters (`cutHeredoc_of_firstClosing`).

From the code before `<<<` the scanner then reads three lexemes, or two when no line stands before
the closing one (`heredocLexemes`), and goes on in code behind the label (`scanFrom_heredoc`).  A
heredoc without a closing line is not read at all, and of one with too large a body only the header
is read.
-/

namespace EscapeAudit.Lexer

/-! ## The lexemes of a heredoc -/

/-- The first lexeme of a heredoc: `<<<` and the header behind it. -/
def headerLexeme (nowdoc : Bool) (opening : List Char) : Lexeme :=
  ⟨if nowdoc then .startNowdoc else .startHeredoc, String.ofList ('<' :: '<' :: '<' :: opening)⟩

/-- The lexemes behind the header: the body if there is one, and the closing label. -/
def partLexemes (text closer : List Char) : List Lexeme :=
  (if text = [] then [] else [⟨.heredocBody, String.ofList text⟩]) ++
    [⟨.endHeredoc, String.ofList closer⟩]

/-- The lexemes of a heredoc. -/
def heredocLexemes (nowdoc : Bool) (opening text closer : List Char) : List Lexeme :=
  headerLexeme nowdoc opening :: partLexemes text closer

/-- The lexemes of a heredoc cover it from `<<<` to the end of the closing label. -/
theorem chars_heredocLexemes (nowdoc : Bool) (opening text closer : List Char) :
    chars (heredocLexemes nowdoc opening text closer) =
      '<' :: '<' :: '<' :: (opening ++ (text ++ closer)) := by
  by_cases htext : text = []
  · simp [heredocLexemes, headerLexeme, partLexemes, htext]
  · simp [heredocLexemes, headerLexeme, partLexemes, htext]

/-! ## Reading a heredoc -/

/-- In code `<<<` before a header opens a heredoc. -/
theorem cutNext_heredoc {s : State} (hs : s.mode = .code) {header : HeredocHeader}
    {opening body : List Char} (hheader : heredocHeader? (opening ++ body) = some header)
    (hlength : header.length = opening.length) :
    cutNext s '<' ('<' :: '<' :: (opening ++ body)) = cutHeredoc header body := by
  have hat : heredocAt? ('<' :: '<' :: (opening ++ body)) = some (header, body) :=
    heredocAt?_eq_some_iff.mpr ⟨opening ++ body, rfl, hheader, by rw [hlength, List.drop_left]⟩
  rw [cutNext, hs]
  show cutToken s '<' ('<' :: '<' :: (opening ++ body)) = _
  unfold cutToken
  rw [hat]
  rfl

/-- The body of a heredoc is one lexeme, unless it is too large. -/
theorem cutHeredocPart_body {text behind : List Char} {c : Char} (closer : Nat) :
    cutHeredocPart (c :: text).length closer c (text ++ behind) =
      if Limits.stringSize < Text.byteLength (c :: text) then
        .error (.stringTooLarge (Text.byteLength (c :: text)))
      else .ok ⟨.heredocBody, text.length, .heredoc 0 closer⟩ := by
  simp [cutHeredocPart]

/-- The closing label of a heredoc is its last lexeme, and code follows. -/
theorem reads_closer {s : State} {closer : List Char} (hne : closer ≠ [])
    (hs : s.mode = .heredoc 0 closer.length) (rest : List Char) :
    Reads s (closer ++ rest) [⟨.endHeredoc, String.ofList closer⟩] ⟨.code, s.pending, false⟩ rest := by
  cases closer with
  | nil => exact absurd rfl hne
  | cons c closer =>
    have hcut : cutNext s c (closer ++ rest) = .ok ⟨.endHeredoc, closer.length, .code⟩ := by
      rw [cutNext, hs]
      rfl
    simpa [Cut.lexeme, State.after, pendingAfter, Kind.isTrivia, Kind.leadsMember]
      using Reads.step hcut (.done _ _)

/-- Behind its header a heredoc whose body is not too large is read to the end of the closing
label. -/
theorem reads_parts {s : State} {text closer : List Char} (hne : closer ≠ [])
    (hs : s.mode = .heredoc text.length closer.length)
    (hsize : ¬ Limits.stringSize < Text.byteLength text) (rest : List Char) :
    Reads s (text ++ (closer ++ rest)) (partLexemes text closer) ⟨.code, s.pending, false⟩ rest := by
  cases text with
  | nil => exact reads_closer hne hs rest
  | cons c text =>
    have hcut : cutNext s c (text ++ (closer ++ rest)) =
        .ok ⟨.heredocBody, text.length, .heredoc 0 closer.length⟩ := by
      rw [cutNext, hs]
      exact (cutHeredocPart_body closer.length).trans (if_neg hsize)
    have hclose : Reads (s.after ⟨.heredocBody, text.length, .heredoc 0 closer.length⟩)
        (closer ++ rest) [⟨.endHeredoc, String.ofList closer⟩] ⟨.code, s.pending, false⟩ rest :=
      reads_closer hne rfl rest
    simpa [Cut.lexeme, partLexemes] using Reads.step hcut (by simpa using hclose)

section

variable {s : State} (hs : s.mode = .code) {header : HeredocHeader} {opening body : List Char}
  (hheader : heredocHeader? (opening ++ body) = some header)
  (hlength : header.length = opening.length)

include hs hheader hlength

/-- A heredoc without a closing line is a fault before its first character. -/
theorem scanFrom_unclosed_heredoc (hnone : heredocCloser? header.label true body 0 = none)
    (found : Array Lexeme) :
    scanFrom s ('<' :: '<' :: '<' :: (opening ++ body)) found =
      ⟨found, some (.unterminatedHeredoc (String.ofList header.label))⟩ := by
  have hcut : cutNext s '<' ('<' :: '<' :: (opening ++ body)) =
      .error (.unterminatedHeredoc (String.ofList header.label)) := by
    rw [cutNext_heredoc hs hheader hlength, cutHeredoc, hnone]
  rw [scanFrom]
  simp only [hcut]

/-- The header of a heredoc with a closing line is read, and its parts are known. -/
theorem reads_header {text padding rest : List Char}
    (hlabel : startsWith isNamePart header.label = true)
    (h : FirstClosing header.label body text padding rest) :
    Reads s ('<' :: '<' :: '<' :: (opening ++ body)) [headerLexeme header.nowdoc opening]
      ⟨.heredoc text.length (padding ++ header.label).length, s.pending, false⟩ body := by
  have hcut : cutNext s '<' ('<' :: '<' :: (opening ++ body)) =
      .ok ⟨if header.nowdoc then .startNowdoc else .startHeredoc, opening.length + 2,
        .heredoc text.length (padding ++ header.label).length⟩ := by
    rw [cutNext_heredoc hs hheader hlength, cutHeredoc_of_firstClosing hlabel h, hlength]
  have hread := Reads.step hcut (.done _ _)
  cases hnow : header.nowdoc <;>
    simpa [hnow, Cut.lexeme, headerLexeme, State.after, pendingAfter, Kind.isTrivia,
      Kind.leadsMember] using hread

/-- A heredoc is read to the end of its closing label, unless its body is too large. -/
theorem scanFrom_heredoc {text padding rest : List Char}
    (hlabel : startsWith isNamePart header.label = true)
    (h : FirstClosing header.label body text padding rest) (found : Array Lexeme) :
    scanFrom s ('<' :: '<' :: '<' :: (opening ++ body)) found =
      if Limits.stringSize < Text.byteLength text then
        ⟨found.push (headerLexeme header.nowdoc opening),
          some (.stringTooLarge (Text.byteLength text))⟩
      else scanFrom ⟨.code, s.pending, false⟩ rest
        (found ++ heredocLexemes header.nowdoc opening text (padding ++ header.label)) := by
  have hheaderRead := reads_header hs hheader hlength hlabel h
  have hne : padding ++ header.label ≠ [] := by
    intro hnil
    rw [(List.append_eq_nil_iff.mp hnil).2] at hlabel
    cases hlabel
  have hbody : body = text ++ ((padding ++ header.label) ++ rest) := by
    rw [h.split, List.append_assoc]
  split
  · -- The header is read before the size of the body is looked at.
    rename_i hlarge
    rw [hheaderRead.scanFrom_eq, hbody]
    cases text with
    | nil => exact absurd hlarge (by decide)
    | cons c text =>
      rw [List.cons_append, scanFrom]
      simp only [cutNext, cutHeredocPart_body, if_pos hlarge]
      simp
  · rename_i hsize
    rw [hbody] at hheaderRead ⊢
    have hparts := reads_parts (s := ⟨.heredoc text.length (padding ++ header.label).length,
      s.pending, false⟩) hne rfl hsize rest
    exact (hheaderRead.trans hparts).scanFrom_eq found

end

/-! ## The whole -/

theorem startsWith_isNamePart_of_ne_nil {label : List Char} (hne : label ≠ [])
    (hpart : ∀ c ∈ label, isNamePart c = true) : startsWith isNamePart label = true := by
  cases label with
  | nil => exact absurd rfl hne
  | cons c label => exact hpart c List.mem_cons_self

/-- The search for the end of a heredoc finds its first closing line, if there is one: the bytes
before this line, and those of its label with the blanks before it.  The lexemes that are read then
cover the text from `<<<` to the end of the label in that line. -/
theorem heredoc_read_to_label {label : List Char} (hne : label ≠ [])
    (hpart : ∀ c ∈ label, isNamePart c = true) (body : List Char) :
    ((∃ found, heredocCloser? label true body 0 = some found) ↔
      ∃ before line, body = before ++ line ∧ startsLine true before = true ∧
        ClosesHeredoc label line) ∧
    (∀ bodySize size, heredocCloser? label true body 0 = some (bodySize, size) ↔
      ∃ text padding rest, FirstClosing label body text padding rest ∧
        bodySize = Text.byteLength text ∧ size = Text.byteLength (padding ++ label)) ∧
    ∀ (s : State) (opening : List Char) (header : HeredocHeader) (found : Array Lexeme),
      s.mode = .code → heredocHeader? (opening ++ body) = some header →
      header.length = opening.length → header.label = label →
      (heredocCloser? label true body 0 = none →
        scanFrom s ('<' :: '<' :: '<' :: (opening ++ body)) found =
          ⟨found, some (.unterminatedHeredoc (String.ofList label))⟩) ∧
      ∀ text padding rest, FirstClosing label body text padding rest →
        chars (heredocLexemes header.nowdoc opening text (padding ++ label)) =
          '<' :: '<' :: '<' :: (opening ++ (text ++ (padding ++ label))) ∧
        scanFrom s ('<' :: '<' :: '<' :: (opening ++ body)) found =
          if Limits.stringSize < Text.byteLength text then
            ⟨found.push (headerLexeme header.nowdoc opening),
              some (.stringTooLarge (Text.byteLength text))⟩
          else scanFrom ⟨.code, s.pending, false⟩ rest
            (found ++ heredocLexemes header.nowdoc opening text (padding ++ label)) := by
  have hlabel := startsWith_isNamePart_of_ne_nil hne hpart
  refine ⟨exists_heredocCloser?_iff hlabel, fun _ _ => heredocCloser?_eq_some_iff hlabel, ?_⟩
  rintro s opening header found hs hheader hlength rfl
  refine ⟨fun hnone => scanFrom_unclosed_heredoc hs hheader hlength hnone found, ?_⟩
  intro text padding rest h
  exact ⟨chars_heredocLexemes _ _ _ _, scanFrom_heredoc hs hheader hlength hlabel h found⟩

/-- A line that only begins with the label closes nothing, and an indented label does.  The first
line has three characters in four bytes, the label with its blank two in three. -/
theorem heredoc_read_to_label_indented :
    heredocCloser? "é".toList true "éa\n\té;".toList 0 = some (4, 3) ∧
    scanFrom ⟨.code, 0, false⟩ "<<<é\néa\n\té;".toList #[] =
      scanFrom ⟨.code, 0, false⟩ ";".toList
        #[⟨.startHeredoc, "<<<é\n"⟩, ⟨.heredocBody, "éa\n"⟩, ⟨.endHeredoc, "\té"⟩] := by
  have hcloser : heredocCloser? "é".toList true "éa\n\té;".toList 0 = some (4, 3) := by
    decide +kernel
  refine ⟨hcloser, ?_⟩
  obtain ⟨_, hfound, hscan⟩ := heredoc_read_to_label (show "é".toList ≠ [] by decide)
    (List.all_eq_true.mp (by decide +kernel)) "éa\n\té;".toList
  obtain ⟨text, padding, rest, hfirst, hbody, hsize⟩ := (hfound 4 3).mp hcloser
  have hsplit : "éa\n".toList ++ ("\té".toList ++ ";".toList) =
      text ++ ((padding ++ "é".toList) ++ rest) := by
    rw [List.append_assoc]
    exact hfirst.split
  -- The bytes that were found hold so many characters.
  have htext := Text.charsWithin_append text ((padding ++ "é".toList) ++ rest) 0
  rw [← hbody, ← hsplit, Nat.zero_add] at htext
  obtain ⟨rfl, hline⟩ := List.append_inj hsplit htext
  have hpadding := Text.charsWithin_append (padding ++ "é".toList) rest 0
  rw [← hsize, ← hline, Nat.zero_add] at hpadding
  obtain ⟨hblank, rfl⟩ := List.append_inj hline hpadding
  obtain rfl : "\t".toList = padding := List.append_cancel_right hblank
  obtain ⟨_, hread⟩ := (hscan ⟨.code, 0, false⟩ "é\n".toList ⟨false, "é".toList, 2⟩ #[] rfl
    (by decide +kernel) rfl rfl).2 _ _ _ hfirst
  rw [if_neg (by decide +kernel)] at hread
  exact hread

end EscapeAudit.Lexer
