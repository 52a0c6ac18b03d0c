import EscapeAudit.Proofs.Region

/-!
# What stands before the scanner inside a heredoc

A heredoc is cut at the first of its lines that begins with its label.  So the scanner knows what
stands before it inside a heredoc: the body, which ends with a line feed unless it is empty, and then
the closing label behind its blanks (`Mode.Holds`).  Every cut keeps this (`holds_cutNext`).
-/

namespace EscapeAudit.Lexer

/-- What stands before the scanner inside a heredoc: the body, which is made of whole lines, and the
closing label behind its blanks. -/
def Mode.Holds (cs : List Char) : Mode → Prop
  | .heredoc body closer => ∃ text padding label rest, cs = text ++ (padding ++ (label ++ rest)) ∧
    text.length = body ∧ startsLine true text = true ∧ (∀ c ∈ padding, isPadding c = true) ∧
    IsLabel label ∧ closer = padding.length + label.length
  | _ => True

theorem holds_cutHeredoc {header : HeredocHeader} {line body : List Char} {cut : Cut}
    (hheader : IsHeader line header) (h : cutHeredoc header body = .ok cut) :
    cut.mode.Holds body := by
  obtain ⟨text, padding, rest, hfirst, hmode⟩ := cutHeredoc_eq_ok hheader.label.startsPart h
  rw [hmode]
  exact ⟨text, padding, header.label, rest, hfirst.split, rfl, hfirst.lines, hfirst.blanks,
    hheader.label, List.length_append⟩

/-- A heredoc is opened by a line that is its header. -/
theorem exists_header_of_cutToken {s : State} {c : Char} {rest : List Char} {cut : Cut}
    (h : cutToken s c rest = .ok cut) (hmode : cut.mode ≠ .code) :
    ∃ header line, IsHeader line header ∧ cutHeredoc header (rest.drop cut.more) = .ok cut := by
  cases tokenCut h with
  | heredoc hat hcut =>
    obtain ⟨rest, rfl, hheader, rfl⟩ := heredocAt?_eq_some_iff.mp hat
    obtain ⟨line, _, _, hform⟩ := heredocHeader?_eq_some_iff.mp hheader
    rw [more_of_cutHeredoc hcut]
    exact ⟨_, line, hform, hcut⟩
  | block _ hcut =>
    obtain ⟨_, _, _, hcode⟩ := cutBlockComment_eq_ok hcut
    exact absurd hcode hmode
  | quote hcut => exact absurd (cutString_eq_ok hcut).2 hmode
  | name hcut => exact absurd (isWord_of_cutName hcut).2 hmode
  | operator hcut => exact absurd (cutOperator_bounds hcut).1 hmode
  | blank hcut | line hcut | dollar hcut | cast _ hcut | opening _ hcut | number _ hcut =>
    rw [hcut] at hmode
    exact absurd rfl hmode

theorem holds_cutToken {s : State} {c : Char} {rest : List Char} {cut : Cut}
    (h : cutToken s c rest = .ok cut) : cut.mode.Holds (rest.drop cut.more) := by
  by_cases hmode : cut.mode = .code
  · rw [hmode]
    trivial
  · obtain ⟨header, line, hheader, hcut⟩ := exists_header_of_cutToken h hmode
    exact holds_cutHeredoc hheader hcut

/-- Behind a cut the scanner knows as much as before it. -/
theorem holds_cutNext {s : State} {c : Char} {rest : List Char} {cut : Cut}
    (hs : s.mode.Holds (c :: rest)) (h : cutNext s c rest = .ok cut) :
    cut.mode.Holds (rest.drop cut.more) := by
  rw [cutNext] at h
  cases hmode : s.mode with
  | markup =>
    rw [hmode] at h
    cases h
    rw [cutMarkup]
    split <;> trivial
  | code =>
    rw [hmode] at h
    dsimp only at h
    rw [cutCode] at h
    split at h
    · cases h
      trivial
    · exact holds_cutToken h
  | heredoc body closer =>
    rw [hmode] at h hs
    dsimp only at h
    rw [cutHeredocPart] at h
    split at h
    · cases h
      trivial
    · rename_i hbody
      dsimp only at h
      split at h
      · cases h
      · cases h
        -- The body is cut off whole, and the closing label is left.
        obtain ⟨text, padding, label, behind, hsplit, rfl, _, hpadding, hlabel, hcloser⟩ := hs
        refine ⟨[], padding, label, behind, ?_, rfl, rfl, hpadding, hlabel, hcloser⟩
        cases text with
        | nil => exact absurd rfl hbody
        | cons b text =>
          obtain ⟨_, rfl⟩ := List.cons_eq_cons.mp hsplit
          simp

/-- Wherever a reading from the beginning ends, the scanner knows what stands before it. -/
theorem Reads.holds {s t : State} {cs ds : List Char} {ls : List Lexeme} (h : Reads s cs ls t ds)
    (hs : s.mode.Holds cs) : t.mode.Holds ds := by
  induction h with
  | done => exact hs
  | step hcut _ ih => exact ih (holds_cutNext hs hcut)

end EscapeAudit.Lexer
