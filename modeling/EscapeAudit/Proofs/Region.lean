import EscapeAudit.Proofs.Window.Cut

/-!
# Kinds and regions

The kind of a lexeme tells where it stands: in markup, in code or inside a heredoc.  It also tells
what is scanned behind it (`cutNext_region`).  So where tokens can stand follows from their kinds
alone, and later proofs need no look at the characters for it.

The other part of the state that a lexeme depends on is whether a member name is due.  Only the
words of code ask for it (`cutNext_memberDue`).
-/

namespace EscapeAudit

/-- The parts of a template. -/
inductive Region where
  /-- Outside the code regions. -/
  | markup
  /-- Inside a code region. -/
  | code
  /-- Inside a heredoc. -/
  | heredoc
  deriving DecidableEq, Repr

namespace Kind

/-- Where a token of a kind stands. -/
def region : Kind → Region
  | inlineHtml | openTag | openTagWithEcho => .markup
  | heredocBody | endHeredoc => .heredoc
  | _ => .code

/-- What follows a token of a kind. -/
def regionAfter : Kind → Region
  | inlineHtml | closeTag => .markup
  | startHeredoc | startNowdoc | heredocBody => .heredoc
  | _ => .code

/-- The kinds of bare words. -/
def isWord : Kind → Bool
  | identifier | echo | print | trueWord | falseWord | nullWord | keyword => true
  | _ => false

/-- The kinds of operators, brackets and other signs. -/
def isSign : Kind → Bool
  | objectOperator | nullsafeObjectOperator | doubleColon | doubleArrow | concat | concatEqual
  | inlineThen | inlineElse | coalesce | plus | minus | multiply | divide | modulus | pow | equal
  | assignmentOperator | comparison | booleanOperator | booleanNot | incrementDecrement | bitwise
  | openParenthesis | closeParenthesis | openSquareBracket | closeSquareBracket
  | openCurlyBracket | closeCurlyBracket | comma | semicolon | other => true
  | _ => false

/-- The two parentheses. -/
def isParenthesis : Kind → Bool
  | openParenthesis | closeParenthesis => true
  | _ => false

/-- A kind that stands in code with code behind it. -/
def Inner (k : Kind) : Prop := k.region = .code ∧ k.regionAfter = .code

theorem isWord_ofWord (word : String) : (Kind.ofWord word).isWord = true := by
  unfold Kind.ofWord
  dsimp only
  repeat' split
  all_goals rfl

theorem Inner.of_isWord {k : Kind} (h : k.isWord = true) : k.Inner := by
  cases k <;> first | exact ⟨rfl, rfl⟩ | cases h

theorem Inner.of_isSign {k : Kind} (h : k.isSign = true) : k.Inner := by
  cases k <;> first | exact ⟨rfl, rfl⟩ | cases h

theorem not_isWord_of_isSign {k : Kind} (h : k.isSign = true) : k.isWord = false := by
  cases k <;> first | rfl | cases h

theorem not_isParenthesis_of_isWord {k : Kind} (h : k.isWord = true) : k.isParenthesis = false := by
  cases k <;> first | rfl | cases h

end Kind

namespace Lexer

/-- The region of a mode. -/
def Mode.region : Mode → Region
  | .markup => .markup
  | .code => .code
  | .heredoc _ _ => .heredoc

theorem Mode.eq_code_of_region {mode : Mode} (h : mode.region = .code) : mode = .code := by
  cases mode <;> first | rfl | cases h

/-! ## Lexemes of code -/

theorem isSign_operatorOfThree? {c d e : Char} {k : Kind} (h : operatorOfThree? c d e = some k) :
    k.isSign = true ∧ k.isParenthesis = false ∧ k ≠ .inlineElse := by
  unfold operatorOfThree? at h
  split at h <;> cases h <;> exact ⟨rfl, rfl, nofun⟩

theorem isSign_operatorOfTwo? {c d : Char} {k : Kind} (h : operatorOfTwo? c d = some k) :
    k.isSign = true ∧ k.isParenthesis = false ∧ k ≠ .inlineElse := by
  unfold operatorOfTwo? at h
  split at h <;> cases h <;> exact ⟨rfl, rfl, nofun⟩

theorem isSign_operatorOfOne (c : Char) :
    (operatorOfOne c).isSign = true ∧ operatorOfOne c ≠ .inlineElse := by
  unfold operatorOfOne
  split <;> exact ⟨rfl, nofun⟩

theorem operatorOfOne_isParenthesis {c : Char} (h : (operatorOfOne c).isParenthesis = true) :
    c = '(' ∨ c = ')' := by
  unfold operatorOfOne at h
  split at h <;> first | exact .inl rfl | exact .inr rfl | cases h

theorem isSign_kindOfSign (s : State) (c : Char) : (kindOfSign s c).isSign = true := by
  unfold kindOfSign
  repeat' split
  all_goals first | rfl | exact (isSign_operatorOfOne c).1

theorem kindOfSign_isParenthesis {s : State} {c : Char}
    (h : (kindOfSign s c).isParenthesis = true) : c = '(' ∨ c = ')' := by
  unfold kindOfSign at h
  repeat' split at h
  all_goals first | cases h | exact operatorOfOne_isParenthesis h

theorem isSign_of_cutOperator {s : State} {c : Char} {rest : List Char} {cut : Cut}
    (h : cutOperator s c rest = .ok cut) :
    cut.kind.isSign = true ∧ cut.mode = .code ∧
      (cut.kind.isParenthesis = true → cut.more = 0 ∧ (c = '(' ∨ c = ')')) := by
  obtain ⟨_, hcase, hr⟩ := exists_operatorCase h
  cases hcase with
  | three _ hthree =>
    cases hr
    obtain ⟨hsign, hparen, _⟩ := isSign_operatorOfThree? hthree
    exact ⟨hsign, rfl, fun hp => by rw [hparen] at hp; cases hp⟩
  | two _ htwo =>
    cases hr
    obtain ⟨hsign, hparen, _⟩ := isSign_operatorOfTwo? htwo
    exact ⟨hsign, rfl, fun hp => by rw [hparen] at hp; cases hp⟩
  | one =>
    cases hr
    exact ⟨isSign_kindOfSign s c, rfl, fun hp => ⟨rfl, kindOfSign_isParenthesis hp⟩⟩

theorem isWord_of_cutName {s : State} {c : Char} {rest : List Char} {cut : Cut}
    (h : cutName s c rest = .ok cut) : cut.kind.isWord = true ∧ cut.mode = .code := by
  cases h
  refine ⟨?_, rfl⟩
  dsimp only
  split
  · rfl
  · exact Kind.isWord_ofWord _

/-- The words of code are its bare names. -/
theorem cutToken_isWord {s : State} {c : Char} {rest : List Char} {cut : Cut}
    (h : cutToken s c rest = .ok cut) (hword : cut.kind.isWord = true) :
    cutName s c rest = .ok cut := by
  cases tokenCut h with
  | name hcut => exact hcut
  | block _ hcut =>
    rcases kind_of_cutBlockComment hcut with hkind | hkind <;> rw [hkind] at hword <;> cases hword
  | quote hcut =>
    rcases kind_of_cutString hcut with hkind | hkind <;> rw [hkind] at hword <;> cases hword
  | heredoc _ hcut =>
    rcases kind_of_cutHeredoc hcut with hkind | hkind <;> rw [hkind] at hword <;> cases hword
  | operator hcut =>
    rw [Kind.not_isWord_of_isSign (isSign_of_cutOperator hcut).1] at hword
    cases hword
  | blank hcut | line hcut | dollar hcut | cast _ hcut | opening _ hcut | number _ hcut =>
    rw [hcut] at hword
    cases hword

/-- What a cut of code can be: a token inside the code, or the first line of a heredoc. -/
theorem cutToken_cases {s : State} {c : Char} {rest : List Char} {cut : Cut}
    (h : cutToken s c rest = .ok cut) :
    (cut.kind.Inner ∧ cut.mode = .code ∧
      (cut.kind.isParenthesis = true → cut.more = 0 ∧ (c = '(' ∨ c = ')'))) ∨
    ((cut.kind = .startHeredoc ∨ cut.kind = .startNowdoc) ∧ cut.mode.region = .heredoc) := by
  have hplain : ∀ {k : Kind}, cut.kind = k → k.Inner → k.isParenthesis = false →
      cut.mode = .code → (cut.kind.Inner ∧ cut.mode = .code ∧
        (cut.kind.isParenthesis = true → cut.more = 0 ∧ (c = '(' ∨ c = ')'))) := by
    rintro _ rfl hinner hparen hmode
    exact ⟨hinner, hmode, fun hp => by rw [hparen] at hp; cases hp⟩
  cases tokenCut h with
  | blank hcut => exact .inl (hplain (by rw [hcut]) ⟨rfl, rfl⟩ rfl (by rw [hcut]))
  | line hcut => exact .inl (hplain (by rw [hcut]) ⟨rfl, rfl⟩ rfl (by rw [hcut]))
  | block _ hcut =>
    obtain ⟨_, _, _, hmode⟩ := cutBlockComment_eq_ok hcut
    rcases kind_of_cutBlockComment hcut with hkind | hkind <;>
      exact .inl (hplain hkind ⟨rfl, rfl⟩ rfl hmode)
  | dollar hcut => exact .inl (hplain (by rw [hcut]) ⟨rfl, rfl⟩ rfl (by rw [hcut]))
  | quote hcut =>
    obtain ⟨_, hmode⟩ := cutString_eq_ok hcut
    rcases kind_of_cutString hcut with hkind | hkind <;>
      exact .inl (hplain hkind ⟨rfl, rfl⟩ rfl hmode)
  | heredoc hat hcut =>
    obtain ⟨_, _, _, _, hmode⟩ := cutHeredoc_eq_ok (isLabel_of_heredocAt? hat).startsPart hcut
    exact .inr ⟨kind_of_cutHeredoc hcut, by rw [hmode]; rfl⟩
  | cast _ hcut => exact .inl (hplain (by rw [hcut]) ⟨rfl, rfl⟩ rfl (by rw [hcut]))
  | opening hc hcut =>
    rw [hcut]
    exact .inl ⟨⟨rfl, rfl⟩, rfl, fun _ => ⟨rfl, .inl hc⟩⟩
  | name hcut =>
    obtain ⟨hword, hmode⟩ := isWord_of_cutName hcut
    exact .inl (hplain rfl (.of_isWord hword) (Kind.not_isParenthesis_of_isWord hword) hmode)
  | number _ hcut => exact .inl (hplain (by rw [hcut]) ⟨rfl, rfl⟩ rfl (by rw [hcut]))
  | operator hcut =>
    obtain ⟨hsign, hrest⟩ := isSign_of_cutOperator hcut
    exact .inl ⟨.of_isSign hsign, hrest⟩

/-! ## The next lexeme -/

theorem cutMarkup_region (c : Char) (rest : List Char) :
    (cutMarkup c rest).kind.region = .markup ∧
      (cutMarkup c rest).mode.region = (cutMarkup c rest).kind.regionAfter := by
  unfold cutMarkup
  split
  · rename_i hopen
    rcases openTag?_eq_some_iff.mp hopen with ⟨_, _, rfl, _⟩ | ⟨_, _, _, _, _, _, rfl, _⟩
    · exact ⟨rfl, rfl⟩
    · exact ⟨rfl, rfl⟩
  · exact ⟨rfl, rfl⟩

theorem cutHeredocPart_region {body closer : Nat} {c : Char} {rest : List Char} {cut : Cut}
    (h : cutHeredocPart body closer c rest = .ok cut) :
    cut.kind.region = .heredoc ∧ cut.mode.region = cut.kind.regionAfter := by
  unfold cutHeredocPart at h
  split at h
  · cases h
    exact ⟨rfl, rfl⟩
  · dsimp only at h
    split at h <;> cases h
    exact ⟨rfl, rfl⟩

theorem cutCode_region {s : State} {c : Char} {rest : List Char} {cut : Cut}
    (h : cutCode s c rest = .ok cut) :
    cut.kind.region = .code ∧ cut.mode.region = cut.kind.regionAfter := by
  unfold cutCode at h
  split at h
  · cases h
    exact ⟨rfl, rfl⟩
  · rcases cutToken_cases h with ⟨hinner, hmode, _⟩ | ⟨hkind | hkind, hmode⟩
    · exact ⟨hinner.1, by rw [hmode, hinner.2]; rfl⟩
    · rw [hkind]
      exact ⟨rfl, hmode⟩
    · rw [hkind]
      exact ⟨rfl, hmode⟩

/-- The kind of a lexeme tells where it stands and what is scanned behind it. -/
theorem cutNext_region {s : State} {c : Char} {rest : List Char} {cut : Cut}
    (h : cutNext s c rest = .ok cut) :
    s.mode.region = cut.kind.region ∧ cut.mode.region = cut.kind.regionAfter := by
  unfold cutNext at h
  split at h <;> rename_i hmode <;> rw [hmode]
  · cases h
    obtain ⟨hregion, hafter⟩ := cutMarkup_region c rest
    exact ⟨hregion.symm, hafter⟩
  · obtain ⟨hregion, hafter⟩ := cutCode_region h
    exact ⟨hregion.symm, hafter⟩
  · obtain ⟨hregion, hafter⟩ := cutHeredocPart_region h
    exact ⟨hregion.symm, hafter⟩

/-- The tokens of code other than close tags are cut as such. -/
theorem cutToken_of_cutNext {s : State} {c : Char} {rest : List Char} {cut : Cut}
    (h : cutNext s c rest = .ok cut) (hregion : cut.kind.region = .code)
    (hclose : cut.kind ≠ .closeTag) : cutToken s c rest = .ok cut := by
  have hs : s.mode = .code := Mode.eq_code_of_region ((cutNext_region h).1.trans hregion)
  rw [cutNext, hs] at h
  dsimp only at h
  rw [cutCode] at h
  split at h
  · obtain rfl := Except.ok.inj h
    exact absurd rfl hclose
  · exact h

/-- A word is cut as a bare name. -/
theorem cutName_of_cutNext {s : State} {c : Char} {rest : List Char} {cut : Cut}
    (h : cutNext s c rest = .ok cut) (hword : cut.kind.isWord = true) :
    cutName s c rest = .ok cut := by
  have hclose : cut.kind ≠ .closeTag := by
    intro hk
    rw [hk] at hword
    cases hword
  exact cutToken_isWord (cutToken_of_cutNext h (Kind.Inner.of_isWord hword).1 hclose) hword

/-! ## Parentheses -/

theorem cutOperator_closing (s : State) (rest : List Char) :
    cutOperator s ')' rest = inCode .closeParenthesis 0 := by
  have htwo : ∀ d, operatorOfTwo? ')' d = none := by
    intro d
    unfold operatorOfTwo?
    split <;> first | rfl | simp_all
  have hthree : ∀ d e, operatorOfThree? ')' d e = none := by
    intro d e
    unfold operatorOfThree?
    split <;> first | rfl | simp_all
  match rest with
  | [] => rfl
  | [d] => rw [cutOperator_one, htwo]; rfl
  | d :: e :: rest => rw [cutOperator_two, hthree, cutOperator_one, htwo]; rfl

/-- A closing parenthesis is a token of its own before every text. -/
theorem cutNext_closing {s : State} (hs : s.mode = .code) (rest : List Char) :
    cutNext s ')' rest = .ok ⟨.closeParenthesis, 0, .code⟩ := by
  rw [cutNext, hs]
  exact cutOperator_closing s rest

/-- An opening parenthesis begins a cast or is a token of its own. -/
theorem cutNext_opening {s : State} (hs : s.mode = .code) (rest : List Char) :
    cutNext s '(' rest = .ok (match castLength? rest with
      | some n => ⟨.cast, n, .code⟩
      | none => ⟨.openParenthesis, 0, .code⟩) := by
  rw [cutNext, hs]
  show cutToken s '(' rest = _
  unfold cutToken
  cases castLength? rest <;> rfl

/-- The parentheses of a template are single characters of code. -/
theorem cutNext_isParenthesis {s : State} {c : Char} {rest : List Char} {cut : Cut}
    (h : cutNext s c rest = .ok cut) (hkind : cut.kind.isParenthesis = true) :
    s.mode = .code ∧ cut.more = 0 ∧
      (c = '(' ∧ cut.kind = .openParenthesis ∨ c = ')' ∧ cut.kind = .closeParenthesis) := by
  have hregion : s.mode.region = .code := by
    rw [(cutNext_region h).1]
    revert hkind
    cases cut.kind <;> first | exact fun _ => rfl | exact fun hp => by cases hp
  have hs := Mode.eq_code_of_region hregion
  have hchar : c = '(' ∨ c = ')' := by
    have hclose : cut.kind ≠ .closeTag := by
      intro hk
      rw [hk] at hkind
      cases hkind
    have htoken := cutToken_of_cutNext h ((cutNext_region h).1.symm.trans hregion) hclose
    rcases cutToken_cases htoken with ⟨_, _, hparen⟩ | ⟨hdoc | hdoc, _⟩
    · exact (hparen hkind).2
    · rw [hdoc] at hkind; cases hkind
    · rw [hdoc] at hkind; cases hkind
  refine ⟨hs, ?_⟩
  rcases hchar with rfl | rfl
  · rw [cutNext_opening hs] at h
    cases hcast : castLength? rest with
    | some n =>
      rw [hcast] at h
      cases h
      cases hkind
    | none =>
      rw [hcast] at h
      cases h
      exact ⟨rfl, .inl ⟨rfl, rfl⟩⟩
  · rw [cutNext_closing hs] at h
    cases h
    exact ⟨rfl, .inr ⟨rfl, rfl⟩⟩

/-! ## Member names -/

theorem cutToken_memberDue {s : State} {c : Char} {rest : List Char} {cut : Cut}
    (h : cutToken s c rest = .ok cut) (hkind : cut.kind.isWord = false) (b : Bool) :
    cutToken { s with memberDue := b } c rest = .ok cut := by
  rw [cutToken_eq] at h ⊢
  -- The state is asked for in names and signs only, and signs do not ask for members.
  generalize tokenForm c rest = form at h
  cases form with
  | name =>
    rw [(isWord_of_cutName h).1] at hkind
    cases hkind
  | _ => exact h

/-- Only a word depends on whether a member name is due. -/
theorem cutNext_memberDue {s : State} {c : Char} {rest : List Char} {cut : Cut}
    (h : cutNext s c rest = .ok cut) (hkind : cut.kind.isWord = false) (b : Bool) :
    cutNext { s with memberDue := b } c rest = .ok cut := by
  unfold cutNext at h ⊢
  dsimp only
  split
  · simp_all
  · rename_i hmode
    simp only [hmode] at h
    unfold cutCode at h ⊢
    split
    · simp_all
    · simp_all
      exact cutToken_memberDue h hkind b
  · simp_all

end Lexer

end EscapeAudit
