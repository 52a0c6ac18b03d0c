import EscapeAudit.Proofs.Region

/-!
# Spelling lexemes

To say what a changed template is read as, we go the other way: from lexemes to characters.
Lexemes are *spelled* in front of a text when, one after another, each of them is cut from its own
characters and those that follow.  What is read is spelled (`Reads.spells`).

One kind is spelled loosely.  An opening parenthesis need not be the next cut, because with a type
and a closing parenthesis behind it it becomes part of a cast.  So spelled lexemes are read as they
are up to casts that were put together from their parts (`Spells.reads`).

The text behind spelled lexemes can be exchanged for one that begins with a barrier
(`Spells.exchange`).  From this come the insertions: the beginning of a call of the escaper, its
closing parenthesis, and the comment that exempts a statement.
-/

namespace EscapeAudit

namespace Lexer

/-- The lexeme of an opening parenthesis. -/
def opening : Lexeme := ⟨.openParenthesis, "("⟩

/-- The lexeme of a closing parenthesis. -/
def closing : Lexeme := ⟨.closeParenthesis, ")"⟩

/-- From a state, lexemes are spelled in front of a text, and a state is left. -/
inductive Spells : State → List Lexeme → List Char → State → Prop where
  /-- No lexemes. -/
  | done (s : State) (tail : List Char) : Spells s [] tail s
  /-- A lexeme that is the next cut. -/
  | step {s t : State} {c : Char} {more tail : List Char} {kind : Kind} {mode : Mode}
      {ls : List Lexeme} :
    kind ≠ .openParenthesis →
    cutNext s c (more ++ (chars ls ++ tail)) = .ok ⟨kind, more.length, mode⟩ →
    Spells (s.after ⟨kind, more.length, mode⟩) ls tail t →
    Spells s (⟨kind, String.ofList (c :: more)⟩ :: ls) tail t
  /-- An opening parenthesis in code. -/
  | paren {s t : State} {tail : List Char} {ls : List Lexeme} :
    s.mode = .code →
    Spells (s.after ⟨.openParenthesis, 0, .code⟩) ls tail t →
    Spells s (opening :: ls) tail t

namespace Spells

/-! ## Taking spellings apart and together -/

theorem append {s t u : State} {ls ms : List Lexeme} {tail : List Char}
    (first : Spells s ls (chars ms ++ tail) t) (second : Spells t ms tail u) :
    Spells s (ls ++ ms) tail u := by
  induction ls generalizing s with
  | nil => cases first; exact second
  | cons l ls ih =>
    rw [List.cons_append]
    cases first with
    | step hkind hcut first =>
      refine .step hkind ?_ (ih first)
      rwa [chars_append, List.append_assoc]
    | paren hs first => exact .paren hs (ih first)

theorem split {s u : State} {ls ms : List Lexeme} {tail : List Char}
    (h : Spells s (ls ++ ms) tail u) :
    ∃ t, Spells s ls (chars ms ++ tail) t ∧ Spells t ms tail u := by
  induction ls generalizing s with
  | nil => exact ⟨s, .done s _, h⟩
  | cons l ls ih =>
    rw [List.cons_append] at h
    cases h with
    | step hkind hcut h =>
      obtain ⟨t, first, second⟩ := ih h
      rw [chars_append, List.append_assoc] at hcut
      exact ⟨t, .step hkind hcut first, second⟩
    | paren hs h =>
      obtain ⟨t, first, second⟩ := ih h
      exact ⟨t, .paren hs first, second⟩

theorem text_ne_nil {s t : State} {l : Lexeme} {ls : List Lexeme} {tail : List Char}
    (h : Spells s (l :: ls) tail t) : l.text.toList ≠ [] := by
  cases h with
  | step => simp
  | paren => simp [opening]

/-- A lexeme that is spelled and is no opening parenthesis is the next cut. -/
theorem inversion {s t : State} {l : Lexeme} {ls : List Lexeme} {tail : List Char}
    (h : Spells s (l :: ls) tail t) (hl : l.kind ≠ .openParenthesis) :
    ∃ c more mode, l.text.toList = c :: more ∧
      cutNext s c (more ++ (chars ls ++ tail)) = .ok ⟨l.kind, more.length, mode⟩ ∧
      Spells (s.after ⟨l.kind, more.length, mode⟩) ls tail t := by
  cases h with
  | step _ hcut h => exact ⟨_, _, _, by simp, hcut, h⟩
  | paren => exact absurd rfl hl

theorem chars_ne_nil {s t : State} {l : Lexeme} {ls : List Lexeme} {tail : List Char}
    (h : Spells s (l :: ls) tail t) : chars (l :: ls) ≠ [] := by
  simp [h.text_ne_nil]

end Spells

/-- What is read is spelled. -/
theorem Reads.spells {s t : State} {cs : List Char} {ls : List Lexeme} (h : Reads s cs ls t [])
    (hfits : s.mode.Fits cs.length) : Spells s ls [] t := by
  induction ls generalizing s cs with
  | nil => cases h; exact .done _ _
  | cons l ls ih =>
    cases h with
    | @step _ _ c rest _ cut _ hcut hreads =>
      obtain ⟨hle, hmode⟩ := cutNext_bounds hfits hcut
      have hspells := ih hreads (by simpa [State.after] using hmode)
      have hchars : rest.drop cut.more = chars ls := by simpa using hreads.chars_eq
      have hlength : (rest.take cut.more).length = cut.more := by
        rw [List.length_take, Nat.min_eq_left hle]
      have hrest : rest = rest.take cut.more ++ (chars ls ++ []) := by
        rw [List.append_nil, ← hchars, List.take_append_drop]
      obtain ⟨kind, more, mode⟩ := cut
      by_cases hkind : kind = .openParenthesis
      · subst hkind
        obtain ⟨hs, rfl, ⟨rfl, _⟩ | ⟨_, hclose⟩⟩ := cutNext_isParenthesis hcut rfl
        · have hcode : mode = .code := Mode.eq_code_of_region (cutNext_region hcut).2
          subst hcode
          exact .paren hs hspells
        · cases hclose
      · have hcut' : cutNext s c (rest.take more ++ (chars ls ++ [])) =
            .ok ⟨kind, (rest.take more).length, mode⟩ := by
          rw [← hrest, hlength]
          exact hcut
        exact .step hkind hcut' (by rw [hlength]; exact hspells)

/-! ## States behind spelled lexemes -/

/-- The state behind a lexeme, as far as its kind decides it. -/
theorem Spells.after_kind {s t : State} {l : Lexeme} {ls : List Lexeme} {tail : List Char}
    (h : Spells s (l :: ls) tail t) :
    ∃ u, Spells u ls tail t ∧ s.mode.region = l.kind.region ∧
      u.mode.region = l.kind.regionAfter ∧
      u.memberDue = (if l.kind.isTrivia then s.memberDue else l.kind.leadsMember) := by
  cases h with
  | step _ hcut h =>
    obtain ⟨hregion, hafter⟩ := cutNext_region hcut
    exact ⟨_, h, hregion, hafter, rfl⟩
  | paren hs h => exact ⟨_, h, by rw [hs]; rfl, rfl, rfl⟩

/-- Blanks and comments stand in code and leave the state as it is. -/
theorem Spells.after_trivia {s t : State} {ls : List Lexeme} {tail : List Char}
    (h : Spells s ls tail t) (htrivia : ∀ l ∈ ls, l.kind.isTrivia = true) (hs : s.mode = .code) :
    t.mode = .code ∧ t.memberDue = s.memberDue := by
  induction ls generalizing s with
  | nil => cases h; exact ⟨hs, rfl⟩
  | cons l ls ih =>
    obtain ⟨u, h, _, hregion, hdue⟩ := h.after_kind
    have hl := htrivia l (by simp)
    have hcode : u.mode = .code := by
      refine Mode.eq_code_of_region (hregion.trans ?_)
      revert hl
      cases l.kind <;> first | exact fun _ => rfl | exact fun h => by cases h
    obtain ⟨hmode, hsame⟩ := ih h (fun m hm => htrivia m (by simp [hm])) hcode
    rw [hl, if_pos rfl] at hdue
    exact ⟨hmode, hsame.trans hdue⟩

/-- The state behind a token of code and the blanks and comments that follow it. -/
theorem Spells.after_solid {s t : State} {ls ms : List Lexeme} {l : Lexeme} {tail : List Char}
    (h : Spells s (ls ++ l :: ms) tail t) (hl : l.kind.isTrivia = false)
    (hafter : l.kind.regionAfter = .code) (htrivia : ∀ m ∈ ms, m.kind.isTrivia = true) :
    t.mode = .code ∧ t.memberDue = l.kind.leadsMember := by
  obtain ⟨u, _, h⟩ := h.split
  obtain ⟨v, h, _, hregion, hdue⟩ := h.after_kind
  obtain ⟨hmode, hsame⟩ :=
    h.after_trivia htrivia (Mode.eq_code_of_region (hregion.trans hafter))
  rw [hl] at hdue
  exact ⟨hmode, hsame.trans hdue⟩

/-- A lexeme stands in the region that the one before it leaves. -/
theorem Spells.region_next {s t : State} {ls : List Lexeme} {tail : List Char}
    (h : Spells s ls tail t) {i : Nat} {k m : Lexeme} (hk : ls[i]? = some k)
    (hm : ls[i + 1]? = some m) : k.kind.regionAfter = m.kind.region := by
  induction ls generalizing s i with
  | nil => cases hk
  | cons l ls ih =>
    obtain ⟨u, h, _, hafter, _⟩ := h.after_kind
    cases i with
    | succ i => exact ih h hk hm
    | zero =>
      obtain rfl : l = k := Option.some.inj hk
      cases ls with
      | nil => cases hm
      | cons n ls =>
        obtain rfl : n = m := Option.some.inj hm
        obtain ⟨_, _, hregion, _⟩ := h.after_kind
        exact hafter.symm.trans hregion

/-- The last lexeme leaves the region of the state behind it. -/
theorem Spells.region_last {s t : State} {ls : List Lexeme} {tail : List Char}
    (h : Spells s ls tail t) {k : Lexeme} (hk : ls.getLast? = some k) :
    t.mode.region = k.kind.regionAfter := by
  obtain ⟨ms, rfl⟩ := List.getLast?_eq_some_iff.mp hk
  obtain ⟨_, _, h⟩ := h.split
  obtain ⟨_, h, _, hafter, _⟩ := h.after_kind
  cases h
  exact hafter

/-- No heredoc is left open where a template ends. -/
theorem Reads.fits {s t : State} {cs ds : List Char} {ls : List Lexeme} (h : Reads s cs ls t ds)
    (hfits : s.mode.Fits cs.length) : t.mode.Fits ds.length := by
  induction h with
  | done => exact hfits
  | step hcut _ ih =>
    refine ih ?_
    rw [List.length_drop]
    exact (cutNext_bounds hfits hcut).2

/-! ## Exchanging the text behind -/

/-- A heredoc is spelled to its end before code goes on. -/
theorem Spells.heredoc_length {s t : State} {ls : List Lexeme} {tail : List Char} {body closer : Nat}
    (h : Spells s ls tail t) (hs : s.mode = .heredoc body closer) (ht : t.mode = .code) :
    body + closer ≤ (chars ls).length := by
  induction ls generalizing s body with
  | nil =>
    cases h
    rw [hs] at ht
    cases ht
  | cons l ls ih =>
    cases h with
    | paren hcode => rw [hs] at hcode; cases hcode
    | @step _ _ c more _ kind mode _ _ hcut h =>
      rw [cutNext, hs] at hcut
      unfold cutHeredocPart at hcut
      dsimp only at hcut
      split at hcut
      · rename_i hbody
        simp only [beq_iff_eq] at hbody
        have hmore : closer - 1 = more.length := congrArg Cut.more (Except.ok.inj hcut)
        simp
        omega
      · split at hcut
        · cases hcut
        · have hmore : body - 1 = more.length := congrArg Cut.more (Except.ok.inj hcut)
          have hmode : Mode.heredoc 0 closer = mode := congrArg Cut.mode (Except.ok.inj hcut)
          have := ih h hmode.symm
          simp
          omega

/-- Whether a lexeme is a comment that ends with its line. -/
def isLineComment (l : Lexeme) : Bool :=
  l.kind == .comment &&
    match l.text.toList with
    | c :: rest => beginsLineComment c rest
    | [] => false

theorem cutNext_lineComment {s : State} {c : Char} {rest : List Char} {cut : Cut}
    (hs : s.mode = .code) (hc : beginsLineComment c rest = true) (h : cutNext s c rest = .ok cut) :
    cut = ⟨.comment, lineCommentLength rest 0, .code⟩ := by
  have hchar : c = '#' ∨ c = '/' := by
    simp only [beginsLineComment, Bool.or_eq_true, Bool.and_eq_true, beq_iff_eq] at hc
    rcases hc with hc | hc
    · exact .inl hc
    · exact .inr hc.1
  rw [cutNext, hs] at h
  have hcut : cutToken s c rest = .ok cut := by
    rcases hchar with rfl | rfl <;> exact h
  have hspace : ¬ isSpace c = true := by rcases hchar with rfl | rfl <;> decide
  unfold cutToken at hcut
  unfold beginsLineComment at hc
  rw [if_neg hspace, if_pos hc] at hcut
  exact cutComment_eq_ok hcut

/-- A question mark before a greater sign is cut with it, as a close tag. -/
theorem cutNext_question {s : State} {rest : List Char} (hs : s.mode = .code)
    (h : startsWith (· == '>') rest = true) :
    ∃ n, cutNext s '?' rest = .ok ⟨.closeTag, 1 + n, .markup⟩ := by
  obtain ⟨c, more, rfl, hc⟩ := startsWith_iff.mp h
  obtain rfl : c = '>' := beq_iff_eq.mp hc
  rw [cutNext, hs]
  exact ⟨lineEndLength more, rfl⟩

/-- Behind a line comment the line ends, if a lexeme follows. -/
theorem Spells.endsLine_of_length {s t : State} {l : Lexeme} {ls : List Lexeme}
    {more tail : List Char} (h : Spells s (l :: ls) tail t)
    (hlength : more.length = lineCommentLength (more ++ (chars (l :: ls) ++ tail)) 0) :
    endsLine (chars (l :: ls) ++ tail) = true := by
  rw [← Nat.zero_add more.length] at hlength
  rcases endsLine_behind_comment hlength.symm with hnil | hend
  · exact absurd (List.append_eq_nil_iff.mp hnil).1 h.chars_ne_nil
  · exact hend

/-- A line comment that is spelled ends in front of a line end or a close tag of the next lexeme. -/
theorem Spells.endsLine_behind {s t : State} {l : Lexeme} {ls : List Lexeme} {tail : List Char}
    (h : Spells s (l :: ls) tail t) (hs : s.mode = .code)
    (hend : endsLine (chars (l :: ls) ++ tail) = true) : endsLine (chars (l :: ls)) = true := by
  cases h with
  | paren => cases hend
  | @step _ _ c more _ kind mode _ _ hcut h =>
    simp only [chars_cons, String.toList_ofList, List.cons_append, endsLine] at hend ⊢
    rcases Bool.or_eq_true_iff.mp hend with hline | htag
    · rw [hline, Bool.true_or]
    · obtain ⟨hmark, hgreater⟩ := Bool.and_eq_true_iff.mp htag
      obtain rfl : c = '?' := by simpa using hmark
      cases more with
      | nil =>
        -- The close tag has its second character.
        obtain ⟨n, htag⟩ := cutNext_question hs hgreater
        have hmore := congrArg Cut.more (Except.ok.inj (htag.symm.trans hcut))
        simp at hmore
      | cons d more => simpa [startsWith] using htag

/-- A line comment shows by its own characters that it is one. -/
theorem isLineComment_of_cut {c : Char} {more tail : List Char}
    (hline : beginsLineComment c (more ++ tail) = true)
    (hlength : lineCommentLength (more ++ tail) 0 = more.length) :
    isLineComment ⟨.comment, String.ofList (c :: more)⟩ = true := by
  cases more with
  | cons d more => simpa [isLineComment, beginsLineComment, startsWith] using hline
  | nil =>
    simp only [List.nil_append, List.length_nil] at hline hlength
    by_cases hc : c = '#'
    · simp [isLineComment, beginsLineComment, hc]
    · have hslash : startsWith (· == '/') tail = true := by
        simp only [beginsLineComment, Bool.or_eq_true, Bool.and_eq_true, beq_iff_eq] at hline
        exact (hline.resolve_left hc).2
      exact absurd hlength (Nat.ne_of_gt (lineCommentLength_pos hslash))

/-- Lexemes end in a way that lets another text follow. -/
structure Firm (ls : List Lexeme) (tail other : List Char) : Prop where
  /-- The last one is no comment that takes in the rest of its line. -/
  comment : ∀ l, ls.getLast? = some l → isLineComment l = false
  /-- An open tag needs its blank. -/
  tag : ∀ l, ls.getLast? = some l → l.kind = .openTag → tail ≠ []
  /-- A `/` is not followed by another one. -/
  slash : ∀ l, ls.getLast? = some l → l.text = "/" → startsWith (· == '/') other = false

theorem Firm.of_cons {l : Lexeme} {ls : List Lexeme} {tail other : List Char}
    (h : Firm (l :: ls) tail other) : Firm ls tail other := by
  have hlast : ∀ m, ls.getLast? = some m → (l :: ls).getLast? = some m := by
    intro m hm
    cases ls with
    | nil => cases hm
    | cons k ls => rwa [List.getLast?_cons_cons]
  exact ⟨fun m hm => h.comment m (hlast m hm), fun m hm => h.tag m (hlast m hm),
    fun m hm => h.slash m (hlast m hm)⟩

/-- In markup an open tag and nothing else is spelled where one stands. -/
theorem Spells.openTag?_isSome {s t : State} {l : Lexeme} {ls : List Lexeme} {tail : List Char}
    (h : Spells s (l :: ls) tail t) (hs : s.mode = .markup) :
    (openTag? (chars (l :: ls) ++ tail)).isSome = true ↔ l.kind ≠ .inlineHtml := by
  cases h with
  | paren hcode => rw [hs] at hcode; cases hcode
  | @step _ _ c more _ kind mode _ _ hcut h =>
    rw [cutNext, hs] at hcut
    have hkind : (cutMarkup c (more ++ (chars ls ++ tail))).kind = kind :=
      congrArg Cut.kind (Except.ok.inj hcut)
    have hchars : chars (⟨kind, String.ofList (c :: more)⟩ :: ls) ++ tail =
        c :: (more ++ (chars ls ++ tail)) := by simp
    rw [hchars]
    constructor
    · rintro hopen rfl
      rw [(cutMarkup_inlineHtml hkind).2] at hopen
      cases hopen
    · intro hne
      cases hopen : openTag? (c :: (more ++ (chars ls ++ tail))) with
      | some tag => rfl
      | none =>
        rw [cutMarkup, hopen] at hkind
        exact absurd hkind.symm hne

/-- Markup stays as it is when the text behind the open tag that ends it is exchanged. -/
theorem cutNext_markup_exchange {s t : State} {c : Char} {more tail other : List Char} {mode : Mode}
    {ls : List Lexeme}
    (hcut : cutNext s c (more ++ (chars ls ++ tail)) = .ok ⟨.inlineHtml, more.length, mode⟩)
    (hold : Spells (s.after ⟨.inlineHtml, more.length, mode⟩) ls tail t)
    (hnew : Spells (s.after ⟨.inlineHtml, more.length, mode⟩) ls other t)
    (ht : t.mode = .code) :
    cutNext s c (more ++ (chars ls ++ other)) = .ok ⟨.inlineHtml, more.length, mode⟩ := by
  obtain ⟨hregion, hafter⟩ := cutNext_region hcut
  have hs : s.mode = .markup := by revert hregion; cases s.mode <;> simp [Mode.region, Kind.region]
  have hmode : mode = .markup := by
    revert hafter; cases mode <;> simp [Mode.region, Kind.regionAfter]
  subst hmode
  rw [cutNext, hs] at hcut ⊢
  have hcut := Except.ok.inj hcut
  have hlength : markupLength (more ++ (chars ls ++ tail)) 0 = 0 + more.length := by
    have h := (cutMarkup_inlineHtml (by rw [hcut])).1
    rw [hcut] at h
    simpa using (congrArg Cut.more h).symm
  cases ls with
  | nil =>
    cases hold
    cases ht
  | cons l ls =>
    have hopen : (openTag? (chars (l :: ls) ++ tail)).isSome = true := by
      rcases openTag?_behind_markup hlength with hnil | hopen
      · exact absurd (List.append_eq_nil_iff.mp hnil).1 hold.chars_ne_nil
      · exact hopen
    have hopen' : (openTag? (chars (l :: ls) ++ other)).isSome = true :=
      (hnew.openTag?_isSome rfl).mpr ((hold.openTag?_isSome rfl).mp hopen)
    cases hds : chars (l :: ls) with
    | nil => exact absurd hds hold.chars_ne_nil
    | cons d ds =>
      rw [hds] at hopen hopen' hcut
      obtain rfl : d = '<' := by
        obtain ⟨⟨kind, n⟩, hsome⟩ := Option.isSome_iff_exists.mp hopen
        rcases openTag?_eq_some_iff.mp hsome with ⟨_, heq, _⟩ | ⟨_, _, _, heq, _⟩
        · exact (List.cons_eq_cons.mp heq).1
        · exact (List.cons_eq_cons.mp heq).1
      exact congrArg Except.ok (cutMarkup_exchange hcut hopen')

/-- The text behind spelled lexemes can be exchanged for a barred one. -/
theorem Spells.exchange {s t : State} {ls : List Lexeme} {tail other : List Char}
    (h : Spells s ls tail t) (ht : t.mode = .code) (hother : Barred other)
    (hfirm : Firm ls tail other) : Spells s ls other t := by
  induction h with
  | done s tail => exact .done s other
  | paren hs h ih => exact .paren hs (ih ht hfirm.of_cons)
  | @step s t c more tail kind mode ls hkind hcut h ih =>
    have hnew := ih ht hfirm.of_cons
    refine .step hkind ?_ hnew
    by_cases hmarkup : kind = .inlineHtml
    · subst hmarkup
      exact cutNext_markup_exchange hcut h hnew ht
    have hlast : ls = [] → (⟨kind, String.ofList (c :: more)⟩ :: ls).getLast? =
        some ⟨kind, String.ofList (c :: more)⟩ := by
      rintro rfl
      rfl
    have hchars : ∀ m ms, ls = m :: ms → 0 < (chars ls).length := by
      rintro m ms rfl
      exact List.length_pos_iff.mpr h.chars_ne_nil
    rw [← List.append_assoc] at hcut ⊢
    refine cutNext_exchange hother hcut (by simp) hkind hmarkup ?_ ?_ ?_ ?_
    · -- An open tag is followed by something.
      rintro rfl
      cases ls with
      | nil =>
        have := List.length_pos_iff.mpr (hfirm.tag _ (hlast rfl) rfl)
        simp
        omega
      | cons m ms =>
        have := hchars m ms rfl
        simp only [List.length_append]
        omega
    · -- A slash alone is the last lexeme.
      rintro rfl hseen
      obtain ⟨rfl, hnil⟩ := List.append_eq_nil_iff.mp hseen
      cases ls with
      | nil => exact hfirm.slash _ (hlast rfl) rfl
      | cons m ms => exact absurd hnil h.chars_ne_nil
    · -- A line comment is seen with the line end behind it.
      intro hs hline
      have hcomment := cutNext_lineComment hs hline hcut
      obtain rfl : kind = .comment := congrArg Cut.kind hcomment
      obtain rfl : mode = .code := congrArg Cut.mode hcomment
      have hlength : more.length = lineCommentLength (more ++ chars ls ++ tail) 0 :=
        congrArg Cut.more hcomment
      rw [List.append_assoc] at hlength hline
      rw [List.drop_left]
      cases ls with
      | nil =>
        have hfalse := hfirm.comment _ (hlast rfl)
        rw [isLineComment_of_cut hline hlength.symm] at hfalse
        cases hfalse
      | cons m ms => exact h.endsLine_behind rfl (h.endsLine_of_length hlength)
    · -- The first line of a heredoc is seen with the whole heredoc.
      intro body closer hmode
      have := h.heredoc_length hmode ht
      simp only [List.length_append]
      omega

/-! ## Reading what is spelled -/

/-- Where the next cut is not an opening parenthesis, its lexeme is the one that is spelled. -/
theorem Spells.head {s t : State} {ls : List Lexeme} {c : Char} {rest : List Char} {cut : Cut}
    (h : Spells s ls [] t) (hchars : chars ls = c :: rest) (hc : c ≠ '(')
    (hcut : cutNext s c rest = .ok cut) :
    ∃ ms, ls = cut.lexeme c rest :: ms ∧ chars ms = rest.drop cut.more ∧
      Spells (s.after cut) ms [] t := by
  cases h with
  | done => cases hchars
  | paren => exact absurd (List.cons_eq_cons.mp hchars).1.symm hc
  | @step _ _ d more _ kind mode ms hkind hcut' h =>
    rw [chars_cons, String.toList_ofList, List.cons_append] at hchars
    obtain ⟨rfl, rfl⟩ := List.cons_eq_cons.mp hchars
    rw [List.append_nil, hcut] at hcut'
    obtain rfl := Except.ok.inj hcut'
    refine ⟨ms, ?_, ?_, h⟩
    · simp [Cut.lexeme]
    · simp

theorem cutNext_space {s : State} (hs : s.mode = .code) {c : Char} (hc : isSpace c = true)
    (rest : List Char) :
    cutNext s c rest = .ok ⟨.whitespace, runLength isSpace rest, .code⟩ := by
  have hmark : (c == '?') = false := by
    cases hq : c == '?' with
    | false => rfl
    | true =>
      obtain rfl : c = '?' := by simpa using hq
      cases hc
  rw [cutNext, hs]
  simp only [cutCode, hmark, cutToken, hc]
  rfl

theorem cutNext_letter {s : State} (hs : s.mode = .code) {c : Char} (hc : c.isAlpha = true)
    (rest : List Char) : cutNext s c rest = cutName s c rest := by
  have hne : ∀ d : Char, d.isAlpha = false → (c == d) = false := by
    intro d hd
    cases heq : c == d with
    | false => rfl
    | true =>
      obtain rfl : c = d := by simpa using heq
      rw [hd] at hc
      cases hc
  have hspace : isSpace c = false := by simp [isSpace, hne]
  have hstart : isNameStart c = true := by simp [isNameStart, hc]
  rw [cutNext, hs]
  simp [cutCode, cutToken, hne, hspace, hstart]

theorem nameLength_run {word rest : List Char} (hword : ∀ c ∈ word, isNamePart c = true)
    (hstop : startsWith (fun c => isNamePart c || c == '\\') rest = false) (n : Nat) :
    nameLength (word ++ rest) n = n + word.length := by
  induction word generalizing n with
  | nil =>
    cases rest with
    | nil => rfl
    | cons c rest =>
      have hc : isNamePart c = false ∧ c ≠ '\\' := by simpa [startsWith] using hstop
      simp [nameLength_cons hc.2, hc.1]
  | cons c word ih =>
    have hpart := hword c (by simp)
    have hc : c ≠ '\\' := by rintro rfl; exact absurd hpart (by decide)
    rw [List.cons_append, nameLength_cons hc, if_pos hpart,
      ih (fun d hd => hword d (by simp [hd])), List.length_cons]
    omega

/-- Blanks in front of something else are a lexeme of their own, if there are any. -/
theorem Spells.head_padding {s t : State} {ls : List Lexeme} {padding rest : List Char}
    (h : Spells s ls [] t) (hs : s.mode = .code) (hchars : chars ls = padding ++ rest)
    (hpadding : ∀ c ∈ padding, isPadding c = true) (hrest : startsWith isSpace rest = false) :
    ∃ ps ms, ls = ps ++ ms ∧ (∀ l ∈ ps, l.kind = .whitespace) ∧ chars ps = padding ∧
      chars ms = rest ∧ Spells s ms [] t := by
  have hspace : ∀ d, isPadding d = true → isSpace d = true := by
    intro d hd
    have hcases : d = ' ' ∨ d = '\t' := by simpa [isPadding] using hd
    rcases hcases with rfl | rfl <;> rfl
  cases padding with
  | nil => exact ⟨[], ls, rfl, by simp, rfl, hchars, h⟩
  | cons c padding =>
    have hrun : runLength isSpace (padding ++ rest) = padding.length := by
      rw [runLength, takeWhile_append_stop (fun d hd => hspace d (hpadding d (by simp [hd]))) hrest]
    have hcut := cutNext_space hs (hspace c (hpadding c (by simp))) (padding ++ rest)
    have hne : c ≠ '(' := by rintro rfl; exact absurd (hpadding '(' (by simp)) (by decide)
    obtain ⟨ms, rfl, hms, h⟩ := h.head hchars hne hcut
    refine ⟨[_], ms, rfl, by simp [Cut.lexeme], ?_, ?_, ?_⟩
    · simp [Cut.lexeme, hrun]
    · simp [hms, hrun]
    · obtain ⟨mode, pending, due⟩ := s
      obtain rfl : mode = .code := hs
      exact h

/-- Letters in front of something else are one word. -/
theorem Spells.head_word {s t : State} {ls : List Lexeme} {word rest : List Char}
    (h : Spells s ls [] t) (hs : s.mode = .code) (hchars : chars ls = word ++ rest)
    (hne : word ≠ []) (hword : ∀ c ∈ word, c.isAlpha = true)
    (hrest : startsWith (fun c => isNamePart c || c == '\\') rest = false) :
    ∃ kind ms, kind.isWord = true ∧ ls = ⟨kind, String.ofList word⟩ :: ms ∧ chars ms = rest ∧
      Spells ⟨.code, s.pending, false⟩ ms [] t := by
  cases word with
  | nil => exact absurd rfl hne
  | cons c word =>
    have hpart : ∀ d ∈ word, isNamePart d = true := by
      intro d hd
      simp [isNamePart, isNameStart, hword d (by simp [hd])]
    have hlength : nameLength (word ++ rest) 0 = word.length := by
      rw [nameLength_run hpart hrest, Nat.zero_add]
    have hparen : c ≠ '(' := by rintro rfl; exact absurd (hword '(' (by simp)) (by decide)
    obtain ⟨kind, hkind, hcut⟩ : ∃ kind, kind.isWord = true ∧
        cutNext s c (word ++ rest) = .ok ⟨kind, word.length, .code⟩ := by
      rw [cutNext_letter hs (hword c (by simp)), cutName, hlength]
      refine ⟨_, ?_, rfl⟩
      split
      · rfl
      · exact Kind.isWord_ofWord _
    obtain ⟨ms, rfl, hms, h⟩ := h.head hchars hparen hcut
    refine ⟨kind, ms, hkind, ?_, ?_, ?_⟩
    · simp [Cut.lexeme]
    · simp [hms]
    · have hafter : s.after ⟨kind, word.length, .code⟩ = ⟨.code, s.pending, false⟩ := by
        revert hkind
        cases kind <;> first | exact fun _ => rfl | exact fun h => by cases h
      rwa [hafter] at h

/-- A closing parenthesis in front is a lexeme. -/
theorem Spells.head_closing {s t : State} {ls : List Lexeme} {rest : List Char}
    (h : Spells s ls [] t) (hs : s.mode = .code) (hchars : chars ls = ')' :: rest) :
    ∃ ms, ls = closing :: ms ∧ chars ms = rest ∧ Spells ⟨.code, s.pending, false⟩ ms [] t := by
  obtain ⟨ms, rfl, hms, h⟩ := h.head hchars (by decide) (cutNext_closing hs rest)
  exact ⟨ms, rfl, hms, h⟩

/-- Lexemes that make a cast when they stand behind an opening parenthesis: a type, blanks around
it, and the closing parenthesis. -/
structure CastParts (ls : List Lexeme) : Prop where
  cast : IsCast (chars ls)
  parts : ∃ before word after, ls = before ++ word :: (after ++ [closing]) ∧
    (∀ l ∈ before, l.kind = .whitespace) ∧ word.kind.isWord = true ∧
    (∀ l ∈ after, l.kind = .whitespace)

/-- Where the characters of a cast stand, its parts are spelled. -/
theorem Spells.castParts {s t : State} {ls : List Lexeme} {n : Nat} (h : Spells s ls [] t)
    (hs : s.mode = .code) (hcast : castLength? (chars ls) = some n) :
    ∃ ms rest, ls = ms ++ rest ∧ CastParts ms ∧ (chars ms).length = n ∧
      Spells ⟨.code, s.pending, false⟩ rest [] t := by
  obtain ⟨text, behind, hchars, rfl, hform⟩ := castLength?_eq_some_iff.mp hcast
  obtain ⟨before, word, after, rfl, hbefore, hword, hafter, htype⟩ := id hform
  have hne : word ≠ [] := by rintro rfl; exact absurd htype (by decide)
  have hspace : startsWith isSpace (word ++ (after ++ ')' :: behind)) = false := by
    cases word with
    | nil => exact absurd rfl hne
    | cons c word =>
      have hc := hword c (by simp)
      cases hsp : isSpace c with
      | false => exact hsp
      | true =>
        have hcases : c = ' ' ∨ c = '\t' ∨ c = '\n' ∨ c = '\r' ∨ c = '\x0b' ∨ c = '\x0c' := by
          simpa [isSpace, or_assoc] using hsp
        rcases hcases with rfl | rfl | rfl | rfl | rfl | rfl <;> exact absurd hc (by decide)
  have hstop : startsWith (fun c => isNamePart c || c == '\\') (after ++ ')' :: behind) = false := by
    refine startsWith_append (fun c hc => ?_) rfl
    have hcases : c = ' ' ∨ c = '\t' := by simpa [isPadding] using hafter c hc
    rcases hcases with rfl | rfl <;> rfl
  obtain ⟨bs, ls, rfl, hbs, hbchars, hchars, h⟩ :=
    h.head_padding hs (by rw [hchars]; simp) hbefore hspace
  obtain ⟨kind, ls, hkind, rfl, hchars, h⟩ := h.head_word hs hchars hne hword hstop
  obtain ⟨as, ls, rfl, has, hachars, hchars, h⟩ := h.head_padding rfl hchars hafter rfl
  obtain ⟨ls, rfl, hchars, h⟩ := h.head_closing rfl hchars
  have htext : chars (bs ++ ⟨kind, String.ofList word⟩ :: (as ++ [closing])) =
      before ++ (word ++ (after ++ [')'])) := by
    simp [hbchars, hachars, closing]
  exact ⟨bs ++ ⟨kind, String.ofList word⟩ :: (as ++ [closing]), ls, by simp,
    ⟨htext ▸ hform, bs, _, as, rfl, hbs, hkind, has⟩, by rw [htext], h⟩

/-- The parts of a cast as one lexeme. -/
def castOf (parts : List Lexeme) : Lexeme := ⟨.cast, String.ofList ('(' :: chars parts)⟩

/-- No parts of a cast stand at the beginning. -/
def NoCast (ls : List Lexeme) : Prop := ∀ parts rest, ls = parts ++ rest → ¬ CastParts parts

/-- Lexemes, some of which are parts of casts, and the lexemes with each cast in one. -/
inductive Fuses : List Lexeme → List Lexeme → Prop where
  /-- No lexemes. -/
  | nil : Fuses [] []
  /-- A lexeme of its own. -/
  | keep {ls ms : List Lexeme} (l : Lexeme) : (l = opening → NoCast ls) → Fuses ls ms →
    Fuses (l :: ls) (l :: ms)
  /-- A cast. -/
  | cast {parts ls ms : List Lexeme} : CastParts parts → Fuses ls ms →
    Fuses (opening :: (parts ++ ls)) (castOf parts :: ms)

/-- What is spelled is read, with each cast in one. -/
theorem Spells.reads {s t : State} {ls : List Lexeme} (h : Spells s ls [] t) :
    ∃ ms, Reads s (chars ls) ms t [] ∧ Fuses ls ms := by
  induction hn : ls.length using Nat.strongRecOn generalizing s ls with
  | _ n ih =>
    subst hn
    cases h with
    | done => exact ⟨[], .done _ [], .nil⟩
    | @step _ _ c more _ kind mode ls hkind hcut h =>
      obtain ⟨ms, hreads, hfuses⟩ := ih ls.length (by simp) h rfl
      rw [List.append_nil] at hcut
      refine ⟨⟨kind, String.ofList (c :: more)⟩ :: ms, ?_,
        .keep _ (fun heq => absurd (congrArg Lexeme.kind heq) hkind) hfuses⟩
      have hstep := Reads.step hcut (by simpa using hreads)
      simpa [Cut.lexeme] using hstep
    | @paren _ _ _ ls hs h =>
      have hcut := cutNext_opening hs (chars ls)
      cases hcast : castLength? (chars ls) with
      | none =>
        rw [hcast] at hcut
        obtain ⟨ms, hreads, hfuses⟩ := ih ls.length (by simp) h rfl
        have hno : NoCast ls := by
          rintro parts rest rfl hparts
          rw [chars_append, castLength?_eq_some_iff.mpr ⟨_, _, rfl, rfl, hparts.cast⟩] at hcast
          cases hcast
        refine ⟨opening :: ms, ?_, .keep _ (fun _ => hno) hfuses⟩
        have hstep := Reads.step hcut (by simpa using hreads)
        simpa [Cut.lexeme, opening] using hstep
      | some n =>
        rw [hcast] at hcut
        obtain ⟨parts, rest, rfl, hparts, rfl, h⟩ := h.castParts rfl hcast
        obtain ⟨ms, hreads, hfuses⟩ := ih rest.length
          (by simp only [List.length_cons, List.length_append]; omega) h rfl
        refine ⟨castOf parts :: ms, ?_, .cast hparts hfuses⟩
        have hrest : Reads (s.after ⟨.cast, (chars parts).length, .code⟩)
            ((chars (parts ++ rest)).drop (chars parts).length) ms t [] := by
          rw [chars_append, List.drop_left]
          exact hreads
        have hstep := Reads.step hcut hrest
        simpa [Cut.lexeme, castOf, opening] using hstep

/-- No cast is in parts. -/
def Unfused (ls : List Lexeme) : Prop := ∀ before rest, ls = before ++ opening :: rest → NoCast rest

/-- Lexemes that stay as they are have no cast in parts. -/
theorem Fuses.unfused {ls ms : List Lexeme} (h : Fuses ls ms) (heq : ls = ms) : Unfused ls := by
  induction h with
  | nil => intro before rest hsplit; simp at hsplit
  | keep l hno _ ih =>
    intro before rest hsplit
    cases before with
    | nil =>
      obtain ⟨hl, rfl⟩ := List.cons_eq_cons.mp hsplit
      exact hno hl
    | cons m before =>
      obtain ⟨_, hsplit⟩ := List.cons_eq_cons.mp hsplit
      exact ih (List.cons_eq_cons.mp heq).2 before rest hsplit
  | cast => cases congrArg Lexeme.kind (List.cons_eq_cons.mp heq).1

/-- In what is read no cast is in parts. -/
theorem Reads.unfused {s t : State} {cs : List Char} {ls : List Lexeme} (h : Reads s cs ls t [])
    (hfits : s.mode.Fits cs.length) : Unfused ls := by
  obtain ⟨ms, hreads, hfuses⟩ := (h.spells hfits).reads
  have hchars := h.chars_eq
  rw [List.append_nil] at hchars
  rw [hchars] at h
  obtain ⟨rfl, _⟩ := h.unique hreads
  exact hfuses.unfused rfl

end Lexer

end EscapeAudit
