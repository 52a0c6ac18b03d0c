import EscapeAudit.Proofs.Chunks

/-!
# Casts in a fixed template

A call of the escaper around the name of a type is read as a method name and a cast.  No other cast
comes together in a fixed template.  An opening parenthesis of the template is followed by what
followed it before, up to a token that a call begins at, and a call around several tokens ends
where the leaf ends.  So the lexemes of a fixed template are those of the template, each replaced by
one chunk (`Tidy.fuses_weave`).
-/

namespace EscapeAudit

open Lexer

/-! ## One fused lexeme -/

namespace Lexer

theorem Fuses.inversion {l : Lexeme} {ls ms : List Lexeme} (h : Fuses (l :: ls) ms) :
    (∃ rest, ms = l :: rest ∧ (l = opening → NoCast ls) ∧ Fuses ls rest) ∨
      ∃ parts behind rest, l = opening ∧ ls = parts ++ behind ∧ CastParts parts ∧
        ms = castOf parts :: rest ∧ Fuses behind rest := by
  cases h with
  | keep _ hno h => exact .inl ⟨_, rfl, hno, h⟩
  | cast hparts h => exact .inr ⟨_, _, _, rfl, rfl, hparts, rfl, h⟩

/-- A lexeme that begins no cast stays. -/
theorem Fuses.of_noCast {l : Lexeme} {ls ms : List Lexeme} (h : Fuses (l :: ls) ms)
    (hno : l = opening → NoCast ls) : ∃ rest, ms = l :: rest ∧ Fuses ls rest := by
  rcases h.inversion with ⟨rest, hms, _, h⟩ | ⟨parts, behind, _, hl, hls, hparts, _⟩
  · exact ⟨rest, hms, h⟩
  · exact absurd hparts (hno hl parts behind hls)

theorem noCast_closing (ls : List Lexeme) : NoCast (closing :: ls) := by
  intro parts rest heq hparts
  obtain ⟨before, word, after, rfl, hbefore, hword, _⟩ := hparts.parts
  cases before with
  | nil =>
    obtain ⟨rfl, _⟩ := List.cons_eq_cons.mp heq
    cases hword
  | cons b before =>
    obtain ⟨rfl, _⟩ := List.cons_eq_cons.mp heq
    cases hbefore closing (by simp)

/-- The parts of a cast that begin with a lexeme and the closing parenthesis are these two. -/
theorem CastParts.eq_pair {parts ls rest : List Lexeme} {l : Lexeme} (h : CastParts parts)
    (hl : l.kind.isTrivia = false) (heq : l :: closing :: ls = parts ++ rest) :
    parts = [l, closing] ∧ ls = rest := by
  obtain ⟨before, word, after, rfl, hbefore, _, hafter⟩ := h.parts
  cases before with
  | cons b before =>
    obtain ⟨rfl, _⟩ := List.cons_eq_cons.mp heq
    rw [hbefore l (by simp)] at hl
    cases hl
  | nil =>
    obtain ⟨rfl, hrest⟩ := List.cons_eq_cons.mp heq
    cases after with
    | cons a after =>
      obtain ⟨rfl, _⟩ := List.cons_eq_cons.mp hrest
      cases hafter closing (by simp)
    | nil => exact ⟨rfl, (List.cons_eq_cons.mp hrest).2⟩

theorem castParts_pair_iff (l : Lexeme) :
    CastParts [l, closing] ↔ castLength? (chars [l, closing]) = some (chars [l, closing]).length ∧
      l.kind.isWord = true := by
  rw [castLength?_eq_some_iff]
  constructor
  · intro h
    refine ⟨⟨_, [], (List.append_nil _).symm, rfl, h.cast⟩, ?_⟩
    obtain ⟨before, word, after, heq, _, hword, _⟩ := h.parts
    have hlength := congrArg List.length heq
    simp only [List.length_cons, List.length_nil, List.length_append] at hlength
    obtain rfl : before = [] := List.length_eq_zero_iff.mp (by omega)
    obtain ⟨rfl, _⟩ := List.cons_eq_cons.mp heq
    exact hword
  · rintro ⟨⟨text, tail, heq, hlength, hcast⟩, hword⟩
    have htail : tail = [] := by
      have := congrArg List.length heq
      rw [List.length_append] at this
      exact List.length_eq_zero_iff.mp (by omega)
    rw [htail, List.append_nil] at heq
    exact ⟨heq ▸ hcast, [], l, [], rfl, by simp, hword, by simp⟩

instance (l : Lexeme) : Decidable (CastParts [l, closing]) :=
  decidable_of_iff _ (castParts_pair_iff l).symm

end Lexer

/-- A call around one token, read as a cast where the token names a type. -/
def fuseCall : List Lexeme → List Lexeme
  | [escaper, operator, method, parenthesis, l, close] =>
    if CastParts [l, closing] then [escaper, operator, method, castOf [l, closing]]
    else [escaper, operator, method, parenthesis, l, close]
  | ls => ls

/-- A token with the lexemes of fixes around it, as it is read. -/
def fusedChunk (fixes : List Fix) (i : Nat) (l : Lexeme) : List Lexeme :=
  fuseCall (chunkOf fixes i l)

/-! ## No other cast comes together -/

/-- The tokens of a call are balanced, and blanks and comments are neither first nor last. -/
def Fix.Enclosing (ls : List Lexeme) : Fix → Prop
  | wrap first last _ => ∃ before core after, ls = before ++ (core ++ after) ∧
    before.length = first ∧ last + 1 = first + core.length ∧ Stream.Balanced core ∧
    Stream.Core core
  | _ => True

namespace Tidy

variable {fixes : List Fix} {ls : List Lexeme}

/-- The first lexeme of what is woven, where it is none that a fix puts before a token. -/
theorem weave_head (htidy : Tidy fixes) {i : Nat} {rest ms : List Lexeme} {m : Lexeme}
    (heq : weave (chunkOf fixes) i rest = m :: ms) (hvariable : m.kind ≠ .variable)
    (hcomment : m.kind ≠ .comment) :
    ∃ rest', rest = m :: rest' ∧ (ms = weave (chunkOf fixes) (i + 1) rest' ∨
      ∃ first f, first < i ∧ .wrap first i f ∈ fixes ∧
        ms = closing :: weave (chunkOf fixes) (i + 1) rest') := by
  cases rest with
  | nil => cases heq
  | cons l rest =>
    rw [weave] at heq
    have hchunk := htidy.chunk i l
    generalize chunkOf fixes i l = c at heq hchunk
    cases hchunk with
    | keep =>
      obtain ⟨rfl, rfl⟩ := List.cons_eq_cons.mp heq
      exact ⟨rest, rfl, .inl rfl⟩
    | whole =>
      obtain ⟨rfl, _⟩ := List.cons_eq_cons.mp heq
      exact absurd rfl hvariable
    | first =>
      obtain ⟨rfl, _⟩ := List.cons_eq_cons.mp heq
      exact absurd rfl hvariable
    | last hmem hlt =>
      obtain ⟨rfl, rfl⟩ := List.cons_eq_cons.mp heq
      exact ⟨rest, rfl, .inr ⟨_, _, hlt, hmem, rfl⟩⟩
    | mark =>
      obtain ⟨rfl, _⟩ := List.cons_eq_cons.mp heq
      exact absurd rfl hcomment

/-- A call ends behind a token that is neither blank nor comment. -/
theorem solid_last (henclosing : ∀ f ∈ fixes, f.Enclosing ls) {first : Nat} {f : EscapeFunction}
    {before rest : List Lexeme} {l : Lexeme} (hmem : .wrap first before.length f ∈ fixes)
    (hls : ls = before ++ l :: rest) : l.kind.isTrivia = false := by
  obtain ⟨front, core, behind, hsplit, hfirst, hlast, _, hcore⟩ := henclosing _ hmem
  obtain ⟨k, hk, hsolid⟩ := hcore.last
  have hpos := hcore.length_pos
  have hget : ls[before.length]? = some k := by
    rw [hsplit, List.getElem?_append_right (by omega), List.getElem?_append_left (by omega)]
    rw [List.getLast?_eq_getElem?] at hk
    rw [← hk]
    congr 1
    omega
  rw [hls, List.getElem?_append_right (Nat.le_refl _), Nat.sub_self] at hget
  obtain rfl : l = k := by simpa using hget
  exact hsolid

/-- Blanks of what is woven are blanks of the template. -/
theorem weave_blanks (htidy : Tidy fixes) (henclosing : ∀ f ∈ fixes, f.Enclosing ls)
    {before rest blanks ms : List Lexeme} (hls : ls = before ++ rest)
    (hblanks : ∀ l ∈ blanks, l.kind = .whitespace)
    (heq : weave (chunkOf fixes) before.length rest = blanks ++ ms) :
    ∃ rest', rest = blanks ++ rest' ∧
      weave (chunkOf fixes) (before ++ blanks).length rest' = ms := by
  induction blanks generalizing before rest with
  | nil => exact ⟨rest, rfl, by simpa using heq⟩
  | cons b blanks ih =>
    have hb : b.kind = .whitespace := hblanks b (by simp)
    obtain ⟨rest', rfl, hms | ⟨first, f, _, hmem, _⟩⟩ :=
      htidy.weave_head heq (by rw [hb]; decide) (by rw [hb]; decide)
    · have hls' : ls = (before ++ [b]) ++ rest' := by rw [hls]; simp
      have hstep : weave (chunkOf fixes) (before ++ [b]).length rest' = blanks ++ ms := by
        rw [List.length_append, List.length_singleton]
        exact hms.symm
      obtain ⟨rest'', rfl, hrest⟩ := ih hls' (fun l hl => hblanks l (by simp [hl])) hstep
      exact ⟨rest'', rfl, by rw [← hrest, List.append_assoc]; rfl⟩
    · have hsolid := solid_last henclosing hmem hls
      rw [hb] at hsolid
      cases hsolid

theorem depthAfter_flat {d : Nat} {ls : List Lexeme}
    (h : ∀ l ∈ ls, Stream.isFlat l.kind = true) : Stream.depthAfter d ls = some d := by
  induction ls with
  | nil => rfl
  | cons l ls ih =>
    rw [Stream.depthAfter, Stream.depthStep_of_isFlat (h l (by simp))]
    exact ih fun m hm => h m (by simp [hm])

theorem isFlat_of_isWord {k : Kind} (h : k.isWord = true) : Stream.isFlat k = true := by
  cases k <;> first | rfl | cases h

/-- No call ends behind a word with an opening parenthesis before it. -/
theorem not_last_of_opening (henclosing : ∀ f ∈ fixes, f.Enclosing ls) {first : Nat}
    {f : EscapeFunction} {before blanks rest : List Lexeme} {word : Lexeme}
    (hls : ls = before ++ opening :: (blanks ++ word :: rest))
    (hblanks : ∀ l ∈ blanks, l.kind = .whitespace) (hword : word.kind.isWord = true)
    (hfirst : first < before.length + 1 + blanks.length) :
    .wrap first (before.length + 1 + blanks.length) f ∉ fixes := by
  intro hmem
  obtain ⟨front, core, behind, hsplit, hfront, hlast, hb, hcore⟩ := henclosing _ hmem
  have heq : front ++ core = before ++ opening :: (blanks ++ [word]) := by
    have hwhole : (front ++ core) ++ behind = (before ++ opening :: (blanks ++ [word])) ++ rest := by
      rw [List.append_assoc, ← hsplit, hls]
      simp
    refine (List.append_inj hwhole ?_).1
    simp only [List.length_append, List.length_cons, List.length_nil]
    omega
  -- From the opening parenthesis on, the depth does not come back to zero.
  have hdeep : ∀ ks, core ≠ ks ++ opening :: (blanks ++ [word]) := by
    rintro ks rfl
    rw [Stream.Balanced, Stream.depthAfter_append] at hb
    obtain ⟨d, _, hrest⟩ := Option.bind_eq_some_iff.mp hb
    obtain ⟨e, hstep, hrest⟩ := Stream.depthAfter_cons hrest
    obtain rfl : d + 1 = e := Option.some.inj hstep
    rw [depthAfter_flat fun l hl => ?_] at hrest
    · cases hrest
    · rcases List.mem_append.mp hl with hl | hl
      · rw [hblanks l hl]
        rfl
      · rw [List.mem_singleton.mp hl]
        exact isFlat_of_isWord hword
  rcases List.append_eq_append_iff.mp heq with ⟨ks, _, hcore'⟩ | ⟨ks, hks, hcore'⟩
  · exact hdeep ks hcore'
  · cases ks with
    | nil => exact hdeep [] hcore'.symm
    | cons k ks =>
      obtain ⟨_, hcore'⟩ := List.cons_eq_cons.mp hcore'
      rcases List.append_eq_append_iff.mp hcore' with ⟨js, rfl, _⟩ | ⟨js, hjs, hjs'⟩
      · rw [hks] at hfront
        simp only [List.length_append, List.length_cons] at hfront hfirst
        omega
      · obtain ⟨l, hl, hsolid⟩ := hcore.head
        cases js with
        | nil =>
          rw [List.append_nil] at hjs
          rw [hks, ← hjs] at hfront
          simp only [List.length_append, List.length_cons] at hfront
          omega
        | cons j js =>
          rw [hjs', List.cons_append, List.head?_cons] at hl
          obtain rfl := Option.some.inj hl
          rw [hblanks j (by rw [hjs]; simp)] at hsolid
          cases hsolid

/-- An opening parenthesis of the template begins no cast. -/
theorem noCast_opening (htidy : Tidy fixes) (henclosing : ∀ f ∈ fixes, f.Enclosing ls)
    (hunfused : Unfused ls) {before rest : List Lexeme} (hls : ls = before ++ opening :: rest) :
    NoCast (weave (chunkOf fixes) (before.length + 1) rest) := by
  intro parts behind heq hparts
  obtain ⟨front, word, back, hshape, hfront, hword, hback⟩ := hparts.parts
  have hkind : word.kind ≠ .variable ∧ word.kind ≠ .comment := by
    revert hword
    cases word.kind <;> simp [Kind.isWord]
  have hls₁ : ls = (before ++ [opening]) ++ rest := by rw [hls]; simp
  have heq₁ : weave (chunkOf fixes) (before ++ [opening]).length rest =
      front ++ word :: (back ++ closing :: behind) := by
    rw [List.length_append, List.length_singleton, heq, hshape]
    simp
  obtain ⟨rest₁, rfl, heq₂⟩ := htidy.weave_blanks henclosing hls₁ hfront heq₁
  obtain ⟨rest₂, rfl, heq₃ | ⟨first, f, hfirst, hmem, _⟩⟩ :=
    htidy.weave_head heq₂ hkind.1 hkind.2
  · have hls₂ : ls = (before ++ [opening] ++ front ++ [word]) ++ rest₂ := by rw [hls]; simp
    have heq₄ : weave (chunkOf fixes) (before ++ [opening] ++ front ++ [word]).length rest₂ =
        back ++ closing :: behind := by
      rw [heq₃]
      simp only [List.length_append, List.length_singleton]
    obtain ⟨rest₃, rfl, heq₅⟩ := htidy.weave_blanks henclosing hls₂ hback heq₄
    obtain ⟨rest₄, rfl, _⟩ := htidy.weave_head heq₅ (by decide) (by decide)
    exact hunfused before _ hls parts rest₄ (by rw [hshape]; simp) hparts
  · rw [List.length_append, List.length_append, List.length_singleton] at hfirst hmem
    exact not_last_of_opening henclosing hls hfront hword hfirst hmem

/-- A call around several tokens begins no cast. -/
theorem noCast_first (htidy : Tidy fixes) (henclosing : ∀ f ∈ fixes, f.Enclosing ls)
    {before rest : List Lexeme} {l : Lexeme} {last : Nat} {f : EscapeFunction}
    (hls : ls = before ++ l :: rest) (hmem : .wrap before.length last f ∈ fixes)
    (hlt : before.length < last) :
    NoCast (l :: weave (chunkOf fixes) (before.length + 1) rest) := by
  intro parts behind heq hparts
  obtain ⟨front, word, back, hshape, hfront, hword, hback⟩ := hparts.parts
  obtain ⟨outer, core, after, hsplit, houter, hlast, hb, hcore⟩ := henclosing _ hmem
  obtain ⟨rfl, hrest⟩ := List.append_inj (hsplit.symm.trans hls) houter
  obtain ⟨k, hk, hsolid⟩ := hcore.head
  obtain ⟨m, hm, hsolid'⟩ := hcore.last
  cases core with
  | nil => cases hk
  | cons k' core =>
    obtain rfl := Option.some.inj hk
    obtain ⟨rfl, rfl⟩ := List.cons_eq_cons.mp hrest
    -- The word is the first token of the leaf.
    cases front with
    | cons b front =>
      rw [hshape] at heq
      obtain ⟨rfl, _⟩ := List.cons_eq_cons.mp heq
      rw [hfront k' (by simp)] at hsolid
      cases hsolid
    | nil =>
      rw [hshape] at heq
      obtain ⟨rfl, htail⟩ := List.cons_eq_cons.mp heq
      have hls₁ : ls = (outer ++ [k']) ++ (core ++ after) := by rw [hls]; simp
      have heq₁ : weave (chunkOf fixes) (outer ++ [k']).length (core ++ after) =
          back ++ closing :: behind := by
        rw [List.length_append, List.length_singleton]
        exact htail.trans (List.append_assoc back [closing] behind)
      obtain ⟨rest₁, hrest₁, heq₂⟩ := htidy.weave_blanks henclosing hls₁ hback heq₁
      obtain ⟨rest₂, rfl, _⟩ := htidy.weave_head heq₂ (by decide) (by decide)
      have hblank : ¬ ∀ l ∈ core, l.kind = .whitespace := by
        intro hcore'
        cases core with
        | nil =>
          simp only [List.length_cons, List.length_nil] at hlast
          omega
        | cons j core =>
          rw [List.getLast?_cons_cons] at hm
          rw [hcore' m (List.mem_of_getLast? hm)] at hsolid'
          cases hsolid'
      rcases List.append_eq_append_iff.mp hrest₁ with ⟨js, rfl, _⟩ | ⟨js, rfl, hjs⟩
      · exact hblank fun l hl => hback l (by simp [hl])
      · cases js with
        | nil => exact hblank fun l hl => hback l (by simpa using hl)
        | cons j js =>
          obtain ⟨rfl, _⟩ := List.cons_eq_cons.mp hjs
          -- The closing parenthesis comes at depth zero.
          have hflat : Stream.depthAfter 0 (k' :: back) = some 0 := by
            refine depthAfter_flat fun l hl => ?_
            rcases List.mem_cons.mp hl with rfl | hl
            · exact isFlat_of_isWord hword
            · rw [hback l hl]
              rfl
          rw [Stream.Balanced, ← List.cons_append, Stream.depthAfter_append, hflat] at hb
          cases hb

/-- A call begins before a token that is neither blank nor comment. -/
theorem solid_first (henclosing : ∀ f ∈ fixes, f.Enclosing ls) {last : Nat} {f : EscapeFunction}
    {before rest : List Lexeme} {l : Lexeme} (hmem : .wrap before.length last f ∈ fixes)
    (hls : ls = before ++ l :: rest) : l.kind.isTrivia = false := by
  obtain ⟨front, core, behind, hsplit, hfront, _, _, hcore⟩ := henclosing _ hmem
  obtain ⟨rfl, hrest⟩ := List.append_inj (hsplit.symm.trans hls) hfront
  obtain ⟨k, hk, hsolid⟩ := hcore.head
  cases core with
  | nil => cases hk
  | cons k' core =>
    obtain rfl := Option.some.inj hk
    rw [(List.cons_eq_cons.mp hrest).1] at hsolid
    exact hsolid

/-- The escaper and the method begin no cast. -/
theorem fuses_escaperCall {f : EscapeFunction} {ms ns : List Lexeme}
    (h : Fuses (escaperCall f ++ ms) ns) :
    ∃ rest, ns = Stream.accessor f ++ rest ∧ Fuses (opening :: ms) rest := by
  obtain ⟨_, rfl, h₁⟩ := h.of_noCast fun heq => by cases heq
  obtain ⟨_, rfl, h₂⟩ := h₁.of_noCast fun heq => by cases heq
  obtain ⟨_, rfl, h₃⟩ := h₂.of_noCast fun heq => by cases congrArg Lexeme.kind heq
  exact ⟨_, rfl, h₃⟩

/-- The lexemes of a fixed template are those of the template, each replaced by a chunk. -/
theorem fuses_weave (htidy : Tidy fixes) (henclosing : ∀ f ∈ fixes, f.Enclosing ls)
    (hunfused : Unfused ls) {before rest ms : List Lexeme} (hls : ls = before ++ rest)
    (h : Fuses (weave (chunkOf fixes) before.length rest) ms) :
    ms = weave (fusedChunk fixes) before.length rest := by
  induction rest generalizing before ms with
  | nil => cases h; rfl
  | cons l rest ih =>
    have hls' : ls = (before ++ [l]) ++ rest := by rw [hls]; simp
    have hrest : ∀ {ms}, Fuses (weave (chunkOf fixes) (before.length + 1) rest) ms →
        ms = weave (fusedChunk fixes) (before.length + 1) rest := by
      intro ms h
      have hstep := @ih (before ++ [l]) ms hls'
      rw [List.length_append, List.length_singleton] at hstep
      exact hstep h
    have hopening : l = opening → NoCast (weave (chunkOf fixes) (before.length + 1) rest) :=
      fun hl => htidy.noCast_opening henclosing hunfused (hl ▸ hls)
    rw [weave] at h
    rw [weave, fusedChunk]
    have hchunk := htidy.chunk before.length l
    generalize chunkOf fixes before.length l = c at h hchunk
    cases hchunk with
    | keep =>
      obtain ⟨_, rfl, h₁⟩ := h.of_noCast hopening
      rw [hrest h₁]
      rfl
    | whole hmem =>
      rw [List.append_assoc] at h
      obtain ⟨_, rfl, h₁⟩ := fuses_escaperCall h
      rcases h₁.inversion with ⟨_, rfl, hno, h₂⟩ | ⟨parts, behind, _, _, heq, hparts, rfl, h₂⟩
      · obtain ⟨_, rfl, h₃⟩ := h₂.of_noCast fun _ => noCast_closing _
        obtain ⟨_, rfl, h₄⟩ := h₃.of_noCast fun heq => by cases heq
        have hcast : ¬ CastParts [l, closing] := hno rfl [l, closing] _ rfl
        rw [hrest h₄]
        simp [escaperCall, fuseCall, hcast, Stream.accessor]
      · obtain ⟨rfl, rfl⟩ := hparts.eq_pair (solid_first henclosing hmem hls) heq
        rw [hrest h₂]
        simp [escaperCall, fuseCall, hparts, Stream.accessor]
    | first hmem hlt =>
      rw [List.append_assoc] at h
      obtain ⟨_, rfl, h₁⟩ := fuses_escaperCall h
      obtain ⟨_, rfl, h₂⟩ := h₁.of_noCast fun _ => htidy.noCast_first henclosing hls hmem hlt
      obtain ⟨_, rfl, h₃⟩ := h₂.of_noCast hopening
      rw [hrest h₃]
      rfl
    | last =>
      obtain ⟨_, rfl, h₁⟩ := h.of_noCast fun _ => noCast_closing _
      obtain ⟨_, rfl, h₂⟩ := h₁.of_noCast fun heq => by cases heq
      rw [hrest h₂]
      rfl
    | mark =>
      obtain ⟨_, rfl, h₁⟩ := h.of_noCast fun heq => by cases heq
      obtain ⟨_, rfl, h₂⟩ := h₁.of_noCast fun heq => by cases heq
      obtain ⟨_, rfl, h₃⟩ := h₂.of_noCast hopening
      rw [hrest h₃]
      rfl

end Tidy

end EscapeAudit
