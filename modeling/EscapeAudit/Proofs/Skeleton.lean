import EscapeAudit.Proofs.Findings

/-!
# The skeleton of a template

The markup and the tags of a template are its skeleton.  What sound fixes make of a template is
read again without a fault (`reads_weave`), and as long as they only put code between the tokens of
code, the skeleton stays as it is.  Calls of the escaper do no more than that
(`skeleton_wrapped`).
-/

namespace EscapeAudit

open Lexer

/-! ## Reading a fixed template -/

/-- A template that is read to its end has a stream, or too many tokens. -/
theorem tokenize_of_reads {source : String} {ls : List Lexeme} {t : State}
    (h : Reads .initial source.toList ls t []) :
    (ls.length ≤ Limits.tokenCount ∧ tokenize source = .ok (.ofLexemes ls)) ∨
      (Limits.tokenCount < ls.length ∧ ∃ n, tokenize source = .error (.tooManyTokens n)) := by
  by_cases hlength : ls.length ≤ Limits.tokenCount
  · exact .inl ⟨hlength, (tokenize_eq_ok_iff _ _).mpr ⟨ls, t, h, hlength, rfl⟩⟩
  · have hscan := (scanFrom_eq_iff .initial source.toList ls).mpr ⟨t, h⟩
    refine .inr ⟨by omega, Limits.tokenCount + 1, ?_⟩
    simp [tokenize, Lexed.ofSource, Lexed.ofScan, Lexer.scan, hscan, Scan.capped, hlength,
      Lexed.result, Lexed.error?, Fault.locate]

/-- A template with sound fixes woven in is read again, up to casts that come together. -/
theorem reads_weave {ls : List Lexeme} {cs : List Char} {t : State} {fixes : List Fix}
    (h : Reads .initial cs ls t []) (hsound : ∀ f ∈ fixes, f.Sound ls) :
    ∃ ms u, Reads .initial (chars (weave (chunkOf fixes) 0 ls)) ms u [] ∧
      Fuses (weave (chunkOf fixes) 0 ls) ms := by
  obtain ⟨u, hspells⟩ := (amends_weave hsound 0).spells (h.spells trivial)
  obtain ⟨ms, hreads, hfuses⟩ := hspells.reads
  exact ⟨ms, u, hreads, hfuses⟩

/-! ## The skeleton stays -/

/-- The kinds of markup and tags. -/
def Kind.isSkeleton : Kind → Bool
  | inlineHtml | openTag | openTagWithEcho | closeTag => true
  | _ => false

/-- The markup and the tags of a template, in order. -/
def Stream.skeleton (s : Stream) : List Lexeme := s.lexemes.filter fun l => l.kind.isSkeleton

/-- Casts come together from tokens of code. -/
theorem Lexer.Fuses.skeleton {ls ms : List Lexeme} (h : Fuses ls ms) :
    ms.filter (fun l => l.kind.isSkeleton) = ls.filter fun l => l.kind.isSkeleton := by
  induction h with
  | nil => rfl
  | keep l _ _ ih => simp only [List.filter_cons, ih]
  | @cast parts ls ms hparts _ ih =>
    have hnone : parts.filter (fun l => l.kind.isSkeleton) = [] := by
      obtain ⟨before, word, after, rfl, hbefore, hword, hafter⟩ := hparts.parts
      have hkind : word.kind.isSkeleton = false := by
        revert hword
        cases word.kind <;> simp [Kind.isWord, Kind.isSkeleton]
      rw [List.filter_eq_nil_iff]
      intro l hl
      simp only [List.mem_append, List.mem_cons, List.not_mem_nil, or_false] at hl
      rcases hl with hl | rfl | hl | rfl
      · rw [hbefore l hl]
        decide
      · rw [hkind]
        decide
      · rw [hafter l hl]
        decide
      · decide
    rw [List.filter_cons_of_neg (by simp [castOf, Kind.isSkeleton]),
      List.filter_cons_of_neg (by decide), List.filter_append, hnone, ih, List.nil_append]

/-- What a fix puts before a token is code. -/
theorem Fix.skeleton_lexemesBefore (i : Nat) (f : Fix) :
    (f.lexemesBefore i).filter (fun l => l.kind.isSkeleton) = [] := by
  cases f with
  | wrap first last g => simp only [lexemesBefore]; split <;> rfl
  | mark place => simp only [lexemesBefore]; split <;> rfl
  | swap => rfl
  | declare => rfl

/-- What a fix puts behind a token is code. -/
theorem Fix.skeleton_lexemesAfter (i : Nat) (f : Fix) :
    (f.lexemesAfter i).filter (fun l => l.kind.isSkeleton) = [] := by
  cases f with
  | wrap first last g => simp only [lexemesAfter]; split <;> rfl
  | mark => rfl
  | swap => rfl
  | declare => rfl

/-- Insertions put code around a token. -/
theorem skeleton_chunkOf {fixes : List Fix} (hswap : ∀ place, .swap place ∉ fixes) (i : Nat)
    (l : Lexeme) : (chunkOf fixes i l).filter (fun l => l.kind.isSkeleton) =
      [l].filter fun l => l.kind.isSkeleton := by
  have hquiet : ∀ (fs : List Fix) (g : Fix → List Lexeme),
      (∀ f, (g f).filter (fun l => l.kind.isSkeleton) = []) →
      (fs.flatMap g).filter (fun l => l.kind.isSkeleton) = [] := by
    intro fs g hg
    rw [List.filter_flatMap, List.flatMap_eq_nil_iff]
    exact fun f _ => hg f
  have hown : fixes.any (Fix.swaps i) = false := by
    rw [List.any_eq_false]
    intro f hf
    cases f with
    | swap place => exact absurd hf (hswap place)
    | wrap => simp [Fix.swaps]
    | mark => simp [Fix.swaps]
    | declare => simp [Fix.swaps]
  rw [chunkOf, hown, if_neg (by simp), List.filter_append,
    hquiet _ _ (Fix.skeleton_lexemesBefore i), List.filter_cons,
    hquiet _ _ (Fix.skeleton_lexemesAfter i), List.nil_append, List.filter_cons, List.filter_nil]

theorem skeleton_weave {fixes : List Fix} (hswap : ∀ place, .swap place ∉ fixes) (i : Nat)
    (ls : List Lexeme) : (weave (chunkOf fixes) i ls).filter (fun l => l.kind.isSkeleton) =
      ls.filter fun l => l.kind.isSkeleton := by
  induction ls generalizing i with
  | nil => rfl
  | cons l ls ih =>
    rw [weave, List.filter_append, skeleton_chunkOf hswap, ih, ← List.filter_append,
      List.singleton_append]

/-! ## Calls of the escaper -/

/-- Whether a changeset puts a call around tokens. -/
def Changeset.isWrap : Changeset → Bool
  | ⟨[.insertBefore _ _, .insertAfter _ _]⟩ => true
  | _ => false

/-- Whether a fix is a call of the escaper. -/
def Fix.isWrap : Fix → Bool
  | wrap _ _ _ => true
  | _ => false

theorem Fix.isWrap_changeset (f : Fix) : f.changeset.isWrap = f.isWrap := by
  cases f <;> rfl

theorem Fix.filter_isWrap_changeset (fixes : List Fix) :
    (fixes.map changeset).filter Changeset.isWrap = (fixes.filter isWrap).map changeset := by
  rw [List.filter_map]
  congr 2
  exact funext isWrap_changeset

/-- With only the rule for output switched on, every fix is for an output. -/
theorem Stream.mem_fixesFrom_output {s : Stream} {fixing checked : Bool} {es : List Nat} {f : Fix}
    (h : f ∈ s.fixesFrom ⟨true, false, fixing⟩ checked es) : ∃ e ∈ es, f ∈ s.outputFixes e := by
  induction es generalizing checked with
  | nil => cases h
  | cons e es ih =>
    simp only [fixesFrom, if_true, List.mem_append] at h
    rcases h with h | h | h
    · exact ⟨e, by simp, h⟩
    · cases h
    · obtain ⟨e', he', h⟩ := ih h
      exact ⟨e', by simp [he'], h⟩

/-- Every call of the escaper that the rule for output asks for can be put in. -/
theorem sound_of_mem_fixes {cs : List Char} {ls : List Lexeme} {t : State}
    (hreads : Reads .initial cs ls t []) {fixing : Bool} {f : Fix}
    (hf : f ∈ (Stream.ofLexemes ls).fixes ⟨true, false, fixing⟩) (hwrap : f.isWrap = true) :
    f.Sound ls := by
  obtain ⟨e, he, hfix⟩ := Stream.mem_fixesFrom_output hf
  obtain ⟨l, hl, anchor, hjudge, hdecision⟩ := Stream.mem_outputFixes hfix
  have hentry : (Stream.ofLexemes ls).holds Kind.isEntryPoint e = true := (List.mem_filter.mp he).2
  have hshape : ∃ g, f = .wrap l.first l.last g := by
    unfold Decision.fix? at hdecision
    split at hdecision
    · cases hdecision
    · cases hdecision
      cases hwrap
    · exact ⟨_, (Option.some.inj hdecision).symm⟩
  obtain ⟨g, rfl⟩ := hshape
  exact Stream.sound_wrap (hreads.spells trivial) (hreads.fits trivial) hentry hl hjudge g

/-- Insertions are accepted one and all. -/
theorem Shows.applied_submitAll {d : Draft} {ls : List Lexeme} {done fixes : List Fix}
    (h : Shows d ls done) (hrange : ∀ f ∈ fixes, f.InRange ls.length)
    (hinsert : ∀ place, .swap place ∉ fixes) :
    (d.submitAll (fixes.map Fix.changeset)).applied = d.applied + fixes.length ∧
      (d.submitAll (fixes.map Fix.changeset)).rejected = d.rejected := by
  induction fixes generalizing d done with
  | nil => exact ⟨rfl, rfl⟩
  | cons f fixes ih =>
    have hrefusal := h.refusal?_insertion (hrange f (by simp)) fun place heq =>
      hinsert place (by simp [heq])
    obtain ⟨hshows, happlied, hrejected⟩ := h.accept hrefusal
    obtain ⟨happlied', hrejected'⟩ := ih hshows (fun g hg => hrange g (by simp [hg]))
      fun place hmem => hinsert place (by simp [hmem])
    have hstep : d.submitAll ((f :: fixes).map Fix.changeset) =
        (d.submit f.changeset).submitAll (fixes.map Fix.changeset) := rfl
    rw [hstep, happlied', hrejected', happlied, hrejected, List.length_cons]
    exact ⟨by omega, rfl⟩

/-- The calls of the escaper that the rule for output asks for. -/
def Stream.wraps (s : Stream) (fixing : Bool) : List Changeset :=
  (s.audit .standard ⟨true, false, fixing⟩).changesets.filter Changeset.isWrap

/-- The draft that takes these calls and nothing else. -/
def Stream.wrapped (s : Stream) (fixing : Bool) : Draft :=
  (Draft.ofStream s).submitAll (s.wraps fixing)

/-- Calls of the escaper leave the skeleton of a template as it is.  All that the rule for output
asks for are put in, and the text that comes out has too many tokens or is read with the same markup
and tags as before. -/
theorem skeleton_wrapped {source : String} {s : Stream} (h : tokenize source = .ok s)
    (fixing : Bool) :
    (s.wrapped fixing).applied = (s.wraps fixing).length ∧ (s.wrapped fixing).rejected = 0 ∧
      ((∃ n, tokenize (s.wrapped fixing).text = .error (.tooManyTokens n)) ∨
        ∃ s', tokenize (s.wrapped fixing).text = .ok s' ∧ s'.skeleton = s.skeleton) := by
  obtain ⟨ls, t, hreads, _, rfl⟩ := (tokenize_eq_ok_iff source s).mp h
  obtain ⟨fixes, hfixes⟩ : ∃ fixes, fixes =
      ((Stream.ofLexemes ls).fixes ⟨true, false, fixing⟩).filter Fix.isWrap := ⟨_, rfl⟩
  have hmem : ∀ f ∈ fixes, f ∈ (Stream.ofLexemes ls).fixes ⟨true, false, fixing⟩ ∧
      f.isWrap = true := by
    intro f hf
    rw [hfixes] at hf
    exact List.mem_filter.mp hf
  have hsound : ∀ f ∈ fixes, f.Sound ls := fun f hf =>
    sound_of_mem_fixes hreads (hmem f hf).1 (hmem f hf).2
  have hswap : ∀ place, .swap place ∉ fixes := fun place hf => by cases (hmem _ hf).2
  have hdeclare : .declare ∉ fixes := fun hf => by cases (hmem _ hf).2
  have hwraps : (Stream.ofLexemes ls).wraps fixing = fixes.map Fix.changeset := by
    rw [Stream.wraps, Stream.changesets_audit, Fix.filter_isWrap_changeset, ← hfixes]
  have hshows := shows_ofStream ls
  have hrange : ∀ f ∈ fixes, f.InRange ls.length := fun f hf => (hsound f hf).inRange
  obtain ⟨happlied, hrejected⟩ := hshows.applied_submitAll hrange hswap
  have htext := (hshows.submitAll hrange).toList_text_eq_chars (by simpa using hdeclare)
  rw [← hwraps] at happlied hrejected htext
  refine ⟨by simpa [Draft.ofStream, Stream.wrapped, hwraps] using happlied, hrejected, ?_⟩
  obtain ⟨ms, u, hms, hfuses⟩ := reads_weave hreads hsound
  rw [← List.nil_append fixes, ← htext] at hms
  rcases tokenize_of_reads hms with ⟨_, hok⟩ | ⟨_, herror⟩
  · refine .inr ⟨_, hok, ?_⟩
    rw [Stream.skeleton, Stream.skeleton, Stream.lexemes_ofLexemes, Stream.lexemes_ofLexemes,
      hfuses.skeleton, skeleton_weave hswap]
  · exact .inl herror

/-- A call around the name of a type becomes a cast, and the skeleton stays. -/
theorem skeleton_wrapped_cast :
    ∃ s s', tokenize "<p><?= int ?></p>" = .ok s ∧
      tokenize "<p><?= $escaper->escapeHtml(int) ?></p>" = .ok s' ∧
      s'.kind? 6 = some .cast ∧ s'.skeleton = s.skeleton := by
  have hold : tokenize "<p><?= int ?></p>" = .ok (Lexed.ofSource "<p><?= int ?></p>").stream :=
    tokenize_of_fault_eq_none (by decide +kernel)
  have hnew : tokenize "<p><?= $escaper->escapeHtml(int) ?></p>" =
      .ok (Lexed.ofSource "<p><?= $escaper->escapeHtml(int) ?></p>").stream :=
    tokenize_of_fault_eq_none (by decide +kernel)
  have htext : ((Lexed.ofSource "<p><?= int ?></p>").stream.wrapped true).text =
      "<p><?= $escaper->escapeHtml(int) ?></p>" := by decide +kernel
  have hcast : (Lexed.ofSource "<p><?= $escaper->escapeHtml(int) ?></p>").stream.kind? 6 =
      some .cast := by decide +kernel
  obtain ⟨_, _, hread⟩ := skeleton_wrapped hold true
  rw [htext, hnew] at hread
  rcases hread with ⟨n, herror⟩ | ⟨s', hok, hskeleton⟩
  · cases herror
  · cases hok
    exact ⟨_, _, hold, hnew, hcast, hskeleton⟩

end EscapeAudit
