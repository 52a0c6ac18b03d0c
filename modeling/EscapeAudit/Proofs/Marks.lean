import EscapeAudit.Proofs.Convergence

/-!
# Marks

A mark is a comment that the fixes for output put in to exempt a statement.  It can be put in
everywhere but behind a `/`, with which it would begin another comment (`sound_allOutputFixes`).  The
casts that come together in the fixed template leave the statements and the comments near them alone
(`forall₂_entryPoints_fuses`).

A mark before `echo` is the last comment before the keyword, and a mark behind `<?=` is the first one
there if no other comment stands before it (`exempt_of_mark`).  Near a `print` no comment is looked
for.  So the statements with marks are exempt in the fixed template, those of `print` aside
(`marks_exempt`).
-/

namespace EscapeAudit

open Lexer

namespace Lexer

/-! ## Keywords and slashes -/

theorem asciiLower_of_ofWord {word : String}
    (h : Kind.ofWord word = .echo ∨ Kind.ofWord word = .print) :
    Text.asciiLower word = "echo" ∨ Text.asciiLower word = "print" := by
  unfold Kind.ofWord at h
  dsimp only at h
  generalize Text.asciiLower word = lower at h ⊢
  split at h
  · exact .inl (by simpa using ‹(lower == "echo") = true›)
  split at h
  · exact .inr (by simpa using ‹(lower == "print") = true›)
  · generalize reservedWords.contains lower = reserved at h
    repeat' split at h
    all_goals rcases h with h | h <;> cases h

/-- The keywords that open a statement are spelled in one way, up to case. -/
theorem cutNext_keyword {s : State} {c : Char} {rest : List Char} {cut : Cut}
    (h : cutNext s c rest = .ok cut) (hkind : cut.kind = .echo ∨ cut.kind = .print) :
    Text.asciiLower (cut.lexeme c rest).text = "echo" ∨
      Text.asciiLower (cut.lexeme c rest).text = "print" := by
  have hword : cut.kind.isWord = true := by rcases hkind with hk | hk <;> rw [hk] <;> rfl
  obtain rfl := Except.ok.inj (cutName_of_cutNext h hword)
  dsimp only at hkind
  split at hkind
  · rcases hkind with hk | hk <;> cases hk
  · exact asciiLower_of_ofWord hkind

/-- A `/` of its own is a sign: it is not trivia and opens no range. -/
theorem cutNext_slash {s : State} {rest : List Char} {cut : Cut}
    (h : cutNext s '/' rest = .ok cut) (hmore : cut.more = 0) :
    cut.kind.isTrivia = false ∧ Stream.opensRange cut.kind = false := by
  unfold cutNext at h
  split at h
  · cases h
    exact ⟨rfl, rfl⟩
  · have hcut : cutToken s '/' rest = .ok cut := h
    have hjoins : joinsNext '/' rest = false := Bool.eq_false_iff.mpr fun hjoins =>
      Nat.ne_of_gt (more_pos_of_joinsNext hcut hjoins) hmore
    have hform : tokenForm '/' rest = tokenForm '/' [] := tokenForm_congr hjoins rfl
    rw [cutToken_eq, hform] at hcut
    obtain ⟨_, hcase, hr⟩ := exists_operatorCase (show cutOperator s '/' rest = _ from hcut)
    cases hcase with
    | three =>
      cases hr
      cases hmore
    | two =>
      cases hr
      cases hmore
    | one =>
      cases hr
      exact ⟨rfl, rfl⟩
  · unfold cutHeredocPart at h
    split at h
    · cases h
      exact ⟨rfl, rfl⟩
    · dsimp only at h
      split at h <;> cases h
      exact ⟨rfl, rfl⟩

theorem Spells.slash {s t : State} {ls : List Lexeme} {tail : List Char} (h : Spells s ls tail t)
    {l : Lexeme} (hl : l ∈ ls) (htext : l.text = "/") :
    l.kind.isTrivia = false ∧ Stream.opensRange l.kind = false := by
  obtain ⟨before, after, rfl⟩ := List.append_of_mem hl
  obtain ⟨u, _, hrest⟩ := h.split
  cases hrest with
  | paren => exact absurd htext (by decide)
  | @step _ _ c more _ _ _ _ _ hcut _ =>
    obtain ⟨rfl, rfl⟩ : c = '/' ∧ more = [] := by
      have hchars := congrArg String.toList htext
      rw [String.toList_ofList] at hchars
      exact List.cons.inj hchars
    exact cutNext_slash hcut rfl

theorem Spells.keyword {s t : State} {ls : List Lexeme} {tail : List Char} (h : Spells s ls tail t)
    {l : Lexeme} (hl : l ∈ ls) (hkind : l.kind = .echo ∨ l.kind = .print) :
    Text.asciiLower l.text = "echo" ∨ Text.asciiLower l.text = "print" := by
  obtain ⟨before, after, rfl⟩ := List.append_of_mem hl
  obtain ⟨u, _, hrest⟩ := h.split
  cases hrest with
  | paren => rcases hkind with hkind | hkind <;> cases hkind
  | @step _ _ c more _ _ _ _ _ hcut _ =>
    have hlower := cutNext_keyword hcut hkind
    rwa [Cut.lexeme, List.take_left] at hlower

/-- A keyword that opens a statement is no part of a cast: it has a letter that no type has. -/
theorem CastParts.not_keyword {parts : List Lexeme} (h : CastParts parts) {l : Lexeme}
    (hlower : Text.asciiLower l.text = "echo" ∨ Text.asciiLower l.text = "print") : l ∉ parts := by
  intro hl
  obtain ⟨c, hc, hletter⟩ : ∃ c ∈ l.text.toList, c.toLower = 'h' ∨ c.toLower = 'p' := by
    have hmem : ∀ word d, Text.asciiLower l.text = word → d ∈ word.toList →
        ∃ c ∈ l.text.toList, c.toLower = d := by
      rintro _ d rfl hd
      rwa [Text.asciiLower, String.toList_ofList, List.mem_map] at hd
    rcases hlower with hlower | hlower
    · obtain ⟨c, hc, hletter⟩ := hmem _ 'h' hlower (by decide)
      exact ⟨c, hc, .inl hletter⟩
    · obtain ⟨c, hc, hletter⟩ := hmem _ 'p' hlower (by decide)
      exact ⟨c, hc, .inr hletter⟩
  have hin : c ∈ chars parts := by
    obtain ⟨front, back, rfl⟩ := List.append_of_mem hl
    simp [hc]
  have hpadding : isPadding c = false := by
    cases hpad : isPadding c with
    | false => rfl
    | true =>
      have hcases : c = ' ' ∨ c = '\t' := by simpa [isPadding] using hpad
      rcases hcases with rfl | rfl <;> exact absurd hletter (by decide)
  obtain ⟨before, word, after, hchars, hbefore, _, hafter, htype⟩ := h.cast
  simp only [hchars, List.mem_append, List.mem_singleton] at hin
  rcases hin with hin | hin | hin | rfl
  · rw [hbefore c hin] at hpadding
    cases hpadding
  · have hnone : ∀ type ∈ castTypes, 'h' ∉ type.toList ∧ 'p' ∉ type.toList := by decide +kernel
    have hword := hnone _ (List.contains_iff_mem.mp htype)
    have hmem := List.mem_map_of_mem (f := Char.toLower) hin
    rw [String.toList_ofList] at hword
    rcases hletter with hletter | hletter <;> rw [hletter] at hmem
    · exact hword.1 hmem
    · exact hword.2 hmem
  · rw [hafter c hin] at hpadding
    cases hpadding
  · exact absurd hletter (by decide)

end Lexer

namespace Stream

/-! ## Marks can be put in -/

/-- Whether the rule for output asks for a mark before a token. -/
def MarksAt (s : Stream) (e place : Nat) : Prop :=
  ⟨[.insertBefore place exemption]⟩ ∈ s.outputChangesets .standard e

instance (s : Stream) (e place : Nat) : Decidable (s.MarksAt e place) :=
  inferInstanceAs (Decidable (_ ∈ _))

theorem marksAt_iff {s : Stream} {e place : Nat} :
    s.MarksAt e place ↔ .mark place ∈ s.outputFixes e := by
  rw [MarksAt, outputChangesets_standard, List.mem_map]
  constructor
  · rintro ⟨f, hf, hchangeset⟩
    cases f with
    | mark =>
      obtain rfl : _ = place := by simpa [Fix.changeset] using hchangeset
      exact hf
    | wrap => simp [Fix.changeset] at hchangeset
    | swap => simp [Fix.changeset] at hchangeset
    | declare => simp [Fix.changeset] at hchangeset
  · exact fun h => ⟨_, h, rfl⟩

/-- No keyword that is to be marked stands directly behind a `/`, which would open a comment with the
mark. -/
def ClearOfSlashes (s : Stream) : Prop :=
  ∀ e ∈ s.entryPoints, s.MarksAt e e → s.text (e - 1) ≠ "/"

instance (s : Stream) : Decidable s.ClearOfSlashes :=
  inferInstanceAs (Decidable (∀ e ∈ s.entryPoints, s.MarksAt e e → s.text (e - 1) ≠ "/"))

theorem getElem?_of_getLast?_take {ls : List Lexeme} {i : Nat} {k l : Lexeme}
    (hl : ls[i]? = some l) (h : (ls.take i).getLast? = some k) : 0 < i ∧ ls[i - 1]? = some k := by
  have hlt := (List.getElem?_eq_some_iff.mp hl).1
  rw [List.getLast?_eq_getElem?, List.length_take_of_le (Nat.le_of_lt hlt), List.getElem?_take] at h
  split at h
  · exact ⟨by omega, h⟩
  · cases h

/-- A mark can be put before a leaf: no `/` stands there. -/
theorem sound_mark_leaf {ls : List Lexeme} {t : State} (h : Spells .initial ls [] t) {entry : Nat}
    (hentry : (ofLexemes ls).holds Kind.isEntryPoint entry = true) {l : Leaf}
    (hl : l ∈ ((ofLexemes ls).statementWalk entry).leaves) {rules : RuleSet} {anchor : Nat}
    (hjudge : (ofLexemes ls).judge rules l = .unescaped anchor) : (Fix.mark l.first).Sound ls := by
  refine ⟨room_of_judge hjudge, fun k hk htext => ?_⟩
  obtain ⟨hf, hb⟩ := framed_of_mem_leaves hentry hl
  obtain ⟨_, hfirst, _⟩ := room_of_judge hjudge
  obtain ⟨hpos, hk⟩ := getElem?_of_getLast?_take hfirst hk
  obtain ⟨htrivia, hopens⟩ := h.slash (List.mem_of_getElem? hk) htext
  obtain ⟨p, hp, hholds⟩ := hf.left
  have hstart := hb.start_le
  by_cases hedge : l.first - 1 = p
  · rw [← hedge, not_holds_ofLexemes hk hopens] at hholds
    cases hholds
  · have hsolid := isTrivia_of_holds hk
    rw [hb.before (l.first - 1) (by omega) (by omega), htrivia] at hsolid
    cases hsolid

theorem sound_mark_keyword {ls : List Lexeme} {entry : Nat}
    (hentry : (ofLexemes ls).kind? entry = some .echo)
    (hslash : (ofLexemes ls).text (entry - 1) ≠ "/") : (Fix.mark entry).Sound ls := by
  rw [kind?_ofLexemes] at hentry
  obtain ⟨l, hl, hkind⟩ := Option.map_eq_some_iff.mp hentry
  refine ⟨⟨l, hl, ⟨?_, ?_, ?_⟩⟩, fun k hk htext => ?_⟩
  · rw [hkind]; rfl
  · rw [hkind]; decide
  · rw [hkind]; decide
  · obtain ⟨_, hk⟩ := getElem?_of_getLast?_take hl hk
    refine hslash ?_
    rw [text_ofLexemes, hk]
    exact htext

theorem sound_allOutputFixes {cs : List Char} {ls : List Lexeme} {t : State}
    (hreads : Reads .initial cs ls t []) (hslash : (ofLexemes ls).ClearOfSlashes) :
    ∀ f ∈ (ofLexemes ls).allOutputFixes, f.Sound ls := by
  intro f hf
  obtain ⟨e, he, hf⟩ := List.mem_flatMap.mp hf
  obtain ⟨l, hl, anchor, hjudge, hfix⟩ := mem_outputFixes hf
  have hentry := (List.mem_filter.mp he).2
  cases fixFor_of_fix? hfix with
  | wrap g => exact sound_wrap (hreads.spells trivial) (hreads.fits trivial) hentry hl hjudge g
  | leaf => exact sound_mark_leaf (hreads.spells trivial) hentry hl hjudge
  | keyword hecho => exact sound_mark_keyword hecho (hslash e he (marksAt_iff.mpr hf))

/-! ## Casts leave the statements alone -/

theorem commentBefore_of_isLoose {ms : List Lexeme} (h : ∀ m ∈ ms, m.kind.isLoose = true)
    (found : Option String) : commentBefore found ms = found := by
  induction ms with
  | nil => rfl
  | cons m ms ih =>
    rw [commentBefore_cons_loose (.inl (h m (by simp)))]
    exact ih fun k hk => h k (by simp [hk])

theorem commentBehind_of_isLoose {ms : List Lexeme} (h : ∀ m ∈ ms, m.kind.isLoose = true)
    (rest : List Lexeme) : commentBehind (ms ++ rest) = commentBehind rest := by
  induction ms with
  | nil => rfl
  | cons m ms ih =>
    rw [List.cons_append, commentBehind_cons_loose (.inl (h m (by simp)))]
    exact ih fun k hk => h k (by simp [hk])

/-- No part of a cast opens a statement. -/
def FreeOfCasts (ls : List Lexeme) : Prop :=
  ∀ l ∈ ls, l.kind.isEntryPoint = true → ∀ parts, CastParts parts → l ∉ parts

theorem FreeOfCasts.of_spells {s t : State} {ls : List Lexeme} {tail : List Char}
    (h : Spells s ls tail t) : FreeOfCasts ls := by
  intro l hl hentry parts hparts hmem
  by_cases hkeyword : l.kind = .echo ∨ l.kind = .print
  · exact hparts.not_keyword (h.keyword hl hkeyword) hmem
  · have htag : l.kind = .openTagWithEcho := by
      revert hentry hkeyword
      cases l.kind <;> simp [Kind.isEntryPoint]
    obtain ⟨before, word, after, rfl, hbefore, hword, hafter⟩ := hparts.parts
    simp only [List.mem_append, List.mem_cons, List.not_mem_nil, or_false] at hmem
    rcases hmem with hmem | rfl | hmem | rfl
    · rw [hbefore l hmem] at htag
      cases htag
    · rw [htag] at hword
      cases hword
    · rw [hafter l hmem] at htag
      cases htag
    · cases htag

theorem FreeOfCasts.isLoose {parts ls : List Lexeme} (h : FreeOfCasts (parts ++ ls))
    (hparts : CastParts parts) : ∀ l ∈ parts, l.kind.isLoose = true := by
  intro l hl
  have hentry : l.kind.isEntryPoint ≠ true := fun hentry =>
    h l (List.mem_append_left _ hl) hentry parts hparts hl
  obtain ⟨before, word, after, rfl, hbefore, hword, hafter⟩ := hparts.parts
  simp only [List.mem_append, List.mem_cons, List.not_mem_nil, or_false] at hl
  rcases hl with hl | rfl | hl | rfl
  · rw [hbefore l hl]; rfl
  · revert hword hentry
    cases l.kind <;> simp [Kind.isWord, Kind.isEntryPoint, Kind.isLoose, endsStatement]
  · rw [hafter l hl]; rfl
  · rfl

theorem FreeOfCasts.tail {l : Lexeme} {ls : List Lexeme} (h : FreeOfCasts (l :: ls)) :
    FreeOfCasts ls := fun k hk => h k (by simp [hk])

theorem FreeOfCasts.right {ls ms : List Lexeme} (h : FreeOfCasts (ls ++ ms)) : FreeOfCasts ms :=
  fun k hk => h k (by simp [hk])

theorem commentBehind_fuses {ls ms : List Lexeme} (h : Fuses ls ms) (hfree : FreeOfCasts ls) :
    commentBehind ms = commentBehind ls := by
  induction h with
  | nil => rfl
  | keep l _ _ ih => rw [commentBehind, commentBehind, ih hfree.tail]
  | @cast parts ls ms hparts _ ih =>
    rw [commentBehind_cons_loose (.inl rfl), commentBehind_cons_loose (.inl rfl), ih hfree.tail.right,
      commentBehind_of_isLoose (hfree.tail.isLoose hparts)]

/-- A statement of a template and the same one of another, which is exempt if the first one is. -/
def SameGate (s s' : Stream) (e e' : Nat) : Prop :=
  s'.kind? e' = s.kind? e ∧ (s'.Exempt e' ↔ s.Exempt e)

/-- The statements stay where casts come together. -/
theorem forall₂_entryPoints_fuses {ls ms : List Lexeme} (h : Fuses ls ms) (hfree : FreeOfCasts ls) :
    List.Forall₂ (SameGate (ofLexemes ls) (ofLexemes ms)) (ofLexemes ls).entryPoints
      (ofLexemes ms).entryPoints := by
  have hfrom : ∀ front front', commentBefore none front' = commentBefore none front →
      List.Forall₂ (SameGate (ofLexemes (front ++ ls)) (ofLexemes (front' ++ ms)))
        (entriesFrom front.length ls) (entriesFrom front'.length ms) := by
    induction h with
    | nil => exact fun _ _ _ => .nil
    | @keep ls ms l _ hrest ih =>
      intro front front' hfront
      have ih := ih hfree.tail (front ++ [l]) (front' ++ [l]) (by
        rw [commentBefore_append, commentBefore_append, hfront])
      rw [List.append_assoc, List.append_assoc, List.length_append, List.length_append] at ih
      rw [entriesFrom, entriesFrom]
      refine List.rel_append ?_ ih
      cases hentry : l.kind.isEntryPoint with
      | false => exact .nil
      | true =>
        refine .cons ⟨?_, ?_⟩ .nil
        · simp
        · have hnear : commentNear front' l ms = commentNear front l ls := by
            unfold commentNear
            rw [hfront, commentBehind_fuses hrest hfree.tail]
          rw [exempt_iff, exempt_iff, hnear]
    | @cast parts ls ms hparts _ ih =>
      intro front front' hfront
      have hold : ∀ l ∈ opening :: parts, l.kind.isLoose = true := by
        rintro l (_ | ⟨_, hl⟩)
        · rfl
        · exact hfree.tail.isLoose hparts l hl
      have hnew : ∀ l ∈ [castOf parts], l.kind.isLoose = true := by
        intro l hl
        rw [List.mem_singleton.mp hl]
        rfl
      have ih := ih hfree.tail.right (front ++ opening :: parts) (front' ++ [castOf parts]) (by
        rw [commentBefore_append, commentBefore_append, commentBefore_of_isLoose hold,
          commentBefore_of_isLoose hnew, hfront])
      rw [List.append_assoc, List.append_assoc, List.length_append, List.length_append] at ih
      rw [show castOf parts :: ms = [castOf parts] ++ ms from rfl, ← List.cons_append,
        entriesFrom_append, entriesFrom_append, entriesFrom_loose fun l hl => .inl (hold l hl),
        entriesFrom_loose fun l hl => .inl (hnew l hl)]
      exact ih
  rw [entryPoints_eq, entryPoints_eq]
  exact hfrom [] [] rfl

/-! ## Marks exempt -/

theorem loose_lexemesBefore (i : Nat) (f : Fix) : ∀ m ∈ f.lexemesBefore i, Loose m := by
  cases f with
  | wrap first last g =>
    rw [Fix.lexemesBefore]
    split
    · exact loose_escaperCall g
    · exact fun m hm => by cases hm
  | mark place =>
    rw [Fix.lexemesBefore]
    split
    · exact loose_exemptionMark
    · exact fun m hm => by cases hm
  | swap => exact fun m hm => by cases hm
  | declare => exact fun m hm => by cases hm

theorem loose_lexemesAfter (i : Nat) (f : Fix) : ∀ m ∈ f.lexemesAfter i, Loose m := by
  cases f with
  | wrap first last g =>
    rw [Fix.lexemesAfter]
    split
    · exact fun m hm => .inl (by rw [List.mem_singleton.mp hm]; rfl)
    · exact fun m hm => by cases hm
  | mark => exact fun m hm => by cases hm
  | swap => exact fun m hm => by cases hm
  | declare => exact fun m hm => by cases hm

/-- The comment that exempts. -/
def exemptionComment : Lexeme := ⟨.comment, exemptionText⟩

/-- Insertions put loose lexemes around a token, and a mark its comment before it. -/
theorem chunkOf_insertions {fixes : List Fix} (h : ∀ f ∈ fixes, f.isInsertion = true) (i : Nat)
    (l : Lexeme) :
    ∃ pre post, chunkOf fixes i l = pre ++ l :: post ∧ (∀ m ∈ pre, Loose m) ∧
      (∀ m ∈ post, Loose m) ∧
      (.mark i ∈ fixes → ∃ front back, pre = front ++ exemptionComment :: back) := by
  have hown : fixes.any (Fix.swaps i) = false := by
    rw [List.any_eq_false]
    intro f hf hswaps
    have hinsertion := h f hf
    cases f <;> first | cases hswaps | cases hinsertion
  refine ⟨fixes.reverse.flatMap (Fix.lexemesBefore i), fixes.flatMap (Fix.lexemesAfter i), ?_, ?_,
    ?_, ?_⟩
  · rw [chunkOf, hown]
    rfl
  · intro m hm
    obtain ⟨f, _, hm⟩ := List.mem_flatMap.mp hm
    exact loose_lexemesBefore i f m hm
  · intro m hm
    obtain ⟨f, _, hm⟩ := List.mem_flatMap.mp hm
    exact loose_lexemesAfter i f m hm
  · intro hmark
    obtain ⟨xs, ys, hfixes⟩ := List.append_of_mem (List.mem_reverse.mpr hmark)
    refine ⟨xs.flatMap (Fix.lexemesBefore i),
      ⟨.whitespace, " "⟩ :: ys.flatMap (Fix.lexemesBefore i), ?_⟩
    rw [hfixes, List.flatMap_append, List.flatMap_cons, Fix.lexemesBefore, if_pos rfl]
    rfl

/-- The comment that exempts is found in front of a keyword. -/
theorem commentBefore_exemption {front back : List Lexeme} (hback : ∀ m ∈ back, Loose m) :
    commentBefore none (front ++ exemptionComment :: back) = some exemptionText := by
  rw [commentBefore_append]
  rcases commentBefore_loose hback (.inl rfl : Near (some exemptionText) _) with h | h <;> exact h

/-- The comment that exempts is found behind a tag. -/
theorem commentBehind_exemption {front : List Lexeme} (hfront : ∀ m ∈ front, Passed m)
    (back : List Lexeme) :
    commentBehind (front ++ exemptionComment :: back) = some exemptionText := by
  rcases commentBehind_passed hfront (.inl rfl : Near (some exemptionText)
    (commentBehind (exemptionComment :: back))) with h | h <;> exact h

/-- A mark is the first comment behind a tag where the lexemes before it have no other comment. -/
theorem commentBehind_weave_mark {chunk : Nat → Lexeme → List Lexeme} {i : Nat}
    {mid rest : List Lexeme} {k : Lexeme} (hmid : ∀ m ∈ weave chunk i mid, Passed m)
    {front back : List Lexeme}
    (hmark : chunk (i + mid.length) k = front ++ exemptionComment :: back)
    (hfront : ∀ m ∈ front, Loose m) :
    commentBehind (weave chunk i (mid ++ k :: rest)) = some exemptionText := by
  have hpassed : ∀ m ∈ weave chunk i mid ++ front, Passed m := by
    intro m hm
    rcases List.mem_append.mp hm with hm | hm
    · exact hmid m hm
    · exact (hfront m hm).passed
  rw [weave_append, weave, hmark, ← commentBehind_exemption hpassed
    (back ++ weave chunk (i + mid.length + 1) rest)]
  simp

/-- What becomes of the statements with marks.  An `echo` with a mark is exempt, and so is a `<?=`
with no comment before the mark.  A `print` has no place for the mark. -/
structure Marked (s s' : Stream) (e e' : Nat) : Prop where
  kind : s'.kind? e' = s.kind? e
  echo : s.kind? e = some .echo → ∀ place, s.MarksAt e place → s'.Exempt e'
  tag : s.kind? e = some .openTagWithEcho → ∀ place, s.MarksAt e place →
    (∀ i, e < i → i < place → s.kind? i ≠ some .comment) → s'.Exempt e'
  print : s.kind? e = some .print → s'.gate .standard e' = .absent

theorem gate_print {s : Stream} {e : Nat} (h : s.kind? e = some .print) (rules : RuleSet) :
    s.gate rules e = .absent := by
  rw [gate, commentNear?, h]

theorem Marked.of_sameGate {s s' s'' : Stream} {e e' e'' : Nat} (h : Marked s s' e e')
    (hsame : SameGate s' s'' e' e'') : Marked s s'' e e'' where
  kind := hsame.1.trans h.kind
  echo := fun hkind place hmark => hsame.2.mpr (h.echo hkind place hmark)
  tag := fun hkind place hmark hcomment => hsame.2.mpr (h.tag hkind place hmark hcomment)
  print := fun hkind => gate_print (hsame.1.trans (h.kind.trans hkind)) _

/-- Where a mark for a statement stands. -/
theorem MarksAt.cases {s : Stream} {e place : Nat} (h : s.MarksAt e place) :
    (s.kind? e = some .echo ∧ place = e) ∨
      (s.kind? e ≠ some .echo ∧ e < place ∧ place < s.statementEnd e) := by
  obtain ⟨l, hl, anchor, _, hfix⟩ := mem_outputFixes (marksAt_iff.mp h)
  obtain ⟨hlt, hle, hend⟩ := (s.leaves_statementWalk e).2 l hl
  cases fixFor_of_fix? hfix with
  | leaf hkind => exact .inr ⟨hkind, hlt, by omega⟩
  | keyword hkind => exact .inl ⟨hkind, rfl⟩

/-- A token before the mark of a `<?=` is passed unless it is a comment. -/
theorem MarksAt.passed {ls before after : List Lexeme} {l : Lexeme} {place : Nat}
    (hls : ls = before ++ l :: after) (hl : l.kind = .openTagWithEcho)
    (h : (ofLexemes ls).MarksAt before.length place)
    (hcomment : ∀ i, before.length < i → i < place → (ofLexemes ls).kind? i ≠ some .comment) :
    ∃ mid k behind, after = mid ++ k :: behind ∧ before.length + 1 + mid.length = place ∧
      ∀ m ∈ mid, Passed m := by
  obtain ⟨content, rest, hst, rfl⟩ := exists_isStatement_of_eq hls (by rw [hl]; rfl)
  obtain ⟨hlt, hend⟩ : before.length < place ∧ place < before.length + 1 + content.length := by
    rcases h.cases with ⟨hecho, _⟩ | ⟨_, hlt, hend⟩
    · rw [hst.kind?, hl] at hecho
      cases hecho
    · rw [hst.statementEnd_eq] at hend
      exact ⟨hlt, hend⟩
  obtain ⟨n, rfl⟩ : ∃ n, place = before.length + 1 + n := ⟨place - (before.length + 1), by omega⟩
  have hn : n < content.length := by omega
  refine ⟨content.take n, content[n], content.drop (n + 1) ++ rest, ?_, ?_, fun m hm => ?_⟩
  · rw [← List.cons_append, ← List.drop_eq_getElem_cons hn, ← List.append_assoc,
      List.take_append_drop]
  · rw [List.length_take_of_le (Nat.le_of_lt hn)]
  · refine ⟨fun hclose => ?_, fun hkind => ?_⟩
    · have hends := hst.inside m (List.mem_of_mem_take hm)
      rw [hclose] at hends
      cases hends
    · obtain ⟨j, hj⟩ := List.getElem?_of_mem hm
      rw [List.getElem?_take] at hj
      split at hj
      · refine absurd ?_ (hcomment (before.length + 1 + j) (by omega) (by omega))
        rw [hst.lies.kind? hj, hkind]
      · cases hj

/-- A statement with a mark is exempt in a template that has the mark, if a comment is looked for near
it and no other one is found before the mark. -/
theorem exempt_of_mark {ls before after pre post : List Lexeme} {l : Lexeme}
    {chunk : Nat → Lexeme → List Lexeme} {place : Nat} (hls : ls = before ++ l :: after)
    (hchunk : chunk before.length l = pre ++ l :: post) (hpre : ∀ m ∈ pre, Loose m)
    (hpost : ∀ m ∈ post, Loose m) (hmarks : (ofLexemes ls).MarksAt before.length place)
    (hheeds : l.kind = .echo ∨ l.kind = .openTagWithEcho ∧
      ∀ i, before.length < i → i < place → (ofLexemes ls).kind? i ≠ some .comment)
    (hself : place = before.length → ∃ front back, pre = front ++ exemptionComment :: back)
    (hmark : ∀ k, ∃ front back, chunk place k = front ++ exemptionComment :: back ∧
      ∀ m ∈ front, Loose m)
    (hinner : ∀ i k, before.length < i → ∀ m ∈ chunk i k, m = k ∨ Loose m) :
    (ofLexemes (weave chunk 0 ls)).Exempt (weave chunk 0 before ++ pre).length := by
  have hnew : weave chunk 0 ls = (weave chunk 0 before ++ pre) ++
      l :: (post ++ weave chunk (before.length + 1) after) := by
    rw [hls, weave_append, weave, Nat.zero_add, hchunk]
    simp
  rw [hnew, exempt_iff]
  refine ⟨exemptionText, ?_, isExemption_exemptionText⟩
  rcases hheeds with hl | ⟨hl, hcomment⟩
  · have hplace : place = before.length := by
      rcases hmarks.cases with ⟨_, hplace⟩ | ⟨hother, _⟩
      · exact hplace
      · refine absurd ?_ hother
        rw [kind?_ofLexemes, hls]
        simp [hl]
    obtain ⟨front, back, rfl⟩ := hself hplace
    rw [commentNear, hl, ← List.append_assoc]
    exact commentBefore_exemption fun m hm => hpre m (by simp [hm])
  · obtain ⟨mid, k, behind, rfl, rfl, hpassed⟩ := MarksAt.passed hls hl hmarks hcomment
    have hmid : ∀ m ∈ weave chunk (before.length + 1) mid, Passed m := by
      intro m hm
      obtain ⟨j, k, hk, hm⟩ := mem_weave hm
      rcases hinner _ _ (by omega) m hm with rfl | hm
      · exact hpassed m (List.mem_of_getElem? hk)
      · exact hm.passed
    obtain ⟨front, back, heq, hfront⟩ := hmark k
    rw [commentNear, hl]
    rcases commentBehind_loose hpost (.inl rfl : Near _ _) with hnear | hnear
    · exact hnear.trans (commentBehind_weave_mark hmid heq hfront)
    · exact hnear

/-- The statements of a template and of the one with the fixes for output correspond one by one, and
those with marks are exempt. -/
theorem forall₂_entryPoints_marked (ls : List Lexeme) :
    List.Forall₂
      (Marked (ofLexemes ls) (ofLexemes (weave (chunkOf (ofLexemes ls).allOutputFixes) 0 ls)))
      (ofLexemes ls).entryPoints
      (ofLexemes (weave (chunkOf (ofLexemes ls).allOutputFixes) 0 ls)).entryPoints := by
  have hinsertion := fun f => @isInsertion_of_mem_allOutputFixes (ofLexemes ls) f
  have hasked : ∀ {e place}, e ∈ (ofLexemes ls).entryPoints → (ofLexemes ls).MarksAt e place →
      .mark place ∈ (ofLexemes ls).allOutputFixes := fun he hmarks =>
    List.mem_flatMap.mpr ⟨_, he, marksAt_iff.mp hmarks⟩
  generalize (ofLexemes ls).allOutputFixes = fixes at hinsertion hasked ⊢
  have hinner : ∀ i k, ∀ m ∈ chunkOf fixes i k, m = k ∨ Loose m := by
    intro i k m hm
    obtain ⟨pre, post, hchunk, hpre, hpost, _⟩ := chunkOf_insertions hinsertion i k
    rw [hchunk, List.mem_append, List.mem_cons] at hm
    rcases hm with hm | hm | hm
    · exact .inr (hpre m hm)
    · exact .inl hm
    · exact .inr (hpost m hm)
  refine forall₂_entryPoints_weave fun before l after hls => ?_
  obtain ⟨pre, post, hchunk, hpre, hpost, hself⟩ := chunkOf_insertions hinsertion before.length l
  rw [hchunk, entriesFrom_append, entriesFrom_loose hpre, entriesFrom, entriesFrom_loose hpost,
    List.nil_append, List.append_nil]
  cases hentry : l.kind.isEntryPoint with
  | false => exact .nil
  | true =>
    have he := mem_entryPoints_of_eq hls hentry
    have hkind : (ofLexemes ls).kind? before.length = some l.kind := by
      rw [kind?_ofLexemes, hls]
      simp
    have hkind' : (ofLexemes (weave (chunkOf fixes) 0 ls)).kind?
        (weave (chunkOf fixes) 0 before ++ pre).length = some l.kind := by
      rw [kind?_ofLexemes, hls, weave_append, weave, Nat.zero_add, hchunk]
      simp
    have hexempt : ∀ place, (ofLexemes ls).MarksAt before.length place →
        (l.kind = .echo ∨ l.kind = .openTagWithEcho ∧
          ∀ i, before.length < i → i < place → (ofLexemes ls).kind? i ≠ some .comment) →
        (ofLexemes (weave (chunkOf fixes) 0 ls)).Exempt
          (weave (chunkOf fixes) 0 before ++ pre).length := by
      intro place hmarks hheeds
      refine exempt_of_mark hls hchunk hpre hpost hmarks hheeds (fun hplace => ?_) (fun k => ?_)
        fun i k _ => hinner i k
      · subst hplace
        exact hself (hasked he hmarks)
      · obtain ⟨pre', post', hchunk', hpre', _, hmark⟩ := chunkOf_insertions hinsertion place k
        obtain ⟨front, back, rfl⟩ := hmark (hasked he hmarks)
        rw [List.append_assoc] at hchunk'
        exact ⟨front, _, hchunk', fun m hm => hpre' m (by simp [hm])⟩
    rw [← List.length_append]
    exact .cons ⟨hkind'.trans hkind.symm,
      fun hecho place hmarks =>
        hexempt place hmarks (.inl (Option.some.inj (hkind.symm.trans hecho))),
      fun htag place hmarks hcomment =>
        hexempt place hmarks (.inr ⟨Option.some.inj (hkind.symm.trans htag), hcomment⟩),
      fun hprint => gate_print (hkind'.trans (hkind.symm.trans hprint)) _⟩ .nil

end Stream

/-- Marks exempt.  A template with a mark to put in is fixed, and the fixed text has too many tokens
or is read with the same statements as before.  Of these an `echo` with a mark is exempt, and so is a
`<?=` with no comment before its mark.  No comment is looked for near a `print`, with a mark or
without. -/
theorem marks_exempt {settings : Settings} (hrules : settings.rules = .standard)
    (hanalysis : settings.analysis = ⟨true, false, true⟩) {source : String} {s : Stream}
    (h : tokenize source = .ok s) (hslash : s.ClearOfSlashes) :
    ∃ c, checkSource settings source = .ok c ∧
      (∀ e ∈ s.entryPoints, ∀ place, s.MarksAt e place → ∃ text, c.fixed = some text) ∧
      ∀ text, c.fixed = some text →
        (∃ n, tokenize text = .error (.tooManyTokens n)) ∨
          ∃ s', tokenize text = .ok s' ∧
            List.Forall₂ (Stream.Marked s s') s.entryPoints s'.entryPoints := by
  obtain ⟨ls, t, hreads, _, rfl⟩ := (tokenize_eq_ok_iff source s).mp h
  obtain ⟨c, hc, _⟩ := checkSource_of_tokenize settings h
  have hsound := Stream.sound_allOutputFixes hreads hslash
  refine ⟨c, hc, fun e he place hmark => ?_, fun text hfixed => ?_⟩
  · refine exists_fixed hrules hanalysis h hc hsound ?_
    exact List.ne_nil_of_mem (List.mem_flatMap.mpr ⟨e, he, Stream.marksAt_iff.mp hmark⟩)
  · have htext := toList_text_of_fixed hrules hanalysis h hc hfixed hsound
    obtain ⟨u, hspells⟩ := (amends_weave hsound 0).spells (hreads.spells trivial)
    rw [List.take_zero, List.nil_append, List.drop_zero] at hspells
    obtain ⟨ms, hreads', hfuses⟩ := hspells.reads
    rw [← htext] at hreads'
    rcases tokenize_of_reads hreads' with ⟨_, hok⟩ | ⟨_, hmany⟩
    · exact .inr ⟨_, hok, List.Forall₂.trans_of
        (fun _ _ _ hmarked hsame => hmarked.of_sameGate hsame)
        (Stream.forall₂_entryPoints_marked ls)
        (Stream.forall₂_entryPoints_fuses hfuses (.of_spells hspells))⟩
    · exact .inl hmany

/-- All three kinds of statements with a mark. -/
theorem marks_exempt_json :
    ∃ s c s', tokenize "<?php echo $json; print $json ?><?= $json ?>" = .ok s ∧
      s.MarksAt 1 1 ∧ s.MarksAt 6 8 ∧ s.MarksAt 11 13 ∧ s.ClearOfSlashes ∧
      checkSource { Settings.default (fun _ => none) with analysis := ⟨true, false, true⟩ }
        "<?php echo $json; print $json ?><?= $json ?>" = .ok c ∧
      c.fixed = some ("<?php /* @noEscape */ echo $json; print /* @noEscape */ $json ?>" ++
        "<?= /* @noEscape */ $json ?>") ∧
      tokenize ("<?php /* @noEscape */ echo $json; print /* @noEscape */ $json ?>" ++
        "<?= /* @noEscape */ $json ?>") = .ok s' ∧
      List.Forall₂ (Stream.Marked s s') s.entryPoints s'.entryPoints := by
  obtain ⟨source, hsource⟩ : ∃ source,
      source = "<?php echo $json; print $json ?><?= $json ?>" := ⟨_, rfl⟩
  obtain ⟨text, htext⟩ : ∃ text,
      text = "<?php /* @noEscape */ echo $json; print /* @noEscape */ $json ?>" ++
        "<?= /* @noEscape */ $json ?>" := ⟨_, rfl⟩
  rw [← hsource, ← htext]
  obtain ⟨hfault, hecho, hprint, htag, hslash, hdraft⟩ : (Lexed.ofSource source).fault = none ∧
      (Lexed.ofSource source).stream.MarksAt 1 1 ∧ (Lexed.ofSource source).stream.MarksAt 6 8 ∧
      (Lexed.ofSource source).stream.MarksAt 11 13 ∧
      (Lexed.ofSource source).stream.ClearOfSlashes ∧
      (((Lexed.ofSource source).stream.audit .standard ⟨true, false, true⟩).draft?
        (Lexed.ofSource source).stream ⟨true, false, true⟩).bind Draft.fixed? = some text := by
    rw [hsource, htext]
    decide +kernel
  have hold := tokenize_of_fault_eq_none hfault
  have hnew : tokenize text = .ok (Lexed.ofSource text).stream :=
    tokenize_of_fault_eq_none (by rw [htext]; decide +kernel)
  obtain ⟨c, hc, _, hread⟩ := @marks_exempt
    { Settings.default (fun _ => none) with analysis := ⟨true, false, true⟩ } rfl rfl _ _ hold
    hslash
  have hfixed := (fixed_of_checkSource hold hc).trans hdraft
  refine ⟨_, c, _, hold, hecho, hprint, htag, hslash, hc, hfixed, hnew, ?_⟩
  rcases hread text hfixed with ⟨n, hmany⟩ | ⟨s', hok, hmarked⟩
  · rw [hnew] at hmany
    cases hmany
  · rw [hnew] at hok
    cases hok
    exact hmarked

/-- A mark that leaves no statement of the fixed template exempt. -/
def IgnoresMark (source text : String) (e place : Nat) : Prop :=
  ∃ s s' c, tokenize source = .ok s ∧ e ∈ s.entryPoints ∧ s.MarksAt e place ∧
    checkSource { Settings.default (fun _ => none) with analysis := ⟨true, false, true⟩ } source =
      .ok c ∧ c.fixed = some text ∧ tokenize text = .ok s' ∧ ∀ e' ∈ s'.entryPoints, ¬ s'.Exempt e'

theorem IgnoresMark.of_streams {source text : String} {e place : Nat}
    (hold : (Lexed.ofSource source).fault = none ∧
      e ∈ (Lexed.ofSource source).stream.entryPoints ∧
      (Lexed.ofSource source).stream.MarksAt e place ∧
      (((Lexed.ofSource source).stream.audit .standard ⟨true, false, true⟩).draft?
        (Lexed.ofSource source).stream ⟨true, false, true⟩).bind Draft.fixed? = some text)
    (hnew : (Lexed.ofSource text).fault = none ∧
      ∀ e' ∈ (Lexed.ofSource text).stream.entryPoints,
        ¬ (Lexed.ofSource text).stream.Exempt e') : IgnoresMark source text e place := by
  obtain ⟨hfault, he, hmark, hdraft⟩ := hold
  obtain ⟨c, hc, _, hfixed⟩ := checkSource_of_tokenize
    { Settings.default (fun _ => none) with analysis := ⟨true, false, true⟩ }
    (tokenize_of_fault_eq_none hfault)
  exact ⟨_, _, c, tokenize_of_fault_eq_none hfault, he, hmark, hc, hfixed.trans hdraft,
    tokenize_of_fault_eq_none hnew.1, hnew.2⟩

/-- A mark in a `print`, one behind another comment, and one that a `/` turns into a comment to the end
of the line. -/
theorem marks_ignored :
    IgnoresMark "<?php print $json; ?>" "<?php print /* @noEscape */ $json; ?>" 1 3 ∧
      IgnoresMark "<?= /* a */ $json ?>" "<?= /* a */ /* @noEscape */ $json ?>" 0 4 ∧
      IgnoresMark "<?php 1/echo $json ?>" "<?php 1//* @noEscape */ echo $json ?>" 3 3 := by
  refine ⟨.of_streams ?_ ?_, .of_streams ?_ ?_, .of_streams ?_ ?_⟩
  all_goals decide +kernel

end EscapeAudit
