import EscapeAudit.Proofs.Fixes

/-!
# What the rules fix

The changesets of an audit are those of a list of fixes (`changesets_audit`).  A fix for an output
comes from a leaf that is judged to need escaping (`mem_outputFixes`).  Such a leaf stands in its
statement in a way that lets a call of the escaper be put around it (`sound_wrap`).
-/

namespace EscapeAudit

open Lexer

/-- The fix of a decision. -/
def Decision.fix? (d : Decision) : Option Fix :=
  match d.remedy with
  | .nothing => none
  | .mark => some (.mark d.markerAt)
  | .wrap f => some (.wrap d.first d.last f)

theorem Decision.changeset?_standard (d : Decision) :
    d.changeset? .standard = d.fix?.map Fix.changeset := by
  unfold changeset? fix?
  cases d.remedy <;> rfl

namespace Stream

/-! ## The fixes of an audit -/

/-- The fixes for leaves, in order, and whether the mark before the keyword is still to come. -/
def leafFixes (s : Stream) (entry : Nat) : (marker : Bool) → List Leaf → List Fix
  | _, [] => []
  | marker, l :: rest =>
    match s.judge .standard l with
    | .unescaped anchor =>
      let d := s.decide .standard entry l.first l.last anchor
      let marksEntry := d.remedy == .mark && d.markerAt == entry
      (if marksEntry && !marker then [] else d.fix?.toList) ++
        s.leafFixes entry (marker && !marksEntry) rest
    | _ => s.leafFixes entry marker rest

/-- The fixes for the output of a statement. -/
def outputFixes (s : Stream) (entry : Nat) : List Fix :=
  match s.gate .standard entry with
  | .suppressed _ => []
  | _ => s.leafFixes entry true (s.statementWalk entry).leaves

/-- Whether the header is declared lacking at a statement. -/
def declaresAt (s : Stream) (checked : Bool) (entry : Nat) : Bool :=
  !(s.escapeCalls .standard entry).isEmpty && !checked && s.lacksDeclaration

/-- The fixes for escaping through the block in a statement. -/
def legacyFixes (s : Stream) (checked : Bool) (entry : Nat) : List Fix :=
  ((s.escapeCalls .standard entry).filterMap (s.blockReceiver? .standard entry)).map .swap ++
    (if s.declaresAt checked entry then [.declare] else [])

/-- The fixes for statements, given whether the header has been looked at before. -/
def fixesFrom (s : Stream) (a : AnalysisSettings) : (checked : Bool) → List Nat → List Fix
  | _, [] => []
  | checked, e :: es =>
    (if a.unescapedOutput then s.outputFixes e else []) ++
      ((if a.legacyEscape then s.legacyFixes checked e else []) ++
        s.fixesFrom a (checked || a.legacyEscape && !(s.escapeCalls .standard e).isEmpty) es)

/-- The fixes for a template. -/
def fixes (s : Stream) (a : AnalysisSettings) : List Fix := s.fixesFrom a false s.entryPoints

/-- The changesets among what a rule has to say. -/
def changesetsOf (steps : List Step) : List Changeset :=
  (steps.filterMap Step.finding?).filterMap Finding.fix

theorem changesetsOf_append (xs ys : List Step) :
    changesetsOf (xs ++ ys) = changesetsOf xs ++ changesetsOf ys := by
  simp [changesetsOf]

theorem changesetsOf_found (f : Finding) (steps : List Step) :
    changesetsOf (.found f :: steps) = f.fix.toList ++ changesetsOf steps := by
  simp only [changesetsOf, List.filterMap_cons, Step.finding?]
  cases f.fix <;> rfl

theorem changesetsOf_leafSteps (s : Stream) (entry : Nat) (p : Pending) (leaves : List Leaf) :
    changesetsOf (s.leafSteps .standard entry p leaves) =
      (s.leafFixes entry p.marker leaves).map Fix.changeset := by
  have hfix : ∀ (dropped : Bool) (d : Decision),
      (if dropped then none else d.changeset? .standard).toList =
        (if dropped then [] else d.fix?.toList).map Fix.changeset := by
    intro dropped d
    rw [Decision.changeset?_standard]
    cases dropped <;> cases d.fix? <;> rfl
  induction leaves generalizing p with
  | nil => rfl
  | cons l rest ih =>
    simp only [leafSteps, leafFixes]
    cases hjudge : s.judge .standard l with
    | unescaped anchor => simp only [findingAt, changesetsOf_found, ih, List.map_append, hfix]
    | safe => exact ih p
    | skipped => exact ih p

theorem changesetsOf_outputSteps (s : Stream) (entry : Nat) :
    changesetsOf (s.outputSteps .standard entry) = (s.outputFixes entry).map Fix.changeset := by
  unfold outputSteps outputFixes
  dsimp only
  cases hgate : s.gate .standard entry with
  | suppressed => rfl
  | absent =>
    rw [changesetsOf_append, changesetsOf_leafSteps]
    dsimp only [statementWalk]
    split <;> simp [changesetsOf, Step.finding?]
  | disallowed =>
    rw [changesetsOf_append, changesetsOf_leafSteps]
    dsimp only [statementWalk]
    split <;> simp [changesetsOf, Step.finding?]

theorem changesetsOf_legacySteps (s : Stream) (checked : Bool) (entry : Nat) :
    changesetsOf (s.legacySteps .standard checked entry).1 =
        (s.legacyFixes checked entry).map Fix.changeset ∧
      (s.legacySteps .standard checked entry).2 =
        (checked || !(s.escapeCalls .standard entry).isEmpty) := by
  have haliases : ∀ receivers : List Nat,
      changesetsOf (receivers.map fun i => Step.found (s.aliasFinding .standard i)) =
        (receivers.map Fix.swap).map Fix.changeset := by
    intro receivers
    induction receivers with
    | nil => rfl
    | cons i receivers ih =>
      simp only [List.map_cons, changesetsOf_found, ih]
      rfl
  have hheader : changesetsOf [.found s.headerFinding] = [Fix.declare.changeset] := rfl
  unfold legacySteps legacyFixes declaresAt
  dsimp only
  split
  · rename_i hskip
    rcases Bool.or_eq_true_iff.mp hskip with hcalls | hchecked
    · simp [haliases, hcalls]
    · simp [haliases, hchecked]
  · rename_i hlook
    obtain ⟨hcalls, hchecked⟩ : (s.escapeCalls .standard entry).isEmpty = false ∧
        checked = false := by simpa using hlook
    split
    · rename_i hlacks
      simp [changesetsOf_append, haliases, hheader, hcalls, hchecked, hlacks]
    · rename_i hlacks
      simp [haliases, hcalls, hchecked, hlacks]

/-- The changesets of an audit so far, and those of the statements to come. -/
theorem changesets_foldl_addEntry (s : Stream) (a : AnalysisSettings) (es : List Nat)
    (audit : Audit) :
    (es.foldl (Audit.addEntry s .standard a) audit).changesets =
      audit.changesets ++ (s.fixesFrom a audit.headerChecked es).map Fix.changeset := by
  induction es generalizing audit with
  | nil => simp [fixesFrom]
  | cons e es ih =>
    obtain ⟨steps, checked⟩ := audit
    obtain ⟨hlegacy, hchecked⟩ := changesetsOf_legacySteps s checked e
    have hsteps : ∀ (steps : Array Step) (checked : Bool),
        Audit.changesets ⟨steps, checked⟩ = changesetsOf steps.toList := fun _ _ => rfl
    rw [List.foldl_cons, ih, fixesFrom]
    cases houtput : a.unescapedOutput <;> cases hblock : a.legacyEscape <;>
      simp [Audit.addEntry, houtput, hblock, Audit.addOutput, Audit.addLegacy, hsteps,
        changesetsOf_append, changesetsOf_outputSteps, hlegacy, hchecked]

theorem changesets_audit (s : Stream) (a : AnalysisSettings) :
    (s.audit .standard a).changesets = (s.fixes a).map Fix.changeset := by
  rw [audit, changesets_foldl_addEntry]
  rfl

/-! ## Where fixes come from -/

theorem mem_leafFixes {s : Stream} {entry : Nat} {marker : Bool} {leaves : List Leaf} {f : Fix}
    (h : f ∈ s.leafFixes entry marker leaves) :
    ∃ l ∈ leaves, ∃ anchor, s.judge .standard l = .unescaped anchor ∧
      (s.decide .standard entry l.first l.last anchor).fix? = some f := by
  induction leaves generalizing marker with
  | nil => cases h
  | cons l rest ih =>
    have hlater : ∀ {marker}, f ∈ s.leafFixes entry marker rest →
        ∃ l' ∈ l :: rest, ∃ anchor, s.judge .standard l' = .unescaped anchor ∧
          (s.decide .standard entry l'.first l'.last anchor).fix? = some f := by
      intro marker h
      obtain ⟨l', hl', hfix⟩ := ih h
      exact ⟨l', by simp [hl'], hfix⟩
    rw [leafFixes] at h
    cases hjudge : s.judge .standard l with
    | unescaped anchor =>
      simp only [hjudge, List.mem_append] at h
      rcases h with h | h
      · split at h
        · cases h
        · exact ⟨l, by simp, anchor, hjudge, by simpa using h⟩
      · exact hlater h
    | safe =>
      simp only [hjudge] at h
      exact hlater h
    | skipped =>
      simp only [hjudge] at h
      exact hlater h

/-- A fix for an output comes from a leaf that needs escaping. -/
theorem mem_outputFixes {s : Stream} {entry : Nat} {f : Fix} (h : f ∈ s.outputFixes entry) :
    ∃ l ∈ (s.statementWalk entry).leaves, ∃ anchor, s.judge .standard l = .unescaped anchor ∧
      (s.decide .standard entry l.first l.last anchor).fix? = some f := by
  unfold outputFixes at h
  split at h
  · cases h
  · exact mem_leafFixes h

/-- A leaf that needs escaping begins with a name, a variable or a literal with variables. -/
theorem category_of_judge {s : Stream} {rules : RuleSet} {l : Leaf} {anchor : Nat}
    (h : s.judge rules l = .unescaped anchor) :
    ∃ k, s.kind? l.first = some k ∧
      (k.category = .call ∨ k.category = .interpolatingLiteral ∨ k.category = .variable) := by
  unfold judge at h
  split at h
  · cases h
  · split at h
    · cases h
    · rename_i k hk
      refine ⟨k, hk, ?_⟩
      split at h
      · exact .inl ‹_›
      · exact .inr (.inl ‹_›)
      · exact .inr (.inr ‹_›)
      · cases h
      · cases h

/-! ## Inside a statement -/

/-- No token of a statement ends it. -/
theorem not_endsStatement {s : Stream} {entry i : Nat} (hle : entry ≤ i)
    (hlt : i < s.statementEnd entry) : s.holds endsStatement i = false := by
  unfold statementEnd at hlt
  cases hend : s.findNext endsStatement entry s.size with
  | none =>
    rw [hend] at hlt
    exact findNext_eq_none_iff.mp hend i hle hlt
  | some j =>
    rw [hend] at hlt
    exact (findNext_eq_some_iff.mp hend).2.2.2 i hle hlt

/-- Inside a statement there is no markup. -/
theorem region_inside {ls : List Lexeme} {t : State} (h : Spells .initial ls [] t) {entry j : Nat}
    (hentry : (ofLexemes ls).holds Kind.isEntryPoint entry = true) (hlt : entry < j)
    (hend : j < (ofLexemes ls).statementEnd entry) {l : Lexeme} (hl : ls[j]? = some l) :
    l.kind.region ≠ .markup ∧ l.kind.regionAfter ≠ .markup := by
  induction j generalizing l with
  | zero => omega
  | succ j ih =>
    obtain ⟨k, hk⟩ : ∃ k, ls[j]? = some k :=
      ⟨_, List.getElem?_eq_getElem (Nat.lt_of_succ_lt (List.getElem?_eq_some_iff.mp hl).1)⟩
    have hregion : k.kind.regionAfter = l.kind.region := h.region_next hk hl
    have hbefore : k.kind.regionAfter ≠ .markup := by
      by_cases hj : entry = j
      · subst hj
        obtain ⟨kind, hkind, htest⟩ := holds_iff.mp hentry
        rw [kind?_ofLexemes, hk] at hkind
        rw [show k.kind = kind from Option.some.inj hkind]
        revert htest
        cases kind <;> first | exact fun _ => by decide | exact fun h => by cases h
      · exact (ih (by omega) (by omega) hk).2
    have hends := not_endsStatement (Nat.le_of_lt hlt) hend
    have htag : l.kind ≠ .closeTag := by
      intro htag
      have htrue : (ofLexemes ls).holds endsStatement (j + 1) = true :=
        holds_iff.mpr ⟨.closeTag, by rw [kind?_ofLexemes, hl, ← htag]; rfl, rfl⟩
      rw [hends] at htrue
      cases htrue
    rw [hregion] at hbefore
    refine ⟨hbefore, ?_⟩
    revert hbefore htag
    cases l.kind <;> simp [Kind.region, Kind.regionAfter]

/-- Blanks and comments stand in code. -/
theorem region_of_isTrivia {k : Kind} (h : k.isTrivia = true) :
    k.region = .code ∧ k.regionAfter = .code := by
  cases k <;> first | exact ⟨rfl, rfl⟩ | cases h

theorem region_of_closesRange {k : Kind} (h : closesRange k = true) :
    k.region = .code ∧ k.isTrivia = false ∧ k.isWord = false := by
  cases k <;> first | exact ⟨rfl, rfl, rfl⟩ | cases h

theorem region_of_opensRange {k : Kind} (h : opensRange k = true) :
    k.isTrivia = false ∧ k.regionAfter = .code ∧ k.leadsMember = false := by
  cases k <;> first | exact ⟨rfl, rfl, rfl⟩ | cases h

/-- A token is solid or a blank or comment. -/
theorem isTrivia_of_holds {ls : List Lexeme} {i : Nat} {l : Lexeme} (hl : ls[i]? = some l) :
    (ofLexemes ls).holds isSolid i = !l.kind.isTrivia := by
  have hkind : (ofLexemes ls).kind? i = some l.kind := by rw [kind?_ofLexemes, hl]; rfl
  cases htrivia : l.kind.isTrivia with
  | false => exact holds_iff.mpr ⟨_, hkind, by simp [isSolid, htrivia]⟩
  | true =>
    cases hsolid : (ofLexemes ls).holds isSolid i with
    | false => rfl
    | true =>
      obtain ⟨k, hk, htest⟩ := holds_iff.mp hsolid
      obtain rfl : l.kind = k := Option.some.inj (hkind.symm.trans hk)
      simp [isSolid, htrivia] at htest

theorem statementEnd_le_size (s : Stream) (entry : Nat) : s.statementEnd entry ≤ s.size := by
  unfold statementEnd
  cases hend : s.findNext endsStatement entry s.size with
  | none => exact Nat.le_refl _
  | some j => exact Nat.le_of_lt (findNext_eq_some_iff.mp hend).2.1

/-! ## A call of the escaper can be put around a leaf -/

section Leaf

variable {ls : List Lexeme} {entry first last : Nat} {r : Range}

/-- In front of a leaf no member name is due. -/
theorem fresh_of_framed (hf : (ofLexemes ls).Framed entry r)
    (hb : (ofLexemes ls).Bounds r first last) : Fresh (ls.take first) := by
  obtain ⟨p, hp, hopens⟩ := hf.left
  obtain ⟨kind, hkind, htest⟩ := holds_iff.mp hopens
  rw [kind?_ofLexemes] at hkind
  obtain ⟨k, hk, rfl⟩ := Option.map_eq_some_iff.mp hkind
  obtain ⟨hsolid, hafter, hmember⟩ := region_of_opensRange htest
  have hstart := hb.start_le
  have hlt : p < (ls.take first).length := by
    have := (List.getElem?_eq_some_iff.mp hk).1
    rw [List.length_take]
    omega
  have hget : (ls.take first)[p] = k := by
    rw [List.getElem_take]
    exact (List.getElem?_eq_some_iff.mp hk).2
  refine ⟨(ls.take first).take p, k, (ls.take first).drop (p + 1), ?_, hsolid, hafter, hmember, ?_⟩
  · rw [← hget, ← List.drop_eq_getElem_cons hlt, List.take_append_drop]
  · intro l hl
    obtain ⟨i, hi⟩ := List.getElem?_of_mem hl
    rw [List.getElem?_drop, List.getElem?_take] at hi
    split at hi
    · have htrivia := isTrivia_of_holds hi
      rw [hb.before (p + 1 + i) (by omega) (by omega)] at htrivia
      simpa using htrivia
    · cases hi

/-- Behind a leaf there are blanks and comments, and then no word. -/
theorem tame_of_framed (hf : (ofLexemes ls).Framed entry r)
    (hb : (ofLexemes ls).Bounds r first last) : tame (ls.drop (last + 1)) = true := by
  have hsize : r.stop ≤ ls.length := by
    have := statementEnd_le_size (ofLexemes ls) entry
    rw [size_ofLexemes] at this
    exact Nat.le_trans hf.upper this
  have hfrom : ∀ n j, last < j → j + n = r.stop → tame (ls.drop j) = true := by
    intro n
    induction n with
    | zero =>
      rintro j - rfl
      rcases hf.right with hstop | hcloses
      · rw [List.drop_eq_nil_of_le (by rw [size_ofLexemes] at hstop; omega)]
        rfl
      · obtain ⟨kind, hkind, htest⟩ := holds_iff.mp hcloses
        rw [kind?_ofLexemes] at hkind
        obtain ⟨k, hk, rfl⟩ := Option.map_eq_some_iff.mp hkind
        obtain ⟨hlt, hget⟩ := List.getElem?_eq_some_iff.mp hk
        obtain ⟨_, htrivia, hword⟩ := region_of_closesRange htest
        rw [List.drop_eq_getElem_cons hlt, hget, tame, htrivia, hword]
        rfl
    | succ n ih =>
      intro j hj hstop
      have hlt : j < ls.length := by omega
      have htrivia := isTrivia_of_holds (List.getElem?_eq_getElem hlt)
      rw [hb.after j hj (by omega)] at htrivia
      rw [List.drop_eq_getElem_cons hlt, tame, if_pos (by simpa using htrivia)]
      exact ih (j + 1) (by omega) (by omega)
  have := hb.last_lt
  exact hfrom (r.stop - (last + 1)) (last + 1) (by omega) (by omega)

/-- Behind the last token of a leaf comes code. -/
theorem closable_of_framed {t : State} (h : Spells .initial ls [] t) (hfits : t.mode.Fits 0)
    (hentry : (ofLexemes ls).holds Kind.isEntryPoint entry = true)
    (hf : (ofLexemes ls).Framed entry r) (hb : (ofLexemes ls).Bounds r first last) :
    Closable (ls.take (last + 1)) := by
  have hlt : last < ls.length := by
    rw [← size_ofLexemes ls]
    exact lt_size_of_holds hb.last_solid
  have hk : ls[last]? = some ls[last] := List.getElem?_eq_getElem hlt
  have hsolid := isTrivia_of_holds hk
  rw [hb.last_solid] at hsolid
  have hlower := hf.lower
  have hupper := hf.upper
  have hstart := hb.start_le
  have hle := hb.first_le
  have hstop := hb.last_lt
  obtain ⟨hregion, hmarkup⟩ := region_inside h hentry (j := last) (by omega) (by omega) hk
  refine ⟨ls.take last, ls[last], by simp, by simpa using hsolid, ?_, ?_⟩
  · cases hnext : ls[last + 1]? with
    | none =>
      -- The template ends here, and no heredoc is open at its end.
      have hlast : ls.getLast? = some ls[last] := by
        have hlength := List.getElem?_eq_none_iff.mp hnext
        rw [List.getLast?_eq_getElem?, show ls.length - 1 = last by omega, hk]
      have hend := h.region_last hlast
      cases hmode : t.mode with
      | code => rw [← hend, hmode]; rfl
      | markup => rw [← hend, hmode] at hmarkup; exact absurd rfl hmarkup
      | heredoc body closer =>
        rw [hmode] at hfits
        obtain ⟨hpos, hle⟩ := hfits
        omega
    | some m =>
      rw [h.region_next hk hnext]
      by_cases heq : last + 1 = r.stop
      · have hmlt := (List.getElem?_eq_some_iff.mp hnext).1
        rcases hf.right with hsize | hcloses
        · rw [size_ofLexemes] at hsize
          omega
        · obtain ⟨kind, hkind, htest⟩ := holds_iff.mp hcloses
          rw [kind?_ofLexemes, ← heq, hnext] at hkind
          obtain rfl : m.kind = kind := Option.some.inj hkind
          exact (region_of_closesRange htest).1
      · have htrivia := isTrivia_of_holds hnext
        rw [hb.after (last + 1) (by omega) (by omega)] at htrivia
        exact (region_of_isTrivia (by simpa using htrivia)).1
  · rintro htag
    rw [htag] at hregion
    exact hregion rfl

end Leaf

/-- A leaf that needs escaping has room before it. -/
theorem room_of_judge {ls : List Lexeme} {rules : RuleSet} {l : Leaf} {anchor : Nat}
    (h : (ofLexemes ls).judge rules l = .unescaped anchor) :
    ∃ k, ls[l.first]? = some k ∧ Room k := by
  obtain ⟨kind, hkind, hcategory⟩ := category_of_judge h
  rw [kind?_ofLexemes] at hkind
  obtain ⟨k, hk, rfl⟩ := Option.map_eq_some_iff.mp hkind
  refine ⟨k, hk, ?_⟩
  obtain ⟨kind, text⟩ := k
  revert hcategory
  cases kind <;> simp [Kind.category] <;> exact ⟨rfl, by simp, by simp⟩

/-- A call of the escaper can be put around a leaf that needs escaping. -/
theorem sound_wrap {ls : List Lexeme} {t : State} (h : Spells .initial ls [] t)
    (hfits : t.mode.Fits 0) {entry : Nat}
    (hentry : (ofLexemes ls).holds Kind.isEntryPoint entry = true) {l : Leaf}
    (hl : l ∈ ((ofLexemes ls).statementWalk entry).leaves) {rules : RuleSet} {anchor : Nat}
    (hjudge : (ofLexemes ls).judge rules l = .unescaped anchor) (f : EscapeFunction) :
    (Fix.wrap l.first l.last f).Sound ls := by
  obtain ⟨hf, hb⟩ := framed_of_mem_leaves hentry hl
  refine ⟨room_of_judge hjudge, fresh_of_framed hf hb, ?_, closable_of_framed h hfits hentry hf hb,
    tame_of_framed hf hb⟩
  rw [← size_ofLexemes ls]
  exact lt_size_of_holds hb.last_solid

end Stream

end EscapeAudit
