import EscapeAudit.Proofs.Statements

/-!
# Comments and code regions

A code region begins with an open tag of either kind and ends with a close tag.  Every token of code
has an open tag before it with no other tag in between (`exists_opensRegion`), and from one token of
code to another a region only ends at a close tag (`not_markup_of_noCloseTag`).

The comment near a `<?=` stands in its region.  The comment before an `echo` stands behind the last
`<?php`, which opens the region of the `echo` unless a `<?=` does.  So the comment stands in the
region of the statement exactly where it stands behind the tag that opens the region
(`comment_in_region`).
-/

namespace EscapeAudit

open Lexer

/-- The kinds that open a code region. -/
def Kind.opensRegion : Kind → Bool
  | openTag | openTagWithEcho => true
  | _ => false

namespace Stream

/-- No close tag stands from one token to another. -/
def NoCloseTag (s : Stream) (a b : Nat) : Prop :=
  ∀ i, a ≤ i → i ≤ b → s.holds (· == .closeTag) i = false

/-- A tag opens the code region that a token stands in. -/
structure OpensRegion (s : Stream) (r i : Nat) : Prop where
  before : r < i
  tag : s.holds Kind.opensRegion r = true
  last : ∀ j, r < j → j < i → s.holds Kind.opensRegion j = false
  open_ : ∀ j, r < j → j < i → s.holds (· == .closeTag) j = false

/-! ## Regions of a template -/

/-- A kind behind which code goes on stands in code, or it opens a region. -/
theorem region_of_regionAfter {k : Kind} (h : k.regionAfter ≠ .markup) :
    k.opensRegion = true ∨
      k.region ≠ .markup ∧ k.opensRegion = false ∧ (k == .closeTag) = false := by
  revert h
  cases k <;> simp [Kind.region, Kind.regionAfter, Kind.opensRegion]

section

variable {ls : List Lexeme} {t : State} (h : Spells .initial ls [] t)

include h

/-- Every token of code stands in a region that a tag opens. -/
theorem exists_opensRegion {i : Nat} {l : Lexeme} (hl : ls[i]? = some l)
    (hcode : l.kind.region ≠ .markup) : ∃ r, (ofLexemes ls).OpensRegion r i := by
  induction i generalizing l with
  | zero =>
    cases ls with
    | nil => cases hl
    | cons m ls =>
      obtain ⟨_, _, hregion, _⟩ := h.after_kind
      obtain rfl : m = l := by simpa using hl
      exact absurd hregion.symm hcode
  | succ i ih =>
    have hlt : i < ls.length := by
      have := (List.getElem?_eq_some_iff.mp hl).1
      omega
    have hm : ls[i]? = some ls[i] := List.getElem?_eq_getElem hlt
    have hnext := h.region_next hm hl
    rcases region_of_regionAfter (hnext ▸ hcode) with htag | ⟨hregion, htag, hclose⟩
    · exact ⟨i, Nat.lt_succ_self i, by rwa [holds_getElem hlt], fun j _ _ => by omega,
        fun j _ _ => by omega⟩
    · obtain ⟨r, hr⟩ := ih hm hregion
      refine ⟨r, Nat.lt_succ_of_lt hr.before, hr.tag, fun j hj hji => ?_, fun j hj hji => ?_⟩
      · rcases Nat.lt_succ_iff_lt_or_eq.mp hji with hji | rfl
        · exact hr.last j hj hji
        · rwa [holds_getElem hlt]
      · rcases Nat.lt_succ_iff_lt_or_eq.mp hji with hji | rfl
        · exact hr.open_ j hj hji
        · rwa [holds_getElem hlt]

/-- Without a close tag, code goes on. -/
theorem not_markup_of_noCloseTag {c j : Nat} (hle : c ≤ j)
    (hclose : (ofLexemes ls).NoCloseTag c j) {k l : Lexeme} (hk : ls[c]? = some k)
    (hcode : k.kind.region ≠ .markup) (hl : ls[j]? = some l) : l.kind.region ≠ .markup := by
  induction hle generalizing l with
  | refl =>
    rw [hk] at hl
    rwa [← Option.some.inj hl]
  | @step j hle ih =>
    have hlt : j < ls.length := by
      have := (List.getElem?_eq_some_iff.mp hl).1
      omega
    have hm : ls[j]? = some ls[j] := List.getElem?_eq_getElem hlt
    have hregion := ih (fun i hi hij => hclose i hi (Nat.le_succ_of_le hij)) hm
    have htag := hclose j hle (Nat.le_succ j)
    rw [holds_getElem hlt] at htag
    rw [← h.region_next hm hl]
    revert hregion htag
    cases (ls[j]).kind <;> simp [Kind.region, Kind.regionAfter]

end

/-! ## The comment near a statement -/

theorem commentNear?_openTagWithEcho {s : Stream} {e c : Nat}
    (he : s.kind? e = some .openTagWithEcho) (hc : s.commentNear? e = some c) :
    e < c ∧ s.NoCloseTag e c := by
  unfold commentNear? at hc
  rw [he] at hc
  dsimp only at hc
  obtain ⟨hle, hlt, hcomment, _⟩ := findNext_eq_some_iff.mp hc
  have hne : e ≠ c := by
    rintro rfl
    obtain ⟨k, hk, hkind⟩ := holds_iff.mp hcomment
    rw [he] at hk
    cases hk
    cases hkind
  refine ⟨by omega, fun i hi hic => ?_⟩
  cases hclosing : s.findNext (· == .closeTag) e s.size with
  | none =>
    rw [hclosing] at hlt
    exact findNext_eq_none_iff.mp hclosing i hi (Nat.lt_of_le_of_lt hic hlt)
  | some closing =>
    rw [hclosing] at hlt
    exact (findNext_eq_some_iff.mp hclosing).2.2.2 i hi (Nat.lt_of_le_of_lt hic hlt)

/-- The comment near an `echo` stands before it, behind every `<?php` before it. -/
theorem commentNear?_echo {s : Stream} {e c : Nat} (he : s.kind? e = some .echo)
    (hc : s.commentNear? e = some c) :
    c < e ∧ s.holds (· == .comment) c = true ∧
      ∀ r, r < e → s.holds (· == .openTag) r = true → r < c := by
  unfold commentNear? at hc
  rw [he] at hc
  dsimp only at hc
  obtain ⟨hfloor, hle, hcomment, _⟩ := findPrevious_eq_some_iff.mp hc
  have hne : ∀ i k, s.kind? i = some k → (k == .comment) = false → i ≠ c := by
    rintro i k hk hkind rfl
    obtain ⟨k', hk', hcomment'⟩ := holds_iff.mp hcomment
    rw [hk] at hk'
    rw [Option.some.inj hk', hcomment'] at hkind
    cases hkind
  have hnee := hne e _ he rfl
  refine ⟨by omega, hcomment, fun r hr htag => ?_⟩
  obtain ⟨k, hk, hkind⟩ := holds_iff.mp htag
  obtain rfl : k = .openTag := by simpa using hkind
  have hner := hne r _ hk rfl
  cases hopening : s.findPrevious (· == .openTag) e 0 with
  | none =>
    rw [findPrevious_eq_none_iff.mp hopening r (Nat.zero_le r) (Nat.le_of_lt hr)] at htag
    cases htag
  | some opening =>
    rw [hopening] at hfloor
    obtain ⟨_, _, _, hlast⟩ := findPrevious_eq_some_iff.mp hopening
    have hle' : r ≤ opening := by
      by_contra hlt
      rw [hlast r (by omega) (Nat.le_of_lt hr)] at htag
      cases htag
    dsimp only [Option.getD] at hfloor
    omega

end Stream

/-- The comment near a `<?=` stands in its code region.  The comment near an `echo` stands in its code
region exactly where it stands behind the tag that opens the region, and it does so wherever this
tag is `<?php`.  A `print` has no comment near it. -/
theorem comment_in_region {source : String} {s : Stream} (h : tokenize source = .ok s) {e c : Nat}
    (he : e ∈ s.entryPoints) (hc : s.commentNear? e = some c) :
    (s.kind? e = some .openTagWithEcho ∧ e < c ∧ s.NoCloseTag e c) ∨
      (s.kind? e = some .echo ∧ c < e ∧ ∃ r, s.OpensRegion r e ∧
        (s.NoCloseTag c e ↔ r < c) ∧ (s.kind? r = some .openTag → r < c)) := by
  obtain ⟨ls, t, hreads, _, rfl⟩ := (tokenize_eq_ok_iff source s).mp h
  have hspells := hreads.spells trivial
  obtain ⟨l, hl, hentry⟩ := Stream.holds_ofLexemes.mp (List.mem_filter.mp he).2
  have hkind : (Stream.ofLexemes ls).kind? e = some l.kind := by
    rw [Stream.kind?_ofLexemes, hl]
    rfl
  have hcases : l.kind = .echo ∨ l.kind = .openTagWithEcho ∨ l.kind = .print := by
    revert hentry
    cases l.kind <;> simp [Kind.isEntryPoint]
  rcases hcases with hecho | htag | hprint
  · right
    rw [hecho] at hkind
    obtain ⟨hlt, hcomment, hbehind⟩ := Stream.commentNear?_echo hkind hc
    obtain ⟨r, hr⟩ := Stream.exists_opensRegion hspells hl (by rw [hecho]; decide)
    refine ⟨hkind, hlt, r, hr, ⟨fun hclose => ?_, fun hrc i hi hie => ?_⟩, fun htag => ?_⟩
    · -- Code goes on from the comment, and the tag that opens a region stands in markup.
      by_contra hle
      obtain ⟨k, hk, hkcomment⟩ := Stream.holds_ofLexemes.mp hcomment
      obtain ⟨m, hm, hmtag⟩ := Stream.holds_ofLexemes.mp hr.tag
      have hcode : k.kind.region ≠ .markup := by
        rw [show k.kind = .comment by simpa using hkcomment]
        decide
      have hmarkup : m.kind.region = .markup := by
        revert hmtag
        cases m.kind <;> simp [Kind.opensRegion, Kind.region]
      exact Stream.not_markup_of_noCloseTag hspells (by omega : c ≤ r)
        (fun i hi hir => hclose i hi (by have := hr.before; omega)) hk hcode hm hmarkup
    · rcases Nat.lt_or_eq_of_le hie with hie | rfl
      · exact hr.open_ i (by omega) hie
      · exact Stream.not_holds_ofLexemes hl (by rw [hecho]; rfl)
    · exact hbehind r hr.before (Stream.holds_iff.mpr ⟨_, htag, rfl⟩)
  · rw [htag] at hkind
    exact .inl ⟨hkind, Stream.commentNear?_openTagWithEcho hkind hc⟩
  · rw [Stream.commentNear?, hkind, hprint] at hc
    cases hc

/-- The comment behind `<?php` stands in the region of the statement. -/
theorem comment_in_region_open_tag :
    ∃ s, tokenize "<?= 1 ?><?php /* c */ echo $x; ?>" = .ok s ∧ 8 ∈ s.entryPoints ∧
      s.commentNear? 8 = some 6 ∧ s.OpensRegion 5 8 ∧ s.NoCloseTag 6 8 := by
  have hok : tokenize "<?= 1 ?><?php /* c */ echo $x; ?>" =
      .ok (Lexed.ofSource "<?= 1 ?><?php /* c */ echo $x; ?>").stream :=
    tokenize_of_fault_eq_none (by decide +kernel)
  have he : 8 ∈ (Lexed.ofSource "<?= 1 ?><?php /* c */ echo $x; ?>").stream.entryPoints := by
    decide +kernel
  have hc : (Lexed.ofSource "<?= 1 ?><?php /* c */ echo $x; ?>").stream.commentNear? 8 =
      some 6 := by
    decide +kernel
  have hkind : (Lexed.ofSource "<?= 1 ?><?php /* c */ echo $x; ?>").stream.kind? 8 =
      some .echo := by
    decide +kernel
  have htag : (Lexed.ofSource "<?= 1 ?><?php /* c */ echo $x; ?>").stream.holds
      Kind.opensRegion 5 = true := by
    decide +kernel
  have hother : ∀ r ∈ [6, 7], (Lexed.ofSource "<?= 1 ?><?php /* c */ echo $x; ?>").stream.holds
      Kind.opensRegion r = false := by
    decide +kernel
  rcases comment_in_region hok he hc with ⟨hecho, _⟩ | ⟨_, _, r, hr, hregion, _⟩
  · rw [hkind] at hecho
    cases hecho
  · obtain rfl : r = 5 := by
      rcases Nat.lt_trichotomy r 5 with hlt | heq | hlt
      · rw [hr.last 5 hlt (by decide)] at htag
        cases htag
      · exact heq
      · have hmem : r ∈ [6, 7] := by
          have := hr.before
          simp
          omega
        have hrtag := hr.tag
        rw [hother r hmem] at hrtag
        cases hrtag
    exact ⟨_, hok, he, hc, hr, hregion.mpr (by decide)⟩

/-- A `<?=` region can hold an `echo`, and a comment of the region before it exempts this `echo`. -/
theorem comment_outside_region :
    ∃ s, tokenize "<?php /* @noEscape */ ?><?= 1; echo $x ?>" = .ok s ∧ 9 ∈ s.entryPoints ∧
      s.commentNear? 9 = some 1 ∧ s.kind? 3 = some .closeTag ∧
      s.gate .standard 9 = .suppressed 1 ∧ ¬ s.NoCloseTag 1 9 := by
  refine ⟨(Lexed.ofSource "<?php /* @noEscape */ ?><?= 1; echo $x ?>").stream,
    tokenize_of_fault_eq_none (by decide +kernel), by decide +kernel, by decide +kernel,
    by decide +kernel, by decide +kernel, fun hclose => ?_⟩
  have htag : (Lexed.ofSource "<?php /* @noEscape */ ?><?= 1; echo $x ?>").stream.holds
      (· == .closeTag) 3 = true := by
    decide +kernel
  rw [hclose 3 (by decide) (by decide)] at htag
  cases htag

end EscapeAudit
