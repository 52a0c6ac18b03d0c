import EscapeAudit.Proofs.Fusing

/-!
# The statements of a fixed template

A statement is cut out of the lexemes of a template at its first token and at its end
(`exists_isStatement`).  Whether it is exempt depends on one comment, which can be read off the
lexemes before it or behind it (`exempt_iff`).

A template in which each token is replaced by a chunk has the same statements one by one, when the
chunks follow a few rules (`Follows`).  The content of each is what the content was, woven
(`forall₂_entryPoints`), and a statement that was exempt stays so (`Follows.exempt`).
-/

namespace EscapeAudit

open Lexer

namespace Stream

theorem holds_ofLexemes {ls : List Lexeme} {test : Kind → Bool} {i : Nat} :
    (ofLexemes ls).holds test i = true ↔ ∃ l, ls[i]? = some l ∧ test l.kind = true := by
  rw [holds_iff]
  simp [kind?_ofLexemes]

theorem not_holds_ofLexemes {ls : List Lexeme} {test : Kind → Bool} {i : Nat} {l : Lexeme}
    (hl : ls[i]? = some l) (htest : test l.kind = false) :
    (ofLexemes ls).holds test i = false := by
  rw [Bool.eq_false_iff]
  intro hholds
  obtain ⟨m, hm, hm'⟩ := holds_ofLexemes.mp hholds
  rw [hl] at hm
  obtain rfl := Option.some.inj hm
  rw [htest] at hm'
  cases hm'

theorem holds_getElem {ls : List Lexeme} {i : Nat} (h : i < ls.length) (test : Kind → Bool) :
    (ofLexemes ls).holds test i = test ls[i].kind := by
  have hl : ls[i]? = some ls[i] := List.getElem?_eq_getElem h
  cases htest : test ls[i].kind with
  | true => exact holds_ofLexemes.mpr ⟨_, hl, htest⟩
  | false => exact not_holds_ofLexemes hl htest

theorem mem_entryPoints_of_eq {ls before after : List Lexeme} {l : Lexeme}
    (hls : ls = before ++ l :: after) (hentry : l.kind.isEntryPoint = true) :
    before.length ∈ (ofLexemes ls).entryPoints := by
  refine List.mem_filter.mpr ⟨?_, holds_ofLexemes.mpr ⟨l, by simp [hls], hentry⟩⟩
  rw [List.mem_range, size_ofLexemes, hls]
  simp

/-! ## One statement -/

/-- The first token of a statement and its content among the lexemes of a template. -/
structure IsStatement (ls before : List Lexeme) (l : Lexeme) (content after : List Lexeme) :
    Prop where
  eq : ls = before ++ l :: (content ++ after)
  entry : l.kind.isEntryPoint = true
  inside : ∀ m ∈ content, endsStatement m.kind = false
  behind : ∀ m, after.head? = some m → endsStatement m.kind = true

theorem exists_isStatement {ls : List Lexeme} {e : Nat} (he : e ∈ (ofLexemes ls).entryPoints) :
    ∃ before l content after, IsStatement ls before l content after ∧ before.length = e := by
  obtain ⟨l, hl, hentry⟩ := holds_ofLexemes.mp (List.mem_filter.mp he).2
  obtain ⟨hlt, hget⟩ := List.getElem?_eq_some_iff.mp hl
  obtain ⟨test, htest⟩ : ∃ test : Lexeme → Bool, test = fun m => !endsStatement m.kind := ⟨_, rfl⟩
  refine ⟨ls.take e, l, (ls.drop (e + 1)).takeWhile test, (ls.drop (e + 1)).dropWhile test,
    ⟨?_, hentry, fun m hm => ?_, fun m hm => ?_⟩, ?_⟩
  · rw [List.takeWhile_append_dropWhile, ← hget, ← List.drop_eq_getElem_cons hlt,
      List.take_append_drop]
  · have hpass := List.all_takeWhile (p := test) (l := ls.drop (e + 1))
    have := List.all_eq_true.mp hpass m hm
    simpa [htest] using this
  · have hstop := List.head?_dropWhile_not test (ls.drop (e + 1))
    rw [hm] at hstop
    simpa [htest] using hstop
  · rw [List.length_take]
    omega

/-- The statement that a token opens. -/
theorem exists_isStatement_of_eq {ls before rest : List Lexeme} {l : Lexeme}
    (hls : ls = before ++ l :: rest) (hentry : l.kind.isEntryPoint = true) :
    ∃ content after, IsStatement ls before l content after ∧ rest = content ++ after := by
  obtain ⟨before', l', content, after, hst, hlength⟩ :=
    exists_isStatement (mem_entryPoints_of_eq hls hentry)
  obtain ⟨rfl, hrest⟩ := List.append_inj (hls.symm.trans hst.eq) hlength.symm
  obtain ⟨rfl, htail⟩ := List.cons.inj hrest
  exact ⟨content, after, hst, htail⟩

namespace IsStatement

variable {ls before content after : List Lexeme} {l : Lexeme}

theorem mem_entryPoints (h : IsStatement ls before l content after) :
    before.length ∈ (ofLexemes ls).entryPoints :=
  mem_entryPoints_of_eq h.eq h.entry

theorem kind? (h : IsStatement ls before l content after) :
    (ofLexemes ls).kind? before.length = some l.kind := by
  rw [kind?_ofLexemes, h.eq]
  simp

theorem statementEnd_eq (h : IsStatement ls before l content after) :
    (ofLexemes ls).statementEnd before.length = before.length + 1 + content.length := by
  have hends : endsStatement l.kind = false := by
    have hentry := h.entry
    revert hentry
    cases l.kind <;> simp [Kind.isEntryPoint, endsStatement]
  have hinside : ∀ i, before.length ≤ i → i < before.length + 1 + content.length →
      (ofLexemes ls).holds endsStatement i = false := by
    intro i hi hlt
    by_cases heq : i = before.length
    · exact not_holds_ofLexemes (l := l) (by rw [h.eq, heq]; simp) hends
    · obtain ⟨k, rfl⟩ : ∃ k, i = before.length + 1 + k := ⟨i - before.length - 1, by omega⟩
      have hk : k < content.length := by omega
      refine not_holds_ofLexemes (l := content[k]) ?_ (h.inside _ (List.getElem_mem hk))
      rw [h.eq, List.getElem?_append_right (by omega),
        show before.length + 1 + k - before.length = k + 1 by omega, List.getElem?_cons_succ,
        List.getElem?_append_left hk, List.getElem?_eq_getElem hk]
  have hsize : ls.length = before.length + 1 + content.length + after.length := by
    rw [h.eq]
    simp
    omega
  unfold statementEnd
  cases after with
  | nil =>
    have hnone : (ofLexemes ls).findNext endsStatement before.length (ofLexemes ls).size = none := by
      rw [findNext_eq_none_iff]
      intro i hi hlt
      rw [size_ofLexemes, hsize] at hlt
      exact hinside i hi (by simpa using hlt)
    rw [hnone, Option.getD_none, size_ofLexemes, hsize]
    rfl
  | cons m after =>
    have hsome : (ofLexemes ls).findNext endsStatement before.length (ofLexemes ls).size =
        some (before.length + 1 + content.length) := by
      refine findNext_eq_some_iff.mpr ⟨by omega, ?_, ?_, fun i hi hlt => hinside i hi hlt⟩
      · rw [size_ofLexemes, hsize]
        simp
      · refine holds_ofLexemes.mpr ⟨m, ?_, h.behind m rfl⟩
        rw [h.eq, List.getElem?_append_right (by omega),
          show before.length + 1 + content.length - before.length = content.length + 1 by omega,
          List.getElem?_cons_succ, List.getElem?_append_right (Nat.le_refl _), Nat.sub_self]
        rfl
    rw [hsome, Option.getD_some]

theorem statementRange_eq (h : IsStatement ls before l content after) :
    (ofLexemes ls).statementRange before.length =
      ⟨before.length + 1, before.length + 1 + content.length⟩ := by
  rw [statementRange, h.statementEnd_eq]

theorem lies (h : IsStatement ls before l content after) :
    (ofLexemes ls).Lies (before.length + 1) content :=
  ⟨before ++ [l], after, by rw [h.eq]; simp, by simp⟩

/-- Where the parentheses of a statement are matched inside it, what it holds is balanced. -/
theorem balanced (h : IsStatement ls before l content after)
    (hmatched : (ofLexemes ls).Matched ((ofLexemes ls).statementRange before.length)) :
    Balanced content := by
  have hls : ls = (before ++ [l]) ++ (content ++ after) := by rw [h.eq]; simp
  have hlength : (before ++ [l]).length = before.length + 1 := by simp
  refine @balanced_of_matched (before ++ [l]) content after ?_ fun m hm htag => ?_
  · rw [← hls, hlength, ← h.statementRange_eq]
    exact hmatched
  · have hends := h.inside m hm
    rw [htag] at hends
    cases hends

end IsStatement

/-! ## The comment that exempts a statement -/

/-- The last comment behind the last open tag, given what stands for it before. -/
def commentBefore : Option String → List Lexeme → Option String
  | found, [] => found
  | found, l :: ls =>
    match l.kind with
    | .openTag => commentBefore none ls
    | .comment => commentBefore (some l.text) ls
    | _ => commentBefore found ls

/-- The first comment before the first close tag. -/
def commentBehind : List Lexeme → Option String
  | [] => none
  | l :: ls =>
    match l.kind with
    | .closeTag => none
    | .comment => some l.text
    | _ => commentBehind ls

/-- The comment near the statement that a lexeme opens, given the lexemes around it. -/
def commentNear (before : List Lexeme) (l : Lexeme) (after : List Lexeme) : Option String :=
  match l.kind with
  | .echo => commentBefore none before
  | .openTagWithEcho => commentBehind after
  | _ => none

theorem commentBefore_append (found : Option String) (ls ms : List Lexeme) :
    commentBefore found (ls ++ ms) = commentBefore (commentBefore found ls) ms := by
  induction ls generalizing found with
  | nil => rfl
  | cons l ls ih =>
    simp only [List.cons_append, commentBefore]
    split <;> exact ih _

/-- Looking back for an open tag and then for a comment behind it. -/
theorem lastComment_eq (ls : List Lexeme) (n : Nat) (hn : n ≤ ls.length) :
    ∃ o, o ≤ n ∧ (lastFrom ((ofLexemes ls).holds (· == .openTag)) 0 n).getD 0 = o ∧
      (lastFrom ((ofLexemes ls).holds (· == .comment)) o (n - o)).map (ofLexemes ls).text =
        commentBefore none (ls.take n) := by
  induction n with
  | zero => exact ⟨0, Nat.le_refl 0, rfl, rfl⟩
  | succ n ih =>
    obtain ⟨o, ho, htag, hcomment⟩ := ih (by omega)
    have hl : ls[n]? = some ls[n] := List.getElem?_eq_getElem (by omega)
    have htake : ls.take (n + 1) = ls.take n ++ [ls[n]] := by simp
    have hholds := holds_getElem (show n < ls.length by omega)
    rw [htake, commentBefore_append, ← hcomment, lastFrom, Nat.zero_add, hholds]
    by_cases hopen : ls[n].kind = .openTag
    · refine ⟨n, by omega, by simp [hopen], ?_⟩
      rw [show n + 1 - n = 0 + 1 by omega, lastFrom, Nat.add_zero, hholds, hopen]
      simp [lastFrom, commentBefore, hopen]
    · refine ⟨o, by omega, by simpa [hopen] using htag, ?_⟩
      rw [show n + 1 - o = n - o + 1 by omega, lastFrom, show o + (n - o) = n by omega, hholds]
      by_cases hkind : ls[n].kind = .comment
      · have htext : (ofLexemes ls).text n = ls[n].text := by rw [text_ofLexemes, hl]; rfl
        simp [commentBefore, hkind, htext]
      · have hstep : ∀ found, commentBefore found [ls[n]] = found := by
          intro found
          rw [commentBefore]
          split
          · exact absurd ‹_› hopen
          · exact absurd ‹_› hkind
          · rfl
        simp [hstep, hkind]

/-- The number of tokens up to the next close tag, token by token. -/
theorem tokensToCloseTag_succ {ls : List Lexeme} {n i : Nat} (hn : i + (n + 1) = ls.length) :
    (firstFrom ((ofLexemes ls).holds (· == .closeTag)) i (n + 1)).getD ls.length - i =
      if (ofLexemes ls).holds (· == .closeTag) i then 0
      else (firstFrom ((ofLexemes ls).holds (· == .closeTag)) (i + 1) n).getD ls.length -
        (i + 1) + 1 := by
  rw [firstFrom]
  split
  · exact Nat.sub_self i
  · have hnext : i + 1 ≤ (firstFrom ((ofLexemes ls).holds (· == .closeTag)) (i + 1) n).getD
        ls.length := by
      cases hfind : firstFrom ((ofLexemes ls).holds (· == .closeTag)) (i + 1) n with
      | none => exact (by omega : i + 1 ≤ ls.length)
      | some j => exact (firstFrom_eq_some_iff.mp hfind).1
    omega

/-- Looking forward for a close tag and then for a comment before it. -/
theorem firstComment_eq (ls : List Lexeme) (n i : Nat) (hn : i + n = ls.length) :
    (firstFrom ((ofLexemes ls).holds (· == .comment)) i
        ((firstFrom ((ofLexemes ls).holds (· == .closeTag)) i n).getD ls.length - i)).map
          (ofLexemes ls).text = commentBehind (ls.drop i) := by
  induction n generalizing i with
  | zero =>
    rw [List.drop_eq_nil_of_le (by omega), firstFrom, Option.getD_none, Nat.sub_eq_zero_of_le
      (by omega)]
    rfl
  | succ n ih =>
    have hlt : i < ls.length := by omega
    have hl : ls[i]? = some ls[i] := List.getElem?_eq_getElem hlt
    have hholds := holds_getElem hlt
    rw [List.drop_eq_getElem_cons hlt, tokensToCloseTag_succ hn, hholds]
    by_cases hclose : ls[i].kind = .closeTag
    · simp [hclose, commentBehind, firstFrom]
    · rw [if_neg (by simpa using hclose), firstFrom, hholds]
      by_cases hkind : ls[i].kind = .comment
      · have htext : (ofLexemes ls).text i = ls[i].text := by rw [text_ofLexemes, hl]; rfl
        simp [commentBehind, hkind, htext]
      · rw [if_neg (by simpa using hkind), ih (i + 1) (by omega), commentBehind]
        split
        · exact absurd ‹_› hclose
        · exact absurd ‹_› hkind
        · rfl

/-- The text of the comment near a statement. -/
theorem text_commentNear? (before : List Lexeme) (l : Lexeme) (after : List Lexeme) :
    ((ofLexemes (before ++ l :: after)).commentNear? before.length).map
      (ofLexemes (before ++ l :: after)).text = commentNear before l after := by
  obtain ⟨ls, hls⟩ : ∃ ls, ls = before ++ l :: after := ⟨_, rfl⟩
  have hsize : ls.length = before.length + 1 + after.length := by
    rw [hls]
    simp
    omega
  have hkind : (ofLexemes ls).kind? before.length = some l.kind := by
    rw [kind?_ofLexemes, hls]
    simp
  rw [← hls, commentNear?, hkind]
  unfold commentNear
  cases hl : l.kind with
  | echo =>
    obtain ⟨o, _, htag, hcomment⟩ := lastComment_eq ls (before.length + 1) (by omega)
    have htake : ls.take (before.length + 1) = before ++ [l] := by
      rw [hls, List.take_append, List.take_of_length_le (by omega)]
      simp
    have hmin : min (before.length + 1) ls.length = before.length + 1 := by omega
    have hskip : commentBefore none (before ++ [l]) = commentBefore none before := by
      rw [commentBefore_append]
      simp [commentBefore, hl]
    simp only [findPrevious, lastIn, size_ofLexemes, hmin, Nat.sub_zero, htag]
    rw [hcomment, htake, hskip]
  | openTagWithEcho =>
    have hcomment := firstComment_eq ls (after.length + 1) before.length (by omega)
    have hdrop : ls.drop before.length = l :: after := by simp [hls]
    have hskip : commentBehind (l :: after) = commentBehind after := by simp [commentBehind, hl]
    have hlength : ls.length - before.length = after.length + 1 := by omega
    simp only [findNext, firstIn, size_ofLexemes, Nat.min_self, hlength]
    have hle : (firstFrom ((ofLexemes ls).holds (· == .closeTag)) before.length
        (after.length + 1)).getD ls.length ≤ ls.length := by
      cases hfind : firstFrom ((ofLexemes ls).holds (· == .closeTag)) before.length
          (after.length + 1) with
      | none => exact Nat.le_refl _
      | some j =>
        have := (firstFrom_eq_some_iff.mp hfind).2.1
        simp only [Option.getD_some]
        omega
    rw [Nat.min_eq_left hle, hcomment, hdrop, hskip]
  | _ => rfl

/-- A comment exempts the statement that a token opens. -/
def Exempt (s : Stream) (entry : Nat) : Prop := ∃ comment, s.gate .standard entry = .suppressed comment

instance (s : Stream) (entry : Nat) : Decidable (s.Exempt entry) :=
  match h : s.gate .standard entry with
  | .suppressed comment => isTrue ⟨comment, h⟩
  | .absent => isFalse fun ⟨_, h'⟩ => by rw [h] at h'; cases h'
  | .disallowed _ => isFalse fun ⟨_, h'⟩ => by rw [h] at h'; cases h'

theorem exempt_iff (before : List Lexeme) (l : Lexeme) (after : List Lexeme) :
    (ofLexemes (before ++ l :: after)).Exempt before.length ↔
      ∃ text, commentNear before l after = some text ∧
        RuleSet.standard.isExemption text = true := by
  rw [← text_commentNear?]
  unfold Exempt gate
  cases (ofLexemes (before ++ l :: after)).commentNear? before.length with
  | none => simp
  | some comment =>
    simp only [Option.map_some]
    split <;> simp_all

end Stream

/-! ## Chunks that leave the statements alone -/

/-- Whether a kind neither opens nor ends a statement and does not matter for its exemption. -/
def Kind.isLoose (k : Kind) : Bool :=
  !k.isEntryPoint && !Stream.endsStatement k && k != .openTag && k != .comment

/-- The text of the comment that exempts a statement. -/
def exemptionText : String := "/* @noEscape */"

/-- A lexeme of a loose kind or a comment that exempts. -/
def Loose (l : Lexeme) : Prop := l.kind.isLoose = true ∨ l = ⟨.comment, exemptionText⟩

/-- Chunks that have no statements of their own and leave those of a template. -/
structure Follows (ls : List Lexeme) (chunk : Nat → Lexeme → List Lexeme) : Prop where
  loose : ∀ i l, ls[i]? = some l → l.kind.isLoose = true → ∀ m ∈ chunk i l, Loose m
  entry : ∀ i l, ls[i]? = some l → l.kind.isEntryPoint = true →
    ∃ pre, chunk i l = pre ++ [l] ∧ ∀ m ∈ pre, Loose m
  fixed : ∀ i l, ls[i]? = some l → l.kind.isLoose = false → l.kind.isEntryPoint = false →
    ∃ post, chunk i l = l :: post ∧ ∀ m ∈ post, Loose m

theorem Loose.not_isEntryPoint {l : Lexeme} (h : Loose l) : l.kind.isEntryPoint = false := by
  rcases h with h | rfl
  · revert h
    cases l.kind <;> simp [Kind.isLoose, Kind.isEntryPoint]
  · rfl

theorem Loose.not_openTag {l : Lexeme} (h : Loose l) : l.kind ≠ .openTag := by
  rcases h with h | rfl
  · intro hkind
    rw [hkind] at h
    cases h
  · decide

theorem Loose.not_endsStatement {l : Lexeme} (h : Loose l) :
    Stream.endsStatement l.kind = false := by
  rcases h with h | rfl
  · revert h
    cases l.kind <;> simp [Kind.isLoose, Stream.endsStatement]
  · rfl

/-- A lexeme that the search for a comment behind a tag passes, or a comment that exempts. -/
def Passed (l : Lexeme) : Prop :=
  l.kind ≠ .closeTag ∧ (l.kind = .comment → l.text = exemptionText)

theorem Loose.passed {l : Lexeme} (h : Loose l) : Passed l := by
  rcases h with h | rfl
  · constructor <;> intro hkind <;> rw [hkind] at h <;> cases h
  · exact ⟨by decide, fun _ => rfl⟩

/-- The comment near a statement is the one from before or one that exempts. -/
def Near (old new : Option String) : Prop := new = old ∨ new = some exemptionText

namespace Stream

theorem isExemption_exemptionText : RuleSet.standard.isExemption exemptionText = true := by
  decide +kernel

theorem commentBefore_loose {ms : List Lexeme} (h : ∀ m ∈ ms, Loose m) {old new : Option String}
    (hnear : Near old new) : Near old (commentBefore new ms) := by
  induction ms generalizing new with
  | nil => exact hnear
  | cons m ms ih =>
    have ih := fun {new} => @ih (fun k hk => h k (by simp [hk])) new
    rcases h m (by simp) with hm | rfl
    · rw [commentBefore]
      split
      · rename_i hkind
        rw [hkind] at hm
        cases hm
      · rename_i hkind
        rw [hkind] at hm
        cases hm
      · exact ih hnear
    · exact ih (.inr rfl)

theorem commentBehind_passed {ms rest : List Lexeme} (h : ∀ m ∈ ms, Passed m) {old : Option String}
    (hnear : Near old (commentBehind rest)) : Near old (commentBehind (ms ++ rest)) := by
  induction ms with
  | nil => exact hnear
  | cons m ms ih =>
    have ih := ih fun k hk => h k (by simp [hk])
    obtain ⟨htag, hcomment⟩ := h m (by simp)
    rw [List.cons_append, commentBehind]
    split
    · exact absurd ‹_› htag
    · exact .inr (congrArg some (hcomment ‹_›))
    · exact ih

theorem commentBehind_loose {ms rest : List Lexeme} (h : ∀ m ∈ ms, Loose m) {old : Option String}
    (hnear : Near old (commentBehind rest)) : Near old (commentBehind (ms ++ rest)) :=
  commentBehind_passed (fun m hm => (h m hm).passed) hnear

theorem commentBefore_cons_loose {l : Lexeme} (h : l.kind.isLoose = true ∨ l.kind.isEntryPoint = true)
    (found : Option String) (ls : List Lexeme) :
    commentBefore found (l :: ls) = commentBefore found ls := by
  revert h
  cases hkind : l.kind <;> simp [commentBefore, hkind, Kind.isLoose, Kind.isEntryPoint]

theorem commentBehind_cons_loose {l : Lexeme} (h : l.kind.isLoose = true ∨ l.kind.isEntryPoint = true)
    (ls : List Lexeme) : commentBehind (l :: ls) = commentBehind ls := by
  revert h
  cases hkind : l.kind <;>
    simp [commentBehind, hkind, Kind.isLoose, Kind.isEntryPoint, endsStatement]

theorem commentBefore_near (l : Lexeme) {old new : Option String} (hnear : Near old new) :
    Near (commentBefore old [l]) (commentBefore new [l]) := by
  simp only [commentBefore]
  split
  · exact .inl rfl
  · exact .inl rfl
  · exact hnear

/-- The tokens that open a statement, from an index on. -/
def entriesFrom : Nat → List Lexeme → List Nat
  | _, [] => []
  | i, l :: ls => (if l.kind.isEntryPoint then [i] else []) ++ entriesFrom (i + 1) ls

theorem entriesFrom_append (i : Nat) (ls ms : List Lexeme) :
    entriesFrom i (ls ++ ms) = entriesFrom i ls ++ entriesFrom (i + ls.length) ms := by
  induction ls generalizing i with
  | nil => rfl
  | cons l ls ih =>
    rw [List.cons_append, entriesFrom, entriesFrom, ih, List.append_assoc, List.length_cons]
    congr 3
    omega

theorem entriesFrom_loose {ms : List Lexeme} (h : ∀ m ∈ ms, Loose m) (i : Nat) :
    entriesFrom i ms = [] := by
  induction ms generalizing i with
  | nil => rfl
  | cons m ms ih =>
    rw [entriesFrom, (h m (by simp)).not_isEntryPoint, ih fun k hk => h k (by simp [hk])]
    rfl

theorem entryPoints_eq (ls : List Lexeme) : (ofLexemes ls).entryPoints = entriesFrom 0 ls := by
  have hfrom : ∀ front rest, ls = front ++ rest →
      (List.range' front.length rest.length).filter ((ofLexemes ls).holds Kind.isEntryPoint) =
        entriesFrom front.length rest := by
    intro front rest hls
    induction rest generalizing front with
    | nil => rfl
    | cons l rest ih =>
      have hl : ls[front.length]? = some l := by simp [hls]
      have hrest := ih (front ++ [l]) (by simp [hls])
      rw [List.length_append, List.length_singleton] at hrest
      rw [List.length_cons, List.range'_succ, List.filter_cons, hrest, entriesFrom]
      cases hentry : l.kind.isEntryPoint with
      | true => rw [if_pos (holds_ofLexemes.mpr ⟨l, hl, hentry⟩)]; rfl
      | false => rw [not_holds_ofLexemes hl hentry]; rfl
  rw [entryPoints, size_ofLexemes, List.range_eq_range']
  exact hfrom [] ls rfl

/-- The tokens that open statements correspond one by one where those of every token and of its chunk
do. -/
theorem forall₂_entryPoints_weave {R : Nat → Nat → Prop} {ls : List Lexeme}
    {chunk : Nat → Lexeme → List Lexeme}
    (h : ∀ before l after, ls = before ++ l :: after →
      List.Forall₂ R (if l.kind.isEntryPoint then [before.length] else [])
        (entriesFrom (weave chunk 0 before).length (chunk before.length l))) :
    List.Forall₂ R (ofLexemes ls).entryPoints (ofLexemes (weave chunk 0 ls)).entryPoints := by
  have hfrom : ∀ front rest, ls = front ++ rest →
      List.Forall₂ R (entriesFrom front.length rest)
        (entriesFrom (weave chunk 0 front).length (weave chunk front.length rest)) := by
    intro front rest hls
    induction rest generalizing front with
    | nil => exact .nil
    | cons l rest ih =>
      have hrest := ih (front ++ [l]) (by simp [hls])
      rw [weave_append, Nat.zero_add, List.length_append, List.length_append, weave, weave,
        List.append_nil, List.length_singleton] at hrest
      rw [weave, entriesFrom_append, entriesFrom]
      exact List.rel_append (h front l rest hls) hrest
  rw [entryPoints_eq, entryPoints_eq]
  exact hfrom [] ls rfl

end Stream

namespace Follows

open EscapeAudit.Stream

variable {ls : List Lexeme} {chunk : Nat → Lexeme → List Lexeme}

theorem commentBefore_weave (h : Follows ls chunk) {front part back : List Lexeme}
    (hls : ls = front ++ (part ++ back)) {old new : Option String} (hnear : Near old new) :
    Near (commentBefore old part) (commentBefore new (weave chunk front.length part)) := by
  induction part generalizing front old new with
  | nil => exact hnear
  | cons l part ih =>
    have hl : ls[front.length]? = some l := by simp [hls]
    have ih := fun {old new} => @ih (front ++ [l]) (by simp [hls]) old new
    rw [List.length_append, List.length_singleton] at ih
    rw [weave, commentBefore_append]
    have hstep : commentBefore old (l :: part) = commentBefore (commentBefore old [l]) part :=
      commentBefore_append old [l] part
    rw [hstep]
    refine ih ?_
    cases hloose : l.kind.isLoose with
    | true =>
      rw [commentBefore_cons_loose (.inl hloose)]
      exact commentBefore_loose (h.loose _ l hl hloose) hnear
    | false =>
      cases hentry : l.kind.isEntryPoint with
      | true =>
        obtain ⟨pre, hpre, hpreloose⟩ := h.entry _ l hl hentry
        rw [hpre, commentBefore_append, commentBefore_cons_loose (.inr hentry),
          commentBefore_cons_loose (.inr hentry)]
        exact commentBefore_loose hpreloose hnear
      | false =>
        obtain ⟨post, hpost, hpostloose⟩ := h.fixed _ l hl hloose hentry
        have hnew : commentBefore new (l :: post) = commentBefore (commentBefore new [l]) post :=
          commentBefore_append new [l] post
        rw [hpost, hnew]
        exact commentBefore_loose hpostloose (commentBefore_near l hnear)

theorem commentBehind_weave (h : Follows ls chunk) {front part : List Lexeme}
    (hls : ls = front ++ part) :
    Near (commentBehind part) (commentBehind (weave chunk front.length part)) := by
  induction part generalizing front with
  | nil => exact .inl rfl
  | cons l part ih =>
    have hl : ls[front.length]? = some l := by simp [hls]
    have ih := @ih (front ++ [l]) (by simp [hls])
    rw [List.length_append, List.length_singleton] at ih
    rw [weave]
    cases hloose : l.kind.isLoose with
    | true =>
      rw [commentBehind_cons_loose (.inl hloose)]
      exact commentBehind_loose (h.loose _ l hl hloose) ih
    | false =>
      cases hentry : l.kind.isEntryPoint with
      | true =>
        obtain ⟨pre, hpre, hpreloose⟩ := h.entry _ l hl hentry
        rw [hpre, List.append_assoc, commentBehind_cons_loose (.inr hentry)]
        refine commentBehind_loose hpreloose ?_
        rw [List.singleton_append, commentBehind_cons_loose (.inr hentry)]
        exact ih
      | false =>
        obtain ⟨post, hpost, hpostloose⟩ := h.fixed _ l hl hloose hentry
        rw [hpost, List.cons_append, commentBehind, commentBehind]
        split
        · exact .inl rfl
        · exact .inl rfl
        · exact commentBehind_loose hpostloose ih

theorem not_endsStatement (h : Follows ls chunk) {front part back : List Lexeme}
    (hls : ls = front ++ (part ++ back)) (hpart : ∀ l ∈ part, endsStatement l.kind = false) :
    ∀ m ∈ weave chunk front.length part, endsStatement m.kind = false := by
  induction part generalizing front with
  | nil => intro m hm; cases hm
  | cons l part ih =>
    have hl : ls[front.length]? = some l := by simp [hls]
    have hlends := hpart l (by simp)
    have ih := @ih (front ++ [l]) (by simp [hls]) fun k hk => hpart k (by simp [hk])
    rw [List.length_append, List.length_singleton] at ih
    intro m hm
    rw [weave, List.mem_append] at hm
    rcases hm with hm | hm
    · cases hloose : l.kind.isLoose with
      | true => exact (h.loose _ l hl hloose m hm).not_endsStatement
      | false =>
        cases hentry : l.kind.isEntryPoint with
        | true =>
          obtain ⟨pre, hpre, hpreloose⟩ := h.entry _ l hl hentry
          rw [hpre, List.mem_append, List.mem_singleton] at hm
          rcases hm with hm | rfl
          · exact (hpreloose m hm).not_endsStatement
          · exact hlends
        | false =>
          obtain ⟨post, hpost, hpostloose⟩ := h.fixed _ l hl hloose hentry
          rw [hpost, List.mem_cons] at hm
          rcases hm with rfl | hm
          · exact hlends
          · exact (hpostloose m hm).not_endsStatement
    · exact ih m hm

/-- A statement of a template where each token is replaced by its chunk. -/
theorem isStatement (h : Follows ls chunk) {before content after pre : List Lexeme} {l : Lexeme}
    (hst : IsStatement ls before l content after) (hpre : chunk before.length l = pre ++ [l]) :
    IsStatement (weave chunk 0 ls) (weave chunk 0 before ++ pre) l
      (weave chunk (before.length + 1) content)
      (weave chunk (before.length + 1 + content.length) after) := by
  have hls : ls = (before ++ [l]) ++ (content ++ after) := by rw [hst.eq]; simp
  refine ⟨?_, hst.entry, ?_, fun m hm => ?_⟩
  · rw [hst.eq, weave_append, weave, weave_append, Nat.zero_add, hpre]
    simp
  · have hinside := h.not_endsStatement hls hst.inside
    rwa [List.length_append, List.length_singleton] at hinside
  · cases after with
    | nil => cases hm
    | cons k after =>
      have hk : ls[before.length + 1 + content.length]? = some k := by
        rw [hst.eq, List.getElem?_append_right (by omega),
          show before.length + 1 + content.length - before.length = content.length + 1 by omega,
          List.getElem?_cons_succ, List.getElem?_append_right (Nat.le_refl _), Nat.sub_self]
        rfl
      have hkends := hst.behind k rfl
      have hkfixed : k.kind.isLoose = false ∧ k.kind.isEntryPoint = false := by
        revert hkends
        cases k.kind <;> simp [endsStatement, Kind.isLoose, Kind.isEntryPoint]
      obtain ⟨post, hpost, _⟩ := h.fixed _ k hk hkfixed.1 hkfixed.2
      rw [weave, hpost] at hm
      obtain rfl : k = m := Option.some.inj hm
      exact hkends

theorem near_commentNear (h : Follows ls chunk) {before after pre : List Lexeme} {l : Lexeme}
    (hls : ls = before ++ l :: after) (hpre : ∀ m ∈ pre, Loose m) :
    Near (commentNear before l after)
      (commentNear (weave chunk 0 before ++ pre) l (weave chunk (before.length + 1) after)) := by
  unfold commentNear
  split
  · rw [commentBefore_append]
    have hls' : ls = [] ++ (before ++ l :: after) := hls
    exact commentBefore_loose hpre (h.commentBefore_weave hls' (.inl rfl))
  · have hls' : ls = (before ++ [l]) ++ after := by rw [hls]; simp
    have hbehind := h.commentBehind_weave hls'
    rwa [List.length_append, List.length_singleton] at hbehind
  · exact .inl rfl

/-- A statement that is exempt stays so. -/
theorem exempt (h : Follows ls chunk) {before after pre : List Lexeme} {l : Lexeme}
    (hls : ls = before ++ l :: after) (hpre : chunk before.length l = pre ++ [l])
    (hloose : ∀ m ∈ pre, Loose m) (hexempt : (ofLexemes ls).Exempt before.length) :
    (ofLexemes (weave chunk 0 ls)).Exempt (weave chunk 0 before ++ pre).length := by
  have hnew : weave chunk 0 ls =
      (weave chunk 0 before ++ pre) ++ l :: weave chunk (before.length + 1) after := by
    rw [hls, weave_append, weave, Nat.zero_add, hpre]
    simp
  rw [hls, exempt_iff] at hexempt
  obtain ⟨text, htext, hexempts⟩ := hexempt
  rw [hnew, exempt_iff]
  rcases h.near_commentNear hls hloose with hsame | hmark
  · exact ⟨text, hsame.trans htext, hexempts⟩
  · exact ⟨_, hmark, isExemption_exemptionText⟩

/-- The place of a token that opens a statement, before and after. -/
def Moves (ls : List Lexeme) (chunk : Nat → Lexeme → List Lexeme) (e e' : Nat) : Prop :=
  ∃ before l after pre, ls = before ++ l :: after ∧ before.length = e ∧
    l.kind.isEntryPoint = true ∧ chunk e l = pre ++ [l] ∧ (∀ m ∈ pre, Loose m) ∧
    (weave chunk 0 before ++ pre).length = e'

/-- The statements of a template and of the one with chunks correspond one by one. -/
theorem forall₂_entryPoints (h : Follows ls chunk) :
    List.Forall₂ (Moves ls chunk) (ofLexemes ls).entryPoints
      (ofLexemes (weave chunk 0 ls)).entryPoints := by
  refine forall₂_entryPoints_weave fun before l after hls => ?_
  have hl : ls[before.length]? = some l := by simp [hls]
  cases hentry : l.kind.isEntryPoint with
  | true =>
    obtain ⟨pre, hpre, hpreloose⟩ := h.entry _ l hl hentry
    rw [hpre, entriesFrom_append, entriesFrom_loose hpreloose, entriesFrom, hentry,
      List.nil_append]
    refine .cons ⟨before, l, after, pre, hls, rfl, hentry, hpre, hpreloose, ?_⟩ .nil
    rw [List.length_append]
  | false =>
    have hnone : entriesFrom (weave chunk 0 before).length (chunk before.length l) = [] := by
      cases hloose : l.kind.isLoose with
      | true => exact entriesFrom_loose (h.loose _ l hl hloose) _
      | false =>
        obtain ⟨post, hpost, hpostloose⟩ := h.fixed _ l hl hloose hentry
        rw [hpost, entriesFrom, hentry, entriesFrom_loose hpostloose]
        rfl
    rw [hnone]
    exact .nil

/-- Where a statement goes. -/
theorem Moves.isStatement {e e' : Nat} (h : Moves ls chunk e e') :
    ∃ before l content after pre, IsStatement ls before l content after ∧ before.length = e ∧
      chunk e l = pre ++ [l] ∧ (∀ m ∈ pre, Loose m) ∧ (weave chunk 0 before ++ pre).length = e' := by
  obtain ⟨before, l, after, pre, hls, rfl, hentry, hpre, hloose, hlength⟩ := h
  obtain ⟨content, after, hst, _⟩ := exists_isStatement_of_eq hls hentry
  exact ⟨before, l, content, after, pre, hst, rfl, hpre, hloose, hlength⟩

theorem Moves.mem_entryPoints {e e' : Nat} (h : Moves ls chunk e e') :
    e ∈ (ofLexemes ls).entryPoints := by
  obtain ⟨before, l, after, pre, hls, rfl, hentry, _⟩ := h
  exact mem_entryPoints_of_eq hls hentry

end Follows

end EscapeAudit
