import EscapeAudit.Proofs.Alike
import EscapeAudit.Proofs.ClosingLine
import EscapeAudit.Proofs.Marks

/-!
# Receivers of escaping calls

The fixes for escaping through the block put the escaper in the place of `$block`.  Inside a statement
a token with the text of the block is a variable (`Spells.block`), so every fix of a template can be
made (`sound_fixes`).  The swaps can be made first, and the fixes for output to what comes out
(`weave_eq_insertions`).

A call is made on the block when the last receiver before it is the block.  Whether a statement has no
such call can be read off its tokens (`Clean`, `clean_statement_iff`).  The calls that the fixes for
output bring are made on the escaper, so they leave a statement clean (`Clean.weave`).
-/

namespace EscapeAudit

open Lexer

namespace Lexer

/-! ## The text of the block -/

/-- What is known of the heredoc that is being scanned: its body, if there is one, has a line end, and
its closing label has no `$`. -/
def Mode.Told (cs : List Char) : Mode → Prop
  | .heredoc body closer => (body ≠ 0 → '\n' ∈ cs.take body) ∧ '$' ∉ (cs.drop body).take closer
  | _ => True

theorem Mode.Holds.told {mode : Mode} {cs : List Char} (h : mode.Holds cs) : mode.Told cs := by
  cases mode with
  | markup => trivial
  | code => trivial
  | heredoc body closer =>
    obtain ⟨text, padding, label, rest, rfl, rfl, hstart, hpadding, hlabel, rfl⟩ := h
    constructor
    · intro hbody
      have hne : text ≠ [] := List.ne_nil_of_length_pos (Nat.pos_of_ne_zero hbody)
      rw [startsLine, List.getLast?_eq_some_getLast hne] at hstart
      rw [List.take_left, ← show text.getLast hne = '\n' from beq_iff_eq.mp hstart]
      exact List.getLast_mem hne
    · rw [List.drop_left, ← List.append_assoc, ← List.length_append, List.take_left]
      intro hmem
      rcases List.mem_append.mp hmem with hmem | hmem
      · exact absurd (hpadding _ hmem) (by decide)
      · exact absurd (hlabel.part _ hmem) (by decide)

theorem told_cutNext {s : State} {c : Char} {rest : List Char} {cut : Cut}
    (hs : s.mode.Told (c :: rest)) (h : cutNext s c rest = .ok cut) :
    cut.mode.Told (rest.drop cut.more) := by
  unfold cutNext at h
  split at h
  · cases h
    unfold cutMarkup
    split <;> trivial
  · unfold cutCode at h
    split at h
    · cases h; trivial
    · exact (holds_cutToken h).told
  · rename_i body closer hmode
    rw [hmode] at hs
    unfold cutHeredocPart at h
    split at h
    · cases h; trivial
    · rename_i hbody
      dsimp only at h
      split at h <;> cases h
      refine ⟨fun hzero => absurd rfl hzero, ?_⟩
      obtain ⟨n, rfl⟩ := Nat.exists_eq_succ_of_ne_zero (by simpa using hbody : body ≠ 0)
      exact hs.2

/-- Outside markup, a lexeme with the text of the block is the block. -/
theorem cutNext_block {s : State} {more rest : List Char} {cut : Cut}
    (hs : s.mode.Told ('$' :: (more ++ rest))) (hkind : cut.kind ≠ .inlineHtml)
    (h : cutNext s '$' (more ++ rest) = .ok cut) (hmore : cut.more = more.length)
    (htext : more = "block".toList) : cut.kind = .variable := by
  subst htext
  unfold cutNext at h
  split at h
  · cases h
    exact absurd rfl hkind
  · cases (show inCode .variable _ = .ok cut from h)
    rfl
  · rename_i body closer hheredoc
    rw [hheredoc] at hs
    unfold cutHeredocPart at h
    split at h
    · rename_i hbody
      cases h
      obtain rfl : closer = 6 := by
        have hlength : closer - 1 = 5 := hmore
        omega
      obtain rfl : body = 0 := by simpa using hbody
      exact absurd (by simp) hs.2
    · rename_i hbody
      dsimp only at h
      split at h <;> cases h
      obtain rfl : body = 6 := by
        have hlength : body - 1 = 5 := hmore
        omega
      have hline := hs.1 (by decide)
      rw [show List.take 6 ('$' :: ("block".toList ++ rest)) = "$block".toList from rfl] at hline
      exact absurd hline (by decide)

theorem Spells.block {s t : State} {ls : List Lexeme} {tail : List Char} (h : Spells s ls tail t)
    (hs : s.mode.Told (chars ls ++ tail)) {l : Lexeme} (hl : l ∈ ls) (htext : l.text = blockAccessor)
    (hkind : l.kind ≠ .inlineHtml) : l = blockVariable := by
  induction h with
  | done => cases hl
  | @step s t c more tail kind mode ls _ hcut _ ih =>
    rw [chars_cons, String.toList_ofList, List.cons_append, List.cons_append, List.append_assoc] at hs
    rcases List.mem_cons.mp hl with rfl | hl
    · obtain ⟨rfl, rfl⟩ : c = '$' ∧ more = "block".toList := by
        have hchars := congrArg String.toList htext
        rw [String.toList_ofList] at hchars
        exact List.cons.inj hchars
      have hvariable := cutNext_block hs hkind hcut rfl rfl
      dsimp only at hvariable
      rw [hvariable]
      rfl
    · refine ih ?_ hl
      have htold := told_cutNext hs hcut
      simpa [State.after] using htold
  | @paren s t tail ls hmode _ ih =>
    rcases List.mem_cons.mp hl with rfl | hl
    · exact absurd htext (by decide)
    · exact ih trivial hl

end Lexer

namespace Stream

/-! ## The fixes for receivers -/

theorem not_isInsertion_of_mem_legacyFixes {s : Stream} {checked : Bool} {e : Nat} {f : Fix}
    (hf : f ∈ s.legacyFixes checked e) : f.isInsertion = false := by
  rcases List.mem_append.mp hf with hf | hf
  · obtain ⟨_, _, rfl⟩ := List.mem_map.mp hf
    rfl
  · split at hf
    · rw [List.mem_singleton.mp hf]
      rfl
    · cases hf

/-- The insertions among the fixes of a template are its fixes for output. -/
theorem filter_isInsertion_fixes (s : Stream) (output legacy fixing : Bool) :
    (s.fixes ⟨output, legacy, fixing⟩).filter Fix.isInsertion =
      if output then s.allOutputFixes else [] := by
  have houtput : ∀ e, (if output then s.outputFixes e else []).filter Fix.isInsertion =
      if output then s.outputFixes e else [] := by
    intro e
    refine List.filter_eq_self.mpr fun f hf => ?_
    split at hf
    · exact (span_of_mem_outputFixes hf).1
    · cases hf
  have hlegacy : ∀ checked e, (if legacy then s.legacyFixes checked e else []).filter
      Fix.isInsertion = [] := by
    intro checked e
    refine List.filter_eq_nil_iff.mpr fun f hf => ?_
    split at hf
    · simp [not_isInsertion_of_mem_legacyFixes hf]
    · cases hf
  have hfrom : ∀ (es : List Nat) (checked : Bool),
      (s.fixesFrom ⟨output, legacy, fixing⟩ checked es).filter Fix.isInsertion =
        es.flatMap fun e => if output then s.outputFixes e else [] := by
    intro es
    induction es with
    | nil => intro checked; rfl
    | cons e es ih =>
      intro checked
      rw [fixesFrom, List.filter_append, List.filter_append, ih, hlegacy, List.nil_append,
        List.flatMap_cons, houtput]
  rw [fixes, hfrom]
  cases output with
  | true => rfl
  | false => exact List.flatMap_eq_nil_iff.mpr fun _ _ => rfl

theorem mem_allOutputFixes_of_isInsertion {s : Stream} {output legacy fixing : Bool} {f : Fix}
    (hf : f ∈ s.fixes ⟨output, legacy, fixing⟩) (hinsertion : f.isInsertion = true) :
    f ∈ s.allOutputFixes := by
  have hmem := List.mem_filter.mpr ⟨hf, hinsertion⟩
  rw [filter_isInsertion_fixes] at hmem
  cases output with
  | true => exact hmem
  | false => cases hmem

theorem swap_mem_fixes_iff {s : Stream} {output fixing : Bool} {place : Nat} :
    .swap place ∈ s.fixes ⟨output, true, fixing⟩ ↔ ∃ e ∈ s.entryPoints,
      ∃ call ∈ s.escapeCalls .standard e, s.blockReceiver? .standard e call = some place := by
  have hfrom : ∀ (es : List Nat) (checked : Bool),
      .swap place ∈ s.fixesFrom ⟨output, true, fixing⟩ checked es ↔ ∃ e ∈ es,
        ∃ call ∈ s.escapeCalls .standard e, s.blockReceiver? .standard e call = some place := by
    intro es
    induction es with
    | nil => intro checked; simp [fixesFrom]
    | cons e es ih =>
      intro checked
      have houtput : .swap place ∉ if output then s.outputFixes e else [] := fun hf => by
        split at hf
        · cases (span_of_mem_outputFixes hf).1
        · cases hf
      have hlegacy : .swap place ∈ s.legacyFixes checked e ↔
          ∃ call ∈ s.escapeCalls .standard e, s.blockReceiver? .standard e call = some place := by
        rw [legacyFixes, List.mem_append]
        constructor
        · rintro (h | h)
          · simpa using h
          · split at h
            · simp at h
            · cases h
        · intro h
          exact .inl (by simpa using h)
      simp only [fixesFrom, if_true, List.mem_append, houtput, hlegacy, ih, false_or,
        List.exists_mem_cons_iff]
  exact hfrom _ _

/-- Whether a statement has an escaping call. -/
def callsEscaper (s : Stream) : Bool :=
  s.entryPoints.any fun e => !(s.escapeCalls .standard e).isEmpty

/-- The header is declared once, if a statement has an escaping call and the header lacks the
declaration. -/
theorem count_declare_fixes (s : Stream) (output fixing : Bool) :
    (s.fixes ⟨output, true, fixing⟩).count .declare =
      if s.lacksDeclaration && s.callsEscaper then 1 else 0 := by
  have houtput : ∀ e, (if output then s.outputFixes e else []).count .declare = 0 := by
    intro e
    refine List.count_eq_zero.mpr fun hf => ?_
    split at hf
    · cases (span_of_mem_outputFixes hf).1
    · cases hf
  have hlegacy : ∀ checked e, (s.legacyFixes checked e).count .declare =
      if s.declaresAt checked e then 1 else 0 := by
    intro checked e
    rw [legacyFixes, List.count_append, List.count_eq_zero.mpr (by simp), Nat.zero_add]
    split <;> rfl
  have hfrom : ∀ (es : List Nat) (checked : Bool),
      (s.fixesFrom ⟨output, true, fixing⟩ checked es).count .declare =
        if !checked && (s.lacksDeclaration &&
          es.any fun e => !(s.escapeCalls .standard e).isEmpty) then 1 else 0 := by
    intro es
    induction es with
    | nil => intro checked; simp [fixesFrom]
    | cons e es ih =>
      intro checked
      rw [fixesFrom, List.count_append, List.count_append, if_pos rfl, houtput, hlegacy,
        ih, List.any_cons, declaresAt]
      cases hcalls : (s.escapeCalls .standard e).isEmpty <;> cases checked <;>
        cases s.lacksDeclaration <;> simp
  exact hfrom _ _

theorem blockReceiver?_eq_some {s : Stream} {rules : RuleSet} {e call i : Nat}
    (h : s.blockReceiver? rules e call = some i) :
    lastIn (s.isReceiver rules) e call = some i ∧ s.text i = blockAccessor := by
  unfold blockReceiver? at h
  split at h
  · split at h
    · cases h
      exact ⟨‹_›, by simpa using ‹(s.text i == blockAccessor) = true›⟩
    · cases h
  · cases h

theorem mem_escapeCalls_iff {s : Stream} {rules : RuleSet} {e call : Nat} :
    call ∈ s.escapeCalls rules e ↔ e ≤ call ∧ call < s.statementEnd e ∧
      rules.isLegacyEscapeMethod (s.text call) = true := by
  rw [escapeCalls, List.mem_filter, List.mem_range'_1, and_assoc]
  constructor
  · rintro ⟨hle, hlt, hmethod⟩
    exact ⟨hle, by omega, hmethod⟩
  · rintro ⟨hle, hlt, hmethod⟩
    exact ⟨hle, by omega, hmethod⟩

/-- The receiver of a call in a statement is a variable. -/
theorem getElem?_blockReceiver? {ls : List Lexeme} {t : State} (h : Spells .initial ls [] t)
    {rules : RuleSet} {e call i : Nat} (he : e ∈ (ofLexemes ls).entryPoints)
    (hcall : call ∈ (ofLexemes ls).escapeCalls rules e)
    (hi : (ofLexemes ls).blockReceiver? rules e call = some i) :
    ls[i]? = some blockVariable := by
  have hentry := (List.mem_filter.mp he).2
  obtain ⟨hlast, htext⟩ := blockReceiver?_eq_some hi
  obtain ⟨hle, hlt, _⟩ := lastFrom_eq_some_iff.mp hlast
  obtain ⟨_, hend, _⟩ := mem_escapeCalls_iff.mp hcall
  rw [text_ofLexemes] at htext
  cases hl : ls[i]? with
  | none =>
    rw [hl] at htext
    exact absurd htext (by decide)
  | some l =>
    rw [hl] at htext
    refine congrArg some (h.block trivial (List.mem_of_getElem? hl) htext fun hkind => ?_)
    by_cases hedge : e = i
    · subst hedge
      rw [not_holds_ofLexemes hl (by rw [hkind]; rfl)] at hentry
      cases hentry
    · refine (region_inside h hentry (by omega) (by omega) hl).1 ?_
      rw [hkind]
      rfl

/-- A fix for escaping through the block can be put in. -/
theorem sound_of_not_isInsertion {ls : List Lexeme} {t : State} (h : Spells .initial ls [] t)
    {output fixing : Bool} {f : Fix} (hf : f ∈ (ofLexemes ls).fixes ⟨output, true, fixing⟩)
    (hinsertion : f.isInsertion = false) : f.Sound ls := by
  cases f with
  | wrap => cases hinsertion
  | mark => cases hinsertion
  | swap place =>
    obtain ⟨e, he, call, hcall, hi⟩ := swap_mem_fixes_iff.mp hf
    exact getElem?_blockReceiver? h he hcall hi
  | declare =>
    rintro rfl
    cases hf

/-- Every fix can be put in. -/
theorem sound_fixes {cs : List Char} {ls : List Lexeme} {t : State}
    (hreads : Reads .initial cs ls t []) (hslash : (ofLexemes ls).ClearOfSlashes) {fixing : Bool} :
    ∀ f ∈ (ofLexemes ls).fixes ⟨true, true, fixing⟩, f.Sound ls := by
  intro f hf
  cases hinsertion : f.isInsertion with
  | true =>
    exact sound_allOutputFixes hreads hslash f (mem_allOutputFixes_of_isInsertion hf hinsertion)
  | false => exact sound_of_not_isInsertion (hreads.spells trivial) hf hinsertion

end Stream

/-! ## Swaps come first -/

/-- Lexemes from an index on with the escaper in the places of swaps. -/
def swapFrom (fixes : List Fix) : Nat → List Lexeme → List Lexeme
  | _, [] => []
  | i, l :: ls =>
    (if fixes.any (Fix.swaps i) then escaperVariable else l) :: swapFrom fixes (i + 1) ls

theorem any_swaps_iff {fixes : List Fix} {i : Nat} :
    fixes.any (Fix.swaps i) = true ↔ .swap i ∈ fixes := by
  rw [List.any_eq_true]
  constructor
  · rintro ⟨f, hf, hswaps⟩
    cases f with
    | swap place =>
      obtain rfl : place = i := by simpa [Fix.swaps] using hswaps
      exact hf
    | _ => cases hswaps
  · exact fun h => ⟨_, h, by simp [Fix.swaps]⟩

theorem flatMap_filter_isInsertion {g : Fix → List Lexeme}
    (hg : ∀ f, f.isInsertion = false → g f = []) (fixes : List Fix) :
    (fixes.filter Fix.isInsertion).flatMap g = fixes.flatMap g := by
  induction fixes with
  | nil => rfl
  | cons f fixes ih =>
    rw [List.flatMap_cons, ← ih]
    cases hf : f.isInsertion with
    | true => rw [List.filter_cons_of_pos hf, List.flatMap_cons]
    | false => rw [List.filter_cons_of_neg (by simp [hf]), hg f hf, List.nil_append]

theorem chunkOf_eq_insertions (fixes : List Fix) (i : Nat) (l : Lexeme) :
    chunkOf fixes i l = chunkOf (fixes.filter Fix.isInsertion) i
      (if fixes.any (Fix.swaps i) then escaperVariable else l) := by
  have hnone : (fixes.filter Fix.isInsertion).any (Fix.swaps i) = false := by
    rw [Bool.eq_false_iff]
    intro hany
    cases (List.mem_filter.mp (any_swaps_iff.mp hany)).2
  have hbefore : ∀ f : Fix, f.isInsertion = false → f.lexemesBefore i = [] := by
    intro f hf
    cases f <;> first | rfl | cases hf
  have hafter : ∀ f : Fix, f.isInsertion = false → f.lexemesAfter i = [] := by
    intro f hf
    cases f <;> first | rfl | cases hf
  rw [chunkOf, chunkOf, hnone, ← List.filter_reverse, flatMap_filter_isInsertion hbefore,
    flatMap_filter_isInsertion hafter]
  rfl

theorem weave_eq_insertions (fixes : List Fix) (i : Nat) (ls : List Lexeme) :
    weave (chunkOf fixes) i ls =
      weave (chunkOf (fixes.filter Fix.isInsertion)) i (swapFrom fixes i ls) := by
  induction ls generalizing i with
  | nil => rfl
  | cons l ls ih => rw [weave, swapFrom, weave, ← chunkOf_eq_insertions, ih]

theorem forall₂_swapFrom {fixes : List Fix} {i : Nat} {ls : List Lexeme}
    (h : ∀ j, .swap (i + j) ∈ fixes → ls[j]? = some blockVariable) :
    List.Forall₂ Stream.Swap ls (swapFrom fixes i ls) := by
  induction ls generalizing i with
  | nil => exact .nil
  | cons l ls ih =>
    refine .cons ?_ (ih fun j hj => ?_)
    · split
      · exact .inr ⟨Option.some.inj (h 0 (any_swaps_iff.mp ‹_›)), rfl⟩
      · exact .inl rfl
    · exact h (j + 1) (by rwa [← Nat.add_assoc, Nat.add_right_comm])

theorem getElem?_swapFrom (fixes : List Fix) (i j : Nat) (ls : List Lexeme) :
    (swapFrom fixes i ls)[j]? =
      ls[j]?.map fun l => if fixes.any (Fix.swaps (i + j)) then escaperVariable else l := by
  induction ls generalizing i j with
  | nil => rfl
  | cons l ls ih =>
    cases j with
    | zero => rfl
    | succ j => rw [swapFrom, List.getElem?_cons_succ, List.getElem?_cons_succ, ih,
        Nat.add_right_comm, Nat.add_assoc]

theorem Lexer.CastParts.not_variable {parts : List Lexeme} (h : CastParts parts) :
    ∀ l ∈ parts, l.kind ≠ .variable := by
  obtain ⟨before, word, after, rfl, hbefore, hword, hafter⟩ := h.parts
  intro l hl hkind
  simp only [List.mem_append, List.mem_cons, List.not_mem_nil, or_false] at hl
  rcases hl with hl | rfl | hl | rfl
  · rw [hbefore l hl] at hkind
    cases hkind
  · rw [hkind] at hword
    cases hword
  · rw [hafter l hl] at hkind
    cases hkind
  · cases hkind

/-- No cast has a variable in it. -/
theorem unfused_swap {ls ls' : List Lexeme} (h : List.Forall₂ Stream.Swap ls ls')
    (hls : Unfused ls) : Unfused ls' := by
  rintro before rest rfl parts behind rfl hparts
  have hsame : ∀ {xs ys : List Lexeme}, List.Forall₂ Stream.Swap xs ys →
      (∀ y ∈ ys, y.kind ≠ .variable) → xs = ys := by
    intro xs ys hxy
    induction hxy with
    | nil => exact fun _ => rfl
    | cons hswap _ ih =>
      intro hys
      rcases hswap with rfl | ⟨_, rfl⟩
      · rw [ih fun y hy => hys y (by simp [hy])]
      · exact absurd rfl (hys escaperVariable (by simp))
  have hbehind := List.forall₂_drop_append _ _ _ h
  generalize hdrop : ls.drop before.length = ms at hbehind
  cases hbehind with
  | @cons l _ ms _ hswap hrest =>
    obtain rfl : l = opening := by
      rcases hswap with heq | ⟨_, heq⟩
      · exact heq.symm
      · cases heq
    have htake := hsame (List.forall₂_take_append _ _ _ hrest) hparts.not_variable
    refine hls (ls.take before.length) ms ?_ parts (ms.drop parts.length) ?_ hparts
    · rw [← hdrop, List.take_append_drop]
    · conv_lhs => rw [← List.take_append_drop parts.length ms, htake]

/-! ## Calls on the block -/

namespace Stream

/-- Whether the receiver behind a lexeme is the block, given whether it is before. -/
def blockBehind (onBlock : Bool) (l : Lexeme) : Bool :=
  if l.text = blockAccessor then true else if l.text = "$escaper" then false else onBlock

/-- Whether the last receiver among lexemes is the block. -/
def endsOnBlock (onBlock : Bool) (ls : List Lexeme) : Bool := ls.foldl blockBehind onBlock

/-- No escaping call among the lexemes is made on the block. -/
def Clean : (onBlock : Bool) → List Lexeme → Prop
  | _, [] => True
  | onBlock, l :: ls =>
    (RuleSet.standard.isLegacyEscapeMethod l.text = true → onBlock = false) ∧
      Clean (blockBehind onBlock l) ls

instance decidableClean : (onBlock : Bool) → (ls : List Lexeme) → Decidable (Clean onBlock ls)
  | _, [] => isTrue trivial
  | onBlock, l :: ls =>
    have := decidableClean (blockBehind onBlock l) ls
    inferInstanceAs (Decidable (_ ∧ _))

theorem Clean.append {onBlock : Bool} {ls ms : List Lexeme} :
    Clean onBlock (ls ++ ms) ↔ Clean onBlock ls ∧ Clean (endsOnBlock onBlock ls) ms := by
  induction ls generalizing onBlock with
  | nil => simp [Clean, endsOnBlock]
  | cons l ls ih => rw [List.cons_append, Clean, Clean, ih, and_assoc]; rfl

/-- The fewer calls are made on the block the better. -/
theorem Clean.off {onBlock : Bool} {ls : List Lexeme} (h : Clean onBlock ls) : Clean false ls := by
  induction ls generalizing onBlock with
  | nil => trivial
  | cons l ls ih =>
    refine ⟨fun _ => rfl, ?_⟩
    have hrest := h.2
    unfold blockBehind at hrest ⊢
    split at hrest
    · rw [if_pos ‹_›]
      exact hrest
    · rw [if_neg ‹_›]
      split at hrest
      · rw [if_pos ‹_›]
        exact hrest
      · rw [if_neg ‹_›]
        exact ih hrest

theorem clean_iff {onBlock : Bool} {ls : List Lexeme} :
    Clean onBlock ls ↔ ∀ n l, ls[n]? = some l →
      RuleSet.standard.isLegacyEscapeMethod l.text = true →
      endsOnBlock onBlock (ls.take n) = false := by
  induction ls generalizing onBlock with
  | nil => simp [Clean]
  | cons l ls ih =>
    rw [Clean, ih]
    constructor
    · rintro ⟨hfirst, hrest⟩ n k hk hmethod
      cases n with
      | zero =>
        cases hk
        exact hfirst hmethod
      | succ n => exact hrest n k hk hmethod
    · intro h
      exact ⟨fun hmethod => h 0 l rfl hmethod, fun n k hk hmethod => h (n + 1) k hk hmethod⟩

theorem blockReceiver?_eq {ls : List Lexeme} {e n : Nat} (hn : e + n ≤ ls.length) :
    ((ofLexemes ls).blockReceiver? .standard e (e + n)).isSome =
      endsOnBlock false ((ls.drop e).take n) := by
  rw [blockReceiver?, lastIn, Nat.add_sub_cancel_left]
  induction n with
  | zero => rfl
  | succ n ih =>
    obtain ⟨l, hl⟩ : ∃ l, ls[e + n]? = some l := ⟨_, List.getElem?_eq_getElem (by omega)⟩
    have htext : (ofLexemes ls).text (e + n) = l.text := by rw [text_ofLexemes, hl]; rfl
    have htake : (ls.drop e).take (n + 1) = (ls.drop e).take n ++ [l] := by
      rw [List.take_add_one, List.getElem?_drop, hl]
      rfl
    rw [htake, endsOnBlock, List.foldl_append, List.foldl_cons, List.foldl_nil, ← endsOnBlock,
      ← ih (by omega), lastFrom, isReceiver, htext, blockBehind]
    have haccessor : RuleSet.standard.escaperAccessor = "$escaper" := rfl
    by_cases hblock : l.text = blockAccessor
    · simp [hblock, htext]
    · by_cases hescaper : l.text = "$escaper"
      · simp [hescaper, haccessor, htext, show ¬ "$escaper" = blockAccessor by decide]
      · simp [hblock, hescaper, haccessor]

theorem mem_escapeCalls_statement {ls before content after : List Lexeme} {l : Lexeme}
    (h : IsStatement ls before l content after) {call : Nat} :
    call ∈ (ofLexemes ls).escapeCalls .standard before.length ↔
      ∃ n m, (l :: content)[n]? = some m ∧ call = before.length + n ∧
        RuleSet.standard.isLegacyEscapeMethod m.text = true := by
  have htext : ∀ n m, (l :: content)[n]? = some m →
      (ofLexemes ls).text (before.length + n) = m.text := by
    intro n m hm
    have hlt := (List.getElem?_eq_some_iff.mp hm).1
    rw [text_ofLexemes, h.eq, List.getElem?_append_right (by omega), Nat.add_sub_cancel_left,
      ← List.cons_append, List.getElem?_append_left hlt, hm]
    rfl
  rw [mem_escapeCalls_iff, h.statementEnd_eq]
  constructor
  · rintro ⟨hle, hlt, hmethod⟩
    obtain ⟨n, rfl⟩ := Nat.exists_eq_add_of_le hle
    obtain ⟨m, hm⟩ : ∃ m, (l :: content)[n]? = some m :=
      ⟨_, List.getElem?_eq_getElem (by rw [List.length_cons]; omega)⟩
    exact ⟨n, m, hm, rfl, by rwa [← htext n m hm]⟩
  · rintro ⟨n, m, hm, rfl, hmethod⟩
    have hlt := (List.getElem?_eq_some_iff.mp hm).1
    rw [List.length_cons] at hlt
    exact ⟨by omega, by omega, by rwa [htext n m hm]⟩

theorem escapeCalls_eq_nil_iff {ls before content after : List Lexeme} {l : Lexeme}
    (h : IsStatement ls before l content after) :
    (ofLexemes ls).escapeCalls .standard before.length = [] ↔
      ∀ m ∈ l :: content, RuleSet.standard.isLegacyEscapeMethod m.text = false := by
  simp only [List.eq_nil_iff_forall_not_mem, mem_escapeCalls_statement h, Bool.eq_false_iff]
  constructor
  · intro hnone m hm hmethod
    obtain ⟨n, hn⟩ := List.getElem?_of_mem hm
    exact hnone _ ⟨n, m, hn, rfl, hmethod⟩
  · rintro hnone _ ⟨n, m, hm, _, hmethod⟩
    exact hnone m (List.mem_of_getElem? hm) hmethod

/-- The calls of a statement are not made on the block. -/
theorem clean_statement_iff {ls before content after : List Lexeme} {l : Lexeme}
    (h : IsStatement ls before l content after) :
    Clean false (l :: content) ↔ ∀ call ∈ (ofLexemes ls).escapeCalls .standard before.length,
      (ofLexemes ls).blockReceiver? .standard before.length call = none := by
  have hreceiver : ∀ n m, (l :: content)[n]? = some m →
      ((ofLexemes ls).blockReceiver? .standard before.length (before.length + n) = none ↔
        endsOnBlock false ((l :: content).take n) = false) := by
    intro n m hm
    have hlt := (List.getElem?_eq_some_iff.mp hm).1
    have hdrop : (ls.drop before.length).take n = (l :: content).take n := by
      rw [h.eq, List.drop_left, ← List.cons_append, List.take_append_of_le_length (by omega)]
    have hlength : before.length + n ≤ ls.length := by
      rw [List.length_cons] at hlt
      rw [h.eq]
      simp
      omega
    rw [← hdrop, ← blockReceiver?_eq hlength, Option.isSome_eq_false_iff,
      Option.isNone_iff_eq_none]
  rw [clean_iff]
  constructor
  · intro hclean call hcall
    obtain ⟨n, m, hm, rfl, hmethod⟩ := (mem_escapeCalls_statement h).mp hcall
    exact (hreceiver n m hm).mpr (hclean n m hm hmethod)
  · intro hnone n m hm hmethod
    exact (hreceiver n m hm).mp
      (hnone _ ((mem_escapeCalls_statement h).mpr ⟨n, m, hm, rfl, hmethod⟩))

/-! ## Fixes leave calls clean -/

/-- A call of the escaper is made on the escaper. -/
theorem clean_accessor (onBlock : Bool) (f : EscapeFunction) :
    Clean onBlock (accessor f) ∧ endsOnBlock onBlock (accessor f) = false := by
  cases f <;> cases onBlock <;> decide +kernel

theorem Clean.accessor {ls : List Lexeme} (h : Clean false ls) (onBlock : Bool)
    (f : EscapeFunction) : Clean onBlock (Stream.accessor f ++ ls) := by
  obtain ⟨haccessor, hends⟩ := clean_accessor onBlock f
  exact Clean.append.mpr ⟨haccessor, by rwa [hends]⟩

/-- Neither a method nor a receiver. -/
theorem clean_cons_iff {l : Lexeme} (hmethod : RuleSet.standard.isLegacyEscapeMethod l.text = false)
    (hblock : l.text ≠ blockAccessor) (hescaper : l.text ≠ "$escaper") {onBlock : Bool}
    {ls : List Lexeme} : Clean onBlock (l :: ls) ↔ Clean onBlock ls := by
  rw [Clean, blockBehind, if_neg hblock, if_neg hescaper, hmethod]
  simp

theorem clean_opening {onBlock : Bool} {ls : List Lexeme} :
    Clean onBlock (opening :: ls) ↔ Clean onBlock ls :=
  clean_cons_iff (by decide) (by decide) (by decide)

theorem clean_closing {onBlock : Bool} {ls : List Lexeme} :
    Clean onBlock (closing :: ls) ↔ Clean onBlock ls :=
  clean_cons_iff (by decide) (by decide) (by decide)

theorem clean_exemptionMark {onBlock : Bool} {ls : List Lexeme} :
    Clean onBlock (exemptionMark ++ ls) ↔ Clean onBlock ls :=
  (clean_cons_iff (by decide) (by decide) (by decide)).trans
    (clean_cons_iff (by decide) (by decide) (by decide))

theorem Clean.castOf {ls : List Lexeme} (h : Clean false ls) (parts : List Lexeme) :
    Clean false (EscapeAudit.Lexer.castOf parts :: ls) := by
  refine ⟨fun _ => rfl, ?_⟩
  have hblock : (EscapeAudit.Lexer.castOf parts).text ≠ blockAccessor := by
    intro htext
    have hchars := congrArg String.toList htext
    rw [EscapeAudit.Lexer.castOf, String.toList_ofList] at hchars
    cases (List.cons.inj hchars).1
  rw [blockBehind, if_neg hblock]
  split <;> exact h

theorem Clean.weave {fixes : List Fix} (htidy : Tidy fixes) {onBlock : Bool} {i : Nat}
    {ls : List Lexeme} (h : Clean onBlock ls) :
    Clean onBlock (EscapeAudit.weave (fusedChunk fixes) i ls) := by
  induction ls generalizing onBlock i with
  | nil => trivial
  | cons l ls ih =>
    have hoff : Clean false (l :: EscapeAudit.weave (fusedChunk fixes) (i + 1) ls) :=
      ⟨fun _ => rfl, ih h.off.2⟩
    rw [EscapeAudit.weave]
    have hchunk := htidy.fusedChunk i l
    generalize fusedChunk fixes i l = c at hchunk
    cases hchunk with
    | keep => exact ⟨h.1, ih h.2⟩
    | @whole f w _ hw =>
      cases hw with
      | call =>
        rw [List.append_assoc]
        refine .accessor (clean_opening.mpr ?_) _ _
        exact ⟨fun _ => rfl, clean_closing.mpr (ih h.off.2)⟩
      | cast =>
        rw [List.append_assoc]
        exact .accessor (.castOf (ih h.2).off _) _ _
    | first =>
      rw [List.append_assoc]
      exact .accessor (clean_opening.mpr hoff) _ _
    | last => exact ⟨h.1, clean_closing.mpr (ih h.2)⟩
    | mark =>
      rw [List.append_assoc]
      exact clean_exemptionMark.mpr ⟨h.1, ih h.2⟩

end Stream

end EscapeAudit
