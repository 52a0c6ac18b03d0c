import EscapeAudit.Proofs.Receivers

/-!
# The declaration of the escaper

The header is the code before the first close tag.  It lacks the declaration when the template begins
with an open tag and no token of the header has the name of the class (`lacksDeclaration_ofLexemes`).
The fixes for output put no close tag in and take no name away, so a header that has the name keeps it
(`headerNames_weave`).

The declaration is put behind the open tag.  It is read as a comment and a line end, and the line end
comes together with the blanks behind it (`reads_declared`).  So the tokens of the declared template
are again made of chunks, one for each token (`declaredChunk`).
-/

namespace EscapeAudit

open Lexer

namespace Stream

/-! ## The header -/

/-- The class of the escaper is named before the first close tag. -/
def headerNames : List Lexeme → Bool
  | [] => false
  | l :: ls => l.kind != .closeTag && (Text.contains l.text escaperClass || headerNames ls)

theorem headerNames_eq (ls : List Lexeme) (n i : Nat) (hn : i + n = ls.length) :
    (firstFrom (fun j => Text.contains ((ofLexemes ls).text j) escaperClass) i
      ((firstFrom ((ofLexemes ls).holds (· == .closeTag)) i n).getD ls.length - i)).isNone =
        !headerNames (ls.drop i) := by
  induction n generalizing i with
  | zero =>
    rw [List.drop_eq_nil_of_le (by omega), firstFrom, Option.getD_none, Nat.sub_eq_zero_of_le
      (by omega)]
    rfl
  | succ n ih =>
    have hlt : i < ls.length := by omega
    have hl : ls[i]? = some ls[i] := List.getElem?_eq_getElem hlt
    rw [List.drop_eq_getElem_cons hlt, tokensToCloseTag_succ hn, holds_getElem hlt, headerNames]
    by_cases hclose : ls[i].kind = .closeTag
    · simp [hclose, firstFrom]
    · have htext : (ofLexemes ls).text i = ls[i].text := by rw [text_ofLexemes, hl]; rfl
      have hkind : (ls[i].kind != .closeTag) = true := by simpa using hclose
      rw [if_neg (by simpa using hclose), firstFrom, htext, hkind, Bool.true_and]
      cases Text.contains ls[i].text escaperClass with
      | true => rfl
      | false => exact ih (i + 1) (by omega)

theorem lacksDeclaration_ofLexemes (ls : List Lexeme) :
    (ofLexemes ls).lacksDeclaration =
      (ls.head?.map Lexeme.kind == some .openTag && !headerNames ls) := by
  have hnames := headerNames_eq ls ls.length 0 (Nat.zero_add _)
  rw [List.drop_zero, Nat.sub_zero] at hnames
  rw [lacksDeclaration, headerEnd, findNext, firstIn, firstIn, size_ofLexemes, Nat.min_self,
    Nat.sub_zero, Nat.sub_zero, hnames, kind?_ofLexemes, List.head?_eq_getElem?]

theorem headerNames_append {ls ms : List Lexeme} (h : ∀ l ∈ ls, l.kind ≠ .closeTag) :
    headerNames (ls ++ ms) = true ↔
      (∃ l ∈ ls, Text.contains l.text escaperClass = true) ∨ headerNames ms = true := by
  induction ls with
  | nil => simp
  | cons l ls ih =>
    have hl : (l.kind != .closeTag) = true := by simpa using h l (by simp)
    rw [List.cons_append, headerNames, hl, Bool.true_and, Bool.or_eq_true,
      ih fun m hm => h m (by simp [hm]), List.exists_mem_cons_iff, or_assoc]

/-- A chunk keeps the text of its token, alone or in a cast. -/
theorem exists_mem_fusedChunk {fixes : List Fix} (htidy : Tidy fixes) (i : Nat) (l : Lexeme) :
    ∃ m ∈ fusedChunk fixes i l, l.text.toList <:+: m.text.toList := by
  have hself : ∀ {c : List Lexeme}, l ∈ c → ∃ m ∈ c, l.text.toList <:+: m.text.toList := fun hl =>
    ⟨l, hl, List.infix_rfl⟩
  have hchunk := htidy.fusedChunk i l
  generalize fusedChunk fixes i l = c at hchunk
  cases hchunk with
  | keep => exact hself (by simp)
  | whole _ hw =>
    cases hw with
    | call => exact hself (by simp)
    | cast =>
      refine ⟨castOf ([l] ++ [closing]), by simp, ['('], chars [closing], ?_⟩
      simp [castOf]
  | first => exact hself (by simp)
  | last => exact hself (by simp)
  | mark => exact hself (by simp)

/-- Fixes for output leave the class in the header. -/
theorem headerNames_weave {fixes : List Fix} (htidy : Tidy fixes) {i : Nat} {ls : List Lexeme}
    (h : headerNames ls = true) : headerNames (weave (fusedChunk fixes) i ls) = true := by
  induction ls generalizing i with
  | nil => cases h
  | cons l ls ih =>
    rw [headerNames, Bool.and_eq_true, Bool.or_eq_true] at h
    have hclose : ∀ m ∈ fusedChunk fixes i l, m.kind ≠ .closeTag := by
      intro m hm
      rcases eq_or_loose_of_mem_fusedChunk htidy hm with rfl | hm
      · simpa using h.1
      · exact hm.passed.1
    refine (headerNames_append hclose).mpr (h.2.imp (fun hcontains => ?_) ih)
    obtain ⟨m, hm, hinfix⟩ := exists_mem_fusedChunk htidy i l
    exact ⟨m, hm, Text.contains_of_infix hinfix hcontains⟩

/-- Fixes for output leave a header with the declaration as it is. -/
theorem lacksDeclaration_of_weave {fixes : List Fix} (htidy : Tidy fixes) {ls : List Lexeme}
    (h : (ofLexemes (weave (fusedChunk fixes) 0 ls)).lacksDeclaration = true) :
    (ofLexemes ls).lacksDeclaration = true := by
  rw [lacksDeclaration_ofLexemes, Bool.and_eq_true, beq_iff_eq, Bool.not_eq_true'] at h ⊢
  refine ⟨?_, ?_⟩
  · cases ls with
    | nil => exact h.1
    | cons l ls =>
      have htag := h.1
      rw [weave] at htag
      obtain ⟨_, hmem, _⟩ := exists_mem_fusedChunk htidy 0 l
      have hcases := fun m => @eq_or_loose_of_mem_fusedChunk _ htidy 0 l m
      cases hchunk : fusedChunk fixes 0 l with
      | nil =>
        rw [hchunk] at hmem
        cases hmem
      | cons m ms =>
        rw [hchunk] at htag hcases
        have hm : m.kind = .openTag := Option.some.inj htag
        rcases hcases m (by simp) with rfl | hloose
        · exact htag
        · exact absurd hm hloose.not_openTag
  · rw [Bool.eq_false_iff]
    intro hnames
    rw [headerNames_weave htidy hnames] at h
    cases h.2

theorem headerNames_swap {ls ls' : List Lexeme} (h : List.Forall₂ Swap ls ls') :
    headerNames ls' = headerNames ls := by
  induction h with
  | nil => rfl
  | @cons l l' ls ls' hswap _ ih =>
    rw [headerNames, headerNames, ih, hswap.kind]
    rcases hswap with rfl | ⟨rfl, rfl⟩
    · rfl
    · have hnone : Text.contains blockVariable.text escaperClass = false ∧
          Text.contains escaperVariable.text escaperClass = false := by decide +kernel
      rw [hnone.1, hnone.2]

theorem lacksDeclaration_swap {ls ls' : List Lexeme} (h : List.Forall₂ Swap ls ls') :
    (ofLexemes ls').lacksDeclaration = (ofLexemes ls).lacksDeclaration := by
  rw [lacksDeclaration_ofLexemes, lacksDeclaration_ofLexemes, headerNames_swap h]
  cases h with
  | nil => rfl
  | cons hswap _ => simp [hswap.kind]

end Stream

/-! ## The declaration as lexemes -/

/-- The comment of the declaration. -/
def declarationComment : Lexeme :=
  ⟨.docComment, "/** @var \\Magento\\Framework\\Escaper $escaper */"⟩

/-- The line end of the declaration before lexemes. -/
inductive Breaks : List Lexeme → List Lexeme → Prop where
  /-- It is a lexeme of its own. -/
  | own {ls : List Lexeme} : Breaks ls (⟨.whitespace, "\n"⟩ :: ls)
  /-- It comes together with the blanks behind it. -/
  | blank {ls : List Lexeme} {l : Lexeme} : l.kind = .whitespace →
    Breaks (l :: ls) (⟨.whitespace, "\n" ++ l.text⟩ :: ls)

theorem Breaks.chars_eq {ls ms : List Lexeme} (h : Breaks ls ms) : chars ms = '\n' :: chars ls := by
  cases h with
  | own => rfl
  | blank => simp

namespace Lexer

theorem Spells.exists_breaks {s t : State} {ls : List Lexeme} (h : Spells s ls [] t)
    (hs : s.mode = .code) : ∃ ms, Breaks ls ms ∧ Spells s ms [] t := by
  obtain ⟨mode, pending, due⟩ := s
  obtain rfl : mode = .code := hs
  cases hspace : startsWith isSpace (chars ls) with
  | false =>
    refine ⟨_, .own, .next _ '\n' [] .code rfl (by decide) ?_ h⟩
    rw [cutNext_space rfl rfl]
    have hrun : runLength isSpace ([] ++ (chars ls ++ [])) = 0 := by
      cases hchars : chars ls with
      | nil => rfl
      | cons c rest =>
        rw [hchars] at hspace
        simp [runLength, show isSpace c = false from hspace]
    rw [hrun]
    rfl
  | true =>
    cases ls with
    | nil => cases hspace
    | cons l ls =>
      have hkind : l.kind = .whitespace := by
        by_contra hkind
        have hnot := h.not_space rfl hkind
        rw [List.append_nil, hspace] at hnot
        cases hnot
      obtain ⟨c, more, mode, htext, hcut, hrest⟩ := h.inversion (by rw [hkind]; decide)
      have hc : isSpace c = true := by
        rw [chars_cons, htext] at hspace
        exact hspace
      rw [cutNext_space rfl hc] at hcut
      obtain ⟨_, hrun, rfl⟩ : _ ∧ runLength isSpace (more ++ (chars ls ++ [])) = more.length ∧
        Mode.code = mode := by simpa using hcut
      have htext' : "\n" ++ l.text = String.ofList ('\n' :: c :: more) := by
        rw [← htext]
        simp
      refine ⟨_, .blank hkind, .next _ '\n' (c :: more) .code htext' (by decide) ?_ ?_⟩
      · have hrun' : runLength isSpace (c :: more ++ (chars ls ++ [])) = (c :: more).length := by
          rw [List.cons_append, runLength, List.takeWhile_cons_of_pos hc, List.length_cons]
          exact congrArg (· + 1) hrun
        rw [cutNext_space rfl rfl, hrun']
      · rw [hkind] at hrest
        exact hrest

theorem spells_declarationComment {s : State} (hs : s.mode = .code) (tail : List Char) :
    Spells s [declarationComment] tail s := by
  obtain ⟨mode, pending, due⟩ := s
  obtain rfl : mode = .code := hs
  exact .next _ '/' "** @var \\Magento\\Framework\\Escaper $escaper */".toList .code rfl (by decide)
    rfl (.done _ _)

/-- The declaration can be put behind an open tag. -/
theorem Spells.declared {t : State} {l : Lexeme} {ls : List Lexeme}
    (h : Spells .initial (l :: ls) [] t) (hl : l.kind = .openTag) (hls : ls ≠ []) :
    ∃ ms, Breaks ls ms ∧ Spells .initial (l :: declarationComment :: ms) [] t := by
  obtain ⟨u, htag, hrest⟩ := (show Spells .initial ([l] ++ ls) [] t from h).split
  have hu : u.mode = .code :=
    Mode.eq_code_of_region ((htag.region_last (k := l) rfl).trans (by rw [hl]; rfl))
  obtain ⟨ms, hbreaks, hms⟩ := hrest.exists_breaks hu
  have htail : chars ls ++ [] ≠ [] := by
    cases ls with
    | nil => exact absurd rfl hls
    | cons m ls => simpa using hrest.chars_ne_nil
  have hslash : l.text ≠ "/" := by
    intro htext
    obtain ⟨c, more, mode, hchars, hcut, _⟩ := h.inversion (by rw [hl]; decide)
    obtain ⟨rfl, rfl⟩ : c = '/' ∧ more = [] := by
      rw [htext] at hchars
      exact ⟨(List.cons.inj hchars).1.symm, (List.cons.inj hchars).2.symm⟩
    rw [hl] at hcut
    cases hcut
  have hfirm : Firm [l] (chars ls ++ []) (chars (declarationComment :: ms) ++ []) := by
    refine ⟨fun m hm => ?_, fun _ _ _ => htail, fun m hm htext => ?_⟩
    · obtain rfl : l = m := by simpa using hm
      simp [isLineComment, hl]
    · obtain rfl : l = m := by simpa using hm
      exact absurd htext hslash
  have hbarred : Barred (chars (declarationComment :: ms) ++ []) := rfl
  exact ⟨ms, hbreaks, (htag.exchange hu hbarred hfirm).append
    ((spells_declarationComment hu _).append hms)⟩

end Lexer

/-! ## The chunks of a declared template -/

/-- Chunks with the declaration behind the first token.  Its line end comes together with the second
token, if that is blank. -/
def declaredChunk (blank : Bool) (chunk : Nat → Lexeme → List Lexeme) :
    Nat → Lexeme → List Lexeme
  | 0, l => l :: declarationComment :: (if blank then [] else [⟨.whitespace, "\n"⟩])
  | 1, l => if blank then [⟨.whitespace, "\n" ++ l.text⟩] else chunk 1 l
  | i, l => chunk i l

theorem declaredChunk_of_lt (blank : Bool) (chunk : Nat → Lexeme → List Lexeme) {i : Nat}
    (h : 1 < i) : declaredChunk blank chunk i = chunk i := by
  obtain ⟨j, rfl⟩ := Nat.exists_eq_add_of_le' h
  rfl

/-- The tokens of a declared template. -/
theorem fuses_declared {fixes : List Fix} (htidy : Tidy fixes) {l : Lexeme} {ls : List Lexeme}
    (hfirst : ∀ f ∈ fixes, 0 < f.first) (henclosing : ∀ f ∈ fixes, f.Enclosing (l :: ls))
    (hunfused : Unfused (l :: ls)) (hl : l.kind = .openTag) {ms ns : List Lexeme}
    (hbreaks : Breaks (weave (chunkOf fixes) 1 ls) ms)
    (h : Fuses (l :: declarationComment :: ms) ns) :
    ∃ blank, ns = weave (declaredChunk blank (fusedChunk fixes)) 0 (l :: ls) ∧
      (blank = true → ∃ m, ls.head? = some m ∧ m.kind = .whitespace) := by
  obtain ⟨_, rfl, h₁⟩ := h.of_noCast fun heq => by rw [heq] at hl; cases hl
  obtain ⟨_, rfl, h₂⟩ := h₁.of_noCast fun heq => by cases heq
  have hlater : ∀ blank, ∀ j ≥ 2, declaredChunk blank (fusedChunk fixes) j = fusedChunk fixes j :=
    fun blank j hj => declaredChunk_of_lt blank _ hj
  generalize hweave : weave (chunkOf fixes) 1 ls = ws at hbreaks
  cases hbreaks with
  | own =>
    obtain ⟨_, rfl, h₃⟩ := h₂.of_noCast fun heq => by cases heq
    rw [← hweave] at h₃
    obtain rfl := htidy.fuses_weave henclosing hunfused (show l :: ls = [l] ++ ls from rfl) h₃
    refine ⟨false, ?_, fun h => by cases h⟩
    have hrest : weave (declaredChunk false (fusedChunk fixes)) 1 ls =
        weave (fusedChunk fixes) 1 ls := by
      refine weave_congr (fun j hj => ?_) ls
      rcases Nat.eq_or_lt_of_le hj with rfl | hj
      · rfl
      · exact hlater false j hj
    rw [weave, hrest]
    rfl
  | @blank rest m hm =>
    obtain ⟨_, rfl, h₃⟩ := h₂.of_noCast fun heq => by cases heq
    cases ls with
    | nil => cases hweave
    | cons k ls =>
      obtain ⟨rfl, rfl⟩ : k = m ∧ weave (chunkOf fixes) 2 ls = rest := by
        rw [weave] at hweave
        have hchunk := htidy.chunk 1 k
        generalize chunkOf fixes 1 k = c at hchunk hweave
        cases hchunk with
        | keep => exact List.cons.inj hweave
        | last hf hlt => exact absurd (hfirst _ hf) (by simp only [Fix.first]; omega)
        | _ =>
          rw [← (List.cons.inj hweave).1] at hm
          cases hm
      obtain rfl := htidy.fuses_weave henclosing hunfused
        (show l :: k :: ls = [l, k] ++ ls from rfl) h₃
      refine ⟨true, ?_, fun _ => ⟨k, rfl, hm⟩⟩
      rw [weave, weave, weave_congr (hlater true)]
      rfl

/-- A template to which the declaration is made is read as its chunks. -/
theorem reads_declared {fixes : List Fix} (htidy : Tidy fixes) {l : Lexeme} {ls : List Lexeme}
    (hpos : ∀ f ∈ fixes, 0 < f.first ∧ 0 < f.last)
    (henclosing : ∀ f ∈ fixes, f.Enclosing (l :: ls)) (hunfused : Unfused (l :: ls))
    (hl : l.kind = .openTag) (hls : ls ≠ []) {u : State}
    (h : Spells .initial (weave (chunkOf fixes) 0 (l :: ls)) [] u) :
    ∃ blank, Reads .initial
        (l.text.toList ++ (escaperDeclaration.toList ++ chars (weave (chunkOf fixes) 1 ls)))
        (weave (declaredChunk blank (fusedChunk fixes)) 0 (l :: ls)) u [] ∧
      (blank = true → ∃ m, ls.head? = some m ∧ m.kind = .whitespace) := by
  have hnone : ∀ f ∈ fixes, f.first ≠ 0 ∧ f.last ≠ 0 := fun f hf =>
    ⟨Nat.ne_of_gt (hpos f hf).1, Nat.ne_of_gt (hpos f hf).2⟩
  have hbehind : weave (chunkOf fixes) 1 ls ≠ [] := by
    cases ls with
    | nil => exact absurd rfl hls
    | cons m ls => simp [weave, chunkOf]
  rw [weave, htidy.chunkOf_of_not_mem hnone] at h
  obtain ⟨ms, hbreaks, hspells⟩ := h.declared hl hbehind
  obtain ⟨ns, hreads, hfuses⟩ := hspells.reads
  obtain ⟨blank, rfl, hblank⟩ :=
    fuses_declared htidy (fun f hf => (hpos f hf).1) henclosing hunfused hl hbreaks hfuses
  refine ⟨blank, ?_, hblank⟩
  have htext : escaperDeclaration.toList = declarationComment.text.toList ++ ['\n'] := by
    decide +kernel
  rw [chars_cons, chars_cons, hbreaks.chars_eq] at hreads
  rw [htext, List.append_assoc]
  exact hreads

/-- The declaration leaves the statements where they are. -/
theorem Follows.declared {l : Lexeme} {ls : List Lexeme} {chunk : Nat → Lexeme → List Lexeme}
    (h : Follows (l :: ls) chunk) (hl : l.kind = .openTag) {blank : Bool}
    (hblank : blank = true → ∃ m, ls.head? = some m ∧ m.kind = .whitespace) :
    Follows (l :: ls) (declaredChunk blank chunk) := by
  have hzero : ∀ {m : Lexeme}, (l :: ls)[0]? = some m → m.kind = .openTag := by
    intro m hm
    rwa [← Option.some.inj hm]
  have hone : blank = true → ∀ {m : Lexeme}, (l :: ls)[1]? = some m → m.kind = .whitespace := by
    intro hb m hm
    obtain ⟨k, hk, hkind⟩ := hblank hb
    rw [List.getElem?_cons_succ, ← List.head?_eq_getElem?, hk] at hm
    rwa [← Option.some.inj hm]
  refine ⟨fun i m hm hloose => ?_, fun i m hm hentry => ?_, fun i m hm hloose hentry => ?_⟩
  · match i with
    | 0 => rw [hzero hm] at hloose; cases hloose
    | 1 =>
      cases blank with
      | false => exact h.loose 1 m hm hloose
      | true =>
        intro k hk
        rw [List.mem_singleton.mp hk]
        exact .inl rfl
    | i + 2 => exact h.loose _ m hm hloose
  · match i with
    | 0 => rw [hzero hm] at hentry; cases hentry
    | 1 =>
      cases blank with
      | false => exact h.entry 1 m hm hentry
      | true => rw [hone rfl hm] at hentry; cases hentry
    | i + 2 => exact h.entry _ m hm hentry
  · match i with
    | 0 =>
      refine ⟨_, rfl, fun k hk => ?_⟩
      cases blank <;> simp at hk
      · rcases hk with rfl | rfl <;> exact .inl rfl
      · rw [hk]
        exact .inl rfl
    | 1 =>
      cases blank with
      | false => exact h.fixed 1 m hm hloose hentry
      | true => rw [hone rfl hm] at hloose; cases hloose
    | i + 2 => exact h.fixed _ m hm hloose hentry

namespace Stream

theorem exists_of_mem_entryPoints_cons {l : Lexeme} {ls : List Lexeme}
    (hl : l.kind.isEntryPoint = false) {e : Nat} (he : e ∈ (ofLexemes (l :: ls)).entryPoints) :
    ∃ i m, e = i + 1 ∧ ls[i]? = some m ∧ m.kind.isEntryPoint = true := by
  obtain ⟨m, hm, hentry⟩ := holds_ofLexemes.mp (List.mem_filter.mp he).2
  cases e with
  | zero =>
    obtain rfl := Option.some.inj hm
    rw [hl] at hentry
    cases hentry
  | succ e => exact ⟨e, m, rfl, hm, hentry⟩

theorem declaredChunk_of_entry {l : Lexeme} {ls : List Lexeme} (hl : l.kind = .openTag)
    {blank : Bool} (hblank : blank = true → ∃ m, ls.head? = some m ∧ m.kind = .whitespace)
    (chunk : Nat → Lexeme → List Lexeme) {e : Nat} (he : e ∈ (ofLexemes (l :: ls)).entryPoints)
    {i : Nat} (hi : e ≤ i) : declaredChunk blank chunk i = chunk i := by
  obtain ⟨e, m, rfl, hm, hentry⟩ := exists_of_mem_entryPoints_cons (by rw [hl]; rfl) he
  match i, e with
  | 0, _ | 1, _ + 1 => omega
  | 1, 0 =>
    cases blank with
    | false => rfl
    | true =>
      obtain ⟨k, hk, hkind⟩ := hblank rfl
      rw [← List.head?_eq_getElem?, hk] at hm
      rw [← Option.some.inj hm, hkind] at hentry
      cases hentry
  | i + 2, _ => rfl

end Stream

/-! ## The text of a declared template -/

theorem Shows.toList_text_declared {d : Draft} {l : Lexeme} {ls : List Lexeme} {fixes : List Fix}
    (h : Shows d (l :: ls) fixes) (hcount : fixes.count .declare = 1)
    (hfirst : ∀ f ∈ fixes, f = .declare ∨ 0 < f.first ∧ 0 < f.last) :
    d.text.toList =
      l.text.toList ++ (escaperDeclaration.toList ++ chars (weave (chunkOf fixes) 1 ls)) := by
  have hbefore : fixes.reverse.flatMap (fun f => (f.textBefore 0).toList) = [] := by
    refine List.flatMap_eq_nil_iff.mpr fun f hf => ?_
    rcases hfirst f (List.mem_reverse.mp hf) with rfl | hf
    · rfl
    · cases f <;> simp_all [Fix.textBefore, Fix.first] <;> omega
  have hswaps : fixes.any (Fix.swaps 0) = false := by
    rw [List.any_eq_false]
    intro f hf
    rcases hfirst f hf with rfl | hf
    · simp [Fix.swaps]
    · cases f with
      | swap place => simpa [Fix.swaps] using Nat.ne_of_gt (show 0 < place from hf.1)
      | _ => simp [Fix.swaps]
  have hafter : ∀ gs : List Fix, (∀ f ∈ gs, f = .declare ∨ 0 < f.first ∧ 0 < f.last) →
      gs.flatMap (fun f => (f.textAfter 0).toList) =
        (List.replicate (gs.count .declare) escaperDeclaration.toList).flatten := by
    intro gs hgs
    induction gs with
    | nil => rfl
    | cons f gs ih =>
      rw [List.flatMap_cons, ih fun g hg => hgs g (by simp [hg])]
      by_cases hf : f = .declare
      · rw [hf, List.count_cons_self, List.replicate_succ, List.flatten_cons]
        rfl
      · have hlast := ((hgs f (by simp)).resolve_left hf).2
        rw [List.count_cons_of_ne hf]
        cases f with
        | declare => exact absurd rfl hf
        | wrap first last g => simp [Fix.textAfter, Nat.ne_of_gt (show 0 < last from hlast)]
        | _ => rfl
  rw [h.toList_text, List.zipIdx_cons, List.flatMap_cons, chars_weave fun _ => Nat.one_ne_zero]
  simp only [patchAt, Patch.apply, hswaps, String.toList_append, toList_join_map, hbefore,
    hafter fixes hfirst, hcount]
  simp

end EscapeAudit
