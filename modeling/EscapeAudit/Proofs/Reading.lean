import EscapeAudit.Lexer.Tokenize

/-!
# Reading a template

The scanner cuts a template from the front.  *Reading* is the same walk as a relation: from a state
and the characters that are left, some lexemes are read, and another state and fewer characters are
left.  It has one rule for each step and no accumulator, so a reading can be taken apart behind any
of its lexemes and put together again.

`scanFrom_reads` says that scanning is reading until nothing is left or no cut is found.  `tokenize`
succeeds exactly where the whole template is read within the limit of tokens
(`tokenize_eq_ok_iff`).
-/

namespace EscapeAudit

namespace Lexer

/-- The lexeme of a cut, given the characters it is cut from. -/
def Cut.lexeme (cut : Cut) (c : Char) (rest : List Char) : Lexeme :=
  ⟨cut.kind, String.ofList (c :: rest.take cut.more)⟩

/-- From a state and the characters left, lexemes are read, and a state and fewer characters are
left. -/
inductive Reads : State → List Char → List Lexeme → State → List Char → Prop where
  /-- Nothing is read. -/
  | done (s : State) (cs : List Char) : Reads s cs [] s cs
  /-- One lexeme is read, and then the others. -/
  | step {s t : State} {c : Char} {rest left : List Char} {cut : Cut} {ls : List Lexeme} :
    cutNext s c rest = .ok cut →
    Reads (s.after cut) (rest.drop cut.more) ls t left →
    Reads s (c :: rest) (cut.lexeme c rest :: ls) t left

/-- The characters of lexemes, one after another. -/
def chars (ls : List Lexeme) : List Char := ls.flatMap fun l => l.text.toList

@[simp] theorem chars_nil : chars [] = [] := rfl

@[simp] theorem chars_cons (l : Lexeme) (ls : List Lexeme) :
    chars (l :: ls) = l.text.toList ++ chars ls := rfl

@[simp] theorem chars_append (ls ms : List Lexeme) : chars (ls ++ ms) = chars ls ++ chars ms := by
  simp [chars]

theorem Cut.lexeme_chars (cut : Cut) (c : Char) (rest : List Char) :
    (cut.lexeme c rest).text.toList = c :: rest.take cut.more := by
  simp [Cut.lexeme]

namespace Reads

/-! ## Taking readings apart and together -/

theorem trans {s t u : State} {cs ds es : List Char} {ls ms : List Lexeme}
    (first : Reads s cs ls t ds) (second : Reads t ds ms u es) : Reads s cs (ls ++ ms) u es := by
  induction first with
  | done s cs => exact second
  | step hcut _ ih => exact .step hcut (ih second)

theorem eq_of_nil {s t : State} {cs ds : List Char} (h : Reads s cs [] t ds) : s = t := by
  cases h
  rfl

/-- A reading of two lists of lexemes passes through a state between them. -/
theorem split {s u : State} {cs es : List Char} {ls ms : List Lexeme}
    (h : Reads s cs (ls ++ ms) u es) : ∃ t ds, Reads s cs ls t ds ∧ Reads t ds ms u es := by
  induction ls generalizing s cs with
  | nil => exact ⟨s, cs, .done s cs, h⟩
  | cons l ls ih =>
    cases h with
    | step hcut h =>
      obtain ⟨t, ds, first, second⟩ := ih h
      exact ⟨t, ds, .step hcut first, second⟩

/-- The state and the characters at which a lexeme of a reading is cut. -/
theorem exists_cut {s t : State} {cs ds : List Char} {ls : List Lexeme} (h : Reads s cs ls t ds)
    {i : Nat} {l : Lexeme} (hl : ls[i]? = some l) :
    ∃ u c rest cut, Reads s cs (ls.take i) u (c :: rest) ∧ cutNext u c rest = .ok cut ∧
      l = cut.lexeme c rest := by
  obtain ⟨hbound, hget⟩ := List.getElem?_eq_some_iff.mp hl
  rw [← List.take_append_drop i ls, List.drop_eq_getElem_cons hbound, hget] at h
  obtain ⟨u, es, hbefore, hbehind⟩ := h.split
  cases hbehind with
  | step hcut _ => exact ⟨u, _, _, _, hbefore, hcut, rfl⟩

/-- What is read and what is left are the characters that were there. -/
theorem chars_eq {s t : State} {cs ds : List Char} {ls : List Lexeme} (h : Reads s cs ls t ds) :
    cs = chars ls ++ ds := by
  induction h with
  | done s cs => rfl
  | @step s t c rest left cut ls _ _ ih =>
    rw [chars_cons, Cut.lexeme_chars, List.cons_append, List.cons_append, List.append_assoc, ← ih,
      List.take_append_drop]

theorem drop_eq {s t : State} {cs ds : List Char} {ls : List Lexeme} (h : Reads s cs ls t ds) :
    cs.drop (chars ls).length = ds := by
  rw [h.chars_eq, List.drop_left]

/-- No lexeme that is read is empty. -/
theorem text_ne_nil {s t : State} {cs ds : List Char} {ls : List Lexeme}
    (h : Reads s cs ls t ds) : ∀ l ∈ ls, l.text.toList ≠ [] := by
  induction h with
  | done s cs => intro l hl; cases hl
  | @step s t c rest left cut ls _ _ ih =>
    intro l hl
    rcases List.mem_cons.mp hl with rfl | hl
    · rw [Cut.lexeme_chars]; exact List.cons_ne_nil _ _
    · exact ih l hl

/-- A reading to the end goes on from every reading that begins like it. -/
theorem extend {s t u : State} {cs ds : List Char} {ls ms : List Lexeme}
    (first : Reads s cs ls t ds) (second : Reads s cs ms u []) :
    ∃ ks, ms = ls ++ ks ∧ Reads t ds ks u [] := by
  induction first generalizing ms with
  | done s cs => exact ⟨ms, rfl, second⟩
  | step hcut _ ih =>
    cases second with
    | step hcut' second =>
      cases hcut.symm.trans hcut'
      obtain ⟨ks, rfl, hrest⟩ := ih second
      exact ⟨ks, rfl, hrest⟩

/-- Reading to the end is determined by the state and the characters. -/
theorem unique {s t u : State} {cs : List Char} {ls ms : List Lexeme}
    (first : Reads s cs ls t []) (second : Reads s cs ms u []) : ls = ms ∧ t = u := by
  obtain ⟨ks, rfl, hrest⟩ := first.extend second
  cases hrest
  exact ⟨(List.append_nil ls).symm, rfl⟩

end Reads

/-! ## Scanning is reading -/

/-- Scanning reads lexemes until nothing is left, or until a cut fails. -/
theorem scanFrom_reads (s : State) (cs : List Char) (found : Array Lexeme) :
    ∃ ls t ds, Reads s cs ls t ds ∧ (scanFrom s cs found).lexemes = found ++ ls ∧
      ((ds = [] ∧ (scanFrom s cs found).fault = none) ∨
       ∃ c rest fault, ds = c :: rest ∧ cutNext t c rest = .error fault ∧
        (scanFrom s cs found).fault = some fault) := by
  fun_induction scanFrom s cs found with
  | case1 s found => exact ⟨[], s, [], .done s [], by simp, .inl ⟨rfl, rfl⟩⟩
  | case2 s found c rest fault hcut =>
    exact ⟨[], s, c :: rest, .done _ _, by simp, .inr ⟨c, rest, fault, rfl, hcut, rfl⟩⟩
  | case3 s found c rest cut hcut text ih =>
    obtain ⟨ls, t, ds, hreads, hfound, hend⟩ := ih
    refine ⟨cut.lexeme c rest :: ls, t, ds, .step hcut hreads, ?_, hend⟩
    rw [hfound]
    simp [Cut.lexeme, text]

/-- What is read is put behind the lexemes found before, and scanning goes on from there. -/
theorem Reads.scanFrom_eq {s t : State} {cs ds : List Char} {ls : List Lexeme}
    (h : Reads s cs ls t ds) (found : Array Lexeme) :
    scanFrom s cs found = scanFrom t ds (found ++ ls) := by
  induction h generalizing found with
  | done s cs => simp
  | @step s t c rest left cut ls hcut _ ih =>
    rw [scanFrom]
    simp only [hcut]
    rw [ih, ← Cut.lexeme]
    simp

/-- Scanning ends without a fault exactly where everything is read. -/
theorem scanFrom_eq_iff (s : State) (cs : List Char) (ls : List Lexeme) :
    scanFrom s cs #[] = ⟨ls.toArray, none⟩ ↔ ∃ t, Reads s cs ls t [] := by
  obtain ⟨ms, t, ds, hreads, hfound, hend⟩ := scanFrom_reads s cs #[]
  have hlexemes : (scanFrom s cs #[]).lexemes = ms.toArray := by simpa using hfound
  constructor
  · intro h
    rw [h] at hlexemes hend
    have hls : ls = ms := by simpa using hlexemes
    rcases hend with ⟨rfl, _⟩ | ⟨_, _, _, _, _, hfault⟩
    · exact ⟨t, hls ▸ hreads⟩
    · cases hfault
  · rintro ⟨u, hall⟩
    obtain ⟨ks, rfl, hrest⟩ := hreads.extend hall
    rcases hend with ⟨rfl, hfault⟩ | ⟨c, rest, fault, rfl, hcut, _⟩
    · cases hrest
      rw [List.append_nil, ← hlexemes, ← hfault]
    · -- The rest can be read, so its cut does not fail.
      cases hrest with
      | step hcut' _ => rw [hcut] at hcut'; cases hcut'

end Lexer

open Lexer

/-- A scan without a fault is a stream. -/
theorem tokenize_of_fault_eq_none {source : String} (h : (Lexed.ofSource source).fault = none) :
    tokenize source = .ok (Lexed.ofSource source).stream := by
  simp [tokenize, Lexed.result, Lexed.error?, h]

/-- A template has a stream exactly where it is read to its end within the limit of tokens. -/
theorem tokenize_eq_ok_iff (source : String) (stream : Stream) :
    tokenize source = .ok stream ↔
      ∃ ls t, Reads .initial source.toList ls t [] ∧ ls.length ≤ Limits.tokenCount ∧
        stream = .ofLexemes ls := by
  obtain ⟨⟨found, fault⟩, hscan⟩ : ∃ scan, scanFrom .initial source.toList #[] = scan := ⟨_, rfl⟩
  have hiff := scanFrom_eq_iff .initial source.toList
  simp only [hscan, Scan.mk.injEq] at hiff
  simp only [tokenize, Lexed.ofSource, Lexed.ofScan, Lexer.scan, hscan, Scan.capped]
  by_cases hsize : found.size ≤ Limits.tokenCount
  · simp only [hsize, if_true, Lexed.result, Lexed.error?]
    cases fault with
    | none =>
      simp only [Option.map_none, Except.ok.injEq]
      constructor
      · rintro rfl
        obtain ⟨t, hreads⟩ := (hiff found.toList).mp ⟨by simp, rfl⟩
        exact ⟨found.toList, t, hreads, by simpa using hsize, rfl⟩
      · rintro ⟨ls, t, hreads, _, rfl⟩
        obtain ⟨rfl, _⟩ := (hiff ls).mpr ⟨t, hreads⟩
        simp
    | some fault =>
      simp only [Option.map_some, reduceCtorEq, false_iff]
      rintro ⟨ls, t, hreads, _⟩
      cases ((hiff ls).mpr ⟨t, hreads⟩).2
  · simp only [hsize, if_false, Lexed.result, Lexed.error?, Option.map_some, reduceCtorEq,
      false_iff]
    rintro ⟨ls, t, hreads, hlength, _⟩
    obtain ⟨rfl, _⟩ := (hiff ls).mpr ⟨t, hreads⟩
    exact hsize (by simpa using hlength)

end EscapeAudit
