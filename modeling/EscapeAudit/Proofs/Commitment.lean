import EscapeAudit.Proofs.Fixes

/-!
# Changesets are taken whole or not at all

A draft keeps no list of the edits that it has taken.  It keeps the text before, in place of and
behind each token.  `Draft.committed` is the list: the edits of the accepted changesets one after
another.  `Draft.Records` says that the draft shows these edits and no others, and every submission
keeps it that way (`Records.submitAll`).

With the list at hand it can be said why a changeset is refused.  An edit offends if its token does
not exist, or if it replaces a token that an edit of the list, or one before it in its own
changeset, has replaced (`Edit.Offends`).  The first edit that offends gives the reason
(`refusal?_eq_some_iff`).  A refused changeset is not in the list, so nothing that comes later
depends on it (`submitAll_oneMoreRejected`).
-/

namespace EscapeAudit

namespace Edit

/-- The text that an edit puts before a token. -/
def before? (i : Nat) : Edit → Option String
  | insertBefore token text => if token = i then some text else none
  | _ => none

/-- The text that an edit puts in place of a token. -/
def replacement? (i : Nat) : Edit → Option String
  | replace token text => if token = i then some text else none
  | _ => none

/-- The text that an edit puts behind a token. -/
def after? (i : Nat) : Edit → Option String
  | insertAfter token text => if token = i then some text else none
  | _ => none

theorem replacement?_eq_some_iff {i : Nat} {e : Edit} {text : String} :
    e.replacement? i = some text ↔ e = .replace i text := by
  cases e with
  | insertBefore => simp [replacement?]
  | insertAfter => simp [replacement?]
  | replace token other =>
    by_cases htoken : token = i
    · simp [replacement?, htoken]
    · simp [replacement?, htoken]

/-- Why an edit cannot be made behind others in a stream of a size. -/
inductive Offends (size : Nat) (made : List Edit) : Edit → Refusal → Prop where
  /-- Its token does not exist. -/
  | outOfRange {e : Edit} : size ≤ e.token → Offends size made e (.outOfRange e.token size)
  /-- It replaces a token that is already replaced. -/
  | conflict {i : Nat} {text other : String} : i < size → .replace i other ∈ made →
    Offends size made (.replace i text) (.conflict i)

/-- No edit of a list offends behind those before it. -/
def Harmless (size : Nat) (made : List Edit) : List Edit → Prop
  | [] => True
  | e :: rest => (∀ r, ¬ e.Offends size made r) ∧ Harmless size (made ++ [e]) rest

theorem harmless_append {size : Nat} {made xs ys : List Edit} :
    Harmless size made (xs ++ ys) ↔ Harmless size made xs ∧ Harmless size (made ++ xs) ys := by
  induction xs generalizing made with
  | nil => simp [Harmless]
  | cons e xs ih =>
    rw [List.cons_append, Harmless, Harmless, ih, List.append_assoc, List.singleton_append,
      and_assoc]

/-- There is a first edit that offends, or there is none. -/
theorem harmless_or_exists_offends (size : Nat) (made edits : List Edit) :
    Harmless size made edits ∨ ∃ before e after r, edits = before ++ e :: after ∧
      Harmless size made before ∧ e.Offends size (made ++ before) r := by
  induction edits generalizing made with
  | nil => exact .inl trivial
  | cons e edits ih =>
    by_cases he : ∃ r, e.Offends size made r
    · obtain ⟨r, he⟩ := he
      exact .inr ⟨[], e, edits, r, rfl, trivial, by rwa [List.append_nil]⟩
    · have hfirst : ∀ r, ¬ e.Offends size made r := fun r hr => he ⟨r, hr⟩
      rcases ih (made ++ [e]) with hrest | ⟨before, x, after, r, rfl, hbefore, hx⟩
      · exact .inl ⟨hfirst, hrest⟩
      · refine .inr ⟨e :: before, x, after, r, rfl, ⟨hfirst, hbefore⟩, ?_⟩
        rwa [List.append_assoc] at hx

/-- What makes a list of edits harmful, edit by edit. -/
theorem not_harmless_iff {size : Nat} {made edits : List Edit} :
    ¬ Harmless size made edits ↔ (∃ e ∈ edits, size ≤ e.token) ∨
      ∃ before i text after other, edits = before ++ .replace i text :: after ∧
        .replace i other ∈ made ++ before := by
  constructor
  · intro h
    rcases harmless_or_exists_offends size made edits with hall |
      ⟨before, e, after, r, rfl, _, he⟩
    · exact absurd hall h
    · cases he with
      | outOfRange hle => exact .inl ⟨e, by simp, hle⟩
      | @conflict i text other _ hmade => exact .inr ⟨before, i, text, after, other, rfl, hmade⟩
  · intro h hall
    rcases h with ⟨e, he, hle⟩ | ⟨before, i, text, after, other, rfl, hmade⟩
    · obtain ⟨before, after, rfl⟩ := List.append_of_mem he
      exact (harmless_append.mp hall).2.1 _ (.outOfRange hle)
    · have hfirst := (harmless_append.mp hall).2.1
      rcases Nat.lt_or_ge i size with hlt | hle
      · exact hfirst _ (.conflict hlt hmade)
      · exact hfirst _ (.outOfRange hle)

end Edit

/-! ## What a draft shows -/

namespace Patch

/-- The changes that edits make at a token, the first edit innermost. -/
def ofEdits (edits : List Edit) (i : Nat) : Patch where
  before := .join (edits.filterMap (Edit.before? i)).reverse
  replacement := (edits.filterMap (Edit.replacement? i)).getLast?
  after := .join (edits.filterMap (Edit.after? i))

theorem ofEdits_snoc (edits : List Edit) (e : Edit) (i : Nat) :
    ofEdits (edits ++ [e]) i =
      if e.token = i then (ofEdits edits i).add e else ofEdits edits i := by
  simp only [ofEdits, List.filterMap_append, List.filterMap_cons, List.filterMap_nil]
  cases e with
  | insertBefore token text =>
    by_cases htoken : token = i <;>
      simp [Edit.token, Edit.before?, Edit.replacement?, Edit.after?, add, htoken]
  | insertAfter token text =>
    by_cases htoken : token = i <;>
      simp [Edit.token, Edit.before?, Edit.replacement?, Edit.after?, add, htoken,
        String.join_append]
  | replace token text =>
    by_cases htoken : token = i <;>
      simp [Edit.token, Edit.before?, Edit.replacement?, Edit.after?, add, htoken]

theorem ofEdits_append (edits more : List Edit) (i : Nat) :
    ofEdits (edits ++ more) i =
      more.foldl (fun p e => if e.token = i then p.add e else p) (ofEdits edits i) := by
  induction more generalizing edits with
  | nil => rw [List.append_nil, List.foldl_nil]
  | cons e more ih =>
    rw [List.foldl_cons, ← ofEdits_snoc, ← ih, List.append_assoc, List.singleton_append]

theorem isSome_replacement_ofEdits {edits : List Edit} {i : Nat} :
    (ofEdits edits i).replacement.isSome = true ↔ ∃ text, .replace i text ∈ edits := by
  rw [ofEdits, List.getLast?_isSome, ← List.length_pos_iff, List.length_pos_iff_exists_mem]
  simp [Edit.replacement?_eq_some_iff]

end Patch

namespace Draft

/-- The changesets of a sequence that a draft accepts, in order. -/
def accepted (d : Draft) : List Changeset → List Changeset
  | [] => []
  | c :: cs => (if (d.refusal? c).isNone then [c] else []) ++ (d.submit c).accepted cs

/-- The edits that a draft takes from a sequence of changesets, in order. -/
def committed (d : Draft) (cs : List Changeset) : List Edit :=
  (d.accepted cs).flatMap Changeset.edits

theorem committed_cons_of_accepted {d : Draft} {c : Changeset} (hc : d.refusal? c = none)
    (cs : List Changeset) : d.committed (c :: cs) = c.edits ++ (d.submit c).committed cs := by
  simp [committed, accepted, hc]

theorem committed_cons_of_refused {d : Draft} {c : Changeset} {r : Refusal}
    (hc : d.refusal? c = some r) (cs : List Changeset) :
    d.committed (c :: cs) = (d.submit c).committed cs := by
  simp [committed, accepted, hc]

/-- A draft of a stream shows edits and nothing else. -/
structure Records (s : Stream) (edits : List Edit) (d : Draft) : Prop where
  stream : d.stream = s
  size : d.patches.size = s.size
  patches : ∀ i < s.size, d.patches[i]? = some (.ofEdits edits i)

theorem records_ofStream (s : Stream) : Records s [] (ofStream s) := by
  refine ⟨rfl, by simp [ofStream], fun i hi => ?_⟩
  simp [ofStream, hi]
  rfl

namespace Records

variable {s : Stream} {made : List Edit} {d : Draft} {c : Changeset}

theorem accept (h : Records s made d) (hc : d.refusal? c = none) :
    Records s (made ++ c.edits) (d.submit c) := by
  simp only [submit, hc]
  refine ⟨h.stream, (size_foldl_patched c.edits d.patches).trans h.size, fun i hi => ?_⟩
  rw [getElem?_foldl_patched, h.patches i hi, Option.map_some, Patch.ofEdits_append]

theorem refuse (h : Records s made d) {r : Refusal} (hc : d.refusal? c = some r) :
    Records s made (d.submit c) := by
  simp only [submit, hc]
  exact ⟨h.stream, h.size, h.patches⟩

/-- A draft shows what it has taken from the changesets so far. -/
theorem submitAll (h : Records s made d) (cs : List Changeset) :
    Records s (made ++ d.committed cs) (d.submitAll cs) := by
  induction cs generalizing made d with
  | nil =>
    rw [committed, accepted, List.flatMap_nil, List.append_nil]
    exact h
  | cons c cs ih =>
    cases hc : d.refusal? c with
    | none =>
      rw [committed_cons_of_accepted hc, ← List.append_assoc]
      exact ih (h.accept hc)
    | some r =>
      rw [committed_cons_of_refused hc]
      exact ih (h.refuse hc)

theorem getElem?_of_le (h : Records s made d) {i : Nat} (hi : s.size ≤ i) : d.patches[i]? = none :=
  Array.getElem?_eq_none (h.size ▸ hi)

end Records

/-! ## Why a changeset is refused -/

section Refusals

variable {s : Stream} {made done : List Edit} {d : Draft} {e : Edit} {replaced : List Nat}

/-- An edit that offends is the reason. -/
theorem refusalFrom_of_offends (h : Records s made d)
    (hreplaced : ∀ i, i ∈ replaced ↔ ∃ text, .replace i text ∈ done) {r : Refusal}
    (he : e.Offends s.size (made ++ done) r) (rest : List Edit) :
    d.refusalFrom (e :: rest) replaced = some r := by
  cases he with
  | outOfRange hle => rw [refusalFrom, h.getElem?_of_le hle, h.size]
  | @conflict i text other hlt hmade =>
    have htaken : ((Patch.ofEdits made i).replacement.isSome || replaced.contains i) = true := by
      rw [Bool.or_eq_true, Patch.isSome_replacement_ofEdits, List.contains_iff_mem, hreplaced]
      exact (List.mem_append.mp hmade).imp (⟨other, ·⟩) (⟨other, ·⟩)
    simp only [refusalFrom, Edit.token, h.patches i hlt, htaken, if_true]

/-- An edit that does not offend is passed over. -/
theorem refusalFrom_of_not_offends (h : Records s made d)
    (hreplaced : ∀ i, i ∈ replaced ↔ ∃ text, .replace i text ∈ done)
    (he : ∀ r, ¬ e.Offends s.size (made ++ done) r) (rest : List Edit) :
    ∃ replaced', (∀ i, i ∈ replaced' ↔ ∃ text, .replace i text ∈ done ++ [e]) ∧
      d.refusalFrom (e :: rest) replaced = d.refusalFrom rest replaced' := by
  have hlt : e.token < s.size := Nat.lt_of_not_le fun hle => he _ (.outOfRange hle)
  cases e with
  | insertBefore token text =>
    exact ⟨replaced, by simpa using hreplaced, by simp only [refusalFrom, h.patches _ hlt]⟩
  | insertAfter token text =>
    exact ⟨replaced, by simpa using hreplaced, by simp only [refusalFrom, h.patches _ hlt]⟩
  | replace token text =>
    have hfree :
        ¬ ((Patch.ofEdits made token).replacement.isSome || replaced.contains token) = true := by
      rw [Bool.or_eq_true, Patch.isSome_replacement_ofEdits, List.contains_iff_mem, hreplaced]
      rintro (⟨other, hmem⟩ | ⟨other, hmem⟩)
      · exact he _ (.conflict hlt (List.mem_append_left _ hmem))
      · exact he _ (.conflict hlt (List.mem_append_right _ hmem))
    refine ⟨token :: replaced, fun i => ?_, ?_⟩
    · rw [List.mem_cons, hreplaced]
      constructor
      · rintro (rfl | ⟨other, hmem⟩)
        · exact ⟨text, by simp⟩
        · exact ⟨other, List.mem_append_left _ hmem⟩
      · rintro ⟨other, hmem⟩
        rcases List.mem_append.mp hmem with hmem | hmem
        · exact .inr ⟨other, hmem⟩
        · simp only [List.mem_singleton, Edit.replace.injEq] at hmem
          exact .inl hmem.1
    · simp only [refusalFrom, Edit.token, h.patches token hlt, if_neg hfree]

/-- Harmless edits are passed over. -/
theorem refusalFrom_of_harmless (h : Records s made d)
    (hreplaced : ∀ i, i ∈ replaced ↔ ∃ text, .replace i text ∈ done) {edits : List Edit}
    (hedits : Edit.Harmless s.size (made ++ done) edits) (rest : List Edit) :
    ∃ replaced', (∀ i, i ∈ replaced' ↔ ∃ text, .replace i text ∈ done ++ edits) ∧
      d.refusalFrom (edits ++ rest) replaced = d.refusalFrom rest replaced' := by
  induction edits generalizing done replaced with
  | nil => exact ⟨replaced, by simpa using hreplaced, rfl⟩
  | cons e edits ih =>
    obtain ⟨next, hnext, hstep⟩ := refusalFrom_of_not_offends h hreplaced hedits.1 (edits ++ rest)
    have hrest := hedits.2
    rw [List.append_assoc] at hrest
    obtain ⟨last, hlast, hrun⟩ := ih hnext hrest
    refine ⟨last, fun i => ?_, hstep.trans hrun⟩
    rw [hlast, List.append_assoc, List.singleton_append]

/-- A changeset is looked at behind all edits that were made before. -/
theorem refusal?_of_harmless_append (h : Records s made d) {c : Changeset} {edits rest : List Edit}
    (hc : c.edits = edits ++ rest) (hne : c.edits ≠ []) (hedits : Edit.Harmless s.size made edits) :
    ∃ replaced, (∀ i, i ∈ replaced ↔ ∃ text, .replace i text ∈ edits) ∧
      d.refusal? c = d.refusalFrom rest replaced := by
  have hnone : ∀ i, i ∈ ([] : List Nat) ↔ ∃ text, Edit.replace i text ∈ ([] : List Edit) := by simp
  obtain ⟨replaced, hreplaced, hrun⟩ :=
    refusalFrom_of_harmless h hnone (by rwa [List.append_nil]) rest
  rw [List.nil_append] at hreplaced
  refine ⟨replaced, hreplaced, ?_⟩
  rw [← hrun, ← hc]
  unfold refusal?
  split
  · exact absurd ‹_› hne
  · rfl

theorem refusal?_of_harmless (h : Records s made d) {c : Changeset} (hne : c.edits ≠ [])
    (hc : Edit.Harmless s.size made c.edits) : d.refusal? c = none := by
  obtain ⟨_, _, hrun⟩ := refusal?_of_harmless_append h (List.append_nil c.edits).symm hne hc
  exact hrun

theorem refusal?_of_offends (h : Records s made d) {c : Changeset} {before after : List Edit}
    (hc : c.edits = before ++ e :: after) (hbefore : Edit.Harmless s.size made before) {r : Refusal}
    (he : e.Offends s.size (made ++ before) r) : d.refusal? c = some r := by
  obtain ⟨replaced, hreplaced, hrun⟩ := refusal?_of_harmless_append h hc (by simp [hc]) hbefore
  exact hrun.trans (refusalFrom_of_offends h hreplaced he after)

/-- A changeset is accepted if it has edits and they are harmless. -/
theorem refusal?_eq_none_iff (h : Records s made d) {c : Changeset} :
    d.refusal? c = none ↔ c.edits ≠ [] ∧ Edit.Harmless s.size made c.edits := by
  refine ⟨fun hc => ?_, fun hc => refusal?_of_harmless h hc.1 hc.2⟩
  have hne : c.edits ≠ [] := by
    intro hnil
    rw [refusal?, hnil] at hc
    cases hc
  rcases Edit.harmless_or_exists_offends s.size made c.edits with hall |
    ⟨before, e, after, r, hsplit, hbefore, he⟩
  · exact ⟨hne, hall⟩
  · rw [refusal?_of_offends h hsplit hbefore he] at hc
    cases hc

/-- The first edit that offends gives the reason. -/
theorem refusal?_eq_some_iff (h : Records s made d) {c : Changeset} {r : Refusal} :
    d.refusal? c = some r ↔ c.edits = [] ∧ r = .empty ∨
      ∃ before e after, c.edits = before ++ e :: after ∧ Edit.Harmless s.size made before ∧
        e.Offends s.size (made ++ before) r := by
  constructor
  · intro hc
    by_cases hnil : c.edits = []
    · rw [refusal?, hnil] at hc
      exact .inl ⟨hnil, (Option.some.inj hc).symm⟩
    · rcases Edit.harmless_or_exists_offends s.size made c.edits with hall |
        ⟨before, e, after, r', hsplit, hbefore, he⟩
      · rw [refusal?_of_harmless h hnil hall] at hc
        cases hc
      · rw [refusal?_of_offends h hsplit hbefore he] at hc
        cases hc
        exact .inr ⟨before, e, after, hsplit, hbefore, he⟩
  · rintro (⟨hnil, rfl⟩ | ⟨before, e, after, hsplit, hbefore, he⟩)
    · rw [refusal?, hnil]
    · exact refusal?_of_offends h hsplit hbefore he

end Refusals

/-! ## What does not matter -/

/-- Only the tokens that the edits are about matter. -/
theorem refusalFrom_congr {d d' : Draft} (hsize : d.patches.size = d'.patches.size)
    {edits : List Edit} (h : ∀ e ∈ edits, d.patches[e.token]? = d'.patches[e.token]?)
    (replaced : List Nat) : d.refusalFrom edits replaced = d'.refusalFrom edits replaced := by
  induction edits generalizing replaced with
  | nil => rfl
  | cons e edits ih =>
    have hrest := ih fun e' he' => h e' (List.mem_cons_of_mem e he')
    rw [refusalFrom, refusalFrom, h e List.mem_cons_self, hsize]
    cases d'.patches[e.token]? with
    | none => rfl
    | some p =>
      cases e with
      | insertBefore => exact hrest replaced
      | insertAfter => exact hrest replaced
      | replace token text => simp only [hrest]

theorem refusal?_congr {d d' : Draft} (hsize : d.patches.size = d'.patches.size) {c : Changeset}
    (h : ∀ e ∈ c.edits, d.patches[e.token]? = d'.patches[e.token]?) :
    d.refusal? c = d'.refusal? c := by
  unfold refusal?
  split
  · rfl
  · exact refusalFrom_congr hsize h []

/-- The draft with one refusal more. -/
def oneMoreRejected (d : Draft) : Draft := { d with rejected := d.rejected + 1 }

theorem refusal?_oneMoreRejected (d : Draft) (c : Changeset) :
    d.oneMoreRejected.refusal? c = d.refusal? c := by
  apply refusal?_congr
  · rfl
  · intro e _
    rfl

theorem submit_oneMoreRejected (d : Draft) (c : Changeset) :
    d.oneMoreRejected.submit c = (d.submit c).oneMoreRejected := by
  rw [submit, submit, refusal?_oneMoreRejected]
  cases d.refusal? c <;> rfl

/-- A refusal in the past is only counted. -/
theorem submitAll_oneMoreRejected (d : Draft) (cs : List Changeset) :
    d.oneMoreRejected.submitAll cs = (d.submitAll cs).oneMoreRejected := by
  induction cs generalizing d with
  | nil => rfl
  | cons c cs ih =>
    simp only [submitAll, List.foldl_cons] at ih ⊢
    rw [submit_oneMoreRejected, ih]

theorem submit_of_refused {d : Draft} {c : Changeset} {r : Refusal} (hc : d.refusal? c = some r) :
    d.submit c = d.oneMoreRejected := by
  rw [submit, hc]
  rfl

end Draft

/-- Changesets are taken whole or not at all, behind any others.  One is refused exactly if it has
no edits, if an edit is about a token that does not exist, or if an edit replaces a token that an
accepted changeset or an edit before it has replaced, and the first such edit gives the reason.  A
refused one is counted, and whatever is submitted later ends as if it had never been there.  An
accepted one is counted too, and then the draft shows its edits behind those made before. -/
theorem submission_atomic (s : Stream) (earlier : List Changeset) (c : Changeset) :
    let d := (Draft.ofStream s).submitAll earlier
    let made := (Draft.ofStream s).committed earlier
    d.Records s made ∧
    (d.refusal? c ≠ none ↔ c.edits = [] ∨ (∃ e ∈ c.edits, s.size ≤ e.token) ∨
      ∃ before i text after other, c.edits = before ++ .replace i text :: after ∧
        .replace i other ∈ made ++ before) ∧
    (∀ r, d.refusal? c = some r ↔ c.edits = [] ∧ r = .empty ∨
      ∃ before e after, c.edits = before ++ e :: after ∧ Edit.Harmless s.size made before ∧
        e.Offends s.size (made ++ before) r) ∧
    (d.refusal? c ≠ none →
      d.submit c = { d with rejected := d.rejected + 1 } ∧
      ∀ later, ((d.submit c).submitAll later).text = (d.submitAll later).text ∧
        ((d.submit c).submitAll later).applied = (d.submitAll later).applied ∧
        ((d.submit c).submitAll later).rejected = (d.submitAll later).rejected + 1 ∧
        ∀ c', ((d.submit c).submitAll later).refusal? c' = (d.submitAll later).refusal? c') ∧
    (d.refusal? c = none →
      (d.submit c).Records s (made ++ c.edits) ∧
      (d.submit c).applied = d.applied + 1 ∧ (d.submit c).rejected = d.rejected) := by
  intro d made
  have hrecords : Draft.Records s made d := by
    simpa using (Draft.records_ofStream s).submitAll earlier
  refine ⟨hrecords, ?_, fun r => Draft.refusal?_eq_some_iff hrecords, fun hrefused => ?_,
    fun hc => ?_⟩
  · rw [ne_eq, Draft.refusal?_eq_none_iff hrecords, ← Edit.not_harmless_iff]
    rw [Classical.not_and_iff_not_or_not, ne_eq, Classical.not_not]
  · obtain ⟨r, hc⟩ := Option.ne_none_iff_exists'.mp hrefused
    rw [Draft.submit_of_refused hc]
    refine ⟨rfl, fun later => ?_⟩
    rw [Draft.submitAll_oneMoreRejected]
    exact ⟨rfl, rfl, rfl, Draft.refusal?_oneMoreRejected _⟩
  · refine ⟨hrecords.accept hc, ?_, ?_⟩
    · rw [Draft.submit, hc]
    · rw [Draft.submit, hc]

/-- Behind one accepted and one refused changeset, a third one is refused for its last edit.  The
edits before that one leave no trace. -/
theorem submission_atomic_conflict :
    let s := (Lexed.ofSource "<?= $a ?>").stream
    let earlier : List Changeset :=
      [⟨[.replace 2 "$b"]⟩, ⟨[.insertBefore 2 "f(", .insertAfter 99 ")"]⟩]
    let d := (Draft.ofStream s).submitAll earlier
    let c : Changeset := ⟨[.insertBefore 2 "g(", .replace 3 "", .replace 2 "$c"]⟩
    (Draft.ofStream s).committed earlier = [.replace 2 "$b"] ∧ d.applied = 1 ∧ d.rejected = 1 ∧
      d.refusal? c = some (.conflict 2) ∧
      ∀ later, ((d.submit c).submitAll later).text = (d.submitAll later).text := by
  intro s earlier d c
  have hconflict : d.refusal? c = some (.conflict 2) := by decide +kernel
  obtain ⟨_, _, _, hrefused, _⟩ := submission_atomic s earlier c
  obtain ⟨_, hlater⟩ := hrefused (by rw [hconflict]; exact nofun)
  exact ⟨by decide +kernel, by decide +kernel, by decide +kernel, hconflict,
    fun later => (hlater later).1⟩

end EscapeAudit
