import EscapeAudit.Proofs.Commitment
import EscapeAudit.Proofs.Targets

/-!
# The text of a draft

The text of a draft is told by the edits that it has taken: around each token stand the texts put
before it, the last of them first, then its replacement or its own text, and then the texts put
behind it, the first of them first (`Records.text_eq`).  A token has one replacement at most
(`once_committed`), because a second one would have been refused.

So the order of two changesets matters only at the tokens that both are about.  If there are none,
each of them finds the draft as it would without the other (`refusal?_submit_of_disjoint`), and the
two drafts are equal in the end (`submit_comm`).
-/

namespace EscapeAudit

/-! ## One replacement for each token -/

namespace Edit

/-- No token is replaced twice. -/
def Once (edits : List Edit) : Prop := ∀ i, (edits.filterMap (replacement? i)).length ≤ 1

theorem once_nil : Once [] := fun _ => Nat.zero_le _

theorem Once.snoc {size : Nat} {made : List Edit} {e : Edit} (h : Once made)
    (he : ∀ r, ¬ e.Offends size made r) : Once (made ++ [e]) := by
  intro i
  rw [List.filterMap_append, List.length_append, List.filterMap_cons, List.filterMap_nil]
  cases hown : e.replacement? i with
  | none => exact h i
  | some text =>
    obtain rfl := replacement?_eq_some_iff.mp hown
    have hlt : i < size := Nat.lt_of_not_le fun hle => he _ (.outOfRange hle)
    have hfree : made.filterMap (replacement? i) = [] := by
      rw [List.filterMap_eq_nil_iff]
      intro e' he'
      refine Option.eq_none_iff_forall_ne_some.mpr fun other hother => ?_
      obtain rfl := replacement?_eq_some_iff.mp hother
      exact he _ (.conflict hlt he')
    rw [hfree]
    exact Nat.le_refl 1

theorem Once.append {size : Nat} {made edits : List Edit} (h : Once made)
    (hedits : Harmless size made edits) : Once (made ++ edits) := by
  induction edits generalizing made with
  | nil => rwa [List.append_nil]
  | cons e edits ih =>
    rw [← List.singleton_append, ← List.append_assoc]
    exact ih (h.snoc hedits.1) hedits.2

end Edit

namespace Draft

theorem once_committed {s : Stream} {made : List Edit} {d : Draft} (h : Records s made d)
    (hmade : Edit.Once made) (cs : List Changeset) : Edit.Once (made ++ d.committed cs) := by
  induction cs generalizing made d with
  | nil => rwa [committed, accepted, List.flatMap_nil, List.append_nil]
  | cons c cs ih =>
    cases hc : d.refusal? c with
    | none =>
      rw [committed_cons_of_accepted hc, ← List.append_assoc]
      exact ih (h.accept hc) (hmade.append ((refusal?_eq_none_iff h).mp hc).2)
    | some r =>
      rw [committed_cons_of_refused hc]
      exact ih (h.refuse hc) hmade

theorem applied_submitAll (d : Draft) (cs : List Changeset) :
    (d.submitAll cs).applied = d.applied + (d.accepted cs).length := by
  induction cs generalizing d with
  | nil => rfl
  | cons c cs ih =>
    refine (ih (d.submit c)).trans ?_
    cases hc : d.refusal? c with
    | none =>
      simp only [accepted, submit, hc, Option.isNone_none, if_true, List.length_append,
        List.length_singleton]
      omega
    | some r => simp [accepted, submit, hc]

/-! ## The text -/

/-- The text of a draft is that of its tokens, each with its edits. -/
theorem Records.text_eq {s : Stream} {made : List Edit} {d : Draft} (h : Records s made d) :
    d.text =
      .join (s.tokens.toList.zipIdx.map fun z => (Patch.ofEdits made z.2).apply z.1.text) := by
  have hpatches :
      d.patches.toList = (List.range s.tokens.toList.length).map (Patch.ofEdits made) := by
    refine List.ext_getElem? fun i => ?_
    by_cases hi : i < s.size
    · simp [h.patches i hi, show i < s.tokens.size from hi]
    · have hsize := h.size
      simp [hsize, Nat.le_of_not_lt hi, show s.tokens.size ≤ i from Nat.le_of_not_lt hi]
  rw [text_eq_join, pieces, h.stream, hpatches, List.range_eq_range', List.zip_map_right,
    ← List.zipIdx_eq_zip_range', List.map_map]
  rfl

theorem Records.text_eq_source {s : Stream} {d : Draft} (h : Records s [] d) :
    d.text = s.source := by
  have hown : ∀ z : Token × Nat, (Patch.ofEdits [] z.2).apply z.1.text = z.1.text := by
    intro z
    simp [Patch.apply, Patch.ofEdits]
  rw [h.text_eq, Stream.source_eq_join, List.map_congr_left fun z _ => hown z]
  conv => rhs; rw [← List.zipIdx_map_fst 0 s.tokens.toList, List.map_map]
  rfl

/-! ## Changesets about different tokens -/

section Exchange

variable {a b c : Changeset}

theorem size_submit (d : Draft) (c : Changeset) : (d.submit c).patches.size = d.patches.size := by
  unfold submit
  split
  · rfl
  · exact size_foldl_patched c.edits d.patches

theorem foldl_add_of_not_target {edits : List Edit} {i : Nat} (h : ∀ e ∈ edits, e.token ≠ i)
    (p : Patch) : edits.foldl (fun p e => if e.token = i then p.add e else p) p = p := by
  induction edits with
  | nil => rfl
  | cons e edits ih =>
    rw [List.foldl_cons, if_neg (h e List.mem_cons_self)]
    exact ih fun e' he' => h e' (List.mem_cons_of_mem e he')

/-- Edits leave the tokens that they are not about. -/
theorem getElem?_foldl_patched_of_not_target {edits : List Edit} {i : Nat}
    (h : ∀ e ∈ edits, e.token ≠ i) (patches : Array Patch) :
    (edits.foldl patched patches)[i]? = patches[i]? := by
  rw [getElem?_foldl_patched]
  simp [foldl_add_of_not_target h]

theorem getElem?_submit_of_not_target {i : Nat} (h : ∀ e ∈ c.edits, e.token ≠ i) (d : Draft) :
    (d.submit c).patches[i]? = d.patches[i]? := by
  unfold submit
  split
  · rfl
  · exact getElem?_foldl_patched_of_not_target h d.patches

/-- A changeset finds the draft as it would without one that is about other tokens. -/
theorem refusal?_submit_of_disjoint
    (h : List.Disjoint (a.edits.map Edit.token) (b.edits.map Edit.token)) (d : Draft) :
    (d.submit a).refusal? b = d.refusal? b := by
  refine refusal?_congr (size_submit d a) fun e he =>
    getElem?_submit_of_not_target (fun e' he' heq => ?_) d
  exact h (List.mem_map_of_mem he') (heq ▸ List.mem_map_of_mem he)

theorem foldl_patched_comm {xs ys : List Edit}
    (h : List.Disjoint (xs.map Edit.token) (ys.map Edit.token)) (patches : Array Patch) :
    ys.foldl patched (xs.foldl patched patches) = xs.foldl patched (ys.foldl patched patches) := by
  refine Array.ext_getElem? fun i => ?_
  -- At each token one of the two lists does nothing.
  by_cases hi : i ∈ xs.map Edit.token
  · have hys : ∀ e ∈ ys, e.token ≠ i := fun e he heq => h hi (heq ▸ List.mem_map_of_mem he)
    rw [getElem?_foldl_patched_of_not_target hys, getElem?_foldl_patched, getElem?_foldl_patched,
      getElem?_foldl_patched_of_not_target hys]
  · have hxs : ∀ e ∈ xs, e.token ≠ i := fun e he heq => hi (heq ▸ List.mem_map_of_mem he)
    rw [getElem?_foldl_patched_of_not_target hxs, getElem?_foldl_patched,
      getElem?_foldl_patched_of_not_target hxs, getElem?_foldl_patched]

theorem submit_of_accepted {d : Draft} (hc : d.refusal? c = none) :
    d.submit c =
      ⟨d.stream, c.edits.foldl patched d.patches, d.applied + 1, d.rejected⟩ := by
  rw [submit, hc]

/-- Two changesets about different tokens can be exchanged. -/
theorem submit_comm (h : List.Disjoint (a.edits.map Edit.token) (b.edits.map Edit.token))
    (d : Draft) : (d.submit a).submit b = (d.submit b).submit a := by
  have hb := refusal?_submit_of_disjoint h d
  have ha := refusal?_submit_of_disjoint (List.disjoint_comm.mp h) d
  cases hra : d.refusal? a with
  | some r => rw [submit_of_refused (ha.trans hra), submit_of_refused hra, submit_oneMoreRejected]
  | none =>
    cases hrb : d.refusal? b with
    | some r => rw [submit_of_refused (hb.trans hrb), submit_of_refused hrb, submit_oneMoreRejected]
    | none =>
      rw [submit_of_accepted (hb.trans hrb), submit_of_accepted (ha.trans hra),
        submit_of_accepted hra, submit_of_accepted hrb, foldl_patched_comm h]

end Exchange

end Draft

/-- The text of a draft is told by the edits of the accepted changesets.  Each token has the texts
put before it, the last one first, its replacement or its own text, and the texts put behind it in
order.  It has one replacement at most, and without accepted changesets the text is that of the
template.  Two neighbours in the sequence of changesets that are about different tokens can be
exchanged: what becomes of each of them is the same, and so is the draft in the end, with its text
and its counts. -/
theorem draft_rendered (s : Stream) (cs : List Changeset) :
    let d := (Draft.ofStream s).submitAll cs
    let made := (Draft.ofStream s).committed cs
    d.text = .join (s.tokens.toList.zipIdx.map fun z =>
      .join (made.filterMap (Edit.before? z.2)).reverse ++
        (made.filterMap (Edit.replacement? z.2)).getLast?.getD z.1.text ++
        .join (made.filterMap (Edit.after? z.2))) ∧
    (∀ i, (made.filterMap (Edit.replacement? i)).length ≤ 1) ∧
    (d.applied = 0 → d.text = s.source) ∧
    ∀ before a b after, cs = before ++ a :: b :: after →
      List.Disjoint (a.edits.map Edit.token) (b.edits.map Edit.token) →
      let d' := (Draft.ofStream s).submitAll before
      (d'.submit b).refusal? a = d'.refusal? a ∧ (d'.submit a).refusal? b = d'.refusal? b ∧
        (Draft.ofStream s).submitAll (before ++ b :: a :: after) = d := by
  intro d made
  have hrecords : Draft.Records s made d := by
    simpa using (Draft.records_ofStream s).submitAll cs
  have honce : Edit.Once made := by
    simpa using Draft.once_committed (Draft.records_ofStream s) Edit.once_nil cs
  refine ⟨hrecords.text_eq, honce, fun happlied => ?_, ?_⟩
  · have hnone : (Draft.ofStream s).accepted cs = [] := by
      have hcount : d.applied = 0 + ((Draft.ofStream s).accepted cs).length :=
        (Draft.ofStream s).applied_submitAll cs
      refine List.length_eq_zero_iff.mp ?_
      omega
    have hmade : made = [] := by
      simp only [made, Draft.committed, hnone, List.flatMap_nil]
    rw [hmade] at hrecords
    exact hrecords.text_eq_source
  · rintro before a b after rfl hdisjoint
    refine ⟨Draft.refusal?_submit_of_disjoint (List.disjoint_comm.mp hdisjoint) _,
      Draft.refusal?_submit_of_disjoint hdisjoint _, ?_⟩
    simp only [d, Draft.submitAll, List.foldl_append, List.foldl_cons]
    rw [Draft.submit_comm hdisjoint]

/-- Two calls around one variable that is replaced once, the second one outside.  The call and the
text behind the close tag are about different tokens, so they can be exchanged. -/
theorem draft_rendered_nested_calls :
    let s := (Lexed.ofSource "<?= $a ?>").stream
    let inner : Changeset := ⟨[.insertBefore 2 "f(", .insertAfter 2 ")"]⟩
    let outer : Changeset := ⟨[.insertBefore 2 "g(", .insertAfter 2 ")"]⟩
    let behind : Changeset := ⟨[.insertAfter 4 "!"]⟩
    let start : List Changeset := [inner, ⟨[.replace 2 "$b"]⟩, ⟨[.replace 2 "$c"]⟩]
    let d := (Draft.ofStream s).submitAll (start ++ [outer, behind])
    d.text = "<?= g(f($b)) ?>!" ∧ d.applied = 4 ∧ d.rejected = 1 ∧
      List.Disjoint (outer.edits.map Edit.token) (behind.edits.map Edit.token) ∧
      (Draft.ofStream s).submitAll (start ++ [behind, outer]) = d := by
  intro s inner outer behind start d
  have hdisjoint : List.Disjoint (outer.edits.map Edit.token) (behind.edits.map Edit.token) := by
    simp [outer, behind, Edit.token]
  obtain ⟨htext, _, _, hexchange⟩ := draft_rendered s (start ++ [outer, behind])
  exact ⟨htext.trans (by decide +kernel), by decide +kernel, by decide +kernel, hdisjoint,
    (hexchange start outer behind [] rfl hdisjoint).2.2⟩

end EscapeAudit
