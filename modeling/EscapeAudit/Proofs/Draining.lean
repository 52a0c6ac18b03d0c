import EscapeAudit.Proofs.Lists
import EscapeAudit.Proofs.SplitTree

/-!
# How many ranges a statement has

The walk over a statement takes up a limited number of ranges.  Here the limit is left out:
`Stream.drain` goes on until the queue is empty.  It ends because every range is split into lighter
ones (`children_lighter`), where a range weighs one more than twice its length.  The length alone
would not do, since a range can be split into empty ones, and each of them is taken up too.

The weight of the ranges that wait is also a bound on what is still to come (`length_drain_le`), and
the walk is the part of the drain that the limit allows (`walk_eq_drain`).  So a statement that is
not too long is never cut short (`statement_drains`).
-/

namespace EscapeAudit

namespace Range

/-- What a range weighs.  At most so many ranges come out of it, itself included. -/
def weight (r : Range) : Nat := 2 * r.length + 1

/-- What ranges weigh together. -/
def totalWeight : List Range → Nat
  | [] => 0
  | r :: rs => r.weight + totalWeight rs

@[simp] theorem totalWeight_nil : totalWeight [] = 0 := rfl

@[simp] theorem totalWeight_cons (r : Range) (rs : List Range) :
    totalWeight (r :: rs) = r.weight + totalWeight rs := rfl

@[simp] theorem totalWeight_append (rs rs' : List Range) :
    totalWeight (rs ++ rs') = totalWeight rs + totalWeight rs' := by
  induction rs with
  | nil => simp
  | cons r rs ih => simp [ih, Nat.add_assoc]

/-- Every cut makes one piece more and takes two halves of a token away, so it costs one. -/
theorem totalWeight_pieces {start stop : Nat} {cuts : List Nat} (hsorted : cuts.Pairwise (· < ·))
    (hcuts : ∀ c ∈ cuts, start ≤ c ∧ c < stop) :
    totalWeight (pieces start stop cuts) + cuts.length = 2 * (stop - start) + 1 := by
  induction cuts generalizing start with
  | nil => simp [pieces, weight, length]
  | cons c cuts ih =>
    obtain ⟨hbehind, hsorted⟩ := List.pairwise_cons.mp hsorted
    obtain ⟨hstart, hstop⟩ := hcuts c (by simp)
    have hrest := @ih (c + 1) hsorted fun d hd => ⟨hbehind d hd, (hcuts d (by simp [hd])).2⟩
    simp only [pieces, totalWeight_cons, weight, length, List.length_cons]
    omega

end Range

namespace Stream

/-- Every range is split into ranges that together are lighter. -/
theorem children_lighter (s : Stream) (r : Range) :
    Range.totalWeight (s.split r).children < r.weight := by
  rcases split_cases s r with hsplit | ⟨first, last, hb, _, hsplit⟩ |
    ⟨then_, else_, hthen, helse, hsplit⟩ | hsplit | ⟨first, last, _, hsplit⟩
  · simp [hsplit, Split.children, Range.weight]
  · have := hb.start_le
    have := hb.first_le
    have := hb.last_lt
    simp only [hsplit, Split.children, Range.totalWeight_cons, Range.totalWeight_nil, Range.weight,
      Range.length]
    omega
  · obtain ⟨hle, hlt, _⟩ := mem_inScope hthen
    obtain ⟨hle', hlt', _⟩ := mem_inScope helse
    dsimp only at hle' hlt'
    simp only [hsplit, Split.children, Range.totalWeight_cons, Range.totalWeight_nil, Range.weight,
      Range.length]
    omega
  · have hpos := List.length_pos_iff.mpr (inScope_ne_nil_of_cutAt hsplit)
    have hweight := Range.totalWeight_pieces (s.pairwise_inScope (· == .concat) r) fun c hc => by
      obtain ⟨hle, hlt, _⟩ := mem_inScope (Array.mem_toList_iff.mp hc)
      exact ⟨hle, hlt⟩
    rw [hsplit, Split.children, Range.cutAt_eq_pieces, Range.weight, Range.length]
    omega
  · simp [hsplit, Split.children, Range.weight]

/-- Taking up a range makes the queue lighter. -/
theorem totalWeight_pushAll_lt (s : Stream) {queue rest : Queue Range} {r : Range}
    (h : queue.pop? = some (r, rest)) :
    Range.totalWeight (rest.pushAll (s.split r).children).toList <
      Range.totalWeight queue.toList := by
  have hlighter := s.children_lighter r
  rw [Queue.toList_pushAll, Queue.toList_of_pop? h, Range.totalWeight_append,
    Range.totalWeight_cons]
  omega

/-- Splits the ranges of a queue, and the ranges that come out of them, until none is left. -/
def drain (s : Stream) (queue : Queue Range) : List Split :=
  match h : queue.pop? with
  | none => []
  | some (r, rest) =>
    have := s.totalWeight_pushAll_lt h
    s.split r :: s.drain (rest.pushAll (s.split r).children)
termination_by Range.totalWeight queue.toList

theorem drain_of_pop?_eq_none (s : Stream) {queue : Queue Range} (h : queue.pop? = none) :
    s.drain queue = [] := by
  rw [drain]
  split
  · rfl
  · rename_i hpop
    rw [h] at hpop
    cases hpop

theorem drain_of_pop?_eq_some (s : Stream) {queue rest : Queue Range} {r : Range}
    (h : queue.pop? = some (r, rest)) :
    s.drain queue = s.split r :: s.drain (rest.pushAll (s.split r).children) := by
  rw [drain]
  split
  · rename_i hpop
    rw [h] at hpop
    cases hpop
  · rename_i hpop
    rw [h] at hpop
    cases hpop
    rfl

/-- A queue gives at most as many ranges as it weighs. -/
theorem length_drain_le (s : Stream) (queue : Queue Range) :
    (s.drain queue).length ≤ Range.totalWeight queue.toList := by
  fun_induction drain s queue with
  | case1 queue hpop => exact Nat.zero_le _
  | case2 queue r rest hpop hlighter ih =>
    rw [List.length_cons]
    omega

/-- A walk is the part of the drain that its limit allows. -/
theorem walk_eq_drain (s : Stream) (budget : Nat) (queue : Queue Range) :
    (s.walk budget queue).splits = (s.drain queue).take budget ∧
      ((s.walk budget queue).cutShort = true ↔ budget < (s.drain queue).length) := by
  induction budget generalizing queue with
  | zero =>
    unfold walk
    cases hpop : queue.pop? with
    | none => simp [s.drain_of_pop?_eq_none hpop]
    | some popped => simp [s.drain_of_pop?_eq_some hpop]
  | succ budget ih =>
    unfold walk
    cases hpop : queue.pop? with
    | none => simp [s.drain_of_pop?_eq_none hpop]
    | some popped => simp [s.drain_of_pop?_eq_some hpop, ih]

/-- A walk whose limit is not below the length of the drain finds all leaves of the drain. -/
theorem leaves_walk_eq_drain {s : Stream} {budget : Nat} {queue : Queue Range}
    (h : (s.drain queue).length ≤ budget) :
    (s.walk budget queue).cutShort = false ∧
      (s.walk budget queue).leaves = (s.drain queue).filterMap Split.leaf? := by
  obtain ⟨hsplits, hcut⟩ := s.walk_eq_drain budget queue
  refine ⟨Bool.eq_false_iff.mpr fun hshort => ?_, ?_⟩
  · exact absurd (hcut.mp hshort) (Nat.not_lt.mpr h)
  · rw [Walk.leaves, hsplits, List.take_of_length_le h]

/-- The leaves of the drain are those of the tree. -/
theorem perm_leaves_drain (s : Stream) (r : Range) :
    ((s.drain (.single r)).filterMap Split.leaf?).Perm (s.splitTree r).leaves := by
  obtain ⟨hcut, hleaves⟩ := leaves_walk_eq_drain (Nat.le_refl (s.drain (.single r)).length)
  rw [walk_eq_walkFrom, Queue.toList_single] at hcut hleaves
  have hperm := perm_leaves_walkFrom hcut
  rw [hleaves] at hperm
  simpa using hperm

/-! ## The limit of a statement -/

/-- What is said about leaves is not that a statement is cut short. -/
theorem cutShort_not_mem_leafSteps (s : Stream) (rules : RuleSet) (entry e : Nat) (p : Pending)
    (leaves : List Leaf) : Step.cutShort e ∉ s.leafSteps rules entry p leaves := by
  intro hmem
  obtain ⟨l, _, htells⟩ := (s.forall₂_leafSteps rules entry p leaves).exists_of_mem_right hmem
  unfold Tells at htells
  split at htells
  · obtain ⟨f, hf, _⟩ := htells
    cases hf
  · cases htells

theorem cutShort_not_mem_outputSteps {s : Stream} {entry : Nat} (rules : RuleSet)
    (h : (s.statementWalk entry).cutShort = false) (e : Nat) :
    Step.cutShort e ∉ s.outputSteps rules entry := by
  cases hgate : s.gate rules entry with
  | suppressed comment => simp [outputSteps, hgate]
  | absent | disallowed =>
    have hopen : ∀ comment, s.gate rules entry ≠ .suppressed comment := by
      intro comment
      rw [hgate]
      exact nofun
    obtain ⟨p, hsteps⟩ := outputSteps_eq hopen
    rw [hsteps, h, if_neg Bool.false_ne_true, List.append_nil]
    exact s.cutShort_not_mem_leafSteps rules entry e p _

end Stream

/-- Only a statement that is cut short is noted with the code of the limit. -/
theorem Step.code_note_eq_leafLimit_iff (step : Step) :
    step.note.code = .leafLimit ↔ ∃ entry, step = .cutShort entry := by
  cases step with
  | exempt => simp [Step.note, Note.debug, Code.debug, Code.leafLimit]
  | passed => simp [Step.note, Note.debug, Code.debug, Code.leafLimit]
  | found f => simp [Step.note, Finding.note, Note.debug, Code.debug, Code.leafLimit]
  | cutShort entry => simp [Step.note, Note.error]

/-- The ranges of a statement of `n` tokens come to an end after at most `2 * n + 1` of them, and
the leaves among them are those of its tree.  A walk with a limit takes up the first of these
ranges, and is cut short exactly if there are more.  So a statement of at most 2047 tokens is not
noted for its length, and unless it is exempt, something is said about each of its leaves. -/
theorem statement_drains (s : Stream) (rules : RuleSet) (entry : Nat) :
    let n := s.statementEnd entry - (entry + 1)
    let drained := s.drain (.single (s.statementRange entry))
    let leaves := drained.filterMap Split.leaf?
    drained.length ≤ 2 * n + 1 ∧
    leaves.Perm (s.splitTree (s.statementRange entry)).leaves ∧
    (∀ limit, (s.walk limit (.single (s.statementRange entry))).splits = drained.take limit ∧
      ((s.walk limit (.single (s.statementRange entry))).cutShort = true ↔
        limit < drained.length)) ∧
    (n ≤ 2047 →
      (∀ step ∈ s.outputSteps rules entry, step.note.code ≠ .leafLimit) ∧
      ((∀ comment, s.gate rules entry ≠ .suppressed comment) →
        List.Forall₂ (s.Tells rules) leaves (s.outputSteps rules entry))) := by
  intro n drained leaves
  have hlength : drained.length ≤ 2 * n + 1 := by
    have hle := s.length_drain_le (.single (s.statementRange entry))
    rw [Queue.toList_single, Range.totalWeight_cons, Range.totalWeight_nil] at hle
    exact hle
  refine ⟨hlength, s.perm_leaves_drain _, fun limit => s.walk_eq_drain limit _, fun hn => ?_⟩
  have hlimit : drained.length ≤ Limits.rangesPerStatement := by
    have : Limits.rangesPerStatement = 4096 := rfl
    omega
  obtain ⟨hcut, hleaves⟩ := Stream.leaves_walk_eq_drain hlimit
  refine ⟨fun step hstep hcode => ?_, fun hgate => ?_⟩
  · obtain ⟨e, rfl⟩ := step.code_note_eq_leafLimit_iff.mp hcode
    exact Stream.cutShort_not_mem_outputSteps rules hcut e hstep
  · obtain ⟨p, hsteps⟩ := Stream.outputSteps_eq hgate
    have hcut' : (s.statementWalk entry).cutShort = false := hcut
    rw [hsteps, hcut', if_neg Bool.false_ne_true, List.append_nil]
    have hleaves' : (s.statementWalk entry).leaves = leaves := hleaves
    rw [hleaves']
    exact s.forall₂_leafSteps rules entry p leaves

/-- Eight tokens give eight ranges.  Three of them are empty, and one is a leaf. -/
theorem statement_drains_empty_pieces :
    ∃ s, tokenize "<?=$a.($b?:.)?>" = .ok s ∧ s.statementEnd 0 - (0 + 1) = 8 ∧
      (s.drain (.single (s.statementRange 0))).length = 8 ∧
      (∀ step ∈ s.outputSteps .standard 0, step.note.code ≠ .leafLimit) ∧
      List.Forall₂ (s.Tells .standard) [⟨⟨1, 2⟩, 1, 1⟩] (s.outputSteps .standard 0) := by
  obtain ⟨source, hsource⟩ : ∃ source, source = "<?=$a.($b?:.)?>" := ⟨_, rfl⟩
  rw [← hsource]
  obtain ⟨s, hs⟩ : ∃ s, s = (Lexed.ofSource source).stream := ⟨_, rfl⟩
  obtain ⟨hfault, hend, hgate, hlength, hleaves⟩ : (Lexed.ofSource source).fault = none ∧
      s.statementEnd 0 - (0 + 1) = 8 ∧ s.gate .standard 0 = .absent ∧
      (s.walk 17 (.single (s.statementRange 0))).splits.length = 8 ∧
      (s.walk 17 (.single (s.statementRange 0))).leaves = [⟨⟨1, 2⟩, 1, 1⟩] := by
    rw [hs, hsource]
    decide +kernel
  obtain ⟨hbound, _, hwalk, hshort⟩ := statement_drains s .standard 0
  rw [hend] at hbound hshort
  have hall : (s.walk 17 (.single (s.statementRange 0))).splits =
      s.drain (.single (s.statementRange 0)) := by
    rw [(hwalk 17).1, List.take_of_length_le hbound]
  obtain ⟨hcode, htells⟩ := hshort (by decide)
  have htells := htells fun comment => by rw [hgate]; exact nofun
  rw [hall] at hlength
  rw [← hall] at htells
  rw [Walk.leaves] at hleaves
  rw [hleaves] at htells
  exact ⟨s, hs ▸ tokenize_of_fault_eq_none hfault, hend, hlength, hcode, htells⟩

end EscapeAudit
