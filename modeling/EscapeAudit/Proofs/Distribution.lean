import EscapeAudit.Proofs.Workers
import Mathlib.Algebra.Order.Floor.Div

/-!
# How files are handed out

A batch with several workers is cut twice.  Its chunks are worked off one after another, and each
chunk is cut into slices, one for each worker.  Both sizes are quotients that are rounded up, the
size of a chunk is limited besides, and the last chunk and the last slice may be short.  The number
of a file is worked out from these sizes alone.

A cut into pieces of one size has as many pieces as the quotient, rounded up (`length_chunksOf`), and
no piece is empty (`ne_nil_of_mem_chunksOf`).  So a chunk has no more slices than there are workers
(`length_slices_le`), whatever its length.
-/

namespace EscapeAudit.Batch

/-! ## Quotients rounded up -/

theorem ceilDiv_eq (n d : Nat) : ceilDiv n d = n ⌈/⌉ d :=
  (Nat.ceilDiv_eq_add_pred_div n d).symm

theorem sliceSize_pos (n workers : Nat) : 0 < sliceSize n workers :=
  Nat.lt_of_lt_of_le Nat.one_pos (Nat.le_max_left _ _)

/-- Slices of the size for a number of workers are no more than there are workers. -/
theorem ceilDiv_sliceSize_le (n : Nat) {workers : Nat} (hworkers : 0 < workers) :
    n ⌈/⌉ sliceSize n workers ≤ workers := by
  rw [ceilDiv_le_iff_le_mul (sliceSize_pos n workers)]
  calc n ≤ workers * (n ⌈/⌉ workers) := le_smul_ceilDiv hworkers
    _ ≤ workers * sliceSize n workers :=
      Nat.mul_le_mul_left _ (ceilDiv_eq n workers ▸ Nat.le_max_right _ _)
    _ = sliceSize n workers * workers := Nat.mul_comm _ _

/-! ## Pieces of one size -/

section Pieces

variable {α : Type}

theorem ne_nil_of_mem_chunksOf {size : Nat} {items piece : List α}
    (h : piece ∈ chunksOf size items) : piece ≠ [] := by
  fun_induction chunksOf size items with
  | case1 => cases h
  | case2 items hempty =>
    obtain rfl := List.mem_singleton.mp h
    intro hnil
    exact hempty (List.isEmpty_iff.mpr hnil)
  | case3 items hempty hsize ih =>
    rcases List.mem_cons.mp h with rfl | hrest
    · intro hnil
      rcases List.take_eq_nil_iff.mp hnil with hzero | hnil
      · exact hsize hzero
      · exact hempty (List.isEmpty_iff.mpr hnil)
    · exact ih hrest

/-- So many pieces are enough when they have room for all the items. -/
theorem length_chunksOf_le_iff {size : Nat} (hsize : 0 < size) (items : List α) (n : Nat) :
    (chunksOf size items).length ≤ n ↔ items.length ≤ size * n := by
  fun_induction chunksOf size items generalizing n with
  | case1 items hempty => simp [List.isEmpty_iff.mp hempty]
  | case2 items hempty hzero => exact absurd hzero (Nat.ne_of_gt hsize)
  | case3 items hempty hne ih =>
    cases n with
    | zero => simpa using hempty
    | succ n =>
      rw [List.length_cons, Nat.succ_le_succ_iff, ih, List.length_drop, Nat.mul_succ,
        Nat.sub_le_iff_le_add]

theorem length_chunksOf {size : Nat} (hsize : 0 < size) (items : List α) :
    (chunksOf size items).length = items.length ⌈/⌉ size := by
  refine eq_of_forall_ge_iff fun n => ?_
  rw [length_chunksOf_le_iff hsize, ceilDiv_le_iff_le_mul hsize]

end Pieces

/-! ## Chunks and slices -/

section Plan

variable {α : Type} {workers first : Nat} {chunk : List α}

theorem workers_pos (o : BatchOptions) : 0 < o.workers :=
  Nat.lt_of_lt_of_le Nat.one_pos (Nat.le_max_left _ _)

theorem length_slices_le (hworkers : 0 < workers) (first : Nat) (chunk : List α) :
    (slices workers first chunk).length ≤ workers := by
  rw [slices, List.length_map, List.length_zipIdx, length_chunksOf (sliceSize_pos _ _)]
  exact ceilDiv_sliceSize_le chunk.length hworkers

/-- A slice holds files from where it begins in its chunk, and at least one. -/
theorem getElem?_slices {t : Nat} {slice : List (α × Nat)}
    (h : (slices workers first chunk)[t]? = some slice) :
    slice ≠ [] ∧ ∀ j f n, slice[j]? = some (f, n) →
      n = first + t * sliceSize chunk.length workers + j := by
  rw [slices, List.getElem?_map, List.getElem?_zipIdx] at h
  obtain ⟨piece, hpiece, rfl⟩ := Option.map_eq_some_iff.mp h
  obtain ⟨files, hfiles, rfl⟩ := Option.map_eq_some_iff.mp hpiece
  constructor
  · intro hnil
    exact ne_nil_of_mem_chunksOf (List.mem_of_getElem? hfiles) (List.zipIdx_eq_nil_iff.mp hnil)
  · intro j f n hj
    rw [List.getElem?_zipIdx] at hj
    obtain ⟨file, _, hpair⟩ := Option.map_eq_some_iff.mp hj
    rw [← (Prod.mk.inj hpair).2, Nat.zero_add]

/-- A chunk of a batch is that many files, from where it begins, in slices. -/
theorem exists_slices_of_getElem?_plan {files : List α} {c : Nat} {cut : List (List (α × Nat))}
    (h : (plan workers files)[c]? = some cut) :
    ∃ chunk, cut = slices workers (c * chunkSize files.length workers) chunk ∧
      cut.flatten.length = chunk.length := by
  rw [plan, List.getElem?_map, List.getElem?_zipIdx] at h
  obtain ⟨piece, hpiece, rfl⟩ := Option.map_eq_some_iff.mp h
  obtain ⟨chunk, _, rfl⟩ := Option.map_eq_some_iff.mp hpiece
  refine ⟨chunk, by rw [Nat.zero_add], ?_⟩
  rw [flatten_slices, List.length_zipIdx]

end Plan

/-- Handing out files loses none and repeats none.  The chunks, each slice by slice, hold the files of
the batch in order, every file with its index.  The number of a file, worked out from its chunk, its
slice and its place there, is its index.  No slice is empty, and a chunk has no more slices than there
are workers. -/
theorem files_handed_out {α : Type} (o : BatchOptions) (files : List α) :
    (plan o.workers files).flatten.flatten = files.zipIdx ∧
    ∀ c chunk, (plan o.workers files)[c]? = some chunk →
      chunk.length ≤ o.workers ∧
      ∀ t slice, chunk[t]? = some slice → slice ≠ [] ∧
        ∀ j f n, slice[j]? = some (f, n) → files[n]? = some f ∧
          n = c * chunkSize files.length o.workers +
            t * sliceSize chunk.flatten.length o.workers + j := by
  refine ⟨flatten_plan o.workers files, ?_⟩
  intro c cut hcut
  obtain ⟨chunk, rfl, hlength⟩ := exists_slices_of_getElem?_plan hcut
  refine ⟨length_slices_le (workers_pos o) _ chunk, ?_⟩
  intro t slice hslice
  obtain ⟨hne, hnumber⟩ := getElem?_slices hslice
  refine ⟨hne, ?_⟩
  intro j f n hj
  have hmem : (f, n) ∈ (plan o.workers files).flatten.flatten :=
    List.mem_flatten.mpr ⟨slice, List.mem_flatten.mpr
      ⟨_, List.mem_of_getElem? hcut, List.mem_of_getElem? hslice⟩, List.mem_of_getElem? hj⟩
  rw [flatten_plan] at hmem
  refine ⟨List.mem_zipIdx_iff_getElem?.mp hmem, ?_⟩
  rw [hlength]
  exact hnumber j f n hj

/-- Five files and three workers: the third chunk is short, and its only file is the last one. -/
theorem files_handed_out_short_chunk :
    (plan (BatchOptions.mk 3 true none false false).workers ["a", "b", "c", "d", "e"])[2]? =
      some [[("e", 4)]] ∧
    [[("e", 4)]].length ≤ 3 ∧ 4 = 2 * chunkSize 5 3 + 0 * sliceSize 1 3 + 0 := by
  have hchunk : (plan (BatchOptions.mk 3 true none false false).workers
      ["a", "b", "c", "d", "e"])[2]? = some [[("e", 4)]] := by decide +kernel
  obtain ⟨hslices, hplace⟩ := (files_handed_out ⟨3, true, none, false, false⟩
    ["a", "b", "c", "d", "e"]).2 2 _ hchunk
  exact ⟨hchunk, hslices, ((hplace 0 _ rfl).2 0 "e" 4 rfl).2⟩

end EscapeAudit.Batch
