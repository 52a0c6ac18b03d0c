import EscapeAudit.Batch.Basic
import Mathlib.Data.List.Basic

/-!
# Workers

A batch is cut into chunks and slices, one slice for each worker.  Nothing is lost by this, and
every file keeps its number (`flatten_plan`).  A worker stops behind the first file that it does not
go on behind, and the others know nothing of it.  So the results of a batch are those of the parts of
the slices that the workers get to (`Determined.results_runFiles`).  One worker alone gets no further
than its first stop in the whole batch, and several may get further.  When no file makes a worker
stop, all of them get to the end, and then their number does not matter.
-/

namespace EscapeAudit.Batch

/-! ## Chunks and slices -/

/-- Numbering the files of each piece from where the piece begins numbers all of them. -/
theorem flatten_zipIdx_chunksOf {α : Type} (size : Nat) (items : List α) (first k : Nat) :
    (((chunksOf size items).zipIdx k).map fun (piece, i) =>
        piece.zipIdx (first + i * size)).flatten =
      items.zipIdx (first + k * size) := by
  fun_induction chunksOf size items generalizing k with
  | case1 items hempty => simp [List.isEmpty_iff.mp hempty]
  | case2 items hempty => simp
  | case3 items hempty hsize ih =>
    rw [List.zipIdx_cons, List.map_cons, List.flatten_cons, ih, Nat.add_mul, Nat.one_mul,
      ← Nat.add_assoc]
    rcases Nat.lt_or_ge items.length size with hshort | hlong
    · have hle := Nat.le_of_lt hshort
      rw [List.take_of_length_le hle, List.drop_eq_nil_of_le hle, List.zipIdx_nil, List.append_nil]
    · conv_rhs => rw [← List.take_append_drop size items, List.zipIdx_append]
      rw [List.length_take_of_le hlong]

theorem flatten_slices {α : Type} (workers first : Nat) (chunk : List α) :
    (slices workers first chunk).flatten = chunk.zipIdx first := by
  have h := flatten_zipIdx_chunksOf (sliceSize chunk.length workers) chunk first 0
  rwa [Nat.zero_mul, Nat.add_zero] at h

/-- The chunks and slices of a batch hold its files in order, with their numbers. -/
theorem flatten_plan {α : Type} (workers : Nat) (files : List α) :
    (plan workers files).flatten.flatten = files.zipIdx := by
  have h := flatten_zipIdx_chunksOf (chunkSize files.length workers) files 0 0
  rw [Nat.zero_mul, Nat.zero_add] at h
  rw [← h, List.flatten_flatten, plan, List.map_map]
  refine congrArg List.flatten (List.map_congr_left fun (piece, i) _ => ?_)
  rw [Function.comp_apply, flatten_slices]
  dsimp only
  rw [Nat.zero_add]

/-! ## Results -/

theorem merge_empty (r : BatchResults) : r.merge .empty = r := by
  simp [BatchResults.merge, BatchResults.empty]

theorem empty_merge (r : BatchResults) : BatchResults.empty.merge r = r := by
  simp [BatchResults.merge, BatchResults.empty]

theorem merge_assoc (r s t : BatchResults) : (r.merge s).merge t = r.merge (s.merge t) := by
  simp [BatchResults.merge, Array.append_assoc]

theorem add_merge (r s : BatchResults) (p : Path) (x : Outcome) :
    (r.merge s).add p x = r.merge (s.add p x) := by
  unfold BatchResults.add BatchResults.merge
  cases x.result with
  | error e => simp
  | ok c =>
    dsimp only
    split <;> simp

theorem foldl_add_merge (r s : BatchResults) (trace : List (Path × Outcome)) :
    trace.foldl (fun r (p, x) => r.add p x) (r.merge s) =
      r.merge (trace.foldl (fun r (p, x) => r.add p x) s) := by
  induction trace generalizing s with
  | nil => rfl
  | cons v rest ih =>
    rw [List.foldl_cons, List.foldl_cons, ← ih]
    exact congrArg (rest.foldl _) (add_merge r s v.1 v.2)

theorem resultsOf_append (xs ys : List (Path × Outcome)) :
    resultsOf (xs ++ ys) = (resultsOf xs).merge (resultsOf ys) := by
  rw [resultsOf, List.foldl_append, ← merge_empty (List.foldl _ _ xs), foldl_add_merge]
  rfl

/-! ## How far workers get -/

/-- The files with their outcomes up to the first one that a worker does not go on behind. -/
def upToStop (o : BatchOptions) : List (Path × Outcome) → List (Path × Outcome)
  | [] => []
  | v :: rest => if v.2.goesOn o then v :: upToStop o rest else [v]

theorem upToStop_eq_self {o : BatchOptions} {trace : List (Path × Outcome)}
    (h : ∀ v ∈ trace, v.2.goesOn o = true) : upToStop o trace = trace := by
  induction trace with
  | nil => rfl
  | cons v rest ih =>
    obtain ⟨hv, hrest⟩ := List.forall_mem_cons.mp h
    rw [upToStop, if_pos hv, ih hrest]

/-- The files that each worker is given, one list after another. -/
def shares (o : BatchOptions) (files : List Path) : List (List Path) :=
  if o.workers == 1 || files.length == 1 then [files]
  else (plan o.workers files).flatten.map fun slice => slice.map Prod.fst

theorem flatten_shares (o : BatchOptions) (files : List Path) :
    (shares o files).flatten = files := by
  unfold shares
  split
  · exact List.flatten_singleton
  · rw [← List.map_flatten, flatten_plan, List.zipIdx_map_fst]

/-! ## The value of a run -/

section Value

variable {W : Type} (check : W → Nat → Path → Told (Outcome × W)) (o : BatchOptions) (w : W)
  (files : List Path)

theorem value_runSequential :
    (runSequential check o w files).value =
      (resultsOf (runSlice check o w files.zipIdx).value.visited,
        (runSlice check o w files.zipIdx).value.world) := by
  rw [runSequential, Told.value_bind]
  split <;> rfl

theorem value_runFiles :
    (runFiles check o w files).value =
      Prod.map BatchResults.sorted id
        (if o.workers == 1 || files.length == 1 then (runSequential check o w files).value
        else (runChunks check o w (plan o.workers files) .empty).value) := by
  unfold runFiles
  dsimp only
  split <;> rfl

end Value

/-! ## Outcomes that depend on the path only -/

section Determined

variable {W : Type} {check : W → Nat → Path → Told (Outcome × W)} {I : W → Prop}
  {outcome : Path → Outcome}

/-- As long as the state is one of `I`, it stays one, and what becomes of a file depends on its path
only. -/
def Determined (check : W → Nat → Path → Told (Outcome × W)) (I : W → Prop)
    (outcome : Path → Outcome) : Prop :=
  ∀ w, I w → ∀ number p, (check w number p).value.1 = outcome p ∧ I (check w number p).value.2

/-- Files with what becomes of them. -/
def outcomesOf (outcome : Path → Outcome) (files : List Path) : List (Path × Outcome) :=
  files.map fun p => (p, outcome p)

theorem Determined.visited_runSlice (h : Determined check I outcome) (o : BatchOptions) {w : W}
    (hw : I w) (slice : List (Path × Nat)) :
    (runSlice check o w slice).value.visited =
        upToStop o (outcomesOf outcome (slice.map Prod.fst)) ∧
      I (runSlice check o w slice).value.world := by
  induction slice generalizing w with
  | nil => exact ⟨rfl, hw⟩
  | cons f rest ih =>
    obtain ⟨p, number⟩ := f
    obtain ⟨houtcome, hw'⟩ := h w hw number p
    obtain ⟨hvisited, hworld⟩ := ih hw'
    rw [runSlice, List.map_cons, outcomesOf, List.map_cons, upToStop, Told.value_bind]
    dsimp only
    rw [houtcome]
    split
    · rw [← outcomesOf, ← hvisited]
      exact ⟨rfl, hworld⟩
    · exact ⟨rfl, hw'⟩

theorem Determined.results_runChunk (h : Determined check I outcome) (o : BatchOptions) {w : W}
    (hw : I w) (slices : List (List (Path × Nat))) :
    (runChunk check o w slices).value.1 =
        resultsOf (slices.flatMap fun slice =>
          upToStop o (outcomesOf outcome (slice.map Prod.fst))) ∧
      I (runChunk check o w slices).value.2 := by
  induction slices generalizing w with
  | nil => exact ⟨rfl, hw⟩
  | cons slice rest ih =>
    obtain ⟨hvisited, hw'⟩ := h.visited_runSlice o hw slice
    obtain ⟨hresults, hworld⟩ := ih hw'
    rw [runChunk, List.flatMap_cons, resultsOf_append, ← hvisited, ← hresults]
    exact ⟨rfl, hworld⟩

theorem Determined.results_runChunks (h : Determined check I outcome) {o : BatchOptions}
    (hfast : o.failFast = false) {w : W} (hw : I w) (chunks : List (List (List (Path × Nat))))
    (done : BatchResults) :
    (runChunks check o w chunks done).value.1 =
      done.merge (resultsOf (chunks.flatten.flatMap fun slice =>
        upToStop o (outcomesOf outcome (slice.map Prod.fst)))) := by
  induction chunks generalizing w done with
  | nil => exact (merge_empty done).symm
  | cons chunk rest ih =>
    obtain ⟨hresults, hw'⟩ := h.results_runChunk o hw chunk
    rw [runChunks, Told.value_bind, hfast, List.flatten_cons, List.flatMap_append,
      resultsOf_append, ← merge_assoc, ← hresults, ← ih hw']
    rfl

/-- The results of a batch are those of the files that the workers get to. -/
theorem Determined.results_runFiles (h : Determined check I outcome) {o : BatchOptions}
    (hfast : o.failFast = false) {w : W} (hw : I w) (files : List Path) :
    (runFiles check o w files).value.1 =
      (resultsOf ((shares o files).flatMap fun share =>
        upToStop o (outcomesOf outcome share))).sorted := by
  rw [value_runFiles, Prod.map_fst]
  refine congrArg BatchResults.sorted ?_
  unfold shares
  split
  · rw [value_runSequential, (h.visited_runSlice o hw _).1, List.zipIdx_map_fst,
      List.flatMap_singleton]
  · rw [h.results_runChunks hfast hw, empty_merge, List.flatMap_map]

/-- Workers that never stop get to all files. -/
theorem flatMap_upToStop_shares {o : BatchOptions} {files : List Path}
    (h : ∀ p ∈ files, (outcome p).goesOn o = true) :
    ((shares o files).flatMap fun share => upToStop o (outcomesOf outcome share)) =
      outcomesOf outcome files := by
  have hshare : ∀ share ∈ shares o files,
      upToStop o (outcomesOf outcome share) = outcomesOf outcome share := by
    intro share hshare
    refine upToStop_eq_self fun v hv => ?_
    obtain ⟨p, hp, rfl⟩ := List.mem_map.mp hv
    refine h p ?_
    rw [← flatten_shares o files]
    exact List.mem_flatten.mpr ⟨share, hshare, hp⟩
  conv_rhs => rw [← flatten_shares o files, outcomesOf, List.map_flatten]
  rw [List.flatMap_def, List.map_congr_left hshare]
  rfl

/-- When no file fails for good, all files are checked. -/
theorem Determined.results_of_recoverable (h : Determined check I outcome) (o : BatchOptions)
    (hfast : o.failFast = false) {w : W} (hw : I w) {files : List Path}
    (hrecoverable : ∀ p ∈ files, ∀ e, (outcome p).result = .error e → e.recoverable = true) :
    (runFiles check o w files).value.1 = (resultsOf (outcomesOf outcome files)).sorted := by
  rw [h.results_runFiles hfast hw, flatMap_upToStop_shares fun p hp => ?_]
  unfold Outcome.goesOn
  cases hresult : (outcome p).result with
  | ok => simp [hfast]
  | error e => simp [hfast, hrecoverable p hp e hresult]

end Determined

end EscapeAudit.Batch

namespace EscapeAudit

open Batch

theorem value_processFile (settings : Settings) (o : BatchOptions) (tree : FileTree) (number : Nat)
    (p : Path) :
    (tree.processFile settings o number p).value =
      match (tree.checkFile settings number p).value with
      | .ok c => (⟨.ok c, (tree.writeIfAsked o c).value.1⟩, (tree.writeIfAsked o c).value.2)
      | .error e => (⟨.error e, .nothing⟩, tree) := by
  rw [FileTree.processFile, Told.value_bind]
  cases (tree.checkFile settings number p).value <;> rfl

/-- A batch that does not write leaves the files as they are. -/
theorem determined_processFile {o : BatchOptions} (ho : o.writeFixes = false) (settings : Settings)
    (tree : FileTree) :
    Determined (FileTree.processFile settings o) (· = tree)
      fun p => (tree.processFile settings o 0 p).value.1 := by
  intro w hw number p
  subst hw
  have hnumber : (w.checkFile settings number p).value = (w.checkFile settings 0 p).value := rfl
  dsimp only
  rw [value_processFile, value_processFile, hnumber]
  cases (w.checkFile settings 0 p).value with
  | error e => exact ⟨rfl, rfl⟩
  | ok c => simp [FileTree.writeIfAsked, ho]

/-- The results of a batch, in the order of the paths, are those of the files that the workers get
to.  A worker stops behind the first file of its share that fails for good, and goes on otherwise.
So when no file fails for good, the number of workers does not matter. -/
theorem workers_agree {W : Type} {check : W → Nat → Path → Told (Outcome × W)} {I : W → Prop}
    {outcome : Path → Outcome} (h : Determined check I outcome) {o : BatchOptions}
    (hfast : o.failFast = false) {w : W} (hw : I w) (files : List Path) :
    (shares o files).flatten = files ∧
    (runFiles check o w files).value.1 =
      (resultsOf ((shares o files).flatMap fun share =>
        upToStop o (outcomesOf outcome share))).sorted ∧
    ((∀ p ∈ files, ∀ e, (outcome p).result = .error e → e.recoverable = true) →
      ∀ threads, (runFiles check { o with threads := threads } w files).value.1 =
        (resultsOf (outcomesOf outcome files)).sorted) := by
  refine ⟨flatten_shares o files, h.results_runFiles hfast hw files, fun hrecoverable threads => ?_⟩
  exact h.results_of_recoverable { o with threads := threads } hfast hw hrecoverable

/-- An empty file fails, but not for good: whatever the number of workers, the other file is
checked. -/
theorem workers_agree_empty_file :
    ∃ tree : FileTree, ∃ results : BatchResults,
      results.failed.size = 1 ∧ results.checked.size = 1 ∧
      ∀ threads, (runFiles
        (FileTree.processFile (.default fun _ => none) ⟨2, false, none, false, false⟩)
        ⟨threads, false, none, false, false⟩ tree [⟨"a.phtml"⟩, ⟨"b.phtml"⟩]).value.1 =
          results := by
  obtain ⟨tree, htree⟩ : ∃ tree, tree = ((FileTree.empty [] "").putFile ["a.phtml"] ⟨#[]⟩).putFile
      ["b.phtml"] "x".toUTF8 := ⟨_, rfl⟩
  obtain ⟨outcome, houtcome⟩ : ∃ outcome : Path → Outcome, outcome = fun p =>
      (tree.processFile (.default fun _ => none) ⟨2, false, none, false, false⟩ 0 p).value.1 :=
    ⟨_, rfl⟩
  obtain ⟨hfailed, hchecked, hall⟩ :
      (resultsOf (outcomesOf outcome [⟨"a.phtml"⟩, ⟨"b.phtml"⟩])).sorted.failed.size = 1 ∧
      (resultsOf (outcomesOf outcome [⟨"a.phtml"⟩, ⟨"b.phtml"⟩])).sorted.checked.size = 1 ∧
      ∀ p ∈ [⟨"a.phtml"⟩, ⟨"b.phtml"⟩],
        (outcome p).goesOn ⟨2, false, none, false, false⟩ = true := by
    rw [houtcome, htree]
    decide +kernel
  refine ⟨tree, _, hfailed, hchecked, ?_⟩
  have hdetermined := determined_processFile (o := ⟨2, false, none, false, false⟩) rfl
    (.default fun _ => none) tree
  rw [← houtcome] at hdetermined
  refine (workers_agree hdetermined (o := ⟨2, false, none, false, false⟩) rfl (w := tree) rfl _).2.2
    fun p hp e he => ?_
  have hgoes := hall p hp
  rwa [Outcome.goesOn, he] at hgoes

/-- A file that fails for good ends the batch of one worker, but not that of two. -/
theorem workers_disagree :
    ∃ tree : FileTree, ∃ files : List Path, ∀ run : Nat → BatchResults,
      (run = fun threads => (runFiles (FileTree.processFile (.default fun _ => none)
          ⟨threads, false, none, false, false⟩) ⟨threads, false, none, false, false⟩ tree
          files).value.1) →
      (run 1).failed = (run 2).failed ∧ (run 1).checked.size = 0 ∧ (run 2).checked.size = 1 := by
  refine ⟨((FileTree.empty [] "").putFile ["a.phtml"] ⟨#[255]⟩).putFile ["b.phtml"] "x".toUTF8,
    [⟨"a.phtml"⟩, ⟨"b.phtml"⟩], ?_⟩
  rintro _ rfl
  decide +kernel

end EscapeAudit
