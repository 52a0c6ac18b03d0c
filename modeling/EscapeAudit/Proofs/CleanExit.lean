import EscapeAudit.Proofs.Workers
import EscapeAudit.Report

/-!
# What a clean exit says

A batch may end before all its files are checked.  One worker ends at the first file that it does
not go on behind, several end their slices there, and with `failFast` a chunk with a failure is the
last one.  In each case something is left behind in the results (`covers_runFiles`): a failure, or a
template whose fixed text could not be written.  Such a template has diagnostics, because there is
nothing to fix in a template without (`diagnostics_ne_nil_of_fixed`).  So a run that ends clean has
checked all files.
-/

namespace EscapeAudit

namespace Batch

variable {W : Type} {check : W → Nat → Path → Told (Outcome × W)} {o : BatchOptions}

/-! ## Visited files -/

/-- Files are checked one after another, each in the state that the one before it left. -/
inductive Visits (check : W → Nat → Path → Told (Outcome × W)) :
    W → List (Path × Nat) → List (Path × Outcome) → W → Prop where
  /-- There are no files. -/
  | nil (w : W) : Visits check w [] [] w
  /-- One file, and then the others. -/
  | cons {w w' : W} {p : Path} {number : Nat} {rest : List (Path × Nat)}
      {trace : List (Path × Outcome)} :
      Visits check (check w number p).value.2 rest trace w' →
      Visits check w ((p, number) :: rest) ((p, (check w number p).value.1) :: trace) w'

theorem Visits.append {w w' w'' : W} {files files' : List (Path × Nat)}
    {trace trace' : List (Path × Outcome)} (h : Visits check w files trace w')
    (h' : Visits check w' files' trace' w'') :
    Visits check w (files ++ files') (trace ++ trace') w'' := by
  induction h with
  | nil => exact h'
  | cons _ ih => exact .cons (ih h')

theorem Visits.exists_check {w w' : W} {files : List (Path × Nat)} {trace : List (Path × Outcome)}
    (h : Visits check w files trace w') {v : Path × Outcome} (hv : v ∈ trace) :
    ∃ w number, v.2 = (check w number v.1).value.1 := by
  induction h with
  | nil => cases hv
  | @cons w _ p number _ _ _ ih =>
    rcases List.mem_cons.mp hv with rfl | hv
    · exact ⟨w, number, rfl⟩
    · exact ih hv

/-- Some of the files are visited, in order.  When one is missed, a worker did not go on behind
another one. -/
def Covers (check : W → Nat → Path → Told (Outcome × W)) (o : BatchOptions) (w : W)
    (files : List (Path × Nat)) (trace : List (Path × Outcome)) (w' : W) : Prop :=
  ∃ seen, seen.Sublist files ∧ Visits check w seen trace w' ∧
    (seen = files ∨ ∃ v ∈ trace, v.2.goesOn o = false)

theorem Covers.append {w w' w'' : W} {files files' : List (Path × Nat)}
    {trace trace' : List (Path × Outcome)} (h : Covers check o w files trace w')
    (h' : Covers check o w' files' trace' w'') :
    Covers check o w (files ++ files') (trace ++ trace') w'' := by
  obtain ⟨seen, hsub, hvisits, hall⟩ := h
  obtain ⟨seen', hsub', hvisits', hall'⟩ := h'
  refine ⟨seen ++ seen', hsub.append hsub', hvisits.append hvisits', ?_⟩
  rcases hall with rfl | ⟨v, hv, hstop⟩
  · rcases hall' with rfl | ⟨v, hv, hstop⟩
    · exact .inl rfl
    · exact .inr ⟨v, List.mem_append_right _ hv, hstop⟩
  · exact .inr ⟨v, List.mem_append_left _ hv, hstop⟩

/-- Behind a stop any number of files may be missed. -/
theorem Covers.stop {w w' : W} {files : List (Path × Nat)} {trace : List (Path × Outcome)}
    (h : Covers check o w files trace w') (hstop : ∃ v ∈ trace, v.2.goesOn o = false)
    (rest : List (Path × Nat)) : Covers check o w (files ++ rest) trace w' := by
  obtain ⟨seen, hsub, hvisits, _⟩ := h
  exact ⟨seen, hsub.trans (List.sublist_append_left files rest), hvisits, .inr hstop⟩

theorem covers_runSlice (check : W → Nat → Path → Told (Outcome × W)) (o : BatchOptions) (w : W)
    (slice : List (Path × Nat)) :
    Covers check o w slice (runSlice check o w slice).value.visited
      (runSlice check o w slice).value.world := by
  induction slice generalizing w with
  | nil => exact ⟨[], .slnil, .nil w, .inl rfl⟩
  | cons f rest ih =>
    obtain ⟨p, number⟩ := f
    have hone : Visits check w [(p, number)] [(p, (check w number p).value.1)]
      (check w number p).value.2 := .cons (.nil _)
    rw [runSlice, Told.value_bind]
    dsimp only
    split
    · exact Covers.append ⟨_, .refl _, hone, .inl rfl⟩ (ih (check w number p).value.2)
    · rename_i hstop
      refine Covers.stop ⟨_, .refl _, hone, .inl rfl⟩ ⟨_, List.mem_singleton_self _, ?_⟩ rest
      simpa using hstop

theorem covers_runChunk (check : W → Nat → Path → Told (Outcome × W)) (o : BatchOptions) (w : W)
    (slices : List (List (Path × Nat))) :
    ∃ trace, Covers check o w slices.flatten trace (runChunk check o w slices).value.2 ∧
      (runChunk check o w slices).value.1 = resultsOf trace := by
  induction slices generalizing w with
  | nil => exact ⟨[], ⟨[], .slnil, .nil w, .inl rfl⟩, rfl⟩
  | cons slice rest ih =>
    obtain ⟨trace, hcovers, hresults⟩ := ih (runSlice check o w slice).value.world
    refine ⟨_, (covers_runSlice check o w slice).append hcovers, ?_⟩
    rw [resultsOf_append, ← hresults]
    rfl

/-! ## Results of visited files -/

theorem resultsOf_cons (v : Path × Outcome) (rest : List (Path × Outcome)) :
    resultsOf (v :: rest) = (BatchResults.empty.add v.1 v.2).merge (resultsOf rest) :=
  resultsOf_append [v] rest

theorem mem_failed_resultsOf {trace : List (Path × Outcome)} {f : Path × CheckError} :
    f ∈ (resultsOf trace).failed ↔ ∃ v ∈ trace, ∃ e, v.2.result = .error e ∧ f = (v.1, e) := by
  induction trace with
  | nil => simp [resultsOf, BatchResults.empty]
  | cons v rest ih =>
    rw [resultsOf_cons, BatchResults.merge, Array.mem_append, ih, List.exists_mem_cons_iff]
    refine or_congr_left ?_
    cases hresult : v.2.result <;> simp [BatchResults.add, hresult, BatchResults.empty]

theorem mem_checked_resultsOf {trace : List (Path × Outcome)} {c : Checked} :
    c ∈ (resultsOf trace).checked ↔ ∃ v ∈ trace, v.2.result = .ok c := by
  induction trace with
  | nil => simp [resultsOf, BatchResults.empty]
  | cons v rest ih =>
    rw [resultsOf_cons, BatchResults.merge, Array.mem_append, ih, List.exists_mem_cons_iff]
    refine or_congr_left ?_
    cases hresult : v.2.result with
    | error => simp [BatchResults.add, hresult, BatchResults.empty]
    | ok c' =>
      simp only [BatchResults.add, hresult, BatchResults.empty, List.push_toArray, List.nil_append,
        List.mem_toArray, List.mem_singleton, Except.ok.injEq]
      exact eq_comm

theorem exists_stop_of_failed {trace : List (Path × Outcome)} (hfast : o.failFast = true)
    (h : (resultsOf trace).failed.isEmpty = false) : ∃ v ∈ trace, v.2.goesOn o = false := by
  obtain ⟨f, hf⟩ := Array.exists_mem_of_ne_empty _ (by simpa using h)
  obtain ⟨v, hv, e, herror, _⟩ := mem_failed_resultsOf.mp hf
  exact ⟨v, hv, by simp [Outcome.goesOn, herror, hfast]⟩

/-- Chunks are worked off behind other chunks, whose files gave `trace₀`. -/
theorem covers_runChunks {w₀ w : W} {before : List (Path × Nat)} {trace₀ : List (Path × Outcome)}
    (h : Covers check o w₀ before trace₀ w) (chunks : List (List (List (Path × Nat)))) :
    ∃ trace, Covers check o w₀ (before ++ chunks.flatten.flatten) trace
        (runChunks check o w chunks (resultsOf trace₀)).value.2 ∧
      (runChunks check o w chunks (resultsOf trace₀)).value.1 = resultsOf trace := by
  induction chunks generalizing w before trace₀ with
  | nil => exact ⟨trace₀, by simpa [runChunks] using h, rfl⟩
  | cons chunk rest ih =>
    obtain ⟨trace, hcovers, hresults⟩ := covers_runChunk check o w chunk
    have hdone := h.append hcovers
    rw [runChunks, Told.value_bind]
    dsimp only
    rw [hresults, ← resultsOf_append, List.flatten_cons, List.flatten_append, ← List.append_assoc]
    split
    · -- With `failFast` the worker that met the failure stopped there.
      rename_i hstop
      rw [Bool.and_eq_true, Bool.not_eq_true'] at hstop
      exact ⟨_, hdone.stop (exists_stop_of_failed hstop.1 hstop.2) _, rfl⟩
    · exact ih hdone

/-- A batch visits its files in order.  When one is missed, a worker did not go on behind another
one. -/
theorem covers_runFiles (check : W → Nat → Path → Told (Outcome × W)) (o : BatchOptions) (w : W)
    (files : List Path) :
    ∃ trace, Covers check o w files.zipIdx trace (runFiles check o w files).value.2 ∧
      (runFiles check o w files).value.1 = (resultsOf trace).sorted := by
  rw [value_runFiles]
  split
  · rw [value_runSequential]
    exact ⟨_, covers_runSlice check o w files.zipIdx, rfl⟩
  · obtain ⟨trace, hcovers, hresults⟩ :=
      covers_runChunks (⟨[], .slnil, .nil w, .inl rfl⟩ : Covers check o w [] [] w)
        (plan o.workers files)
    rw [List.nil_append, flatten_plan] at hcovers
    exact ⟨trace, hcovers, congrArg BatchResults.sorted hresults⟩

end Batch

/-! ## The exit status -/

theorem mem_sortOn {α : Type} (path : α → Path) {items : Array α} {a : α} :
    a ∈ BatchResults.sortOn path items ↔ a ∈ items := by
  simp only [BatchResults.sortOn, List.mem_toArray, List.mem_map, List.mem_mergeSort]
  simp

theorem diagnosticCount_eq_zero_iff {r : BatchResults} :
    r.diagnosticCount = 0 ↔ ∀ c ∈ r.checked, c.diagnostics = [] := by
  have hfold : ∀ (cs : List Checked) (n : Nat),
      cs.foldl (fun n c => n + c.diagnostics.length) n = 0 ↔
        n = 0 ∧ ∀ c ∈ cs, c.diagnostics = [] := by
    intro cs
    induction cs with
    | nil => simp
    | cons c cs ih =>
      intro n
      rw [List.foldl_cons, ih, Nat.add_eq_zero_iff, List.length_eq_zero_iff, and_assoc,
        List.forall_mem_cons]
  rw [BatchResults.diagnosticCount, ← Array.foldl_toList, hfold]
  simp

theorem isEmpty_failures_iff {r : BatchResults} {nanos : Nat} :
    (Report.ofResults r nanos).failures.isEmpty = true ↔ ¬ ∃ f, f ∈ r.failed := by
  simp [Report.ofResults, Array.eq_empty_iff_forall_not_mem]

theorem exitStatus_eq_processingFailed_iff {r : BatchResults} {nanos : Nat} :
    (Report.ofResults r nanos).exitStatus = .processingFailed ↔ ∃ f, f ∈ r.failed := by
  have hfailures := @isEmpty_failures_iff r nanos
  unfold Report.exitStatus
  cases hempty : (Report.ofResults r nanos).failures.isEmpty with
  | true =>
    have hnone := hfailures.mp hempty
    simp only [Bool.not_true, Bool.false_eq_true, if_false, hnone, iff_false]
    split <;> simp
  | false =>
    have hsome : ∃ f, f ∈ r.failed := by
      by_contra hnone
      rw [hfailures.mpr hnone] at hempty
      cases hempty
    simp [hsome]

theorem exitStatus_eq_clean_iff {r : BatchResults} {nanos : Nat} :
    (Report.ofResults r nanos).exitStatus = .clean ↔
      (¬ ∃ f, f ∈ r.failed) ∧ ∀ c ∈ r.checked, c.diagnostics = [] := by
  rw [← @isEmpty_failures_iff r nanos, ← diagnosticCount_eq_zero_iff]
  have hcount : (Report.ofResults r nanos).diagnostics = r.diagnosticCount := rfl
  unfold Report.exitStatus
  rw [hcount]
  cases (Report.ofResults r nanos).failures.isEmpty <;> simp

/-- The order of the results does not matter. -/
theorem exitStatus_sorted (r : BatchResults) (nanos : Nat) :
    (Report.ofResults r.sorted nanos).exitStatus = (Report.ofResults r nanos).exitStatus := by
  have hfailures : (Report.ofResults r.sorted nanos).failures.isEmpty =
      (Report.ofResults r nanos).failures.isEmpty := by
    rw [Bool.eq_iff_iff, isEmpty_failures_iff, isEmpty_failures_iff]
    simp only [BatchResults.sorted, mem_sortOn]
  have hcount : ((Report.ofResults r.sorted nanos).diagnostics != 0) =
      ((Report.ofResults r nanos).diagnostics != 0) := by
    rw [Bool.eq_iff_iff, bne_iff_ne, bne_iff_ne]
    refine not_congr (diagnosticCount_eq_zero_iff.trans ?_)
    simp only [BatchResults.sorted, mem_sortOn]
    exact diagnosticCount_eq_zero_iff.symm
  unfold Report.exitStatus
  rw [hfailures, hcount]

theorem processingFailed_iff_exists_error {trace : List (Path × Outcome)} {nanos : Nat} :
    (Report.ofResults (Batch.resultsOf trace).sorted nanos).exitStatus = .processingFailed ↔
      ∃ v ∈ trace, ∃ e, v.2.result = .error e := by
  rw [exitStatus_sorted, exitStatus_eq_processingFailed_iff]
  simp only [Batch.mem_failed_resultsOf]
  constructor
  · rintro ⟨_, v, hv, e, herror, _⟩
    exact ⟨v, hv, e, herror⟩
  · rintro ⟨v, hv, e, herror⟩
    exact ⟨(v.1, e), v, hv, e, herror, rfl⟩

theorem clean_iff_forall_clean {trace : List (Path × Outcome)} {nanos : Nat} :
    (Report.ofResults (Batch.resultsOf trace).sorted nanos).exitStatus = .clean ↔
      ∀ v ∈ trace, ∃ c, v.2.result = .ok c ∧ c.diagnostics = [] := by
  rw [exitStatus_sorted, exitStatus_eq_clean_iff]
  simp only [Batch.mem_failed_resultsOf, Batch.mem_checked_resultsOf]
  constructor
  · rintro ⟨hfailed, hchecked⟩ v hv
    cases hresult : v.2.result with
    | error e => exact absurd ⟨(v.1, e), v, hv, e, hresult, rfl⟩ hfailed
    | ok c => exact ⟨c, rfl, hchecked c ⟨v, hv, hresult⟩⟩
  · intro h
    refine ⟨?_, ?_⟩
    · rintro ⟨_, v, hv, e, herror, _⟩
      obtain ⟨c, hok, _⟩ := h v hv
      rw [herror] at hok
      cases hok
    · rintro c ⟨v, hv, hresult⟩
      obtain ⟨c', hok, hclean⟩ := h v hv
      rw [hresult] at hok
      cases hok
      exact hclean

/-! ## Outcomes of the check -/

/-- What can become of a file with some text, or with none.  A fixed text is only written when that
is asked for and there is one, and then writing it may fail. -/
inductive Attainable (settings : Settings) (o : BatchOptions) (p : Path) : Outcome → Prop where
  /-- The file cannot be read, or cannot be cut into tokens. -/
  | failed (e : CheckError) : Attainable settings o p ⟨.error e, .nothing⟩
  /-- The text of the file was checked. -/
  | checked {label source : String} {c : Checked} {writing : Writing} :
      (examine settings p label source).value = .ok c →
      (writing ≠ .nothing → o.writeFixes = true ∧ c.fixed ≠ none) →
      Attainable settings o p ⟨.ok c, writing⟩

/-- There is nothing to fix in a template without diagnostics. -/
theorem diagnostics_ne_nil_of_fixed {settings : Settings} {p : Path} {label source : String}
    {c : Checked} (h : (examine settings p label source).value = .ok c) (hfixed : c.fixed ≠ none) :
    c.diagnostics ≠ [] := by
  rw [examine, Told.value_bind] at h
  cases hlexed : (Lexed.ofSource source).result with
  | error e =>
    rw [hlexed] at h
    cases h
  | ok s =>
    rw [hlexed] at h
    obtain rfl := Except.ok.inj h
    intro hnone
    have hfindings : (s.audit settings.rules settings.analysis).findings = [] :=
      List.map_eq_nil_iff.mp hnone
    refine hfixed ?_
    simp [analyze, Audit.draft?, Audit.changesets, hfindings]

theorem value_checkTemplate (settings : Settings) (p : Path) (t : Template) :
    (checkTemplate settings p t).value = (examine settings p t.path.text t.source).value := by
  unfold checkTemplate
  split
  all_goals
    simp only [Told.value_bind]
    cases (examine settings p t.path.text t.source).value <;> rfl

theorem exists_examine_of_checkFile {settings : Settings} {tree : FileTree} {number : Nat}
    {p : Path} {c : Checked} (h : (tree.checkFile settings number p).value = .ok c) :
    ∃ label source, (examine settings p label source).value = .ok c := by
  simp only [FileTree.checkFile, within, Told.value_bind, Told.value_pure] at h
  split at h
  · cases h
  · rw [value_checkTemplate] at h
    exact ⟨_, _, h⟩

/-- Something is only written when that is asked for and there is a fixed text. -/
theorem fixed_of_writeIfAsked {tree : FileTree} {o : BatchOptions} {c : Checked}
    (h : (tree.writeIfAsked o c).value.1 ≠ .nothing) : o.writeFixes = true ∧ c.fixed ≠ none := by
  refine ⟨?_, fun hfixed => h ?_⟩
  · by_contra hoff
    exact h (by simp [FileTree.writeIfAsked, hoff])
  · unfold FileTree.writeIfAsked FileTree.writeFixed
    split
    · simp [hfixed]
    · rfl

theorem attainable_processFile (settings : Settings) (o : BatchOptions) (tree : FileTree)
    (number : Nat) (p : Path) :
    Attainable settings o p (tree.processFile settings o number p).value.1 := by
  rw [value_processFile]
  cases hcheck : (tree.checkFile settings number p).value with
  | error e => exact .failed e
  | ok c =>
    obtain ⟨label, source, hexamine⟩ := exists_examine_of_checkFile hcheck
    exact .checked hexamine fixed_of_writeIfAsked

/-- A worker goes on behind a template without diagnostics. -/
theorem Attainable.goesOn {settings : Settings} {o : BatchOptions} {p : Path} {x : Outcome}
    (h : Attainable settings o p x) {c : Checked} (hresult : x.result = .ok c)
    (hclean : c.diagnostics = []) : x.goesOn o = true := by
  cases h with
  | failed e => cases hresult
  | @checked _ _ _ writing hexamine hwriting =>
    obtain rfl := Except.ok.inj hresult
    have hwritten : writing ≠ .failed := by
      rintro rfl
      exact diagnostics_ne_nil_of_fixed hexamine (hwriting nofun).2 hclean
    simp [Outcome.goesOn, hwritten]

/-- Whatever becomes of the files, and however the batch is run, the exit status tells the truth
about it.  A clean exit says that all files were checked and none has diagnostics. -/
theorem clean_exit_certifies {W : Type} {check : W → Nat → Path → Told (Outcome × W)}
    {settings : Settings} {o : BatchOptions}
    (h : ∀ w number p, Attainable settings o p (check w number p).value.1) (w : W)
    (files : List Path) (nanos : Nat) :
    ∃ visited trace, visited.Sublist files.zipIdx ∧
      Batch.Visits check w visited trace (Batch.runFiles check o w files).value.2 ∧
      (Batch.runFiles check o w files).value.1 = (Batch.resultsOf trace).sorted ∧
      ((Report.ofResults (Batch.runFiles check o w files).value.1 nanos).exitStatus = .clean ↔
        visited = files.zipIdx ∧ ∀ v ∈ trace, ∃ c, v.2.result = .ok c ∧ c.diagnostics = []) ∧
      ((Report.ofResults (Batch.runFiles check o w files).value.1 nanos).exitStatus =
          .processingFailed ↔ ∃ v ∈ trace, ∃ e, v.2.result = .error e) := by
  obtain ⟨trace, ⟨visited, hsub, hvisits, hall⟩, hresults⟩ := Batch.covers_runFiles check o w files
  refine ⟨visited, trace, hsub, hvisits, hresults, ?_, ?_⟩
  · rw [hresults, clean_iff_forall_clean, iff_and_self]
    -- Nothing made a worker stop, so no file was missed.
    intro hclean
    refine hall.resolve_right ?_
    rintro ⟨v, hv, hstop⟩
    obtain ⟨c, hresult, hnone⟩ := hclean v hv
    obtain ⟨w', number, houtcome⟩ := hvisits.exists_check hv
    have hgoes : v.2.goesOn o = true :=
      Attainable.goesOn (houtcome ▸ h w' number v.1) hresult hnone
    rw [hgoes] at hstop
    cases hstop
  · rw [hresults]
    exact processingFailed_iff_exists_error

/-- Two workers check two files without diagnostics. -/
theorem clean_exit_certifies_two_files :
    ∃ tree : FileTree,
      (Report.ofResults (Batch.runFiles
        (FileTree.processFile (.default fun _ => none) ⟨2, false, none, true, true⟩)
        ⟨2, false, none, true, true⟩ tree [⟨"a.phtml"⟩, ⟨"b.phtml"⟩]).value.1 0).exitStatus =
          .clean ∧
      ∃ trace tree', Batch.Visits
          (FileTree.processFile (.default fun _ => none) ⟨2, false, none, true, true⟩) tree
          [(⟨"a.phtml"⟩, 0), (⟨"b.phtml"⟩, 1)] trace tree' ∧
        ∀ v ∈ trace, ∃ c, v.2.result = .ok c ∧ c.diagnostics = [] := by
  obtain ⟨tree, htree⟩ : ∃ tree, tree = ((FileTree.empty [] "").putFile ["a.phtml"]
      "<?= 1 ?>".toUTF8).putFile ["b.phtml"] "x".toUTF8 := ⟨_, rfl⟩
  have hstatus : (Report.ofResults (Batch.runFiles
      (FileTree.processFile (.default fun _ => none) ⟨2, false, none, true, true⟩)
      ⟨2, false, none, true, true⟩ tree [⟨"a.phtml"⟩, ⟨"b.phtml"⟩]).value.1 0).exitStatus =
        .clean := by
    rw [Batch.value_runFiles, Prod.map_fst, exitStatus_sorted, htree]
    decide +kernel
  obtain ⟨visited, trace, _, hvisits, _, hclean, _⟩ := clean_exit_certifies
    (attainable_processFile (.default fun _ => none) ⟨2, false, none, true, true⟩) tree
    [⟨"a.phtml"⟩, ⟨"b.phtml"⟩] 0
  obtain ⟨rfl, hall⟩ := hclean.mp hstatus
  exact ⟨tree, hstatus, trace, _, hvisits, hall⟩

end EscapeAudit
