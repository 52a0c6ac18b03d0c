import EscapeAudit.Event.Collector
import EscapeAudit.Proofs.PathOrder
import Mathlib.Data.List.DropRight

/-!
# What a collector has collected

A collector is asked to record events, to take up files and to forget everything, in any order and for
any files.  What it holds afterwards is said here by the calls since it forgot everything last.  Of the
events recorded for a file it keeps the first ones up to the limit, and behind them one warning if there
were more.  Calls about other files make no difference.

`Follows` ties a collector to those calls.  One call keeps it (`Follows.call`), and so it holds behind
any calls.  The summary counts every file once (`pairwise_allFiles`, `mem_allFiles_iff`), and its
errors and warnings are those of all events that are kept (`perm_allFiles`).
-/

namespace EscapeAudit

namespace Collector

/-! ## Calls -/

/-- What a collector can be asked to do. -/
inductive Call where
  /-- An event is recorded for a file. -/
  | record (file : Path) (e : Event)
  /-- A file is taken up. -/
  | takeUp (file : Path) (number : Nat)
  /-- Everything is forgotten. -/
  | clear

namespace Call

/-- Whether a call makes the collector forget everything. -/
def isClear : Call → Bool
  | clear => true
  | record .. | takeUp .. => false

/-- The event that a call records for a file. -/
def eventFor? (file : Path) : Call → Option Event
  | record other e => if other.same file then some e else none
  | takeUp .. | clear => none

/-- Whether a call is about a file, which it records an event for or takes up. -/
def isAbout (file : Path) : Call → Bool
  | record other _ | takeUp other _ => other.same file
  | clear => false

/-- Whether a call takes up a file. -/
def takesUp (file : Path) : Call → Bool
  | takeUp other _ => other.same file
  | record .. | clear => false

theorem isAbout_iff {file : Path} {x : Call} :
    x.isAbout file = true ↔ x.takesUp file = true ∨ ¬x.eventFor? file = none := by
  cases x with
  | record other e => simp [isAbout, takesUp, eventFor?]
  | takeUp other number => simp [isAbout, takesUp, eventFor?]
  | clear => simp [isAbout, takesUp, eventFor?]

end Call

/-- The collector behind a call. -/
def call (c : Collector) : Call → Collector
  | .record file e => c.record file e
  | .takeUp file number => c.takeUp file number
  | .clear => .empty

/-- The collector behind calls in order, beginning with nothing collected. -/
def ofCalls (calls : List Call) : Collector := calls.foldl call .empty

/-- The calls since everything was forgotten last. -/
def recent (calls : List Call) : List Call := calls.rtakeWhile fun x => !x.isClear

/-- The events that calls record for a file, in order. -/
def recordedFor (file : Path) (calls : List Call) : List Event :=
  calls.filterMap (Call.eventFor? file)

theorem recent_concat (calls : List Call) (x : Call) :
    recent (calls ++ [x]) = if x.isClear then [] else recent calls ++ [x] := by
  rw [recent, List.rtakeWhile_concat]
  cases x.isClear <;> rfl

theorem recordedFor_concat (file : Path) (calls : List Call) (x : Call) :
    recordedFor file (calls ++ [x]) = recordedFor file calls ++ (x.eventFor? file).toList := by
  rw [recordedFor, List.filterMap_append, List.filterMap_cons, List.filterMap_nil]
  cases x.eventFor? file <;> rfl

theorem recordedFor_of_same {p q : Path} (h : p.same q = true) (calls : List Call) :
    recordedFor p calls = recordedFor q calls := by
  refine List.filterMap_congr ?_
  intro x _
  cases x with
  | record other e => rw [Call.eventFor?, Call.eventFor?, Path.same_comm, Path.same_congr h,
      Path.same_comm]
  | takeUp | clear => rfl

/-- The calls are about a file when one takes it up or records an event for it. -/
theorem exists_isAbout_iff (file : Path) (calls : List Call) :
    (∃ x ∈ calls, x.isAbout file = true) ↔
      calls.any (Call.takesUp file) = true ∨ (!(recordedFor file calls).isEmpty) = true := by
  simp only [Call.isAbout_iff, and_or_left, exists_or, List.any_eq_true, Bool.not_eq_true',
    List.isEmpty_eq_false_iff, recordedFor, ne_eq, List.filterMap_eq_nil_iff, not_forall,
    exists_prop]

/-! ## The events that are kept -/

/-- What is kept of the events of a file: the first ones up to the limit, and a warning if there were
more. -/
def kept (events : List Event) : List Event :=
  events.take Limits.eventsPerFile ++
    if Limits.eventsPerFile < events.length then [overflow] else []

theorem kept_of_le {events : List Event} (h : events.length ≤ Limits.eventsPerFile) :
    kept events = events := by
  rw [kept, if_neg (Nat.not_lt.mpr h), List.append_nil, List.take_of_length_le h]

theorem length_kept_of_lt {events : List Event} (h : Limits.eventsPerFile < events.length) :
    (kept events).length = Limits.eventsPerFile + 1 := by
  rw [kept, if_pos h, List.length_append, List.length_take_of_le (Nat.le_of_lt h)]
  rfl

/-- One more event is kept below the limit, leaves the warning at the limit, and leaves nothing above
it. -/
theorem append_kept (events : List Event) (e : Event) :
    append (kept events).toArray e = (kept (events ++ [e])).toArray := by
  have hlength : (events ++ [e]).length = events.length + 1 := List.length_append
  rw [append, List.size_toArray]
  rcases Nat.lt_trichotomy events.length Limits.eventsPerFile with hlt | heq | hgt
  · rw [kept_of_le (Nat.le_of_lt hlt), if_pos hlt, List.push_toArray, kept_of_le (by omega)]
  · have hmore : Limits.eventsPerFile < (events ++ [e]).length := by omega
    rw [kept_of_le (Nat.le_of_eq heq), if_neg (by omega), if_pos (beq_iff_eq.mpr heq),
      List.push_toArray, kept, if_pos hmore, ← heq, List.take_left]
  · have hmore : Limits.eventsPerFile < (events ++ [e]).length := by omega
    rw [length_kept_of_lt hgt, if_neg (by omega), if_neg (by simp), kept, kept, if_pos hgt,
      if_pos hmore, List.take_append_of_le_length (Nat.le_of_lt hgt)]

/-! ## What one call does -/

variable {c : Collector} {calls : List Call}

theorem eventsOf_record (h : c.events.Sorted) (p q : Path) (e : Event) :
    (c.record p e).eventsOf q =
      if p.same q then append (c.eventsOf p) e else c.eventsOf q := by
  rw [eventsOf, record, PathMap.get?_alter h]
  split <;> rfl

/-- A collector holds what calls have left in it. -/
structure Follows (c : Collector) (calls : List Call) : Prop where
  /-- The events are in the order of their files. -/
  sorted_events : c.events.Sorted
  /-- The files taken up are in order. -/
  sorted_files : c.files.Sorted
  /-- What is kept for a file is told by the events recorded for it. -/
  events : ∀ file, c.eventsOf file = (kept (recordedFor file calls)).toArray
  /-- A file has events when some were recorded for it. -/
  has_events : ∀ file, (c.events.get? file).isSome = !(recordedFor file calls).isEmpty
  /-- A file is taken up when a call does so. -/
  taken_up : ∀ file, (c.files.get? file).isSome = calls.any (Call.takesUp file)

theorem follows_empty : Follows .empty [] :=
  ⟨PathMap.sorted_nil, PathMap.sorted_nil, fun _ => rfl, fun _ => rfl, fun _ => rfl⟩

namespace Follows

theorem record (h : Follows c calls) (p : Path) (e : Event) :
    Follows (c.record p e) (calls ++ [.record p e]) where
  sorted_events := h.sorted_events.alter _ p
  sorted_files := h.sorted_files
  events := by
    intro q
    rw [eventsOf_record h.sorted_events, recordedFor_concat, Call.eventFor?]
    split
    next hsame => rw [h.events p, append_kept, recordedFor_of_same hsame]; rfl
    next => rw [h.events q, Option.toList_none, List.append_nil]
  has_events := by
    intro q
    rw [Collector.record, PathMap.get?_alter h.sorted_events, recordedFor_concat, Call.eventFor?]
    split
    next => simp
    next => rw [h.has_events q, Option.toList_none, List.append_nil]
  taken_up := by
    intro q
    rw [List.any_append, ← h.taken_up q]
    simp [Call.takesUp, Collector.record]

theorem takeUp (h : Follows c calls) (p : Path) (number : Nat) :
    Follows (c.takeUp p number) (calls ++ [.takeUp p number]) where
  sorted_events := h.sorted_events
  sorted_files := h.sorted_files.alter _ p
  events := by
    intro q
    rw [recordedFor_concat, Call.eventFor?, Option.toList_none, List.append_nil]
    exact h.events q
  has_events := by
    intro q
    rw [recordedFor_concat, Call.eventFor?, Option.toList_none, List.append_nil]
    exact h.has_events q
  taken_up := by
    intro q
    rw [Collector.takeUp, PathMap.insert, PathMap.get?_alter h.sorted_files, List.any_append,
      ← h.taken_up q]
    split
    next hsame => simp [Call.takesUp, hsame]
    next hsame => simp [Call.takesUp, hsame]

/-- One more call. -/
theorem call (h : Follows c (recent calls)) (x : Call) :
    Follows (c.call x) (recent (calls ++ [x])) := by
  rw [recent_concat]
  cases x with
  | record p e => exact h.record p e
  | takeUp p number => exact h.takeUp p number
  | clear => exact follows_empty

end Follows

/-- A collector holds what the calls since it forgot everything last have left in it. -/
theorem follows_ofCalls (calls : List Call) : Follows (ofCalls calls) (recent calls) := by
  induction calls using List.reverseRecOn with
  | nil => exact follows_empty
  | append_singleton calls x ih =>
    rw [ofCalls, List.foldl_concat]
    exact ih.call x

/-! ## The files of the summary -/

/-- No file is counted twice. -/
theorem pairwise_allFiles (hevents : c.events.Sorted) (hfiles : c.files.Sorted) :
    c.allFiles.Pairwise fun p q => p.same q = false := by
  rw [allFiles, List.pairwise_append]
  refine ⟨hfiles.pairwise_not_same, PathMap.Sorted.pairwise_not_same (.filter _ hevents), ?_⟩
  intro p hp q hq
  obtain ⟨taken, htaken, rfl⟩ := List.mem_map.mp hp
  obtain ⟨entry, hentry, rfl⟩ := List.mem_map.mp hq
  have hnone := Option.isNone_iff_eq_none.mp (List.mem_filter.mp hentry).2
  exact PathMap.get?_eq_none_iff.mp hnone taken htaken

/-- The files are those that were taken up and those with events. -/
theorem mem_allFiles_iff (c : Collector) (p : Path) :
    (∃ q ∈ c.allFiles, q.same p = true) ↔
      (c.files.get? p).isSome = true ∨ (c.events.get? p).isSome = true := by
  rw [PathMap.isSome_get?_iff, PathMap.isSome_get?_iff]
  constructor
  · rintro ⟨q, hq, hsame⟩
    rcases List.mem_append.mp hq with hq | hq
    · obtain ⟨taken, htaken, rfl⟩ := List.mem_map.mp hq
      exact .inl ⟨taken, htaken, hsame⟩
    · obtain ⟨entry, hentry, rfl⟩ := List.mem_map.mp hq
      exact .inr ⟨entry, (List.mem_filter.mp hentry).1, hsame⟩
  · rintro (⟨taken, htaken, hsame⟩ | ⟨entry, hentry, hsame⟩)
    · exact ⟨taken.1, List.mem_append_left _ (List.mem_map_of_mem htaken), hsame⟩
    · cases hnone : (c.files.get? entry.1).isNone with
      | true =>
        refine ⟨entry.1, List.mem_append_right _ (List.mem_map_of_mem ?_), hsame⟩
        exact List.mem_filter.mpr ⟨hentry, hnone⟩
      | false =>
        -- A file with events that was taken up stands among those taken up.
        rw [Option.isNone_eq_false_iff, PathMap.isSome_get?_iff] at hnone
        obtain ⟨taken, htaken, hsame'⟩ := hnone
        refine ⟨taken.1, List.mem_append_left _ (List.mem_map_of_mem htaken), ?_⟩
        rw [Path.same_congr hsame', hsame]

theorem perm_allFiles (hevents : c.events.Sorted) (hfiles : c.files.Sorted) :
    (c.allFiles.flatMap fun p => (c.eventsOf p).toList).Perm
      (c.events.flatMap fun entry => entry.2.toList) := by
  refine PathMap.flatMap_listAt_perm hevents (pairwise_allFiles hevents hfiles) ?_
  intro entry hentry
  rw [mem_allFiles_iff, PathMap.isSome_get?_iff, PathMap.isSome_get?_iff]
  exact .inr ⟨entry, hentry, Path.same_refl entry.1⟩

/-! ## The counts of the summary -/

/-- Whether some event is an error. -/
def hasError (events : Array Event) : Bool := events.any Event.isError

/-- Whether some event is a warning. -/
def hasWarning (events : Array Event) : Bool := events.any Event.isWarning

theorem countWhere_eq (events : Array Event) (test : Event → Bool) :
    countWhere events test = events.toList.countP test := by
  rw [countWhere, ← Array.countP_eq_size_filter, Array.countP_toList]

theorem countWhere_beq_zero (events : Array Event) (test : Event → Bool) :
    (countWhere events test == 0) = !events.any test := by
  rw [countWhere_eq, ← Array.any_toList, Bool.eq_iff_iff, beq_iff_eq, List.countP_eq_zero,
    Bool.not_eq_true', List.any_eq_false]

/-- One more file is clean, has warnings or failed, and brings its events. -/
theorem Summary.add_eq (s : Summary) (events : Array Event) :
    s.add events =
      { total := s.total + 1
        clean := s.clean + if !hasError events && !hasWarning events then 1 else 0
        failed := s.failed + if hasError events then 1 else 0
        withWarnings := s.withWarnings + if !hasError events && hasWarning events then 1 else 0
        errors := s.errors + events.toList.countP Event.isError
        warnings := s.warnings + events.toList.countP Event.isWarning } := by
  rw [Summary.add, countWhere_beq_zero, bne, countWhere_beq_zero, countWhere_eq, countWhere_eq,
    ← hasError, ← hasWarning]
  cases hasError events <;> cases hasWarning events <;> rfl

/-- What files add to a summary, each with its events. -/
theorem foldl_add_eq (eventsOf : Path → Array Event) (files : List Path) (s : Summary) :
    files.foldl (fun s file => s.add (eventsOf file)) s =
      { total := s.total + files.length
        clean := s.clean +
          files.countP fun p => !hasError (eventsOf p) && !hasWarning (eventsOf p)
        failed := s.failed + files.countP fun p => hasError (eventsOf p)
        withWarnings := s.withWarnings +
          files.countP fun p => !hasError (eventsOf p) && hasWarning (eventsOf p)
        errors := s.errors + (files.flatMap fun p => (eventsOf p).toList).countP Event.isError
        warnings := s.warnings +
          (files.flatMap fun p => (eventsOf p).toList).countP Event.isWarning } := by
  induction files generalizing s with
  | nil => rfl
  | cons p files ih =>
    rw [List.foldl_cons, ih, Summary.add_eq]
    simp only [List.length_cons, List.countP_cons, List.flatMap_cons, List.countP_append,
      Summary.mk.injEq]
    omega

/-- The summary counts files and the events that are kept. -/
theorem summary_eq (hevents : c.events.Sorted) (hfiles : c.files.Sorted) :
    c.summary =
      { total := c.allFiles.length
        clean := c.allFiles.countP fun p => !hasError (c.eventsOf p) && !hasWarning (c.eventsOf p)
        failed := c.allFiles.countP fun p => hasError (c.eventsOf p)
        withWarnings := c.allFiles.countP fun p =>
          !hasError (c.eventsOf p) && hasWarning (c.eventsOf p)
        errors := (c.events.flatMap fun entry => entry.2.toList).countP Event.isError
        warnings := (c.events.flatMap fun entry => entry.2.toList).countP Event.isWarning } := by
  have hperm := perm_allFiles hevents hfiles
  rw [summary, foldl_add_eq, hperm.countP_eq, hperm.countP_eq]
  simp only [Nat.zero_add]

/-- A summary in which every file is clean, has warnings or failed. -/
def Summary.Balanced (s : Summary) : Prop := s.clean + s.withWarnings + s.failed = s.total

theorem Summary.Balanced.add {s : Summary} (h : s.Balanced) (events : Array Event) :
    (s.add events).Balanced := by
  rw [Summary.Balanced] at h ⊢
  rw [Summary.add_eq]
  cases hasError events <;> cases hasWarning events <;> simp <;> omega

theorem balanced_summary (c : Collector) : c.summary.Balanced :=
  List.foldlRecOn c.allFiles _ rfl fun _ hs p _ => hs.add (c.eventsOf p)

end Collector

open Collector in
/-- After any calls, a collector keeps of each file the first events recorded for it since it forgot
everything last, in order and up to the limit, and behind them one warning exactly if more were
recorded.  Its summary counts every file that was taken up or has events once, as clean, with
warnings or failed, and counts the errors and warnings of all events that are kept. -/
theorem collector_faithful (calls : List Call) :
    (∀ file, ((ofCalls calls).eventsOf file).toList =
      (recordedFor file (recent calls)).take Limits.eventsPerFile ++
        if Limits.eventsPerFile < (recordedFor file (recent calls)).length then [overflow]
        else []) ∧
    (∃ files : List Path,
      files.Pairwise (fun p q => p.same q = false) ∧
      (∀ p, (∃ q ∈ files, q.same p = true) ↔ ∃ x ∈ recent calls, x.isAbout p = true) ∧
      (ofCalls calls).summary =
        { total := files.length
          clean := files.countP fun p =>
            !hasError ((ofCalls calls).eventsOf p) && !hasWarning ((ofCalls calls).eventsOf p)
          failed := files.countP fun p => hasError ((ofCalls calls).eventsOf p)
          withWarnings := files.countP fun p =>
            !hasError ((ofCalls calls).eventsOf p) && hasWarning ((ofCalls calls).eventsOf p)
          errors := ((ofCalls calls).events.flatMap fun entry => entry.2.toList).countP
            Event.isError
          warnings := ((ofCalls calls).events.flatMap fun entry => entry.2.toList).countP
            Event.isWarning }) ∧
    (ofCalls calls).summary.clean + (ofCalls calls).summary.withWarnings +
      (ofCalls calls).summary.failed = (ofCalls calls).summary.total := by
  have h := follows_ofCalls calls
  refine ⟨?_, ⟨(ofCalls calls).allFiles, pairwise_allFiles h.sorted_events h.sorted_files, ?_,
    ?_⟩, balanced_summary _⟩
  · intro file
    rw [h.events file]
    rfl
  · intro p
    rw [mem_allFiles_iff, h.taken_up, h.has_events, exists_isAbout_iff]
  · rw [summary_eq h.sorted_events h.sorted_files]

open Collector in
-- What was recorded before the collector forgot is gone, and two spellings of one file count once.
example :
    (ofCalls [.record ⟨"a.phtml"⟩ overflow, .clear, .takeUp ⟨"t/a.phtml"⟩ 0, .takeUp ⟨"b.phtml"⟩ 1,
      .record ⟨"t//a.phtml"⟩ overflow]).summary = ⟨2, 1, 0, 1, 0, 1⟩ := by
  rfl

end EscapeAudit
