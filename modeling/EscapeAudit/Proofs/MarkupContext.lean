import EscapeAudit.Output.Markup
import EscapeAudit.Proofs.Window.Literal
import Mathlib.Data.List.Infix
import Mathlib.Data.List.TakeWhile
import Mathlib.Order.Bounds.Basic

/-!
# Where in the markup an output stands

The escape function for an output is chosen by two questions about the markup before it, and each of
them is answered by a walk.  Here the questions are put without the walks.

Whether the markup ends inside a script element depends on the last script tag (`LastTagOpens`).
The walk goes from the front and keeps the answer for the last tag that it has met
(`scriptOpenFrom_iff`).

An attribute is open at the end of the markup if the markup can be taken apart in a certain way
(`OpenAttribute`).  There is at most one way to do so, because each part ends at a character that
the next part cannot begin with, and the walk from the back finds it (`openAttribute?_eq_some_iff`).
So it does not matter in which order the ways are tried.  A search that goes from the left and makes
each run as long as it can (`LeftmostFirst`) finds the same one.
-/

namespace EscapeAudit.Markup

open Lexer (takeWhile_append_stop dropWhile_append_stop)

/-! ## Script tags -/

/-- The places at which a script tag begins. -/
def scriptTags (cs : List Char) : Set Nat :=
  { i | scriptOpening <+: cs.drop i ∨ scriptClosing <+: cs.drop i }

/-- The last script tag of a text opens an element. -/
def LastTagOpens (cs : List Char) : Prop :=
  ∃ i, IsGreatest (scriptTags cs) i ∧ scriptOpening <+: cs.drop i

/-- The markup ends inside a script element.  Case does not matter for the letters of ASCII. -/
def EndsInScript (markup : String) : Prop :=
  LastTagOpens (markup.toList.map Char.toLower)

theorem scriptTags_nil : scriptTags [] = ∅ := by
  have hopening : scriptOpening ≠ [] := by decide +kernel
  have hclosing : scriptClosing ≠ [] := by decide +kernel
  refine Set.eq_empty_iff_forall_notMem.mpr fun i hi => ?_
  rcases hi with hi | hi
  · rw [List.drop_nil, List.prefix_nil] at hi
    exact hopening hi
  · rw [List.drop_nil, List.prefix_nil] at hi
    exact hclosing hi

theorem scriptTags_cons_eq_empty_iff {c : Char} {cs : List Char} :
    scriptTags (c :: cs) = ∅ ↔
      scriptTags cs = ∅ ∧ ¬ scriptOpening <+: c :: cs ∧ ¬ scriptClosing <+: c :: cs := by
  simp only [Set.eq_empty_iff_forall_notMem]
  constructor
  · intro h
    exact ⟨fun i hi => h (i + 1) hi, fun hopening => h 0 (.inl hopening),
      fun hclosing => h 0 (.inr hclosing)⟩
  · rintro ⟨hrest, hopening, hclosing⟩ i hi
    cases i with
    | zero => exact hi.elim hopening hclosing
    | succ i => exact hrest i hi

/-- The last tag is the last one further on, or the one here if there is none further on. -/
theorem lastTagOpens_cons_iff {c : Char} {cs : List Char} :
    LastTagOpens (c :: cs) ↔
      LastTagOpens cs ∨ scriptTags cs = ∅ ∧ scriptOpening <+: c :: cs := by
  constructor
  · rintro ⟨i, hgreatest, hopening⟩
    cases i with
    | zero =>
      refine .inr ⟨Set.eq_empty_iff_forall_notMem.mpr fun j hj => ?_, hopening⟩
      have hle := hgreatest.2 (show j + 1 ∈ scriptTags (c :: cs) from hj)
      exact absurd hle (Nat.not_succ_le_zero j)
    | succ i =>
      refine .inl ⟨i, ⟨hgreatest.1, fun j hj => ?_⟩, hopening⟩
      exact Nat.le_of_succ_le_succ (hgreatest.2 (show j + 1 ∈ scriptTags (c :: cs) from hj))
  · rintro (⟨i, hgreatest, hopening⟩ | ⟨hnone, hopening⟩)
    · refine ⟨i + 1, ⟨hgreatest.1, fun j hj => ?_⟩, hopening⟩
      cases j with
      | zero => exact Nat.zero_le _
      | succ j => exact Nat.succ_le_succ (hgreatest.2 hj)
    · refine ⟨0, ⟨.inl hopening, fun j hj => ?_⟩, hopening⟩
      cases j with
      | zero => exact Nat.le_refl 0
      | succ j => exact absurd hj (Set.eq_empty_iff_forall_notMem.mp hnone j)

theorem not_lastTagOpens_nil : ¬ LastTagOpens [] := by
  rintro ⟨i, hgreatest, _⟩
  have hmem := hgreatest.1
  rw [scriptTags_nil] at hmem
  exact hmem

/-- The walk keeps the answer for the last tag. -/
theorem scriptOpenFrom_iff {cs : List Char} {isOpen : Bool} :
    scriptOpenFrom cs isOpen = true ↔ LastTagOpens cs ∨ scriptTags cs = ∅ ∧ isOpen = true := by
  induction cs generalizing isOpen with
  | nil => simp [scriptOpenFrom, not_lastTagOpens_nil, scriptTags_nil]
  | cons c cs ih =>
    rw [scriptOpenFrom, lastTagOpens_cons_iff, scriptTags_cons_eq_empty_iff]
    simp only [List.isPrefixOf_iff_prefix]
    by_cases hopening : scriptOpening <+: c :: cs
    · simp [hopening, ih]
    · by_cases hclosing : scriptClosing <+: c :: cs
      · simp [hopening, hclosing, ih]
      · simp [hopening, hclosing, ih]

theorem inScript_iff (markup : String) : inScript markup = true ↔ EndsInScript markup := by
  rw [inScript, scriptOpenFrom_iff]
  simp [EndsInScript]

/-! ## Open attributes -/

/-- A way to take a text apart so that it ends in the value of an attribute between double quotes.
-/
@[ext]
structure OpenAttribute (markup : List Char) where
  /-- What stands in front. -/
  before : List Char
  /-- The blank before the name. -/
  blank : Char
  /-- The name. -/
  name : List Char
  /-- The blanks behind the name. -/
  behindName : List Char
  /-- The blanks behind `=`. -/
  behindEquals : List Char
  /-- The value so far. -/
  value : List Char
  /-- These are the parts of the text. -/
  markup_eq : markup =
    before ++ blank :: (name ++ (behindName ++ '=' :: (behindEquals ++ '"' :: value)))
  isBlank_blank : Text.isBlank blank = true
  name_ne_nil : name ≠ []
  name_chars : ∀ c ∈ name, Text.isBlank c = false ∧ c ∉ ['"', '\'', '>', '/', '=']
  isBlank_behindName : ∀ c ∈ behindName, Text.isBlank c = true
  isBlank_behindEquals : ∀ c ∈ behindEquals, Text.isBlank c = true
  value_chars : ∀ c ∈ value, c ≠ '"' ∧ c ≠ '>'

theorem isNameChar_iff {c : Char} :
    isNameChar c = true ↔ Text.isBlank c = false ∧ c ∉ ['"', '\'', '>', '/', '='] := by
  simp [isNameChar, and_assoc]

theorem isValueChar_iff {c : Char} : isValueChar c = true ↔ c ≠ '"' ∧ c ≠ '>' := by
  simp [isValueChar]

theorem isNameChar_eq_false {c : Char} (hc : Text.isBlank c = true) : isNameChar c = false := by
  simp [isNameChar, hc]

/-- A run is followed by a rest that does not go on with it in one way only. -/
theorem run_inj {test : Char → Bool} {run run' rest rest' : List Char}
    (hrun : ∀ c ∈ run, test c = true) (hrest : Lexer.startsWith test rest = false)
    (hrun' : ∀ c ∈ run', test c = true) (hrest' : Lexer.startsWith test rest' = false)
    (h : run ++ rest = run' ++ rest') : run = run' ∧ rest = rest' := by
  constructor
  · rw [← takeWhile_append_stop hrun hrest, h, takeWhile_append_stop hrun' hrest']
  · rw [← dropWhile_append_stop hrun hrest, h, dropWhile_append_stop hrun' hrest']

namespace OpenAttribute

variable {markup : List Char}

/-- What stands in front of `=`, from the back. -/
def beforeEquals (a : OpenAttribute markup) : List Char :=
  a.behindName.reverse ++ (a.name.reverse ++ a.blank :: a.before.reverse)

/-- The parts from the back. -/
theorem reverse_eq (a : OpenAttribute markup) :
    markup.reverse =
      a.value.reverse ++ '"' :: (a.behindEquals.reverse ++ '=' :: a.beforeEquals) := by
  conv => lhs; rw [a.markup_eq]
  simp [beforeEquals]

theorem value_run (a : OpenAttribute markup) : ∀ c ∈ a.value.reverse, isValueChar c = true :=
  fun c hc => isValueChar_iff.mpr (a.value_chars c (List.mem_reverse.mp hc))

theorem behindEquals_run (a : OpenAttribute markup) :
    ∀ c ∈ a.behindEquals.reverse, Text.isBlank c = true :=
  fun c hc => a.isBlank_behindEquals c (List.mem_reverse.mp hc)

theorem behindName_run (a : OpenAttribute markup) :
    ∀ c ∈ a.behindName.reverse, Text.isBlank c = true :=
  fun c hc => a.isBlank_behindName c (List.mem_reverse.mp hc)

theorem name_run (a : OpenAttribute markup) : ∀ c ∈ a.name.reverse, isNameChar c = true :=
  fun c hc => isNameChar_iff.mpr (a.name_chars c (List.mem_reverse.mp hc))

theorem name_stop (a : OpenAttribute markup) :
    Lexer.startsWith isNameChar (a.blank :: a.before.reverse) = false :=
  isNameChar_eq_false a.isBlank_blank

/-- The name does not go on with the blanks behind it. -/
theorem behindName_stop (a : OpenAttribute markup) :
    Lexer.startsWith Text.isBlank (a.name.reverse ++ a.blank :: a.before.reverse) = false := by
  cases hname : a.name.reverse with
  | nil => exact absurd (List.reverse_eq_nil_iff.mp hname) a.name_ne_nil
  | cons c cs => exact (a.name_chars c (List.mem_reverse.mp (by simp [hname]))).1

/-- A text can be taken apart in one way at most. -/
instance : Subsingleton (OpenAttribute markup) := by
  refine ⟨fun a b => ?_⟩
  -- From the back, each part ends where the next one begins.
  have h := a.reverse_eq.symm.trans b.reverse_eq
  obtain ⟨hvalue, h⟩ := run_inj a.value_run rfl b.value_run rfl h
  obtain ⟨hequals, h⟩ :=
    run_inj a.behindEquals_run rfl b.behindEquals_run rfl (List.cons.inj h).2
  obtain ⟨hbehind, h⟩ :=
    run_inj a.behindName_run a.behindName_stop b.behindName_run b.behindName_stop
      (List.cons.inj h).2
  obtain ⟨hname, h⟩ := run_inj a.name_run a.name_stop b.name_run b.name_stop h
  obtain ⟨hblank, hbefore⟩ := List.cons.inj h
  exact OpenAttribute.ext (List.reverse_inj.mp hbefore) hblank (List.reverse_inj.mp hname)
    (List.reverse_inj.mp hbehind) (List.reverse_inj.mp hequals) (List.reverse_inj.mp hvalue)

/-- The walk from the back finds the name. -/
theorem nameBefore?_eq (a : OpenAttribute markup) :
    nameBefore? a.beforeEquals = some a.name := by
  -- The first case of the match is the empty name.
  have hname : a.name.reverse ≠ [] := mt List.reverse_eq_nil_iff.mp a.name_ne_nil
  rw [nameBefore?, beforeEquals, dropWhile_append_stop a.behindName_run a.behindName_stop]
  simp only [takeWhile_append_stop a.name_run a.name_stop,
    dropWhile_append_stop a.name_run a.name_stop, a.isBlank_blank, if_true, List.reverse_reverse]

theorem openAttribute?_eq (a : OpenAttribute markup) :
    openAttribute? markup = some (a.name, a.value) := by
  have hquote : markup.reverse.dropWhile isValueChar =
      '"' :: (a.behindEquals.reverse ++ '=' :: a.beforeEquals) := by
    rw [a.reverse_eq]
    exact dropWhile_append_stop a.value_run rfl
  have hvalue : markup.reverse.takeWhile isValueChar = a.value.reverse := by
    rw [a.reverse_eq]
    exact takeWhile_append_stop a.value_run rfl
  have hequals : (a.behindEquals.reverse ++ '=' :: a.beforeEquals).dropWhile Text.isBlank =
      '=' :: a.beforeEquals := dropWhile_append_stop a.behindEquals_run rfl
  simp only [openAttribute?, hquote, hvalue, hequals, a.nameBefore?_eq, Option.map_some,
    List.reverse_reverse]

end OpenAttribute

/-! ## The walk from the back -/

/-- What the walk from the back takes for the name is one, with a blank before it. -/
theorem parts_of_nameBefore? {reversed name : List Char} (h : nameBefore? reversed = some name) :
    ∃ before blank behind, reversed.reverse = before ++ blank :: (name ++ behind) ∧
      Text.isBlank blank = true ∧ name ≠ [] ∧ (∀ c ∈ name, isNameChar c = true) ∧
      ∀ c ∈ behind, Text.isBlank c = true := by
  obtain ⟨padded, hpadded⟩ : ∃ padded, padded = reversed.dropWhile Text.isBlank := ⟨_, rfl⟩
  rw [nameBefore?, ← hpadded] at h
  split at h
  · cases h
  · cases h
  · rename_i blank rest hrest hname
    split at h
    · rename_i hblank
      obtain rfl := Option.some.inj h
      refine ⟨rest.reverse, blank, (reversed.takeWhile Text.isBlank).reverse, ?_, hblank, ?_,
        ?_, ?_⟩
      · conv =>
          lhs
          rw [← List.takeWhile_append_dropWhile (p := Text.isBlank) (l := reversed), ← hpadded,
            ← List.takeWhile_append_dropWhile (p := isNameChar) (l := padded), hrest]
        simp
      · exact mt List.reverse_eq_nil_iff.mp hname
      · exact fun c hc => List.mem_takeWhile_imp (List.mem_reverse.mp hc)
      · exact fun c hc => List.mem_takeWhile_imp (List.mem_reverse.mp hc)
    · cases h

theorem exists_of_openAttribute? {markup name value : List Char}
    (h : openAttribute? markup = some (name, value)) :
    ∃ a : OpenAttribute markup, a.name = name ∧ a.value = value := by
  unfold openAttribute? at h
  dsimp only at h
  split at h
  · rename_i quoted hquoted
    split at h
    · rename_i assigned hassigned
      obtain ⟨name', hname, hpair⟩ := Option.map_eq_some_iff.mp h
      obtain ⟨rfl, rfl⟩ := Prod.mk.inj hpair
      obtain ⟨before, blank, behind, hparts, hblank, hne, hchars, hbehind⟩ :=
        parts_of_nameBefore? hname
      have hmarkup : markup = before ++ blank :: (name' ++ (behind ++ '=' ::
          ((quoted.takeWhile Text.isBlank).reverse ++ '"' ::
            (markup.reverse.takeWhile isValueChar).reverse))) := by
        have hback : markup.reverse = markup.reverse.takeWhile isValueChar ++
            '"' :: (quoted.takeWhile Text.isBlank ++ '=' :: assigned) := by
          rw [← hassigned, List.takeWhile_append_dropWhile, ← hquoted,
            List.takeWhile_append_dropWhile]
        calc markup = markup.reverse.reverse := (List.reverse_reverse markup).symm
          _ = _ := congrArg List.reverse hback
          _ = _ := by simp [hparts]
      exact ⟨⟨before, blank, name', behind, _, _, hmarkup, hblank, hne,
        fun c hc => isNameChar_iff.mp (hchars c hc), hbehind,
        fun c hc => List.mem_takeWhile_imp (List.mem_reverse.mp hc),
        fun c hc => isValueChar_iff.mp (List.mem_takeWhile_imp (List.mem_reverse.mp hc))⟩, rfl, rfl⟩
    · cases h
  · cases h

/-- The walk from the back finds the only way to take the markup apart, if there is one. -/
theorem openAttribute?_eq_some_iff {markup name value : List Char} :
    openAttribute? markup = some (name, value) ↔
      ∃ a : OpenAttribute markup, a.name = name ∧ a.value = value := by
  refine ⟨exists_of_openAttribute?, ?_⟩
  rintro ⟨a, rfl, rfl⟩
  exact a.openAttribute?_eq

/-! ## Which way comes first -/

/-- The lengths of the runs that a search makes as long as it can, in order. -/
def OpenAttribute.runs {markup : List Char} (a : OpenAttribute markup) : List Nat :=
  [a.name.length, a.behindName.length, a.behindEquals.length, a.value.length]

/-- One way comes before another for a search that goes from the left: it begins further left, or it
begins at the same place and the first run in which they differ is longer. -/
def OpenAttribute.Precedes {markup : List Char} (a b : OpenAttribute markup) : Prop :=
  a.before.length < b.before.length ∨ a.before.length = b.before.length ∧ b.runs < a.runs

/-- The only way comes before all others. -/
theorem OpenAttribute.precedes_of_ne {markup : List Char} {a b : OpenAttribute markup} (h : b ≠ a) :
    a.Precedes b :=
  absurd (Subsingleton.elim b a) h

/-- A search that finds, of all ways to take a text apart, the one that comes before all others. -/
def LeftmostFirst (find : List Char → Option (List Char × List Char)) : Prop :=
  ∀ markup name value, find markup = some (name, value) ↔
    ∃ a : OpenAttribute markup, (∀ b, b ≠ a → a.Precedes b) ∧ a.name = name ∧ a.value = value

/-- The walk from the back finds the only way, and so the first one. -/
theorem leftmostFirst_openAttribute? : LeftmostFirst openAttribute? := by
  intro markup name value
  rw [openAttribute?_eq_some_iff]
  constructor
  · rintro ⟨a, hname, hvalue⟩
    exact ⟨a, fun _ => OpenAttribute.precedes_of_ne, hname, hvalue⟩
  · rintro ⟨a, _, hname, hvalue⟩
    exact ⟨a, hname, hvalue⟩

section

variable {find : List Char → Option (List Char × List Char)} {markup : List Char}

theorem LeftmostFirst.eq_some (hfind : LeftmostFirst find) (a : OpenAttribute markup) :
    find markup = some (a.name, a.value) :=
  (hfind _ _ _).mpr ⟨a, fun _ => OpenAttribute.precedes_of_ne, rfl, rfl⟩

theorem LeftmostFirst.eq_none (hfind : LeftmostFirst find)
    (hnone : IsEmpty (OpenAttribute markup)) : find markup = none := by
  refine Option.eq_none_iff_forall_ne_some.mpr fun parts hparts => ?_
  obtain ⟨a, _⟩ := (hfind _ _ _).mp hparts
  exact hnone.false a

end

/-! ## The choice -/

/-- The escape function behind a markup, in words, for any search that goes from the left; the walk
from the back does as well as one.  Where the last script tag opens an element, it is the one for
scripts.  Elsewhere the markup can be taken apart in one way at most, so that it ends in the value of
an attribute.  If there is no way, it is the one for text.  If there is one, the name and the value
decide, both in lower case. -/
theorem escape_function_exact :
    LeftmostFirst openAttribute? ∧
    ∀ find, LeftmostFirst find → ∀ (rules : RuleSet) (markup : String),
      (EndsInScript markup → escapeFunctionBy find rules markup = .js) ∧
      Subsingleton (OpenAttribute markup.toList) ∧
      (¬ EndsInScript markup → IsEmpty (OpenAttribute markup.toList) →
        escapeFunctionBy find rules markup = .html) ∧
      (¬ EndsInScript markup → ∀ a : OpenAttribute markup.toList,
        let name := Text.lowercase (String.ofList a.name)
        let value := Text.lowercase (String.ofList a.value)
        escapeFunctionBy find rules markup =
          if "url(".toList <:+: value.toList then .url
          else if "javascript:".toList <:+: value.toList then .js
          else if name ∈ rules.urlAttributeNames then .url
          else if "on".toList <+: name.toList then .js
          else .htmlAttr) := by
  refine ⟨leftmostFirst_openAttribute?, fun find hfind rules markup => ?_⟩
  refine ⟨fun hscript => ?_, inferInstance, fun hscript hnone => ?_, fun hscript a => ?_⟩
  · rw [escapeFunctionBy, if_pos ((inScript_iff markup).mpr hscript)]
  · rw [escapeFunctionBy, if_neg (mt (inScript_iff markup).mp hscript), hfind.eq_none hnone]
  · rw [escapeFunctionBy, if_neg (mt (inScript_iff markup).mp hscript), hfind.eq_some a]
    simp only [functionForAttribute, Text.contains, Text.occurs_iff, RuleSet.isUrlAttribute,
      List.contains_iff_mem, Text.startsWith, List.isPrefixOf_iff_prefix]

/-- Behind a script element that is closed, and an attribute between single quotes that holds a
double quote, the value of `HREF` is open. -/
theorem escape_function_exact_address :
    let markup := "<SCRIPT></Script><a title='x=\"' HREF = \"/p?q="
    ¬ EndsInScript markup ∧ ∃ a : OpenAttribute markup.toList,
      a.name = "HREF".toList ∧ a.value = "/p?q=".toList ∧
      escapeFunction .standard markup = .url := by
  intro markup
  have hscript : ¬ EndsInScript markup := by
    rw [← inScript_iff]
    decide +kernel
  have hparts : openAttribute? markup.toList = some ("HREF".toList, "/p?q=".toList) := by
    decide +kernel
  obtain ⟨hfind, hexact⟩ := escape_function_exact
  obtain ⟨a, _, hname, hvalue⟩ := (hfind _ _ _).mp hparts
  obtain ⟨_, _, _, hattribute⟩ := hexact openAttribute? hfind .standard markup
  refine ⟨hscript, a, hname, hvalue, (hattribute hscript a).trans ?_⟩
  rw [hname, hvalue]
  decide +kernel

end EscapeAudit.Markup
