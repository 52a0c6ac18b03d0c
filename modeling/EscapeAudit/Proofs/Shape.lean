import EscapeAudit.Proofs.Balance

/-!
# Splitting balanced lexemes

What splitting makes of a range of balanced lexemes can be seen from the lexemes.  There is one
lemma for each outcome: blanks and comments (`split_blank`), a pair of parentheses (`split_pair`), a
ternary without `:` (`split_lone`), a ternary (`split_ternary`), a concatenation (`split_chain`) and
a leaf (`split_leaf`).  The lexemes always have one of these shapes (`shape_split`), because the
outermost operator of a kind cuts balanced lexemes into balanced ones (`exists_first_outermost`,
`exists_last_outermost`).
-/

namespace EscapeAudit

namespace Stream

/-! ## Blanks, comments and what is between them -/

/-- Nothing but blanks and comments. -/
def Blank (ls : List Lexeme) : Prop := ∀ l ∈ ls, l.kind.isTrivia = true

/-- The first and the last lexeme are neither blank nor comment. -/
structure Core (ls : List Lexeme) : Prop where
  head : ∃ l, ls.head? = some l ∧ l.kind.isTrivia = false
  last : ∃ l, ls.getLast? = some l ∧ l.kind.isTrivia = false

theorem isFlat_of_isTrivia {k : Kind} (h : k.isTrivia = true) : isFlat k = true := by
  cases k <;> first | rfl | cases h

theorem Blank.balanced {ls : List Lexeme} (h : Blank ls) : Balanced ls := by
  induction ls with
  | nil => exact .nil
  | cons l ls ih =>
    rw [Balanced.flat (isFlat_of_isTrivia (h l (by simp)))]
    exact ih fun m hm => h m (by simp [hm])

theorem Blank.nil : Blank [] := fun _ hl => by cases hl

theorem Blank.cons {l : Lexeme} {ls : List Lexeme} (hl : l.kind.isTrivia = true) (h : Blank ls) :
    Blank (l :: ls) := by
  intro m hm
  rcases List.mem_cons.mp hm with rfl | hm
  · exact hl
  · exact h m hm

theorem Blank.depthAfter {ls : List Lexeme} (h : Blank ls) (d : Nat) :
    Stream.depthAfter d ls = some d := by
  have hadd := depthAfter_add h.balanced d
  rwa [Nat.zero_add] at hadd

/-- Blanks at the end do not matter for balance. -/
theorem Balanced.of_append_blank {ls u : List Lexeme} (h : Balanced (ls ++ u)) (hu : Blank u) :
    Balanced ls := by
  rw [Balanced, depthAfter_append] at h
  obtain ⟨e, he, hrest⟩ := Option.bind_eq_some_iff.mp h
  rw [hu.depthAfter] at hrest
  rw [Balanced, he, hrest]

/-- Lexemes that are not blank have a first one that is neither blank nor comment. -/
theorem exists_solid {ls : List Lexeme} (h : ¬ Blank ls) :
    ∃ t l rest, ls = t ++ l :: rest ∧ Blank t ∧ l.kind.isTrivia = false := by
  induction ls with
  | nil => exact absurd .nil h
  | cons m ls ih =>
    cases hm : m.kind.isTrivia with
    | false => exact ⟨[], m, ls, rfl, .nil, hm⟩
    | true =>
      obtain ⟨t, l, rest, rfl, ht, hl⟩ := ih fun hls => h (.cons hm hls)
      exact ⟨m :: t, l, rest, rfl, .cons hm ht, hl⟩

/-- Lexemes are blank, or they have a core with blanks around it. -/
theorem exists_core (ls : List Lexeme) :
    Blank ls ∨ ∃ t core u, ls = t ++ (core ++ u) ∧ Blank t ∧ Blank u ∧ Core core := by
  by_cases hblank : Blank ls
  · exact .inl hblank
  · obtain ⟨t, l, rest, rfl, ht, hl⟩ := exists_solid hblank
    have hback : ¬ Blank (l :: rest).reverse := fun h => by
      rw [h l (by simp)] at hl
      cases hl
    -- From the front, and then from the back of what is left.
    obtain ⟨u, m, front, hrev, hu, hm⟩ := exists_solid hback
    have hsplit : l :: rest = front.reverse ++ [m] ++ u.reverse := by
      have := congrArg List.reverse hrev
      simpa using this
    refine .inr ⟨t, front.reverse ++ [m], u.reverse, by rw [hsplit], ht,
      fun k hk => hu k (by simpa using hk), ⟨l, ?_, hl⟩, ⟨m, by simp, hm⟩⟩
    cases hfront : front.reverse with
    | nil =>
      rw [hfront] at hsplit
      simp only [List.nil_append, List.singleton_append] at hsplit ⊢
      rw [(List.cons_eq_cons.mp hsplit).1]
      rfl
    | cons k ks =>
      rw [hfront] at hsplit
      simp only [List.cons_append] at hsplit ⊢
      rw [(List.cons_eq_cons.mp hsplit).1]
      rfl

theorem Core.length_pos {ls : List Lexeme} (h : Core ls) : 0 < ls.length := by
  obtain ⟨l, hl, _⟩ := h.head
  cases ls with
  | nil => cases hl
  | cons => simp

section Bounds

variable {s : Stream} {a : Nat} {t core u : List Lexeme}

theorem bounds?_blank (hlies : s.Lies a t) (ht : Blank t) : s.bounds? ⟨a, a + t.length⟩ = none := by
  rw [bounds?_eq_none_iff]
  intro k hk hlt
  dsimp only at hk hlt
  obtain ⟨i, rfl⟩ : ∃ i, k = a + i := ⟨k - a, by omega⟩
  have hi : i < t.length := by omega
  rw [hlies.holds (List.getElem?_eq_getElem hi), isSolid, ht _ (List.getElem_mem hi)]
  rfl

/-- The bounds of a range are those of its core. -/
theorem bounds_core (hlies : s.Lies a (t ++ (core ++ u))) (ht : Blank t) (hu : Blank u)
    (hcore : Core core) :
    s.Bounds ⟨a, a + (t ++ (core ++ u)).length⟩ (a + t.length)
      (a + t.length + core.length - 1) := by
  have hpos := hcore.length_pos
  obtain ⟨x, hx, hxsolid⟩ := hcore.head
  obtain ⟨y, hy, hysolid⟩ := hcore.last
  have hlies' := hlies.right.left
  have hsolid : ∀ k, k < t.length → s.holds isSolid (a + k) = false := by
    intro k hk
    rw [hlies.left.holds (List.getElem?_eq_getElem hk), isSolid, ht _ (List.getElem_mem hk)]
    rfl
  have hsolid' : ∀ k, k < u.length → s.holds isSolid (a + t.length + core.length + k) = false := by
    intro k hk
    rw [hlies.right.right.holds (List.getElem?_eq_getElem hk), isSolid, hu _ (List.getElem_mem hk)]
    rfl
  refine ⟨by dsimp only; omega, by omega, by simp; omega, ?_, ?_, ?_, ?_⟩
  · rw [List.head?_eq_getElem?] at hx
    have := hlies'.holds hx isSolid
    rw [Nat.add_zero] at this
    rw [this, isSolid, hxsolid]
    rfl
  · rw [List.getLast?_eq_getElem?] at hy
    rw [show a + t.length + core.length - 1 = a + t.length + (core.length - 1) by omega,
      hlies'.holds hy, isSolid, hysolid]
    rfl
  · intro k hk hlt
    dsimp only at hk
    obtain ⟨i, rfl⟩ : ∃ i, k = a + i := ⟨k - a, by omega⟩
    exact hsolid i (by omega)
  · intro k hk hlt
    simp only [List.length_append] at hlt
    obtain ⟨i, rfl⟩ : ∃ i, k = a + t.length + core.length + i :=
      ⟨k - (a + t.length + core.length), by omega⟩
    exact hsolid' i (by omega)

end Bounds

/-! ## Outermost lexemes -/

/-- No outermost lexeme passes the test. -/
def Bare (test : Kind → Bool) (ls : List Lexeme) : Prop := outermost test 0 0 ls = []

section Bare

variable {test : Kind → Bool}

theorem outermost_eq_nil_iff {i : Nat} {ls : List Lexeme} :
    outermost test 0 i ls = [] ↔ Bare test ls := by
  have hshift := outermost_shift test 0 0 i ls
  rw [Nat.zero_add] at hshift
  rw [hshift, List.map_eq_nil_iff, Bare]

theorem Bare.append_iff {ls ms : List Lexeme} (h : Balanced ls) :
    Bare test (ls ++ ms) ↔ Bare test ls ∧ Bare test ms := by
  rw [Bare, outermost_append test h, List.append_eq_nil_iff, outermost_eq_nil_iff,
    outermost_eq_nil_iff]

theorem Bare.flat_iff {l : Lexeme} {ls : List Lexeme} (hl : isFlat l.kind = true) :
    Bare test (l :: ls) ↔ test l.kind = false ∧ Bare test ls := by
  rw [Bare, outermost_flat test hl, List.append_eq_nil_iff, outermost_eq_nil_iff]
  cases test l.kind <;> simp

theorem Bare.group_iff {o c : Lexeme} {inner rest : List Lexeme} (ho : o.kind = .openParenthesis)
    (hc : c.kind = .closeParenthesis) (h : Balanced inner) :
    Bare test (o :: (inner ++ c :: rest)) ↔ Bare test rest := by
  rw [Bare, outermost_group test ho hc h, outermost_eq_nil_iff]

theorem Blank.bare {ls : List Lexeme} (h : Blank ls)
    (htest : ∀ k, k.isTrivia = true → test k = false) : Bare test ls := by
  induction ls with
  | nil => rfl
  | cons l ls ih =>
    have hl := h l (by simp)
    exact (Bare.flat_iff (isFlat_of_isTrivia hl)).mpr
      ⟨htest _ hl, ih fun m hm => h m (by simp [hm])⟩

/-- The first outermost lexeme that passes a test cuts balanced lexemes into balanced ones. -/
theorem exists_first_outermost {ls : List Lexeme} (hb : Balanced ls) (h : ¬ Bare test ls) :
    ∃ before l after, ls = before ++ l :: after ∧ Balanced before ∧ Balanced after ∧
      isFlat l.kind = true ∧ test l.kind = true ∧ Bare test before := by
  induction hn : ls.length using Nat.strongRecOn generalizing ls with
  | _ n ih =>
    subst hn
    cases ls with
    | nil => exact absurd rfl h
    | cons l ls =>
      rcases hb.cases_cons with ⟨hl, hls⟩ | ⟨hl, inner, c, rest, rfl, hc, hinner, hrest⟩
      · cases hpass : test l.kind with
        | true => exact ⟨[], l, ls, rfl, .nil, hls, hl, hpass, rfl⟩
        | false =>
          obtain ⟨before, m, after, rfl, hbefore, hafter, hm, hpass', hbare⟩ :=
            ih ls.length (by simp) hls (fun hbare => h ((Bare.flat_iff hl).mpr ⟨hpass, hbare⟩)) rfl
          exact ⟨l :: before, m, after, rfl, (Balanced.flat hl).mpr hbefore, hafter, hm, hpass',
            (Bare.flat_iff hl).mpr ⟨hpass, hbare⟩⟩
      · obtain ⟨before, m, after, rfl, hbefore, hafter, hm, hpass, hbare⟩ :=
          ih rest.length (by simp; omega) hrest
            (fun hbare => h ((Bare.group_iff hl hc hinner).mpr hbare)) rfl
        have hgroup := Balanced.group hl hc hinner
        refine ⟨l :: (inner ++ c :: before), m, after, by simp, ?_, hafter, hm, hpass,
          (Bare.group_iff hl hc hinner).mpr hbare⟩
        have happend := hgroup.append hbefore
        simpa using happend

/-- So does the last one. -/
theorem exists_last_outermost {ls : List Lexeme} (hb : Balanced ls) (h : ¬ Bare test ls) :
    ∃ before l after, ls = before ++ l :: after ∧ Balanced before ∧ Balanced after ∧
      isFlat l.kind = true ∧ test l.kind = true ∧ Bare test after := by
  induction hn : ls.length using Nat.strongRecOn generalizing ls with
  | _ n ih =>
    subst hn
    obtain ⟨before, l, after, rfl, hbefore, hafter, hl, hpass, _⟩ := exists_first_outermost hb h
    by_cases hbare : Bare test after
    · exact ⟨before, l, after, rfl, hbefore, hafter, hl, hpass, hbare⟩
    · obtain ⟨before', l', after', rfl, hbefore', hafter', hl', hpass', hbare'⟩ :=
        ih after.length (by simp; omega) hafter hbare rfl
      exact ⟨before ++ l :: before', l', after', by simp,
        hbefore.append ((Balanced.flat hl).mpr hbefore'), hafter', hl', hpass', hbare'⟩

theorem outermost_link {p rest : List Lexeme} {d : Lexeme} (hp : Balanced p)
    (hbare : Bare (· == .concat) p) (hd : d.kind = .concat) {b : Nat} :
    outermost (· == .concat) 0 b (p ++ d :: rest) =
      (b + p.length) :: outermost (· == .concat) 0 (b + p.length + 1) rest := by
  have hdflat : isFlat d.kind = true := by rw [hd]; rfl
  have hpass : (d.kind == .concat) = true := by rw [hd]; rfl
  rw [outermost_append _ hp, outermost_flat _ hdflat, outermost_eq_nil_iff.mpr hbare,
    if_pos ⟨rfl, hpass⟩]
  rfl

end Bare

/-- A pair of parentheses around balanced lexemes. -/
def Enclosed (ls : List Lexeme) : Prop :=
  ∃ o inner c, ls = o :: (inner ++ [c]) ∧ o.kind = .openParenthesis ∧
    c.kind = .closeParenthesis ∧ Balanced inner

theorem Enclosed.bare {test : Kind → Bool} {ls : List Lexeme} (h : Enclosed ls) : Bare test ls := by
  obtain ⟨o, inner, c, rfl, ho, hc, hinner⟩ := h
  exact (Bare.group_iff ho hc hinner).mpr rfl

/-- The core of a range is a pair exactly where it is enclosed. -/
theorem isPair_iff_enclosed {s : Stream} {a : Nat} {core : List Lexeme} (hlies : s.Lies a core)
    (hb : Balanced core) (hcore : Core core) :
    s.isPair a (a + core.length - 1) = true ↔ Enclosed core := by
  have hgroup : ∀ {o c : Lexeme} {inner rest : List Lexeme}, core = o :: (inner ++ c :: rest) →
      o.kind = .openParenthesis → c.kind = .closeParenthesis → Balanced inner →
      s.kind? a = some .openParenthesis ∧ s.partner? a = some (a + inner.length + 1) := by
    rintro o c inner rest rfl ho hc hinner
    refine ⟨?_, ?_⟩
    · have := hlies.kind? (i := 0) rfl
      rwa [ho] at this
    · obtain ⟨before, after, rfl, rfl⟩ := hlies
      have hpartner : (ofLexemes (before ++ o :: (inner ++ c :: (rest ++ after)))).partner?
          before.length = some (before.length + inner.length + 1) := partner?_group ho hc hinner
      simpa using hpartner
  rw [isPair_iff]
  constructor
  · rintro ⟨hkind, hpartner⟩
    cases core with
    | nil => exact absurd hcore.length_pos (by simp)
    | cons l ls =>
      have hl : s.kind? a = some l.kind := hlies.kind? (i := 0) rfl
      have hopen : l.kind = .openParenthesis := Option.some.inj (hl.symm.trans hkind)
      rcases hb.cases_cons with ⟨hflat, _⟩ | ⟨_, inner, c, rest, rfl, hc, hinner, hrest⟩
      · rw [hopen] at hflat
        cases hflat
      · have hpartner' := (hgroup rfl hopen hc hinner).2
        rw [hpartner] at hpartner'
        have hlength := Option.some.inj hpartner'
        simp only [List.length_cons, List.length_append] at hlength
        have hnil : rest = [] := List.length_eq_zero_iff.mp (by omega)
        exact ⟨l, inner, c, by rw [hnil], hopen, hc, hinner⟩
  · rintro ⟨o, inner, c, rfl, ho, hc, hinner⟩
    obtain ⟨hkind, hpartner⟩ := hgroup rfl ho hc hinner
    refine ⟨hkind, ?_⟩
    rw [hpartner]
    simp
    omega

/-! ## The outcomes of splitting -/

section Split

variable {s : Stream} {a : Nat} {ls : List Lexeme}

theorem lastInScope_eq (test : Kind → Bool) (htest : test .openParenthesis = false)
    (hlies : s.Lies a ls) (hb : Balanced ls) :
    s.lastInScope test ⟨a, a + ls.length⟩ = (outermost test 0 a ls).getLast? := by
  rw [← inScope_eq_outermost test htest hlies hb, lastInScope, Array.getLast?_toList]

theorem firstInScope_eq (test : Kind → Bool) (htest : test .openParenthesis = false)
    (hlies : s.Lies a ls) (hb : Balanced ls) :
    s.firstInScope test ⟨a, a + ls.length⟩ = (outermost test 0 a ls).head? := by
  rw [← inScope_eq_outermost test htest hlies hb, firstInScope, List.head?_eq_getElem?,
    Array.getElem?_toList]

theorem split_blank (hlies : s.Lies a ls) (h : Blank ls) :
    s.split ⟨a, a + ls.length⟩ = .skip := by
  rw [split, bounds?_blank hlies h]

/-- A pair of parentheses with blanks around it. -/
theorem split_pair {t u inner : List Lexeme} {o c : Lexeme} (ho : o.kind = .openParenthesis)
    (hc : c.kind = .closeParenthesis) (hinner : Balanced inner) (ht : Blank t) (hu : Blank u)
    (hlies : s.Lies a (t ++ (o :: (inner ++ [c]) ++ u))) :
    s.split ⟨a, a + (t ++ (o :: (inner ++ [c]) ++ u)).length⟩ =
      .unwrapped ⟨a + t.length + 1, a + t.length + 1 + inner.length⟩ := by
  have hcore : Core (o :: (inner ++ [c])) :=
    ⟨⟨o, rfl, by rw [ho]; rfl⟩, ⟨c, List.getLast?_concat (l := o :: inner), by rw [hc]; rfl⟩⟩
  have hpair := (isPair_iff_enclosed hlies.right.left (Balanced.group ho hc hinner) hcore).mpr
    ⟨o, inner, c, rfl, ho, hc, hinner⟩
  rw [split, bounds?_eq_some_iff.mpr (bounds_core hlies ht hu hcore)]
  simp only [hpair, if_true, Split.unwrapped.injEq, Range.mk.injEq, true_and]
  simp
  omega

/-- What is left to look at when a range is no pair of parentheses. -/
theorem split_operators {t core u : List Lexeme} (hlies : s.Lies a (t ++ (core ++ u)))
    (hb : Balanced core) (ht : Blank t) (hu : Blank u) (hcore : Core core)
    (hopen : ¬ Enclosed core) :
    s.split ⟨a, a + (t ++ (core ++ u)).length⟩ =
      match s.lastInScope (· == .inlineThen) ⟨a, a + (t ++ (core ++ u)).length⟩ with
      | some then_ => s.branches ⟨a, a + (t ++ (core ++ u)).length⟩ then_
      | none =>
        if (s.inScope (· == .concat) ⟨a, a + (t ++ (core ++ u)).length⟩).isEmpty then
          .leaf ⟨⟨a, a + (t ++ (core ++ u)).length⟩, a + t.length, a + t.length + core.length - 1⟩
        else .pieces (Range.cutAt ⟨a, a + (t ++ (core ++ u)).length⟩
          (s.inScope (· == .concat) ⟨a, a + (t ++ (core ++ u)).length⟩)) := by
  have hpair : s.isPair (a + t.length) (a + t.length + core.length - 1) = false := by
    rw [← Bool.not_eq_true, isPair_iff_enclosed hlies.right.left hb hcore]
    exact hopen
  rw [split, bounds?_eq_some_iff.mpr (bounds_core hlies ht hu hcore)]
  simp only [hpair]
  rfl

/-- Lexemes with an outermost operator have a core that is no pair of parentheses. -/
theorem exists_open_core (hb : Balanced ls) {test : Kind → Bool}
    (htest : ∀ k, k.isTrivia = true → test k = false) (hnot : ¬ Bare test ls) :
    ∃ t core u, ls = t ++ (core ++ u) ∧ Blank t ∧ Blank u ∧ Core core ∧ Balanced core ∧
      ¬ Enclosed core := by
  rcases exists_core ls with hblank | ⟨t, core, u, rfl, ht, hu, hcore⟩
  · exact absurd (hblank.bare htest) hnot
  · have hbcore : Balanced core := (hb.of_append ht.balanced).of_append_blank hu
    refine ⟨t, core, u, rfl, ht, hu, hcore, hbcore, fun henclosed => hnot ?_⟩
    exact (Bare.append_iff ht.balanced).mpr ⟨ht.bare htest,
      (Bare.append_iff hbcore).mpr ⟨henclosed.bare, hu.bare htest⟩⟩

theorem inlineThen_of_isTrivia (k : Kind) (h : k.isTrivia = true) : (k == .inlineThen) = false := by
  cases k <;> first | rfl | cases h

theorem concat_of_isTrivia (k : Kind) (h : k.isTrivia = true) : (k == .concat) = false := by
  cases k <;> first | rfl | cases h

theorem outermost_inlineThen {cond rest : List Lexeme} {q : Lexeme} (hcond : Balanced cond)
    (hq : q.kind = .inlineThen) (hlast : Bare (· == .inlineThen) rest) :
    outermost (· == .inlineThen) 0 a (cond ++ q :: rest) =
      outermost (· == .inlineThen) 0 a cond ++ [a + cond.length] := by
  have hflat : isFlat q.kind = true := by rw [hq]; rfl
  have hpass : (q.kind == .inlineThen) = true := by rw [hq]; rfl
  rw [outermost_append _ hcond, outermost_flat _ hflat, outermost_eq_nil_iff.mpr hlast,
    if_pos ⟨rfl, hpass⟩, List.append_nil]

theorem lastInScope_inlineThen {cond rest : List Lexeme} {q : Lexeme} (hcond : Balanced cond)
    (hq : q.kind = .inlineThen) (hrest : Balanced rest) (hlast : Bare (· == .inlineThen) rest)
    (hlies : s.Lies a (cond ++ q :: rest)) :
    s.lastInScope (· == .inlineThen) ⟨a, a + (cond ++ q :: rest).length⟩ =
      some (a + cond.length) := by
  have hflat : isFlat q.kind = true := by rw [hq]; rfl
  rw [lastInScope_eq _ rfl hlies (hcond.append ((Balanced.flat hflat).mpr hrest)),
    outermost_inlineThen hcond hq hlast, List.getLast?_concat]

/-- A ternary is split at its last `?`. -/
theorem split_inlineThen {cond rest : List Lexeme} {q : Lexeme} (hcond : Balanced cond)
    (hq : q.kind = .inlineThen) (hrest : Balanced rest) (hlast : Bare (· == .inlineThen) rest)
    (hlies : s.Lies a (cond ++ q :: rest)) :
    s.split ⟨a, a + (cond ++ q :: rest).length⟩ =
      s.branches ⟨a, a + (cond ++ q :: rest).length⟩ (a + cond.length) := by
  have hflat : isFlat q.kind = true := by rw [hq]; rfl
  have hb : Balanced (cond ++ q :: rest) := hcond.append ((Balanced.flat hflat).mpr hrest)
  have hnot : ¬ Bare (· == .inlineThen) (cond ++ q :: rest) := by
    rw [← outermost_eq_nil_iff (i := a), outermost_inlineThen hcond hq hlast]
    simp
  have hthen := lastInScope_inlineThen hcond hq hrest hlast hlies
  obtain ⟨t, core, u, heq, ht, hu, hcore, hbcore, hopen⟩ :=
    exists_open_core hb inlineThen_of_isTrivia hnot
  rw [heq] at hlies hthen ⊢
  rw [split_operators hlies hbcore ht hu hcore hopen, hthen]

/-- A ternary without `:` gives nothing. -/
theorem split_lone {cond rest : List Lexeme} {q : Lexeme} (hcond : Balanced cond)
    (hq : q.kind = .inlineThen) (hrest : Balanced rest) (hlast : Bare (· == .inlineThen) rest)
    (helse : Bare (· == .inlineElse) rest) (hlies : s.Lies a (cond ++ q :: rest)) :
    s.split ⟨a, a + (cond ++ q :: rest).length⟩ = .skip := by
  have hlies' : s.Lies (a + cond.length + 1) rest := hlies.right.tail
  have hstop : a + (cond ++ q :: rest).length = a + cond.length + 1 + rest.length := by
    simp
    omega
  rw [split_inlineThen hcond hq hrest hlast hlies, branches]
  dsimp only
  rw [hstop, firstInScope_eq _ rfl hlies' hrest, outermost_eq_nil_iff.mpr helse]
  rfl

/-- A ternary gives its branches. -/
theorem split_ternary {cond yes no : List Lexeme} {q e : Lexeme} (hcond : Balanced cond)
    (hq : q.kind = .inlineThen) (hyes : Balanced yes) (he : e.kind = .inlineElse)
    (hno : Balanced no) (hlast : Bare (· == .inlineThen) (yes ++ e :: no))
    (hfirst : Bare (· == .inlineElse) yes) (hlies : s.Lies a (cond ++ q :: (yes ++ e :: no))) :
    s.split ⟨a, a + (cond ++ q :: (yes ++ e :: no)).length⟩ =
      .pieces [⟨a + cond.length + 1, a + cond.length + 1 + yes.length⟩,
        ⟨a + cond.length + 1 + yes.length + 1, a + cond.length + 1 + yes.length + 1 + no.length⟩] := by
  have hflat : isFlat e.kind = true := by rw [he]; rfl
  have hpass : (e.kind == .inlineElse) = true := by rw [he]; rfl
  have hrest : Balanced (yes ++ e :: no) := hyes.append ((Balanced.flat hflat).mpr hno)
  have hlies' : s.Lies (a + cond.length + 1) (yes ++ e :: no) := hlies.right.tail
  have hstop : a + (cond ++ q :: (yes ++ e :: no)).length =
      a + cond.length + 1 + (yes ++ e :: no).length := by
    simp
    omega
  have hlist : outermost (· == .inlineElse) 0 (a + cond.length + 1) (yes ++ e :: no) =
      (a + cond.length + 1 + yes.length) ::
        outermost (· == .inlineElse) 0 (a + cond.length + 1 + yes.length + 1) no := by
    rw [outermost_append _ hyes, outermost_flat _ hflat, outermost_eq_nil_iff.mpr hfirst,
      if_pos ⟨rfl, hpass⟩]
    rfl
  rw [split_inlineThen hcond hq hrest hlast hlies, branches]
  dsimp only
  rw [hstop, firstInScope_eq _ rfl hlies' hrest, hlist, List.head?_cons]
  simp
  omega

/-- A concatenation gives the pieces between its outermost operators. -/
theorem split_chain (hlies : s.Lies a ls) (hb : Balanced ls) (hthen : Bare (· == .inlineThen) ls)
    (hconcat : ¬ Bare (· == .concat) ls) :
    s.split ⟨a, a + ls.length⟩ =
      .pieces (Range.pieces a (a + ls.length) (outermost (· == .concat) 0 a ls)) := by
  have hcuts := inScope_eq_outermost (· == .concat) rfl hlies hb
  have hlast := lastInScope_eq (· == .inlineThen) rfl hlies hb
  rw [outermost_eq_nil_iff.mpr hthen] at hlast
  have hempty : (s.inScope (· == .concat) ⟨a, a + ls.length⟩).isEmpty = false := by
    rw [← Array.isEmpty_toList, hcuts, List.isEmpty_eq_false_iff]
    exact fun hnil => hconcat (outermost_eq_nil_iff.mp hnil)
  obtain ⟨t, core, u, heq, ht, hu, hcore, hbcore, hopen⟩ :=
    exists_open_core hb concat_of_isTrivia hconcat
  rw [heq] at hlies hlast hempty hcuts ⊢
  rw [split_operators hlies hbcore ht hu hcore hopen, hlast, Range.cutAt_eq_pieces, hcuts]
  simp only [List.getLast?_nil, hempty]
  rfl

/-- Lexemes that cannot be split: a core between blanks and comments. -/
structure IsLeaf (t core u : List Lexeme) : Prop where
  balanced : Balanced core
  before : Blank t
  after : Blank u
  solid : Core core
  unenclosed : ¬ Enclosed core
  inlineThen : Bare (· == .inlineThen) (t ++ (core ++ u))
  concat : Bare (· == .concat) (t ++ (core ++ u))

/-- The leaf of lexemes that stand somewhere. -/
def leafAt (a : Nat) (t core u : List Lexeme) : Leaf :=
  ⟨⟨a, a + (t ++ (core ++ u)).length⟩, a + t.length, a + t.length + core.length - 1⟩

/-- Anything else is a leaf. -/
theorem split_leaf {t core u : List Lexeme} (h : IsLeaf t core u)
    (hlies : s.Lies a (t ++ (core ++ u))) :
    s.split ⟨a, a + (t ++ (core ++ u)).length⟩ = .leaf (leafAt a t core u) := by
  have hb : Balanced (t ++ (core ++ u)) :=
    h.before.balanced.append (h.balanced.append h.after.balanced)
  have hcuts := inScope_eq_outermost (· == .concat) rfl hlies hb
  have hlast := lastInScope_eq (· == .inlineThen) rfl hlies hb
  rw [outermost_eq_nil_iff.mpr h.inlineThen] at hlast
  rw [outermost_eq_nil_iff.mpr h.concat] at hcuts
  have hempty : (s.inScope (· == .concat) ⟨a, a + (t ++ (core ++ u)).length⟩).isEmpty = true := by
    rw [← Array.isEmpty_toList, hcuts]
    rfl
  rw [split_operators hlies h.balanced h.before h.after h.solid h.unenclosed, hlast]
  simp only [List.getLast?_nil, hempty, if_true]
  rfl

/-! ## Every shape -/

/-- Balanced lexemes from an index on, and what splitting makes of them. -/
inductive Shape (a : Nat) : List Lexeme → Split → Prop where
  /-- Blanks and comments. -/
  | blank {ls : List Lexeme} : Blank ls → Shape a ls .skip
  /-- A pair of parentheses. -/
  | pair {t u inner : List Lexeme} {o c : Lexeme} : o.kind = .openParenthesis →
    c.kind = .closeParenthesis → Balanced inner → Blank t → Blank u →
    Shape a (t ++ (o :: (inner ++ [c]) ++ u))
      (.unwrapped ⟨a + t.length + 1, a + t.length + 1 + inner.length⟩)
  /-- A ternary without `:`. -/
  | lone {cond rest : List Lexeme} {q : Lexeme} : Balanced cond → q.kind = .inlineThen →
    Balanced rest → Bare (· == .inlineThen) rest → Bare (· == .inlineElse) rest →
    Shape a (cond ++ q :: rest) .skip
  /-- A ternary. -/
  | ternary {cond yes no : List Lexeme} {q e : Lexeme} : Balanced cond → q.kind = .inlineThen →
    Balanced yes → e.kind = .inlineElse → Balanced no → Bare (· == .inlineThen) yes →
    Bare (· == .inlineThen) no → Bare (· == .inlineElse) yes →
    Shape a (cond ++ q :: (yes ++ e :: no))
      (.pieces [⟨a + cond.length + 1, a + cond.length + 1 + yes.length⟩,
        ⟨a + cond.length + 1 + yes.length + 1, a + cond.length + 1 + yes.length + 1 + no.length⟩])
  /-- A concatenation. -/
  | chain {ls : List Lexeme} : Balanced ls → Bare (· == .inlineThen) ls → ¬ Bare (· == .concat) ls →
    Shape a ls (.pieces (Range.pieces a (a + ls.length) (outermost (· == .concat) 0 a ls)))
  /-- A leaf. -/
  | leaf {t core u : List Lexeme} : IsLeaf t core u →
    Shape a (t ++ (core ++ u)) (.leaf (leafAt a t core u))

theorem shape_inlineThen (hlies : s.Lies a ls) (hb : Balanced ls)
    (hthen : ¬ Bare (· == .inlineThen) ls) : Shape a ls (s.split ⟨a, a + ls.length⟩) := by
  obtain ⟨cond, q, rest, rfl, hcond, hrest, _, hq, hlast⟩ := exists_last_outermost hb hthen
  have hq : q.kind = .inlineThen := beq_iff_eq.mp hq
  by_cases helse : Bare (· == .inlineElse) rest
  · rw [split_lone hcond hq hrest hlast helse hlies]
    exact .lone hcond hq hrest hlast helse
  · obtain ⟨yes, e, no, rfl, hyes, hno, heflat, he, hfirst⟩ := exists_first_outermost hrest helse
    have he : e.kind = .inlineElse := beq_iff_eq.mp he
    obtain ⟨hyesbare, hrestbare⟩ := (Bare.append_iff hyes).mp hlast
    rw [split_ternary hcond hq hyes he hno hlast hfirst hlies]
    exact .ternary hcond hq hyes he hno hyesbare ((Bare.flat_iff heflat).mp hrestbare).2 hfirst

/-- Balanced lexemes have a shape. -/
theorem shape_split (hlies : s.Lies a ls) (hb : Balanced ls) :
    Shape a ls (s.split ⟨a, a + ls.length⟩) := by
  rcases exists_core ls with hblank | ⟨t, core, u, rfl, ht, hu, hcore⟩
  · rw [split_blank hlies hblank]
    exact .blank hblank
  · have hbcore : Balanced core := (hb.of_append ht.balanced).of_append_blank hu
    by_cases henclosed : Enclosed core
    · obtain ⟨o, inner, c, rfl, ho, hc, hinner⟩ := henclosed
      rw [split_pair ho hc hinner ht hu hlies]
      exact .pair ho hc hinner ht hu
    · by_cases hthen : Bare (· == .inlineThen) (t ++ (core ++ u))
      · by_cases hconcat : Bare (· == .concat) (t ++ (core ++ u))
        · have hleaf : IsLeaf t core u := ⟨hbcore, ht, hu, hcore, henclosed, hthen, hconcat⟩
          rw [split_leaf hleaf hlies]
          exact .leaf hleaf
        · rw [split_chain hlies hb hthen hconcat]
          exact .chain hb hthen hconcat
      · exact shape_inlineThen hlies hb hthen

end Split

end Stream

end EscapeAudit
