import EscapeAudit.Proofs.Matching

/-!
# The pairing of parentheses

`Pairing` says what it is to pair the parentheses of a template, without a stack: partners are an
opening and a closing parenthesis, pairs are nested or apart, no pair reaches over a close tag, and
nothing is left alone that could have a partner.

The stack finds such a pairing.  What carries the proof is a statement about the tokens behind a
parenthesis that waits: each of them waits too or is settled (`Settled`), which means that it is no
close tag and, if it is a parenthesis, has its partner behind the one that waits.  When that one
finds its partner, all tokens between the two are settled.  One token keeps this (`Stacked.push`),
so every sequence of tokens does (`Stacked.pushAll`).

There is no other pairing (`Pairing.unique`), so the clauses say everything about the partners.
-/

namespace EscapeAudit

/-- Every parenthesis of a sequence of kinds has the partner it should have. -/
structure Pairing (kind? : Nat → Option Kind) (partner? : Nat → Option Nat) : Prop where
  /-- A token is the partner of its partner. -/
  symm : ∀ i j, partner? i = some j → partner? j = some i
  /-- Only parentheses have partners, and a pair is an opening one and a closing one behind it. -/
  joins : ∀ i j, partner? i = some j →
    i < j ∧ kind? i = some .openParenthesis ∧ kind? j = some .closeParenthesis ∨
    j < i ∧ kind? i = some .closeParenthesis ∧ kind? j = some .openParenthesis
  /-- Of two pairs, the one that opens later stands inside the other or behind it. -/
  nested : ∀ i j k l, i < j → k < l → partner? i = some j → partner? k = some l → i < k →
    l < j ∨ j < k
  /-- No pair reaches over the end of a code region. -/
  region : ∀ i j m, partner? i = some j → i < m → m < j → kind? m ≠ some .closeTag
  /-- No parenthesis inside a pair is alone. -/
  inside : ∀ i j m k, partner? i = some j → i < m → m < j → kind? m = some k →
    k.isParenthesis = true → partner? m ≠ none
  /-- In a code region, no opening parenthesis that is alone stands before a closing one that is
  alone. -/
  maximal : ∀ i j, i < j → kind? i = some .openParenthesis → partner? i = none →
    kind? j = some .closeParenthesis → partner? j = none →
    ∃ m, i < m ∧ m < j ∧ kind? m = some .closeTag

namespace Pairing

variable {kind? : Nat → Option Kind} {p q : Nat → Option Nat}

theorem lt_of_opening (h : Pairing kind? p) {i j : Nat} (hkind : kind? i = some .openParenthesis)
    (hij : p i = some j) : i < j ∧ kind? j = some .closeParenthesis := by
  rcases h.joins i j hij with ⟨hlt, _, hj⟩ | ⟨_, hi, _⟩
  · exact ⟨hlt, hj⟩
  · rw [hkind] at hi
    cases hi

theorem lt_of_closing (h : Pairing kind? p) {i j : Nat} (hkind : kind? j = some .closeParenthesis)
    (hji : p j = some i) : i < j ∧ kind? i = some .openParenthesis := by
  rcases h.joins j i hji with ⟨_, hj, _⟩ | ⟨hlt, _, hi⟩
  · rw [hkind] at hj
    cases hj
  · exact ⟨hlt, hi⟩

/-- An opening parenthesis inside a pair has its partner inside the pair. -/
theorem exists_inside (h : Pairing kind? p) {i j m : Nat} (hij : p i = some j) (him : i < m)
    (hmj : m < j) (hkind : kind? m = some .openParenthesis) : ∃ k, p m = some k ∧ k < j := by
  obtain ⟨k, hk⟩ := Option.ne_none_iff_exists'.mp (h.inside i j m _ hij him hmj hkind rfl)
  obtain ⟨hmk, _⟩ := h.lt_of_opening hkind hk
  rcases h.nested i j m k (by omega) hmk hij hk him with hkj | hjm
  · exact ⟨k, hk, hkj⟩
  · omega

/-- Two pairings that agree before a closing parenthesis give it the same partner. -/
theorem agree (hp : Pairing kind? p) (hq : Pairing kind? q) {i j : Nat} (hlt : i < j)
    (hij : p i = some j) (hbefore : ∀ a b, a < b → b < j → (p a = some b ↔ q a = some b)) :
    q i = some j := by
  obtain ⟨_, hopen, hclose⟩ | ⟨hgt, _⟩ := hp.joins i j hij
  · cases hqj : q j with
    | some o =>
      obtain ⟨hoj, hkind⟩ := hq.lt_of_closing hclose hqj
      have hqo := hq.symm j o hqj
      rcases Nat.lt_trichotomy i o with hio | rfl | hoi
      · -- The one that opens later already has a partner before `j`.
        obtain ⟨k, hk, hkj⟩ := hp.exists_inside hij hio hoj hkind
        obtain ⟨hok, _⟩ := hp.lt_of_opening hkind hk
        have := (hbefore o k hok hkj).mp hk
        rw [hqo, Option.some.injEq] at this
        omega
      · exact hqo
      · obtain ⟨k, hk, hkj⟩ := hq.exists_inside hqo hoi hlt hopen
        obtain ⟨hik, _⟩ := hq.lt_of_opening hopen hk
        have := (hbefore i k hik hkj).mpr hk
        rw [hij, Option.some.injEq] at this
        omega
    | none =>
      cases hqi : q i with
      | none =>
        obtain ⟨m, him, hmj, htag⟩ := hq.maximal i j hlt hopen hqi hclose hqj
        exact absurd htag (hp.region i j m hij him hmj)
      | some k =>
        obtain ⟨hik, _⟩ := hq.lt_of_opening hopen hqi
        rcases Nat.lt_trichotomy k j with hkj | rfl | hjk
        · have := (hbefore i k hik hkj).mpr hqi
          rw [hij, Option.some.injEq] at this
          omega
        · rfl
        · exact absurd hqj (hq.inside i k j _ hqi hlt hjk hclose rfl)
  · omega

/-- There is only one pairing. -/
theorem unique (hp : Pairing kind? p) (hq : Pairing kind? q) : p = q := by
  have hpairs : ∀ j i, i < j → (p i = some j ↔ q i = some j) := by
    intro j
    induction j using Nat.strongRecOn with
    | ind j ih =>
      intro i hlt
      exact ⟨fun h => hp.agree hq hlt h fun a b hab hbj => ih b hbj a hab,
        fun h => hq.agree hp hlt h fun a b hab hbj => (ih b hbj a hab).symm⟩
  have hsome : ∀ i j, p i = some j ↔ q i = some j := by
    intro i j
    rcases Nat.lt_trichotomy i j with hij | rfl | hji
    · exact hpairs j i hij
    · constructor
      · intro h
        rcases hp.joins i i h with ⟨hlt, _⟩ | ⟨hlt, _⟩ <;> omega
      · intro h
        rcases hq.joins i i h with ⟨hlt, _⟩ | ⟨hlt, _⟩ <;> omega
    · calc p i = some j ↔ p j = some i := ⟨hp.symm i j, hp.symm j i⟩
        _ ↔ q j = some i := hpairs i j hji
        _ ↔ q i = some j := ⟨hq.symm j i, hq.symm i j⟩
  funext i
  exact Option.ext fun j => hsome i j

end Pairing

/-! ## What the stack knows -/

namespace Stream.Builder

/-- A token behind another is no close tag, and if it is a parenthesis, it has its partner behind
the other too. -/
def Settled (b : Builder) (o m : Nat) : Prop :=
  b.kind? m ≠ some .closeTag ∧
    ∀ k, b.kind? m = some k → k.isParenthesis = true → ∃ j, b.partner? m = some j ∧ o < j

/-- What is known behind every token.  `inside` is about the pairs that are made, `behind` about the
parentheses that wait, and `dropped` about those that no longer wait and are alone. -/
structure Stacked (b : Builder) : Prop where
  wired : b.Wired
  sorted : b.openings.Pairwise (· > ·)
  inside : ∀ i j m, b.partner? i = some j → i < m → m < j → b.Settled i m
  behind : ∀ o ∈ b.openings, ∀ m, o < m → m < b.tokens.size → m ∉ b.openings → b.Settled o m
  dropped : ∀ i, b.kind? i = some .openParenthesis → b.partner? i = none → i ∉ b.openings →
    ∃ m, i < m ∧ b.kind? m = some .closeTag
  maximal : ∀ i j, i < j → b.kind? i = some .openParenthesis → b.partner? i = none →
    b.kind? j = some .closeParenthesis → b.partner? j = none →
    ∃ m, i < m ∧ m < j ∧ b.kind? m = some .closeTag

theorem stacked_empty : empty.Stacked where
  wired := wired_empty
  sorted := .nil
  inside i j m h := by simp [partner?, empty] at h
  behind o ho := by simp [empty] at ho
  dropped i h := by simp [kind?, empty] at h
  maximal i j _ h := by simp [kind?, empty] at h

/-- A token that has its partner keeps it. -/
theorem Wired.partner?_push {b : Builder} (h : b.Wired) (l : Lexeme) {i j : Nat}
    (hij : b.partner? i = some j) : (b.push l).partner? i = some j := by
  have hwait : i ∉ b.openings := by
    intro hi
    rw [(h.waiting i hi).2.2] at hij
    cases hij
  exact (partner?_pushAll (lt_of_partner? hij) hwait [l]).1.trans hij

theorem Wired.settled_push {b : Builder} (h : b.Wired) (l : Lexeme) {o m : Nat}
    (hm : m < b.tokens.size) (hsettled : b.Settled o m) : (b.push l).Settled o m := by
  obtain ⟨htag, hpaired⟩ := hsettled
  refine ⟨by rwa [kind?_push_of_lt l hm], fun k hk hparen => ?_⟩
  rw [kind?_push_of_lt l hm] at hk
  obtain ⟨j, hj, hoj⟩ := hpaired k hk hparen
  exact ⟨j, h.partner?_push l hj, hoj⟩

/-- A pair that is there behind one more token was there before, or the token closes it. -/
theorem partner?_push_cases {b : Builder} (h : b.Wired) {l : Lexeme} {i j : Nat} (hlt : i < j)
    (hij : (b.push l).partner? i = some j) :
    b.partner? i = some j ∨ j = b.tokens.size ∧ ∃ os, b.openings = i :: os := by
  rcases push_cases b l with ⟨_, _, hsame⟩ | ⟨o, os, _, hstack, _, hsame⟩ | ⟨_, _, hsame⟩ |
    ⟨_, _, _, _, hsame⟩
  · exact .inl (by rwa [hsame] at hij)
  · have ho := (h.waiting o (by simp [hstack])).1
    rw [hsame] at hij
    split at hij
    · rw [Option.some.injEq] at hij
      omega
    · split at hij
      · rename_i hi
        obtain rfl := hi.1
        exact .inr ⟨(Option.some.inj hij).symm, os, hstack⟩
      · exact .inl hij
  · exact .inl (by rwa [hsame] at hij)
  · exact .inl (by rwa [hsame] at hij)

namespace Stacked

variable {b : Builder}

theorem sorted_push (h : b.Stacked) (l : Lexeme) : (b.push l).openings.Pairwise (· > ·) := by
  rcases push_cases b l with ⟨_, hopen, _⟩ | ⟨o, os, _, hstack, hopen, _⟩ | ⟨_, hopen, _⟩ |
    ⟨_, _, _, hopen, _⟩
  · rw [hopen]
    exact List.pairwise_cons.mpr ⟨fun i hi => (h.wired.waiting i hi).1, h.sorted⟩
  · have hsorted := h.sorted
    rw [hstack] at hsorted
    rw [hopen]
    exact (List.pairwise_cons.mp hsorted).2
  · rw [hopen]
    exact .nil
  · rw [hopen]
    exact h.sorted

theorem inside_push (h : b.Stacked) (l : Lexeme) {i j m : Nat}
    (hij : (b.push l).partner? i = some j) (him : i < m) (hmj : m < j) :
    (b.push l).Settled i m := by
  rcases partner?_push_cases h.wired (by omega) hij with hold | ⟨rfl, os, hstack⟩
  · have hj := lt_of_partner? (h.wired.paired i j hold).1
    exact h.wired.settled_push l (by omega) (h.inside i j m hold him hmj)
  · -- The last one that waited is closed, so nothing behind it waits.
    have hsorted := h.sorted
    rw [hstack, List.pairwise_cons] at hsorted
    have hnot : m ∉ b.openings := by
      rw [hstack, List.mem_cons, not_or]
      refine ⟨by omega, fun hm => ?_⟩
      have := hsorted.1 m hm
      omega
    exact h.wired.settled_push l hmj (h.behind i (by simp [hstack]) m him hmj hnot)

theorem behind_push (h : b.Stacked) (l : Lexeme) {o m : Nat} (ho : o ∈ (b.push l).openings)
    (hom : o < m) (hm : m < (b.push l).tokens.size) (hnot : m ∉ (b.push l).openings) :
    (b.push l).Settled o m := by
  rw [size_push] at hm
  have hold : o ∈ b.openings → m < b.tokens.size → m ∉ b.openings → (b.push l).Settled o m :=
    fun ho hm hnot => h.wired.settled_push l hm (h.behind o ho m hom hm hnot)
  rcases push_cases b l with ⟨_, hopen, _⟩ | ⟨top, os, hl, hstack, hopen, hsame⟩ | ⟨_, hopen, _⟩ |
    ⟨hnopen, hntag, hclose, hopen, _⟩
  · rw [hopen, List.mem_cons] at ho hnot
    rw [not_or] at hnot
    exact hold (ho.resolve_left (by omega)) (by omega) hnot.2
  · rw [hopen] at ho hnot
    have htop := (h.wired.waiting top (by simp [hstack])).1
    have hsorted := h.sorted
    rw [hstack, List.pairwise_cons] at hsorted
    have hotop : o < top := hsorted.1 o ho
    by_cases hmnew : m = b.tokens.size
    · subst hmnew
      refine ⟨by rw [kind?_push_self, hl]; simp, fun _ _ _ => ⟨top, ?_, hotop⟩⟩
      rw [hsame, if_pos rfl]
    · by_cases hmtop : m = top
      · subst hmtop
        refine ⟨?_, fun _ _ _ => ⟨b.tokens.size, ?_, by omega⟩⟩
        · rw [kind?_push_of_lt l htop, (h.wired.waiting m (by simp [hstack])).2.1]
          simp
        · rw [hsame, if_neg hmnew, if_pos ⟨rfl, htop⟩]
      · refine hold (by simp [hstack, ho]) (by omega) ?_
        rw [hstack, List.mem_cons, not_or]
        exact ⟨hmtop, hnot⟩
  · rw [hopen] at ho
    cases ho
  · rw [hopen] at ho hnot
    by_cases hmnew : m = b.tokens.size
    · subst hmnew
      refine ⟨by rw [kind?_push_self]; simpa using hntag, fun k hk hparen => ?_⟩
      -- The token is no parenthesis: a closing one would not find the stack empty.
      rw [kind?_push_self, Option.some.injEq] at hk
      subst hk
      cases hkind : l.kind with
      | openParenthesis => exact absurd hkind hnopen
      | closeParenthesis =>
        rw [hclose hkind] at ho
        cases ho
      | _ =>
        rw [hkind] at hparen
        cases hparen
    · exact hold ho (by omega) hnot

theorem partner?_eq_none (h : b.Stacked) {l : Lexeme} {i : Nat}
    (hi : (b.push l).partner? i = none) : b.partner? i = none := by
  cases hold : b.partner? i with
  | none => rfl
  | some j =>
    rw [h.wired.partner?_push l hold] at hi
    cases hi

theorem dropped_push (h : b.Stacked) (l : Lexeme) {i : Nat}
    (hkind : (b.push l).kind? i = some .openParenthesis) (hi : (b.push l).partner? i = none)
    (hnot : i ∉ (b.push l).openings) : ∃ m, i < m ∧ (b.push l).kind? m = some .closeTag := by
  have hnone := h.partner?_eq_none hi
  have hsize := lt_of_kind? hkind
  rw [size_push] at hsize
  have hold : i < b.tokens.size → i ∉ b.openings →
      ∃ m, i < m ∧ (b.push l).kind? m = some .closeTag := by
    intro hlt hnot
    rw [kind?_push_of_lt l hlt] at hkind
    obtain ⟨m, him, htag⟩ := h.dropped i hkind hnone hnot
    exact ⟨m, him, by rwa [kind?_push_of_lt l (lt_of_kind? htag)]⟩
  have hnew : l.kind ≠ .openParenthesis → i < b.tokens.size := by
    intro hl
    rcases Nat.lt_or_ge i b.tokens.size with hlt | hge
    · exact hlt
    · obtain rfl : i = b.tokens.size := by omega
      rw [kind?_push_self, Option.some.injEq] at hkind
      exact absurd hkind hl
  rcases push_cases b l with ⟨_, hopen, _⟩ | ⟨top, os, hl, hstack, hopen, hsame⟩ | ⟨hl, _, _⟩ |
    ⟨hl, _, _, hopen, _⟩
  · rw [hopen, List.mem_cons, not_or] at hnot
    exact hold (by omega) hnot.2
  · have hlt := hnew (by rw [hl]; simp)
    refine hold hlt ?_
    rw [hstack, List.mem_cons, not_or]
    refine ⟨?_, by rwa [hopen] at hnot⟩
    rintro rfl
    rw [hsame, if_neg (by omega), if_pos ⟨rfl, hlt⟩] at hi
    cases hi
  · have hlt := hnew (by rw [hl]; simp)
    exact ⟨b.tokens.size, hlt, by rw [kind?_push_self, hl]⟩
  · exact hold (hnew hl) (by rwa [hopen] at hnot)

theorem maximal_push (h : b.Stacked) (l : Lexeme) {i j : Nat} (hlt : i < j)
    (hki : (b.push l).kind? i = some .openParenthesis) (hi : (b.push l).partner? i = none)
    (hkj : (b.push l).kind? j = some .closeParenthesis) (hj : (b.push l).partner? j = none) :
    ∃ m, i < m ∧ m < j ∧ (b.push l).kind? m = some .closeTag := by
  have hsize := lt_of_kind? hkj
  rw [size_push] at hsize
  have hilt : i < b.tokens.size := by omega
  rw [kind?_push_of_lt l hilt] at hki
  have hinone := h.partner?_eq_none hi
  rcases Nat.lt_or_ge j b.tokens.size with hjlt | hge
  · rw [kind?_push_of_lt l hjlt] at hkj
    obtain ⟨m, him, hmj, htag⟩ := h.maximal i j hlt hki hinone hkj (h.partner?_eq_none hj)
    exact ⟨m, him, hmj, by rwa [kind?_push_of_lt l (by omega)]⟩
  · obtain rfl : j = b.tokens.size := by omega
    rw [kind?_push_self, Option.some.injEq] at hkj
    -- Nothing waited when the token came, so the opening one was dropped at a close tag.
    have hempty : b.openings = [] :=
      List.head?_eq_none_iff.mp ((h.wired.partner?_closing hkj []).symm.trans hj)
    obtain ⟨m, him, htag⟩ := h.dropped i hki hinone (by simp [hempty])
    have hm := lt_of_kind? htag
    exact ⟨m, him, hm, by rwa [kind?_push_of_lt l hm]⟩

theorem push (h : b.Stacked) (l : Lexeme) : (b.push l).Stacked where
  wired := h.wired.push l
  sorted := h.sorted_push l
  inside _ _ _ := h.inside_push l
  behind _ ho _ := h.behind_push l ho
  dropped _ := h.dropped_push l
  maximal _ _ := h.maximal_push l

theorem pushAll (h : b.Stacked) (ls : List Lexeme) : (b.pushAll ls).Stacked := by
  induction ls generalizing b with
  | nil => exact h
  | cons l ls ih => exact ih (h.push l)

/-- Of two pairs, the one that opens later stands inside the other or behind it. -/
theorem nested (h : b.Stacked) {i j k l : Nat} (hij : b.partner? i = some j)
    (hkl : b.partner? k = some l) (hlt : i < j) (hik : i < k) : l < j ∨ j < k := by
  obtain ⟨hji, hcases⟩ := h.wired.paired i j hij
  obtain ⟨_, _, hclose⟩ | ⟨hgt, _⟩ := hcases
  · rcases Nat.lt_trichotomy j k with hjk | rfl | hkj
    · exact .inr hjk
    · rw [hji, Option.some.injEq] at hkl
      omega
    · rcases Nat.lt_trichotomy l j with hlj | rfl | hjl
      · exact .inl hlj
      · rw [(h.wired.paired k l hkl).1, Option.some.injEq] at hji
        omega
      · -- Then `j` is inside the later pair, and its partner would be behind `k`.
        obtain ⟨i', hi', hki'⟩ := (h.inside k l j hkl hkj hjl).2 _ hclose rfl
        rw [hji, Option.some.injEq] at hi'
        omega
  · omega

theorem pairing (h : b.Stacked) : Pairing b.kind? b.partner? where
  symm i j hij := (h.wired.paired i j hij).1
  joins i j hij := (h.wired.paired i j hij).2
  nested _ _ _ _ hij _ hpij hpkl := h.nested hpij hpkl hij
  region i j m hij him hmj := (h.inside i j m hij him hmj).1
  inside i j m k hij him hmj hk hparen := by
    obtain ⟨n, hn, _⟩ := (h.inside i j m hij him hmj).2 k hk hparen
    rw [hn]
    simp
  maximal := h.maximal

end Stacked

end Stream.Builder

/-- The partners in a stream are a pairing of its parentheses. -/
theorem Stream.pairing_ofLexemes (ls : List Lexeme) :
    Pairing (ofLexemes ls).kind? (ofLexemes ls).partner? :=
  (Builder.stacked_empty.pushAll ls).pairing

/-- Whatever tokens a stream is built from, the partners in it are a pairing of the parentheses among
them, and there is no other. -/
theorem parentheses_paired (ls : List Lexeme) :
    Pairing (fun i => ls[i]?.map Lexeme.kind) (Stream.ofLexemes ls).partner? ∧
      ∀ p, Pairing (fun i => ls[i]?.map Lexeme.kind) p → p = (Stream.ofLexemes ls).partner? := by
  have hkinds : (Stream.ofLexemes ls).kind? = fun i => ls[i]?.map Lexeme.kind :=
    funext (Stream.kind?_ofLexemes ls)
  have hpairing := Stream.pairing_ofLexemes ls
  rw [hkinds] at hpairing
  exact ⟨hpairing, fun p hp => hp.unique hpairing⟩

end EscapeAudit
