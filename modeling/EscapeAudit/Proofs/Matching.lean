import EscapeAudit.Proofs.Layout
import EscapeAudit.Proofs.Region
import EscapeAudit.Token.Search

/-!
# Pairs of parentheses

A stream finds the pairs of parentheses with a stack.  `push_cases` says once what one token does to
the stack and to the partners.  Everything else about pairs follows from it: an opening parenthesis
is paired with a closing one further on (`partner?_opening`), a token that no longer waits for its
partner keeps the one it has (`partner?_pushAll`), and a closing parenthesis has the last opening one
that waited when it came (`Wired.partner?_closing`).
-/

namespace EscapeAudit

namespace Stream

/-! ## The tokens of a stream -/

theorem getElem?_tokens_ofLexemes (ls : List Lexeme) (i : Nat) :
    (ofLexemes ls).tokens[i]?.map Token.lexeme = ls[i]? := by
  conv => rhs; rw [← lexemes_ofLexemes ls]
  simp [lexemes]

@[simp] theorem size_ofLexemes (ls : List Lexeme) : (ofLexemes ls).size = ls.length := by
  conv => rhs; rw [← lexemes_ofLexemes ls]
  simp [lexemes, size]

@[simp] theorem kind?_ofLexemes (ls : List Lexeme) (i : Nat) :
    (ofLexemes ls).kind? i = ls[i]?.map Lexeme.kind := by
  rw [← getElem?_tokens_ofLexemes, Option.map_map]
  rfl

@[simp] theorem text_ofLexemes (ls : List Lexeme) (i : Nat) :
    (ofLexemes ls).text i = (ls[i]?.map Lexeme.text).getD "" := by
  rw [← getElem?_tokens_ofLexemes, Option.map_map]
  rfl

theorem holds_iff {s : Stream} {test : Kind → Bool} {i : Nat} :
    s.holds test i = true ↔ ∃ k, s.kind? i = some k ∧ test k = true := by
  unfold holds kind?
  cases s.tokens[i]? <;> simp

/-! ## One token -/

namespace Builder

/-- The partner of a token so far. -/
def partner? (b : Builder) (i : Nat) : Option Nat := b.tokens[i]?.bind Token.partner

/-- The kind of a token so far. -/
def kind? (b : Builder) (i : Nat) : Option Kind := b.tokens[i]?.map Token.kind

theorem partner?_of_le {b : Builder} {i : Nat} (h : b.tokens.size ≤ i) : b.partner? i = none := by
  simp [partner?, h]

theorem size_push (b : Builder) (l : Lexeme) : (b.push l).tokens.size = b.tokens.size + 1 := by
  unfold push
  split <;> simp

theorem kind?_push (b : Builder) (l : Lexeme) (i : Nat) :
    (b.push l).kind? i = if i = b.tokens.size then some l.kind else b.kind? i := by
  have hmodify : ∀ (opener partner : Nat),
      (b.tokens.modify opener fun t => { t with partner := some partner })[i]?.map Token.kind =
        b.tokens[i]?.map Token.kind := by
    intro opener partner
    rw [Array.getElem?_modify]
    split
    · rw [Option.map_map]
      rfl
    · rfl
  unfold push
  split
  all_goals
    simp only [kind?, Array.getElem?_push, Array.size_modify]
    split
    · rfl
    · first | rfl | exact hmodify _ _

theorem lt_of_kind? {b : Builder} {i : Nat} {k : Kind} (h : b.kind? i = some k) :
    i < b.tokens.size := by
  obtain ⟨t, ht, _⟩ := Option.map_eq_some_iff.mp h
  exact (Array.getElem?_eq_some_iff.mp ht).1

theorem kind?_push_self (b : Builder) (l : Lexeme) :
    (b.push l).kind? b.tokens.size = some l.kind := by
  rw [kind?_push, if_pos rfl]

theorem kind?_push_of_lt {b : Builder} (l : Lexeme) {i : Nat} (h : i < b.tokens.size) :
    (b.push l).kind? i = b.kind? i := by
  rw [kind?_push, if_neg (by omega)]

/-- A token is put behind the others with no partner. -/
theorem partner?_push_none (tokens : Array Token) (t : Token) (ht : t.partner = none) (i : Nat) :
    (tokens.push t)[i]?.bind Token.partner = tokens[i]?.bind Token.partner := by
  rw [Array.getElem?_push]
  split
  · rename_i hi
    simp [hi, ht]
  · rfl

/-- An opening parenthesis goes on the stack. -/
theorem push_of_opening (b : Builder) {l : Lexeme} (hl : l.kind = .openParenthesis) :
    (b.push l).openings = b.tokens.size :: b.openings ∧
      ∀ i, (b.push l).partner? i = b.partner? i := by
  simp only [push, hl]
  exact ⟨trivial, partner?_push_none _ _ rfl⟩

/-- A closing parenthesis takes the top of the stack for its partner. -/
theorem push_of_closing {b : Builder} {l : Lexeme} (hl : l.kind = .closeParenthesis) {o : Nat}
    {os : List Nat} (hstack : b.openings = o :: os) :
    (b.push l).openings = os ∧ ∀ i, (b.push l).partner? i =
      if i = b.tokens.size then some o
      else if i = o ∧ i < b.tokens.size then some b.tokens.size else b.partner? i := by
  simp only [push, hl, hstack]
  refine ⟨trivial, fun i => ?_⟩
  simp only [partner?, Array.getElem?_push, Array.size_modify]
  split
  · rfl
  · rename_i hi
    rw [Array.getElem?_modify]
    by_cases ho : o = i
    · subst ho
      by_cases hlt : o < b.tokens.size
      · simp [hlt]
      · simp [hlt]
    · rw [if_neg ho, if_neg (by omega)]

/-- A close tag clears the stack. -/
theorem push_of_closeTag (b : Builder) {l : Lexeme} (hl : l.kind = .closeTag) :
    (b.push l).openings = [] ∧ ∀ i, (b.push l).partner? i = b.partner? i := by
  simp only [push, hl]
  exact ⟨trivial, partner?_push_none _ _ rfl⟩

/-- Any other token, and a closing parenthesis for which nothing waits, leaves the stack alone. -/
theorem push_of_other {b : Builder} {l : Lexeme} (hopen : l.kind ≠ .openParenthesis)
    (htag : l.kind ≠ .closeTag) (hclose : l.kind = .closeParenthesis → b.openings = []) :
    (b.push l).openings = b.openings ∧ ∀ i, (b.push l).partner? i = b.partner? i := by
  unfold push
  split
  · exact absurd (by assumption) hopen
  · rename_i hkind hstack
    rw [hclose hkind] at hstack
    cases hstack
  · exact absurd (by assumption) htag
  · exact ⟨rfl, partner?_push_none _ _ rfl⟩

/-- What one token does to the stack and to the partners. -/
theorem push_cases (b : Builder) (l : Lexeme) :
    (l.kind = .openParenthesis ∧ (b.push l).openings = b.tokens.size :: b.openings ∧
      ∀ i, (b.push l).partner? i = b.partner? i) ∨
    (∃ o os, l.kind = .closeParenthesis ∧ b.openings = o :: os ∧ (b.push l).openings = os ∧
      ∀ i, (b.push l).partner? i =
        if i = b.tokens.size then some o
        else if i = o ∧ i < b.tokens.size then some b.tokens.size else b.partner? i) ∨
    (l.kind = .closeTag ∧ (b.push l).openings = [] ∧ ∀ i, (b.push l).partner? i = b.partner? i) ∨
    (l.kind ≠ .openParenthesis ∧ l.kind ≠ .closeTag ∧
      (l.kind = .closeParenthesis → b.openings = []) ∧ (b.push l).openings = b.openings ∧
      ∀ i, (b.push l).partner? i = b.partner? i) := by
  by_cases hopen : l.kind = .openParenthesis
  · exact .inl ⟨hopen, push_of_opening b hopen⟩
  by_cases htag : l.kind = .closeTag
  · exact .inr (.inr (.inl ⟨htag, push_of_closeTag b htag⟩))
  by_cases hclose : l.kind = .closeParenthesis → b.openings = []
  · exact .inr (.inr (.inr ⟨hopen, htag, hclose, push_of_other hopen htag hclose⟩))
  · obtain ⟨hl, hne⟩ := Classical.not_imp.mp hclose
    obtain ⟨o, os, hstack⟩ := List.exists_cons_of_ne_nil hne
    exact .inr (.inl ⟨o, os, hl, hstack, push_of_closing hl hstack⟩)

/-! ## What holds behind every token -/

/-- The stack holds opening parentheses without partner, and partners are pairs of an opening and a
closing parenthesis. -/
structure Wired (b : Builder) : Prop where
  waiting : ∀ i ∈ b.openings, i < b.tokens.size ∧ b.kind? i = some .openParenthesis ∧
    b.partner? i = none
  distinct : b.openings.Nodup
  paired : ∀ i j, b.partner? i = some j → b.partner? j = some i ∧
    (i < j ∧ b.kind? i = some .openParenthesis ∧ b.kind? j = some .closeParenthesis ∨
     j < i ∧ b.kind? i = some .closeParenthesis ∧ b.kind? j = some .openParenthesis)

theorem wired_empty : empty.Wired := by
  refine ⟨by simp [empty], by simp [empty], ?_⟩
  intro i j h
  simp [partner?, empty] at h

theorem lt_of_partner? {b : Builder} {i j : Nat} (h : b.partner? i = some j) : i < b.tokens.size := by
  by_cases hi : i < b.tokens.size
  · exact hi
  · rw [partner?_of_le (by omega)] at h
    cases h

/-- The two of a pair keep their kinds. -/
theorem Wired.kinds_push {b : Builder} (h : b.Wired) (l : Lexeme) {i j : Nat}
    (hij : b.partner? i = some j) :
    i < j ∧ (b.push l).kind? i = some .openParenthesis ∧
        (b.push l).kind? j = some .closeParenthesis ∨
      j < i ∧ (b.push l).kind? i = some .closeParenthesis ∧
        (b.push l).kind? j = some .openParenthesis := by
  obtain ⟨hji, hkinds⟩ := h.paired i j hij
  rwa [kind?_push_of_lt l (lt_of_partner? hij), kind?_push_of_lt l (lt_of_partner? hji)]

/-- A token that waits is still an opening parenthesis. -/
theorem Wired.waiting_push {b : Builder} (h : b.Wired) (l : Lexeme) {i : Nat}
    (hi : i ∈ b.openings) :
    i < (b.push l).tokens.size ∧ (b.push l).kind? i = some .openParenthesis := by
  obtain ⟨hlt, hkind, _⟩ := h.waiting i hi
  rw [size_push, kind?_push_of_lt l hlt]
  exact ⟨by omega, hkind⟩

/-- An opening parenthesis waits behind the others. -/
theorem Wired.push_opening {b : Builder} (h : b.Wired) {l : Lexeme}
    (hl : l.kind = .openParenthesis) : (b.push l).Wired := by
  obtain ⟨hopen, hsame⟩ := push_of_opening b hl
  refine ⟨fun i hi => ?_, ?_, fun i j hij => ?_⟩
  · rw [hopen, List.mem_cons] at hi
    rw [hsame]
    rcases hi with rfl | hi
    · exact ⟨by rw [size_push]; omega, by rw [kind?_push_self, hl], partner?_of_le (Nat.le_refl _)⟩
    · obtain ⟨hlt, hkind⟩ := h.waiting_push l hi
      exact ⟨hlt, hkind, (h.waiting i hi).2.2⟩
  · rw [hopen]
    exact List.nodup_cons.mpr ⟨fun hmem => Nat.lt_irrefl _ (h.waiting _ hmem).1, h.distinct⟩
  · rw [hsame] at hij ⊢
    exact ⟨(h.paired i j hij).1, h.kinds_push l hij⟩

/-- A closing parenthesis becomes the partner of the last one that waits. -/
theorem Wired.push_closing {b : Builder} (h : b.Wired) {l : Lexeme}
    (hl : l.kind = .closeParenthesis) {o : Nat} {os : List Nat} (hstack : b.openings = o :: os) :
    (b.push l).Wired := by
  obtain ⟨hopen, hsame⟩ := push_of_closing hl hstack
  obtain ⟨hlt, hkind, hnone⟩ := h.waiting o (by simp [hstack])
  obtain ⟨hfresh, hdistinct⟩ := List.nodup_cons.mp (hstack ▸ h.distinct)
  have hold : ∀ i, i < b.tokens.size → i ≠ o → (b.push l).partner? i = b.partner? i := by
    intro i hi hne
    rw [hsame, if_neg (by omega), if_neg (fun hc => hne hc.1)]
  have hnew : (b.push l).partner? b.tokens.size = some o := by rw [hsame, if_pos rfl]
  have hopener : (b.push l).partner? o = some b.tokens.size := by
    rw [hsame, if_neg (by omega), if_pos ⟨rfl, hlt⟩]
  have hopening : (b.push l).kind? o = some .openParenthesis := by rw [kind?_push_of_lt l hlt, hkind]
  have hclosing : (b.push l).kind? b.tokens.size = some .closeParenthesis := by
    rw [kind?_push_self, hl]
  refine ⟨fun i hi => ?_, hopen ▸ hdistinct, fun i j hij => ?_⟩
  · rw [hopen] at hi
    have hmem : i ∈ b.openings := by simp [hstack, hi]
    obtain ⟨hilt, _, hpartner⟩ := h.waiting i hmem
    have hne : i ≠ o := by rintro rfl; exact hfresh hi
    rw [hold i hilt hne]
    exact ⟨(h.waiting_push l hmem).1, (h.waiting_push l hmem).2, hpartner⟩
  · by_cases hi : i = b.tokens.size
    · subst hi
      obtain rfl : o = j := Option.some.inj (hnew.symm.trans hij)
      exact ⟨hopener, .inr ⟨hlt, hclosing, hopening⟩⟩
    by_cases hio : i = o
    · subst hio
      obtain rfl : b.tokens.size = j := Option.some.inj (hopener.symm.trans hij)
      exact ⟨hnew, .inl ⟨hlt, hopening, hclosing⟩⟩
    -- Any other pair is older, and the opener had no partner to lose.
    rw [hsame, if_neg hi, if_neg (fun hc => hio hc.1)] at hij
    have hji := (h.paired i j hij).1
    have hjo : j ≠ o := by rintro rfl; rw [hnone] at hji; cases hji
    rw [hold j (lt_of_partner? hji) hjo]
    exact ⟨hji, h.kinds_push l hij⟩

/-- A token that finds no partner leaves the pairs as they are. -/
theorem Wired.push_of_same {b : Builder} (h : b.Wired) {l : Lexeme}
    (hopen : (b.push l).openings.Sublist b.openings)
    (hsame : ∀ i, (b.push l).partner? i = b.partner? i) : (b.push l).Wired := by
  refine ⟨fun i hi => ?_, hopen.nodup h.distinct, fun i j hij => ?_⟩
  · have hmem := hopen.subset hi
    rw [hsame]
    exact ⟨(h.waiting_push l hmem).1, (h.waiting_push l hmem).2, (h.waiting i hmem).2.2⟩
  · rw [hsame] at hij ⊢
    exact ⟨(h.paired i j hij).1, h.kinds_push l hij⟩

theorem Wired.push {b : Builder} (h : b.Wired) (l : Lexeme) : (b.push l).Wired := by
  rcases push_cases b l with ⟨hl, _⟩ | ⟨o, os, hl, hstack, _⟩ | ⟨_, hopen, hsame⟩ |
    ⟨_, _, _, hopen, hsame⟩
  · exact h.push_opening hl
  · exact h.push_closing hl hstack
  · exact h.push_of_same (hopen ▸ List.nil_sublist _) hsame
  · exact h.push_of_same (hopen ▸ List.Sublist.refl _) hsame

theorem Wired.pushAll {b : Builder} (h : b.Wired) (ls : List Lexeme) : (b.pushAll ls).Wired := by
  induction ls generalizing b with
  | nil => exact h
  | cons l ls ih => exact ih (h.push l)

theorem kind?_pushAll {b : Builder} {i : Nat} (hi : i < b.tokens.size) (ls : List Lexeme) :
    (b.pushAll ls).kind? i = b.kind? i := by
  induction ls generalizing b with
  | nil => rfl
  | cons l ls ih =>
    rw [show b.pushAll (l :: ls) = (b.push l).pushAll ls from rfl, ih (by rw [size_push]; omega),
      kind?_push_of_lt l hi]

theorem size_pushAll (b : Builder) (ls : List Lexeme) :
    (b.pushAll ls).tokens.size = b.tokens.size + ls.length := by
  induction ls generalizing b with
  | nil => rfl
  | cons l ls ih =>
    rw [show b.pushAll (l :: ls) = (b.push l).pushAll ls from rfl, ih, size_push, List.length_cons]
    omega

/-- A token that does not wait for its partner keeps the one it has. -/
theorem partner?_pushAll {b : Builder} {i : Nat} (hi : i < b.tokens.size) (hwait : i ∉ b.openings)
    (ls : List Lexeme) :
    (b.pushAll ls).partner? i = b.partner? i ∧ i ∉ (b.pushAll ls).openings := by
  induction ls generalizing b with
  | nil => exact ⟨rfl, hwait⟩
  | cons l ls ih =>
    have hstep : (b.push l).partner? i = b.partner? i ∧ i ∉ (b.push l).openings := by
      rcases push_cases b l with ⟨_, hopen, hsame⟩ | ⟨o, os, _, hstack, hopen, hsame⟩ |
        ⟨_, hopen, hsame⟩ | ⟨_, _, _, hopen, hsame⟩
      · refine ⟨hsame i, ?_⟩
        rw [hopen, List.mem_cons, not_or]
        exact ⟨by omega, hwait⟩
      · rw [hstack, List.mem_cons, not_or] at hwait
        rw [hsame, if_neg (by omega), if_neg (fun hc => hwait.1 hc.1), hopen]
        exact ⟨rfl, hwait.2⟩
      · exact ⟨hsame i, by simp [hopen]⟩
      · exact ⟨hsame i, by rwa [hopen]⟩
    obtain ⟨hpartner, hwait'⟩ := ih (b := b.push l) (by rw [size_push]; omega) hstep.2
    exact ⟨hpartner.trans hstep.1, hwait'⟩

/-- The partner of a closing parenthesis is found when it comes: the last opening one that waits. -/
theorem Wired.partner?_closing {b : Builder} (h : b.Wired) {l : Lexeme}
    (hl : l.kind = .closeParenthesis) (ls : List Lexeme) :
    ((b.push l).pushAll ls).partner? b.tokens.size = b.openings.head? := by
  have hfresh : b.tokens.size ∉ b.openings := fun hmem => Nat.lt_irrefl _ (h.waiting _ hmem).1
  have hlt : b.tokens.size < (b.push l).tokens.size := by rw [size_push]; omega
  cases hstack : b.openings with
  | nil =>
    obtain ⟨hopen, hsame⟩ := push_of_other (l := l) (by simp [hl]) (by simp [hl]) fun _ => hstack
    rw [(partner?_pushAll hlt (hopen ▸ hfresh) ls).1, hsame, partner?_of_le (Nat.le_refl _)]
    rfl
  | cons o os =>
    obtain ⟨hopen, hpartner⟩ := push_of_closing hl hstack
    have hwait : b.tokens.size ∉ (b.push l).openings := by
      rw [hopen]
      exact fun hmem => hfresh (hstack ▸ List.mem_cons_of_mem o hmem)
    rw [(partner?_pushAll hlt hwait ls).1, hpartner, if_pos rfl]
    rfl

/-- A token that waits for its partner finds one further on or none. -/
theorem partner?_pushAll_waiting {b : Builder} (h : b.Wired) {i : Nat} (hi : i ∈ b.openings)
    (ls : List Lexeme) {j : Nat} (hj : (b.pushAll ls).partner? i = some j) : b.tokens.size ≤ j := by
  induction ls generalizing b with
  | nil =>
    rw [show b.pushAll [] = b from rfl, (h.waiting i hi).2.2] at hj
    cases hj
  | cons l ls ih =>
    obtain ⟨hlt, _, hnone⟩ := h.waiting i hi
    by_cases hstill : i ∈ (b.push l).openings
    · have := ih (h.push l) hstill hj
      rw [size_push] at this
      omega
    · -- The token found its partner now, and keeps it.
      have hkeep := partner?_pushAll (b := b.push l) (by rw [size_push]; omega) hstill ls
      rw [show b.pushAll (l :: ls) = (b.push l).pushAll ls from rfl, hkeep.1] at hj
      rcases push_cases b l with ⟨_, _, hsame⟩ | ⟨o, os, _, _, _, hsame⟩ | ⟨_, _, hsame⟩ |
        ⟨_, _, _, _, hsame⟩
      · rw [hsame, hnone] at hj; cases hj
      · rw [hsame, if_neg (by omega)] at hj
        split at hj
        · exact Nat.le_of_eq (Option.some.inj hj)
        · rw [hnone] at hj; cases hj
      · rw [hsame, hnone] at hj; cases hj
      · rw [hsame, hnone] at hj; cases hj

end Builder

/-- The partner of an opening parenthesis is a closing one further on, and the other way round. -/
theorem partner?_opening {ls : List Lexeme} {i j : Nat}
    (hkind : (ofLexemes ls).kind? i = some .openParenthesis)
    (h : (ofLexemes ls).partner? i = some j) :
    i < j ∧ (ofLexemes ls).kind? j = some .closeParenthesis ∧
      (ofLexemes ls).partner? j = some i := by
  have hwired := Builder.wired_empty.pushAll ls
  obtain ⟨hji, ⟨hlt, _, hkj⟩ | ⟨_, hki, _⟩⟩ := hwired.paired i j h
  · exact ⟨hlt, hkj, hji⟩
  · have hki : (ofLexemes ls).kind? i = some .closeParenthesis := hki
    rw [hkind] at hki
    cases hki

end Stream

end EscapeAudit
