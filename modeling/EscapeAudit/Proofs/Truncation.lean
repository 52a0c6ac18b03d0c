import EscapeAudit.Event.Basic

/-!
# Messages are cut between characters

A message that is too long is cut at the last boundary between characters within the limit.  The
boundary is looked for backwards from the limit, one byte at a time.  Two facts about this search
carry all else.  It does not go forward (`lastBoundary_le`), and it passes no boundary
(`not_isValid_of_lastBoundary_lt`).

So the text before the boundary is the longest beginning of the message within the limit
(`longestWithin_lastBoundary`).  A character has at most four bytes, and the one behind the boundary
reaches beyond the limit, so the search makes three steps at most (`le_lastBoundary_add_three`).
-/

namespace EscapeAudit.Event

/-! ## The search for a boundary -/

theorem lastBoundary_succ_of_isValid {text : String} {n : Nat}
    (h : (String.Pos.Raw.mk (n + 1)).IsValid text) :
    (lastBoundary text (n + 1)).offset.byteIdx = n + 1 := by
  rw [lastBoundary, dif_pos h, String.offset_pos]

theorem lastBoundary_succ_of_not_isValid {text : String} {n : Nat}
    (h : ¬ (String.Pos.Raw.mk (n + 1)).IsValid text) :
    lastBoundary text (n + 1) = lastBoundary text n := by
  rw [lastBoundary, dif_neg h]

/-- The search does not go forward. -/
theorem lastBoundary_le (text : String) (n : Nat) :
    (lastBoundary text n).offset.byteIdx ≤ n := by
  induction n with
  | zero => exact Nat.le_refl 0
  | succ n ih =>
    by_cases h : (String.Pos.Raw.mk (n + 1)).IsValid text
    · exact Nat.le_of_eq (lastBoundary_succ_of_isValid h)
    · rw [lastBoundary_succ_of_not_isValid h]
      exact Nat.le_succ_of_le ih

/-- The search passes no boundary. -/
theorem not_isValid_of_lastBoundary_lt {text : String} {n k : Nat}
    (hlt : (lastBoundary text n).offset.byteIdx < k) (hle : k ≤ n) :
    ¬ (String.Pos.Raw.mk k).IsValid text := by
  induction n with
  | zero => omega
  | succ n ih =>
    by_cases h : (String.Pos.Raw.mk (n + 1)).IsValid text
    · rw [lastBoundary_succ_of_isValid h] at hlt
      omega
    · rw [lastBoundary_succ_of_not_isValid h] at hlt
      rcases Nat.le_succ_iff.mp hle with hle | rfl
      · exact ih hlt hle
      · exact h

theorem le_lastBoundary {text : String} {n k : Nat} (hk : (String.Pos.Raw.mk k).IsValid text)
    (hle : k ≤ n) : k ≤ (lastBoundary text n).offset.byteIdx :=
  Nat.le_of_not_lt fun hlt => not_isValid_of_lastBoundary_lt hlt hle hk

/-- Within a text the search ends at most three bytes before the place it begins at. -/
theorem le_lastBoundary_add_three {text : String} {n : Nat} (hn : n ≤ text.utf8ByteSize) :
    n ≤ (lastBoundary text n).offset.byteIdx + 3 := by
  have hgreatest : ∀ q : text.Pos, q.offset.byteIdx ≤ n →
      q.offset.byteIdx ≤ (lastBoundary text n).offset.byteIdx := fun q => le_lastBoundary q.isValid
  generalize lastBoundary text n = p at hgreatest ⊢
  by_cases hend : p = text.endPos
  · rw [hend, String.offset_endPos, String.byteIdx_rawEndPos]
    omega
  · have hwidth : (p.next hend).offset.byteIdx = p.offset.byteIdx + (p.get hend).utf8Size := by
      rw [String.Pos.offset_next, String.Pos.Raw.byteIdx_add_char]
    have hpos := Char.utf8Size_pos (p.get hend)
    have hfour := Char.utf8Size_le_four (p.get hend)
    -- The character behind the boundary reaches beyond `n`, or the search had stopped behind it.
    have hnext : n < (p.next hend).offset.byteIdx := by
      refine Nat.lt_of_not_le fun hle => ?_
      have hback := hgreatest _ hle
      omega
    omega

/-- The search makes three steps at most.  It makes each of them from inside a character. -/
theorem exists_steps_lastBoundary {text : String} {n : Nat} (hn : n ≤ text.utf8ByteSize) :
    ∃ steps ≤ 3, (lastBoundary text n).offset.byteIdx + steps = n ∧
      ∀ k < steps, ¬ (String.Pos.Raw.mk (n - k)).IsValid text := by
  have hle := lastBoundary_le text n
  have hthree := le_lastBoundary_add_three hn
  refine ⟨n - (lastBoundary text n).offset.byteIdx, by omega, by omega, ?_⟩
  intro k hk
  exact not_isValid_of_lastBoundary_lt (by omega) (Nat.sub_le n k)

/-- From the last byte of a character of four the search goes back to its first one. -/
example : (lastBoundary "a😀b" 4).offset.byteIdx = 1 := by decide

/-! ## The longest beginning within a limit -/

/-- The longest beginning of a text, in whole characters, that has at most so many bytes. -/
structure LongestWithin (limit : Nat) (text kept : String) : Prop where
  begins : kept.toList <+: text.toList
  fits : kept.utf8ByteSize ≤ limit
  longest : ∀ other : String, other.toList <+: text.toList → other.utf8ByteSize ≤ limit →
    other.toList <+: kept.toList

theorem exists_append_of_begins {text kept : String} (h : kept.toList <+: text.toList) :
    ∃ more, text = kept ++ more := by
  obtain ⟨more, hmore⟩ := h
  refine ⟨String.ofList more, ?_⟩
  rw [← String.toList_inj, String.toList_append, String.toList_ofList, hmore]

/-- There is a boundary behind each beginning of a text. -/
theorem isValid_of_begins {text kept : String} (h : kept.toList <+: text.toList) :
    (String.Pos.Raw.mk kept.utf8ByteSize).IsValid text := by
  obtain ⟨more, hmore⟩ := exists_append_of_begins h
  exact String.Pos.Raw.isValid_iff_exists_append.mpr ⟨kept, more, hmore, rfl⟩

/-- Of two beginnings of a text, the one with no more bytes is a beginning of the other. -/
theorem begins_of_utf8ByteSize_le {text kept other : String} (hkept : kept.toList <+: text.toList)
    (hother : other.toList <+: text.toList) (hle : other.utf8ByteSize ≤ kept.utf8ByteSize) :
    other.toList <+: kept.toList := by
  rcases List.prefix_or_prefix_of_prefix hother hkept with h | h
  · exact h
  · obtain ⟨more, rfl⟩ := exists_append_of_begins h
    have hempty : more.utf8ByteSize = 0 := by
      rw [String.utf8ByteSize_append] at hle
      omega
    rw [String.utf8ByteSize_eq_zero_iff] at hempty
    exact ⟨[], by rw [hempty, String.append_empty, List.append_nil]⟩

/-- The boundary ends the longest beginning of a text within the limit. -/
theorem longestWithin_lastBoundary (text : String) (limit : Nat) :
    LongestWithin limit text (text.sliceTo (lastBoundary text limit)).copy ∧
      (text.sliceTo (lastBoundary text limit)).copy.utf8ByteSize =
        (lastBoundary text limit).offset.byteIdx := by
  have hsplits := (lastBoundary text limit).splits
  have hsize : (text.sliceTo (lastBoundary text limit)).copy.utf8ByteSize =
      (lastBoundary text limit).offset.byteIdx := by
    rw [hsplits.offset_eq_rawEndPos, String.byteIdx_rawEndPos]
  have hbegins : (text.sliceTo (lastBoundary text limit)).copy.toList <+: text.toList :=
    ⟨_, by rw [← String.toList_append, ← hsplits.eq_append]⟩
  refine ⟨⟨hbegins, hsize ▸ lastBoundary_le text limit, ?_⟩, hsize⟩
  intro other hother hfits
  refine begins_of_utf8ByteSize_le hbegins hother ?_
  rw [hsize]
  exact le_lastBoundary (isValid_of_begins hother) hfits

/-! ## Messages -/

/-- A message within the limit is kept.  Of a longer one the longest beginning within the limit is
kept, with dots behind it, and the search for its end makes three steps at most. -/
theorem truncate_keeps_longest (message : String) :
    (message.utf8ByteSize ≤ Limits.messageLength → truncate message = message) ∧
    (Limits.messageLength < message.utf8ByteSize →
      ∃ kept, LongestWithin Limits.messageLength message kept ∧ truncate message = kept ++ "..." ∧
        kept.utf8ByteSize = (lastBoundary message Limits.messageLength).offset.byteIdx ∧
        ∃ steps ≤ 3, kept.utf8ByteSize + steps = Limits.messageLength ∧
          ∀ k < steps, ¬ (String.Pos.Raw.mk (Limits.messageLength - k)).IsValid message) := by
  refine ⟨fun hle => if_pos hle, fun hlt => ?_⟩
  obtain ⟨hlongest, hsize⟩ := longestWithin_lastBoundary message Limits.messageLength
  obtain ⟨steps, hthree, hsteps, hinside⟩ := exists_steps_lastBoundary (Nat.le_of_lt hlt)
  exact ⟨_, hlongest, if_neg (Nat.not_le_of_lt hlt), hsize, steps, hthree, hsize ▸ hsteps, hinside⟩

theorem utf8ByteSize_replicate (n : Nat) (c : Char) :
    (Text.replicate n c).utf8ByteSize = n * c.utf8Size := by
  rw [Text.replicate, ← Text.byteLength_eq]
  induction n with
  | zero => exact (Nat.zero_mul _).symm
  | succ n ih => rw [List.replicate_succ, Text.byteLength_cons, ih, Nat.succ_mul, Nat.add_comm]

/-- A character of four bytes of which two are within the limit is left out. -/
theorem truncate_keeps_longest_inside_character :
    truncate (Text.replicate 4094 'a' ++ "😀") = Text.replicate 4094 'a' ++ "..." ∧
      (lastBoundary (Text.replicate 4094 'a' ++ "😀") Limits.messageLength).offset.byteIdx =
        4094 := by
  obtain ⟨n, hn⟩ : ∃ n, n = 4094 := ⟨_, rfl⟩
  rw [← hn]
  have hbefore : (Text.replicate n 'a').utf8ByteSize = n :=
    (utf8ByteSize_replicate n 'a').trans (Nat.mul_one n)
  have hwhole : (Text.replicate n 'a' ++ "😀").utf8ByteSize = n + 4 := by
    rw [String.utf8ByteSize_append, hbefore]
    rfl
  have hlimit : Limits.messageLength = 4096 := rfl
  obtain ⟨kept, hlongest, htruncate, hsize, _⟩ :=
    (truncate_keeps_longest (Text.replicate n 'a' ++ "😀")).2 (by omega)
  have hkept : kept = Text.replicate n 'a' := by
    have hlower := hlongest.longest (Text.replicate n 'a')
      (by rw [String.toList_append]; exact List.prefix_append _ _) (by omega)
    have hupper := hlongest.begins
    rw [String.toList_append, show "😀".toList = ['😀'] from rfl, List.prefix_concat_iff] at hupper
    rcases hupper with hall | hupper
    · -- The whole message is larger than the limit.
      have heq : kept = Text.replicate n 'a' ++ "😀" := by
        rw [← String.toList_inj, hall, String.toList_append]
        rfl
      have hfits := hlongest.fits
      rw [heq] at hfits
      omega
    · exact String.toList_inj.mp (hupper.eq_of_length_le hlower.length_le)
  rw [htruncate, ← hsize, hkept]
  exact ⟨rfl, hbefore⟩

end EscapeAudit.Event
