import SqlTemplate.Proofs.Ordered
import SqlTemplate.Proofs.Splice

/-!
# What a filter lets pass

A filter lets a text pass if its pattern between the anchors has a match anywhere in it. If the pattern
can be read by itself the match is the whole text, since the anchors are on either side of all of it
(`spans_anchor`). If it cannot, it may close the group of the filter, and then a branch of it can stand
outside of the anchors.
-/

namespace SqlTemplate

namespace Pattern

variable {text : List Char} {p : Pattern} {ps : List Pattern} {i j : Nat}

/-! ## Spans of sequences -/

theorem rowSpans_parts : RowSpans text p.parts i j ↔ Spans text p i j := by
  induction p generalizing i j with
  | empty => exact spans_empty.symm
  | seq p q ihp ihq =>
    rw [parts, rowSpans_append, spans_seq]
    exact exists_congr fun k => and_congr ihp ihq
  | _ => exact rowSpans_singleton

theorem spans_ofParts : Spans text (ofParts ps) i j ↔ RowSpans text ps i j := by
  induction ps generalizing i with
  | nil => exact spans_empty
  | cons p ps ih =>
    cases ps with
    | nil => exact rowSpans_singleton.symm
    | cons q ps =>
      have hparts : ofParts (p :: q :: ps) = seq p (ofParts (q :: ps)) := rfl
      rw [hparts, spans_seq, RowSpans]
      exact exists_congr fun k => and_congr Iff.rfl ih

theorem rowSpans_flatMap_parts : RowSpans text (ps.flatMap parts) i j ↔ RowSpans text ps i j := by
  induction ps generalizing i with
  | nil => exact Iff.rfl
  | cons p ps ih =>
    rw [List.flatMap_cons, rowSpans_append, RowSpans]
    exact exists_congr fun k => and_congr rowSpans_parts ih

theorem spans_sequence : Spans text (sequence ps) i j ↔ RowSpans text ps i j :=
  spans_ofParts.trans rowSpans_flatMap_parts

/-! ## Anchors -/

theorem holdsAt_textStart : Assertion.textStart.holdsAt text i = true ↔ i = 0 ∨ text.length < i := by
  by_cases hi : i = 0
  · simp [Assertion.holdsAt, Assertion.holdsBetween, hi]
  · simp [Assertion.holdsAt, Assertion.holdsBetween, hi]
    omega

theorem holdsAt_textEnd : Assertion.textEnd.holdsAt text i = true ↔ text.length ≤ i := by
  simp [Assertion.holdsAt, Assertion.holdsBetween]

theorem spans_anchor : Spans text (anchor p) i j ↔
    i = 0 ∧ j = text.length ∧ Spans text p 0 text.length := by
  rw [anchor, spans_sequence]
  simp only [RowSpans, spans_assertion, holdsAt_textStart, holdsAt_textEnd]
  constructor
  · rintro ⟨k, ⟨rfl, hk, hstart⟩, l, h, m, ⟨rfl, hl, hend⟩, rfl, _⟩
    obtain rfl : k = 0 := by omega
    obtain rfl : j = text.length := by omega
    exact ⟨rfl, rfl, h⟩
  · rintro ⟨rfl, rfl, h⟩
    exact ⟨0, ⟨rfl, Nat.zero_le _, Or.inl rfl⟩, _, h, _, ⟨rfl, Nat.le_refl _, Nat.le_refl _⟩, rfl,
      Nat.le_refl _⟩

/-- The matcher finds a span of a pattern between the anchors exactly if the text as a whole is one. -/
theorem foundIn_anchor_iff (hp : p.IsOrdered) :
    (anchor p).foundIn text = true ↔ Spans text p 0 text.length := by
  have hanchor : (anchor p).IsOrdered := by
    apply isOrdered_sequence
    simp [Row.IsOrdered, IsOrdered, hp]
  rw [foundIn_iff hanchor]
  simp [spans_anchor]

end Pattern

namespace Filter

variable {pattern : String} {filter : Filter}

theorem read?_of_ofPattern (h : ofPattern pattern = .ok filter) :
    Pattern.read? (splice pattern) = some filter.anchored := by
  unfold ofPattern at h
  split at h
  · rename_i anchored hread
    cases h
    exact hread
  · cases h

/-- A text passes if a span of it matches the pattern with its anchors. If the pattern can be read by
itself, no other span does than the whole text, and the text passes if it matches the pattern. -/
theorem accepts_iff_spans (h : ofPattern pattern = .ok filter) (text : String) :
    (filter.accepts text = true ↔ ∃ i j, Pattern.Spans text.toList filter.anchored i j) ∧
      ∀ p, Pattern.read? pattern.toList = some p →
        (∀ i j, Pattern.Spans text.toList filter.anchored i j → i = 0 ∧ j = text.toList.length) ∧
        (filter.accepts text = true ↔ Pattern.Spans text.toList p 0 text.toList.length) := by
  have hread := read?_of_ofPattern h
  have haccepts : filter.accepts text = true ↔ ∃ i j, Pattern.Spans text.toList filter.anchored i j :=
    Pattern.foundIn_iff (Pattern.isOrdered_of_read? hread)
  refine ⟨haccepts, fun p hp => ?_⟩
  have hanchor := Pattern.read?_splice hp hread
  constructor
  · intro i j hspan
    rw [hanchor, Pattern.spans_anchor] at hspan
    exact ⟨hspan.1, hspan.2.1⟩
  · rw [accepts, hanchor]
    exact Pattern.foundIn_anchor_iff (Pattern.isOrdered_of_read? hp)

/-- With a choice at the top of the pattern: the first branch is not let pass with more behind it. -/
theorem accepts_iff_spans_choice :
    ∃ filter p, ofPattern "a|bc" = .ok filter ∧ Pattern.read? "a|bc".toList = some p ∧
      (filter.accepts "bc" = true ∧ Pattern.Spans "bc".toList p 0 2) ∧
      filter.accepts "a;drop" = false ∧ ¬ Pattern.Spans "a;drop".toList p 0 6 := by
  have hcall : ((ofPattern "a|bc").toOption.any fun filter =>
      filter.accepts "bc" && !filter.accepts "a;drop") = true := by decide +kernel
  have hread : (Pattern.read? "a|bc".toList).isSome = true := by decide +kernel
  obtain ⟨p, hp⟩ := Option.isSome_iff_exists.mp hread
  cases hpattern : ofPattern "a|bc" with
  | error fault =>
    rw [hpattern] at hcall
    cases hcall
  | ok filter =>
    rw [hpattern] at hcall
    obtain ⟨haccepts, hrefuses⟩ : filter.accepts "bc" = true ∧ filter.accepts "a;drop" = false := by
      simpa [Except.toOption] using hcall
    have hspans (text : String) := ((accepts_iff_spans hpattern text).2 p hp).2
    refine ⟨filter, p, rfl, hp, ⟨haccepts, (hspans "bc").mp haccepts⟩, hrefuses, fun h => ?_⟩
    exact Bool.false_ne_true (hrefuses.symm.trans ((hspans "a;drop").mpr h))

/-- A pattern that closes the group of the filter and opens another one. Its first branch is only tied to
the start of the text: the text passes, and the whole of it is no match. -/
theorem accepts_not_spans :
    ∃ filter, ofPattern "a)|(?:b" = .ok filter ∧ filter.accepts "a;drop" = true ∧
      ¬ Pattern.Spans "a;drop".toList filter.anchored 0 6 := by
  have hcall : ((ofPattern "a)|(?:b").toOption.any fun filter => filter.accepts "a;drop" &&
      !(Pattern.anchor filter.anchored).foundIn "a;drop".toList) = true := by decide +kernel
  cases hpattern : ofPattern "a)|(?:b" with
  | error fault =>
    rw [hpattern] at hcall
    cases hcall
  | ok filter =>
    rw [hpattern] at hcall
    obtain ⟨haccepts, hanchor⟩ : filter.accepts "a;drop" = true ∧
        (Pattern.anchor filter.anchored).foundIn "a;drop".toList = false := by
      simpa [Except.toOption] using hcall
    have hordered := Pattern.isOrdered_of_read? (read?_of_ofPattern hpattern)
    refine ⟨filter, rfl, haccepts, fun h => ?_⟩
    exact Bool.false_ne_true (hanchor.symm.trans ((Pattern.foundIn_anchor_iff hordered).mpr h))

end Filter

end SqlTemplate
