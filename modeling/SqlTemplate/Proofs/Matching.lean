import SqlTemplate.Pattern.Match

/-!
# What the matcher finds

The matcher takes a text character by character. The rows that are left of a pattern after a character
match exactly the rest of the spans that the pattern began with it (`exists_derive_iff`), and from this
the search finds a span wherever there is one (`foundIn_iff`). Repetitions need care: a round may be
empty, so that the rounds that are due can all be spent in one place.
-/

namespace SqlTemplate.Pattern

variable {text : List Char} {p q : Pattern} {i j k : Nat}

/-! ## Spans by the form of the pattern -/

section
variable {set : CharSet} {a : Assertion} {n least : Nat} {most : Option Nat}

theorem spans_empty : Spans text empty i j ↔ j = i ∧ i ≤ text.length := by
  constructor
  · intro h
    cases h with
    | empty h => exact ⟨rfl, h⟩
  · rintro ⟨rfl, h⟩
    exact .empty h

theorem spans_char : Spans text (char set) i j ↔
    j = i + 1 ∧ ∃ c, text[i]? = some c ∧ set.contains c = true := by
  constructor
  · intro h
    cases h with
    | char hc hset => exact ⟨rfl, _, hc, hset⟩
  · rintro ⟨rfl, c, hc, hset⟩
    exact .char hc hset

theorem spans_assertion : Spans text (assertion a) i j ↔
    j = i ∧ i ≤ text.length ∧ a.holdsAt text i = true := by
  constructor
  · intro h
    cases h with
    | assertion h ha => exact ⟨rfl, h, ha⟩
  · rintro ⟨rfl, h, ha⟩
    exact .assertion h ha

theorem spans_captured : Spans text (captured n p) i j ↔ Spans text p i j := by
  constructor
  · intro h
    cases h with
    | captured h => exact h
  · exact .captured

theorem spans_seq : Spans text (seq p q) i k ↔ ∃ j, Spans text p i j ∧ Spans text q j k := by
  constructor
  · intro h
    cases h with
    | seq hp hq => exact ⟨_, hp, hq⟩
  · rintro ⟨j, hp, hq⟩
    exact .seq hp hq

theorem spans_alt : Spans text (alt p q) i j ↔ Spans text p i j ∨ Spans text q i j := by
  constructor
  · intro h
    cases h with
    | altLeft h => exact Or.inl h
    | altRight h => exact Or.inr h
  · rintro (h | h)
    · exact .altLeft h
    · exact .altRight h

theorem spans_repeated : Spans text (repeated least most p) i j ↔
    ∃ n, least ≤ n ∧ (∀ m ∈ most, n ≤ m) ∧ Times text p n i j := by
  constructor
  · intro h
    cases h with
    | repeated hleast hmost h => exact ⟨_, hleast, hmost, h⟩
  · rintro ⟨n, hleast, hmost, h⟩
    exact .repeated hleast hmost h

theorem times_zero : Times text p 0 i j ↔ j = i ∧ i ≤ text.length := by
  constructor
  · intro h
    cases h with
    | zero h => exact ⟨rfl, h⟩
  · rintro ⟨rfl, h⟩
    exact .zero h

theorem times_succ : Times text p (n + 1) i k ↔ ∃ j, Spans text p i j ∧ Times text p n j k := by
  constructor
  · intro h
    cases h with
    | succ hp h => exact ⟨_, hp, h⟩
  · rintro ⟨j, hp, h⟩
    exact .succ hp h

end

theorem Times.bounds_of {n : Nat} (hp : ∀ {i j}, Spans text p i j → i ≤ j ∧ j ≤ text.length)
    (h : Times text p n i j) : i ≤ j ∧ j ≤ text.length := by
  induction n generalizing i with
  | zero => simp only [times_zero] at h; omega
  | succ n ih =>
    obtain ⟨k, hround, hrest⟩ := times_succ.mp h
    have := hp hround
    have := ih hrest
    omega

theorem Spans.bounds (h : Spans text p i j) : i ≤ j ∧ j ≤ text.length := by
  induction p generalizing i j with
  | empty => simp only [spans_empty] at h; omega
  | char set =>
    obtain ⟨rfl, c, hc, _⟩ := spans_char.mp h
    have := (List.getElem?_eq_some_iff.mp hc).1
    omega
  | assertion a => simp only [spans_assertion] at h; omega
  | captured n p ih => exact ih (spans_captured.mp h)
  | seq p q ihp ihq =>
    obtain ⟨k, hp, hq⟩ := spans_seq.mp h
    have := ihp hp
    have := ihq hq
    omega
  | alt p q ihp ihq => exact (spans_alt.mp h).elim ihp ihq
  | repeated least most p ih =>
    obtain ⟨n, _, _, h⟩ := spans_repeated.mp h
    exact h.bounds_of ih

theorem Times.bounds {n : Nat} (h : Times text p n i j) : i ≤ j ∧ j ≤ text.length :=
  h.bounds_of Spans.bounds

theorem Times.append {m n : Nat} (h : Times text p m i j) (h' : Times text p n j k) :
    Times text p (m + n) i k := by
  induction m generalizing i with
  | zero =>
    obtain ⟨rfl, _⟩ := times_zero.mp h
    rwa [Nat.zero_add]
  | succ m ih =>
    obtain ⟨l, hp, h⟩ := times_succ.mp h
    rw [Nat.succ_add]
    exact times_succ.mpr ⟨l, hp, ih h⟩

theorem Times.of_empty (h : Spans text p i i) (n : Nat) : Times text p n i i := by
  induction n with
  | zero => exact times_zero.mpr ⟨rfl, h.bounds.2⟩
  | succ n ih => exact times_succ.mpr ⟨i, h, ih⟩

/-- Rounds that match more than the empty span have a first one that does. All rounds in front of it are
empty, and so there are none of them or the pattern matches the empty span. -/
theorem Times.exists_first {n : Nat} (h : Times text p n i k) (hlt : i < k) :
    ∃ j m, i < j ∧ Spans text p i j ∧ Times text p m j k ∧
      (n = m + 1 ∨ m + 1 ≤ n ∧ Spans text p i i) := by
  induction n with
  | zero =>
    obtain ⟨rfl, _⟩ := times_zero.mp h
    omega
  | succ n ih =>
    obtain ⟨j, hp, hrest⟩ := times_succ.mp h
    by_cases hj : j = i
    · subst hj
      obtain ⟨l, m, hlt', hp', hrest', hm⟩ := ih hrest
      exact ⟨l, m, hlt', hp', hrest', Or.inr ⟨by omega, hp⟩⟩
    · have := hp.bounds
      exact ⟨j, n, by omega, hp, hrest, Or.inl rfl⟩

/-! ## Patterns with bounds in order -/

def IsOrdered : Pattern → Prop
  | empty | char _ | assertion _ => True
  | captured _ p => p.IsOrdered
  | seq p q | alt p q => p.IsOrdered ∧ q.IsOrdered
  | repeated least most p => (∀ m ∈ most, least ≤ m) ∧ p.IsOrdered

def charBefore (text : List Char) (i : Nat) : Option Char :=
  if i = 0 then none else text[i - 1]?

theorem nullable_iff (hp : p.IsOrdered) (hi : i ≤ text.length) :
    p.nullable (charBefore text i) text[i]? = true ↔ Spans text p i i := by
  induction p with
  | empty => simp [nullable, spans_empty, hi]
  | char set => simp [nullable, spans_char]
  | assertion a => simp [nullable, spans_assertion, hi, Assertion.holdsAt, charBefore]
  | captured n p ih => rw [spans_captured, ← ih hp, nullable]
  | seq p q ihp ihq =>
    rw [nullable, Bool.and_eq_true, ihp hp.1, ihq hp.2, spans_seq]
    constructor
    · rintro ⟨h, h'⟩
      exact ⟨i, h, h'⟩
    · rintro ⟨j, h, h'⟩
      have := h.bounds
      have := h'.bounds
      obtain rfl : j = i := by omega
      exact ⟨h, h'⟩
  | alt p q ihp ihq => rw [nullable, Bool.or_eq_true, ihp hp.1, ihq hp.2, spans_alt]
  | repeated least most p ih =>
    rw [nullable, Bool.or_eq_true, ih hp.2, beq_iff_eq, spans_repeated]
    constructor
    · rintro (rfl | h)
      · exact ⟨0, Nat.le_refl 0, by simp, times_zero.mpr ⟨rfl, hi⟩⟩
      · exact ⟨least, Nat.le_refl least, hp.1, .of_empty h least⟩
    · rintro ⟨n, hleast, _, h⟩
      cases n with
      | zero => exact Or.inl (by omega)
      | succ n =>
        obtain ⟨j, h, h'⟩ := times_succ.mp h
        have := h.bounds
        have := h'.bounds
        obtain rfl : j = i := by omega
        exact Or.inr h

/-! ## Rows -/

def RowSpans (text : List Char) : Row → Nat → Nat → Prop
  | [], i, j => j = i ∧ i ≤ text.length
  | p :: row, i, k => ∃ j, Spans text p i j ∧ RowSpans text row j k

def Row.IsOrdered (row : Row) : Prop := ∀ p ∈ row, p.IsOrdered

theorem RowSpans.bounds {row : Row} (h : RowSpans text row i j) : i ≤ j ∧ j ≤ text.length := by
  induction row generalizing i with
  | nil => simp only [RowSpans] at h; omega
  | cons p row ih =>
    obtain ⟨k, hp, h⟩ := h
    have := hp.bounds
    have := ih h
    omega

theorem rowSpans_append {row row' : Row} :
    RowSpans text (row ++ row') i k ↔ ∃ j, RowSpans text row i j ∧ RowSpans text row' j k := by
  induction row generalizing i with
  | nil =>
    constructor
    · intro h
      exact ⟨i, ⟨rfl, Nat.le_trans h.bounds.1 h.bounds.2⟩, h⟩
    · rintro ⟨j, ⟨rfl, _⟩, h⟩
      exact h
  | cons p row ih =>
    simp only [List.cons_append, RowSpans, ih]
    constructor
    · rintro ⟨l, hp, j, h, h'⟩
      exact ⟨j, ⟨l, hp, h⟩, h'⟩
    · rintro ⟨j, ⟨l, hp, h⟩, h'⟩
      exact ⟨l, hp, j, h, h'⟩

theorem all_nullable_iff {row : Row} (hrow : row.IsOrdered) (hi : i ≤ text.length) :
    row.all (nullable (charBefore text i) text[i]?) = true ↔ RowSpans text row i i := by
  induction row with
  | nil => simp [RowSpans, hi]
  | cons p row ih =>
    rw [List.all_cons, Bool.and_eq_true, nullable_iff (hrow p List.mem_cons_self) hi,
      ih fun q hq => hrow q (List.mem_cons_of_mem p hq)]
    constructor
    · rintro ⟨hp, h⟩
      exact ⟨i, hp, h⟩
    · rintro ⟨j, hp, h⟩
      have := hp.bounds
      have := h.bounds
      obtain rfl : j = i := by omega
      exact ⟨hp, h⟩

/-! ## What is left after a character -/

/-- A pattern that goes on without bound takes in further rounds of itself. -/
theorem Spans.append_of_endless (hp : p.endless = true) (h : Spans text p i j)
    (h' : Spans text p j k) : Spans text p i k := by
  induction p with
  | captured n p ih =>
    exact spans_captured.mpr (ih hp (spans_captured.mp h) (spans_captured.mp h'))
  | repeated least most p =>
    cases most with
    | some m => cases hp
    | none =>
      have hleast : least ≤ 1 := of_decide_eq_true hp
      obtain ⟨m, hm, _, h⟩ := spans_repeated.mp h
      obtain ⟨n, hn, _, h'⟩ := spans_repeated.mp h'
      exact spans_repeated.mpr ⟨m + n, by omega, by simp, h.append h'⟩
  | _ => cases hp

theorem Spans.append_times_of_endless {n : Nat} (hp : p.endless = true) (h : Spans text p i j)
    (h' : Times text p n j k) : Spans text p i k := by
  induction n generalizing j with
  | zero =>
    obtain ⟨rfl, _⟩ := times_zero.mp h'
    exact h
  | succ n ih =>
    obtain ⟨l, hround, hrest⟩ := times_succ.mp h'
    exact ih (h.append_of_endless hp hround) hrest

/-- A repetition that takes a character begins with a round that does, and what is left of it comes
after that round. -/
theorem exists_remaining_iff {least : Nat} {most : Option Nat} {canBeEmpty : Bool}
    (hp : (repeated least most p).IsOrdered) (hmost : most ≠ some 0)
    (hempty : canBeEmpty = true ↔ Spans text p i i) :
    (∃ j, i < j ∧ Spans text p i j ∧ RowSpans text (remaining canBeEmpty least most p) j k) ↔
      i < k ∧ Spans text (repeated least most p) i k := by
  have hpositive : ∀ m ∈ most, 0 < m := by
    intro m hm
    exact Nat.pos_of_ne_zero fun he => hmost (by rw [← he, hm])
  have hordered := hp.1
  -- `due` is how many rounds are left to make: none if empty ones can be had for nothing
  obtain ⟨due, hremaining, hdue⟩ : ∃ due, remaining canBeEmpty least most p =
      (if most.map (· - 1) = some 0 || due == 0 && p.endless then []
        else [repeated due (most.map (· - 1)) p]) ∧
      due = if canBeEmpty then 0 else least - 1 := ⟨_, rfl, rfl⟩
  rw [spans_repeated, hremaining]
  constructor
  · rintro ⟨j, hlt, hround, hrest⟩
    have hrounds : ∃ n, Times text p n j k ∧ (canBeEmpty = false → least ≤ n + 1) ∧
        ∀ m ∈ most, n + 1 ≤ m := by
      split at hrest
      · rename_i hend
        refine ⟨0, times_zero.mpr hrest, fun hfalse => ?_, hpositive⟩
        rw [hfalse] at hdue
        simp only [Bool.or_eq_true, decide_eq_true_eq, Bool.and_eq_true, beq_iff_eq,
          Option.map_eq_some_iff] at hend
        rcases hend with ⟨m, hm, hone⟩ | ⟨hone, _⟩
        · have := hordered m hm
          omega
        · simp only [Bool.false_eq_true, if_false] at hdue
          omega
      · obtain ⟨l, hspans, rfl, _⟩ := hrest
        obtain ⟨n, hleast, hn, hrest⟩ := spans_repeated.mp hspans
        refine ⟨n, hrest, fun hfalse => ?_, fun m hm => ?_⟩
        · simp only [hfalse, Bool.false_eq_true, if_false] at hdue
          omega
        · have := hn (m - 1) (by simp [Option.mem_def.mp hm])
          have := hpositive m hm
          omega
    obtain ⟨n, hrest, hleast, hn⟩ := hrounds
    have hbounds := hrest.bounds
    -- rounds that are still due are empty and come first
    have hlead : Times text p (least - (n + 1)) i i := by
      cases hc : canBeEmpty with
      | true => exact .of_empty (hempty.mp hc) _
      | false =>
        have := hleast hc
        have hzero : least - (n + 1) = 0 := by omega
        rw [hzero]
        exact times_zero.mpr ⟨rfl, by omega⟩
    refine ⟨by omega, _, ?_, fun m hm => ?_, hlead.append (times_succ.mpr ⟨j, hround, hrest⟩)⟩
    · omega
    · have := hn m hm
      have := hordered m hm
      omega
  · rintro ⟨hlt, n, hleast, hn, h⟩
    -- the first round that takes a character; those in front of it are empty
    obtain ⟨j, m, hij, hround, hrest, hm⟩ := h.exists_first hlt
    split
    · rename_i hend
      simp only [Bool.or_eq_true, decide_eq_true_eq, Bool.and_eq_true, Option.map_eq_some_iff] at hend
      rcases hend with ⟨l, hl, hone⟩ | ⟨_, hp⟩
      · have := hn l hl
        obtain rfl : m = 0 := by omega
        exact ⟨j, hij, hround, times_zero.mp hrest⟩
      · have hbounds := hrest.bounds
        exact ⟨k, hlt, hround.append_times_of_endless hp hrest, rfl, hbounds.2⟩
    · have hbounds := hrest.bounds
      refine ⟨j, hij, hround, k, spans_repeated.mpr ⟨m, ?_, fun l hl => ?_, hrest⟩, rfl, hbounds.2⟩
      · cases hc : canBeEmpty with
        | true =>
          simp only [hc, if_true] at hdue
          omega
        | false =>
          have hnot : ¬ Spans text p i i := by simp [← hempty, hc]
          have := hm.resolve_right fun h => hnot h.2
          simp only [hc, Bool.false_eq_true, if_false] at hdue
          omega
      · obtain ⟨l', hl', rfl⟩ := Option.map_eq_some_iff.mp hl
        have := hn l' hl'
        omega

theorem charBefore_succ {c : Char} (hc : text[i]? = some c) : charBefore text (i + 1) = some c := by
  simp [charBefore, hc]

section
variable {c : Char} (hc : text[i]? = some c)
include hc

/-- The rows that are left match the rest of the spans that take the character. -/
theorem exists_derive_iff (hp : p.IsOrdered) (row : Row) :
    (∃ left ∈ derive (charBefore text i) c p row, RowSpans text left (i + 1) k) ↔
      ∃ j, i < j ∧ Spans text p i j ∧ RowSpans text row j k := by
  have hi : i ≤ text.length := Nat.le_of_lt (List.getElem?_eq_some_iff.mp hc).1
  have hnullable {q : Pattern} (hq : q.IsOrdered) :
      q.nullable (charBefore text i) (some c) = true ↔ Spans text q i i := by
    rw [← hc]
    exact nullable_iff hq hi
  -- over the pattern, with any row behind it: a sequence hands its second part to the row
  induction p generalizing row with
  | empty =>
    simp only [derive, List.not_mem_nil, false_and, exists_false, spans_empty, false_iff]
    omega
  | assertion a =>
    simp only [derive, List.not_mem_nil, false_and, exists_false, spans_assertion, false_iff]
    omega
  | char set =>
    simp only [derive, spans_char, hc]
    by_cases hset : set.contains c = true
    · simp only [hset, if_true, List.mem_singleton, exists_eq_left, Option.some.injEq, exists_eq_left',
        and_true]
      constructor
      · exact fun h => ⟨i + 1, by omega, rfl, h⟩
      · rintro ⟨j, _, rfl, h⟩
        exact h
    · simp [hset]
  | captured n p ih => simpa only [derive, spans_captured] using ih hp row
  | seq p q ihp ihq =>
    have hsplit : (∃ left ∈ derive (charBefore text i) c (seq p q) row,
        RowSpans text left (i + 1) k) ↔
        (∃ j, i < j ∧ Spans text p i j ∧ ∃ l, Spans text q j l ∧ RowSpans text row l k) ∨
          Spans text p i i ∧ ∃ l, i < l ∧ Spans text q i l ∧ RowSpans text row l k := by
      refine Iff.trans ?_ (or_congr (ihp hp.1 (q :: row))
        (and_congr (hnullable hp.1) (ihq hp.2 row)))
      rw [derive]
      by_cases hn : p.nullable (charBefore text i) (some c) = true
      · simp [hn, or_and_right, exists_or]
      · simp [hn]
    rw [hsplit]
    simp only [spans_seq]
    constructor
    · rintro (⟨j, hlt, h, l, h', hrow⟩ | ⟨h, l, hlt, h', hrow⟩)
      · have := h'.bounds
        exact ⟨l, by omega, ⟨j, h, h'⟩, hrow⟩
      · exact ⟨l, hlt, ⟨i, h, h'⟩, hrow⟩
    · rintro ⟨l, hlt, ⟨j, h, h'⟩, hrow⟩
      by_cases hj : j = i
      · subst hj
        exact Or.inr ⟨h, l, hlt, h', hrow⟩
      · have := h.bounds
        exact Or.inl ⟨j, by omega, h, l, h', hrow⟩
  | alt p q ihp ihq =>
    simp only [derive, List.mem_append, or_and_right, exists_or, ihp hp.1, ihq hp.2, spans_alt,
      and_or_left]
  | repeated least most p ih =>
    rw [derive]
    by_cases hmost : most = some 0
    · subst hmost
      simp only [if_true, List.not_mem_nil, false_and, exists_false, false_iff, spans_repeated]
      rintro ⟨j, hlt, ⟨n, _, hn, h⟩, _⟩
      obtain rfl : n = 0 := Nat.le_zero.mp (hn 0 rfl)
      simp only [times_zero] at h
      omega
    · rw [if_neg hmost]
      -- one round, with what is left of the repetition as the first pattern of the row
      refine (ih hp.2 _).trans ?_
      simp only [rowSpans_append]
      have hremaining (l : Nat) := exists_remaining_iff (k := l) hp hmost (hnullable hp.2)
      constructor
      · rintro ⟨j, hlt, h, l, hrest, hrow⟩
        obtain ⟨hlt', h⟩ := (hremaining l).mp ⟨j, hlt, h, hrest⟩
        exact ⟨l, hlt', h, hrow⟩
      · rintro ⟨l, hlt, h, hrow⟩
        obtain ⟨j, hlt', h, hrest⟩ := (hremaining l).mpr ⟨hlt, h⟩
        exact ⟨j, hlt', h, l, hrest, hrow⟩

theorem exists_deriveRow_iff {row : Row} (hrow : row.IsOrdered) :
    (∃ left ∈ deriveRow (charBefore text i) c row, RowSpans text left (i + 1) k) ↔
      i < k ∧ RowSpans text row i k := by
  induction row with
  | nil =>
    simp only [deriveRow, List.not_mem_nil, false_and, exists_false, RowSpans, false_iff]
    omega
  | cons p row ih =>
    have hp := hrow p List.mem_cons_self
    have hi : i ≤ text.length := Nat.le_of_lt (List.getElem?_eq_some_iff.mp hc).1
    have hsplit : (∃ left ∈ deriveRow (charBefore text i) c (p :: row),
        RowSpans text left (i + 1) k) ↔
        (∃ j, i < j ∧ Spans text p i j ∧ RowSpans text row j k) ∨
          Spans text p i i ∧ i < k ∧ RowSpans text row i k := by
      rw [← exists_derive_iff hc hp, ← ih fun q hq => hrow q (List.mem_cons_of_mem p hq),
        ← nullable_iff hp hi, hc, deriveRow]
      by_cases hn : p.nullable (charBefore text i) (some c) = true
      · simp [hn, or_and_right, exists_or]
      · simp [hn]
    rw [hsplit]
    constructor
    · rintro (⟨j, hlt, h, h'⟩ | ⟨h, hlt, h'⟩)
      · have := h'.bounds
        exact ⟨by omega, j, h, h'⟩
      · exact ⟨hlt, i, h, h'⟩
    · rintro ⟨hlt, j, h, h'⟩
      by_cases hj : j = i
      · subst hj
        exact Or.inr ⟨h, hlt, h'⟩
      · have := h.bounds
        exact Or.inl ⟨j, by omega, h, h'⟩

end

theorem isOrdered_remaining {least : Nat} {most : Option Nat}
    (hp : (repeated least most p).IsOrdered) (canBeEmpty : Bool) :
    (remaining canBeEmpty least most p).IsOrdered := by
  intro q hq
  unfold remaining at hq
  dsimp only at hq
  generalize hdue : (if canBeEmpty = true then 0 else least - 1) = due at hq
  split at hq
  · cases hq
  · obtain rfl := List.mem_singleton.mp hq
    refine ⟨fun m hm => ?_, hp.2⟩
    obtain ⟨l, hl, rfl⟩ := Option.map_eq_some_iff.mp hm
    have := hp.1 l hl
    split at hdue <;> omega

theorem isOrdered_derive (before : Option Char) (c : Char) (hp : p.IsOrdered) {row : Row}
    (hrow : row.IsOrdered) : ∀ left ∈ derive before c p row, left.IsOrdered := by
  induction p generalizing row with
  | empty => simp [derive]
  | assertion a => simp [derive]
  | char set =>
    intro left hleft
    rw [derive] at hleft
    split at hleft
    · obtain rfl := List.mem_singleton.mp hleft
      exact hrow
    · cases hleft
  | captured n p ih => exact ih hp hrow
  | seq p q ihp ihq =>
    intro left hleft
    rw [derive, List.mem_append] at hleft
    rcases hleft with hleft | hleft
    · exact ihp hp.1 (List.forall_mem_cons.mpr ⟨hp.2, hrow⟩) left hleft
    · split at hleft
      · exact ihq hp.2 hrow left hleft
      · cases hleft
  | alt p q ihp ihq =>
    intro left hleft
    rw [derive, List.mem_append] at hleft
    exact hleft.elim (ihp hp.1 hrow left) (ihq hp.2 hrow left)
  | repeated least most p ih =>
    intro left hleft
    rw [derive] at hleft
    split at hleft
    · cases hleft
    · refine ih hp.2 (fun q hq => ?_) left hleft
      exact (List.mem_append.mp hq).elim (isOrdered_remaining hp _ q) (hrow q)

theorem isOrdered_deriveRow (before : Option Char) (c : Char) {row : Row} (hrow : row.IsOrdered) :
    ∀ left ∈ deriveRow before c row, left.IsOrdered := by
  induction row with
  | nil => simp [deriveRow]
  | cons p row ih =>
    have hrest : Row.IsOrdered row := fun q hq => hrow q (List.mem_cons_of_mem p hq)
    intro left hleft
    rw [deriveRow, List.mem_append] at hleft
    rcases hleft with hleft | hleft
    · exact isOrdered_derive before c (hrow p List.mem_cons_self) hrest left hleft
    · split at hleft
      · exact ih hrest left hleft
      · cases hleft

/-! ## The search -/

theorem rowSpans_singleton : RowSpans text [p] i k ↔ Spans text p i k := by
  constructor
  · rintro ⟨j, h, rfl, _⟩
    exact h
  · intro h
    exact ⟨k, h, rfl, h.bounds.2⟩

section
variable {rows : List Row} (hrows : ∀ row ∈ rows, Row.IsOrdered row)
include hrows

theorem any_nullable_iff (hi : i ≤ text.length) :
    rows.any (·.all (nullable (charBefore text i) text[i]?)) = true ↔
      ∃ row ∈ rows, RowSpans text row i i := by
  rw [List.any_eq_true]
  constructor
  · rintro ⟨row, hmem, h⟩
    exact ⟨row, hmem, (all_nullable_iff (hrows row hmem) hi).mp h⟩
  · rintro ⟨row, hmem, h⟩
    exact ⟨row, hmem, (all_nullable_iff (hrows row hmem) hi).mpr h⟩

theorem exists_left_iff {c : Char} (hc : text[i]? = some c) :
    (∃ left ∈ distinct (rows.flatMap (deriveRow (charBefore text i) c)),
        ∃ k, RowSpans text left (i + 1) k) ↔
      ∃ row ∈ rows, ∃ k, i < k ∧ RowSpans text row i k := by
  constructor
  · rintro ⟨left, hleft, k, h⟩
    obtain ⟨row, hmem, hleft⟩ := List.mem_flatMap.mp (mem_distinct.mp hleft)
    exact ⟨row, hmem, k, (exists_deriveRow_iff hc (hrows row hmem)).mp ⟨left, hleft, h⟩⟩
  · rintro ⟨row, hmem, k, h⟩
    obtain ⟨left, hleft, h⟩ := (exists_deriveRow_iff hc (hrows row hmem)).mpr h
    exact ⟨left, mem_distinct.mpr (List.mem_flatMap.mpr ⟨row, hmem, hleft⟩), k, h⟩

end

/-- From a position on, the search finds the spans that begin there or later and those that go on with
one of the rows. -/
theorem search_iff (hp : p.IsOrdered) {rows : List Row} (hrows : ∀ row ∈ rows, Row.IsOrdered row)
    (hi : i ≤ text.length) :
    search p (charBefore text i) rows (text.drop i) = true ↔
      (∃ j k, i ≤ j ∧ Spans text p j k) ∨ ∃ row ∈ rows, ∃ k, RowSpans text row i k := by
  generalize hs : text.drop i = s
  have hhead : s.head? = text[i]? := by rw [← hs, List.head?_drop]
  have hall : ∀ row ∈ [p] :: rows, Row.IsOrdered row :=
    List.forall_mem_cons.mpr ⟨fun q hq => List.mem_singleton.mp hq ▸ hp, hrows⟩
  -- over the rest of the text; the rows change with every character
  induction s generalizing i rows with
  | nil =>
    have hend : i = text.length := Nat.le_antisymm hi (List.drop_eq_nil_iff.mp hs)
    rw [search, Bool.or_false, hhead, any_nullable_iff hall hi]
    constructor
    · rintro ⟨row, hmem, h⟩
      rcases List.mem_cons.mp hmem with rfl | hmem
      · exact Or.inl ⟨i, i, Nat.le_refl i, rowSpans_singleton.mp h⟩
      · exact Or.inr ⟨row, hmem, i, h⟩
    · rintro (⟨j, k, hij, h⟩ | ⟨row, hmem, k, h⟩)
      · have := h.bounds
        obtain rfl : j = i := by omega
        obtain rfl : k = j := by omega
        exact ⟨[p], List.mem_cons_self, rowSpans_singleton.mpr h⟩
      · have := h.bounds
        obtain rfl : k = i := by omega
        exact ⟨row, List.mem_cons_of_mem _ hmem, h⟩
  | cons c s ih =>
    have hc : text[i]? = some c := by rw [← hhead, List.head?_cons]
    have hlt : i < text.length := (List.getElem?_eq_some_iff.mp hc).1
    have hrest : text.drop (i + 1) = s := by rw [← List.drop_drop, hs, List.drop_one, List.tail_cons]
    have hleft : ∀ row ∈ distinct (([p] :: rows).flatMap (deriveRow (charBefore text i) c)),
        Row.IsOrdered row := by
      intro left hmem
      obtain ⟨row, hmem, h⟩ := List.mem_flatMap.mp (mem_distinct.mp hmem)
      exact isOrdered_deriveRow _ c (hall row hmem) left h
    have hlater := ih hleft hlt hrest (by rw [← hrest, List.head?_drop])
      (List.forall_mem_cons.mpr ⟨hall _ List.mem_cons_self, hleft⟩)
    rw [charBefore_succ hc, exists_left_iff hall hc] at hlater
    rw [search, Bool.or_eq_true, hhead, any_nullable_iff hall hi]
    refine (or_congr Iff.rfl hlater).trans ?_
    constructor
    · rintro (⟨row, hmem, h⟩ | ⟨j, k, hij, h⟩ | ⟨row, hmem, k, _, h⟩)
      · rcases List.mem_cons.mp hmem with rfl | hmem
        · exact Or.inl ⟨i, i, Nat.le_refl i, rowSpans_singleton.mp h⟩
        · exact Or.inr ⟨row, hmem, i, h⟩
      · exact Or.inl ⟨j, k, by omega, h⟩
      · rcases List.mem_cons.mp hmem with rfl | hmem
        · exact Or.inl ⟨i, k, Nat.le_refl i, rowSpans_singleton.mp h⟩
        · exact Or.inr ⟨row, hmem, k, h⟩
    -- a span ends here or takes the next character
    · have hrow (row : Row) (hmem : row ∈ [p] :: rows) (k : Nat) (h : RowSpans text row i k) :
          (∃ row ∈ [p] :: rows, RowSpans text row i i) ∨
            ∃ row ∈ [p] :: rows, ∃ k, i < k ∧ RowSpans text row i k := by
        have hbounds := h.bounds
        by_cases hk : k = i
        · subst hk
          exact Or.inl ⟨row, hmem, h⟩
        · exact Or.inr ⟨row, hmem, k, by omega, h⟩
      rintro (⟨j, k, hij, h⟩ | ⟨row, hmem, k, h⟩)
      · by_cases hj : j = i
        · subst hj
          exact (hrow [p] List.mem_cons_self k (rowSpans_singleton.mpr h)).imp_right Or.inr
        · exact Or.inr (Or.inl ⟨j, k, by omega, h⟩)
      · exact (hrow row (List.mem_cons_of_mem _ hmem) k h).imp_right Or.inr

/-- The matcher finds a span of a text exactly if there is one. -/
theorem foundIn_iff (hp : p.IsOrdered) :
    p.foundIn text = true ↔ ∃ i j, Spans text p i j := by
  have hnone : ∀ row ∈ ([] : List Row), Row.IsOrdered row := by simp
  have hsearch := search_iff hp hnone (Nat.zero_le text.length)
  have hbefore : charBefore text 0 = none := rfl
  rw [hbefore, List.drop_zero] at hsearch
  rw [foundIn, hsearch]
  simp

end SqlTemplate.Pattern
