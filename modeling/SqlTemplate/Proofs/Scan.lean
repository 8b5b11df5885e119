import SqlTemplate.Token

/-!
# Scanning

Laws of the split of a text into segments. In a text without backslashes nothing is escaped: its
segments make up the text again (`written_segments`), and a text whose tokens were rewritten has the
segments that the rewriting made (`segments_written_map`).
-/

namespace SqlTemplate

/-! ## Cutting at a delimiter -/

namespace Text

theorem cut?_self (d t : List Char) : cut? d (d ++ t) = some ([], t) := by
  cases d with
  | nil => cases t <;> simp [cut?]
  | cons c d => simp [cut?]

/-- What follows the first occurrence of a delimiter does not decide where it is. -/
theorem cut?_append {d s a b : List Char} (h : cut? d s = some (a, b)) (t : List Char) :
    cut? d (a ++ d ++ t) = some (a, t) := by
  induction s generalizing a b with
  | nil =>
    simp only [cut?] at h
    split at h
    · simp only [Option.some.injEq, Prod.mk.injEq] at h
      obtain ⟨rfl, rfl⟩ := h
      exact cut?_self d t
    · simp at h
  | cons c s ih =>
    have hs := eq_append_of_cut? h
    simp only [cut?] at h
    split at h
    · simp only [Option.some.injEq, Prod.mk.injEq] at h
      obtain ⟨rfl, rfl⟩ := h
      exact cut?_self d t
    · rename_i hp
      simp only [Option.map_eq_some_iff, Prod.mk.injEq] at h
      obtain ⟨⟨a', b'⟩, h, rfl, rfl⟩ := h
      -- an earlier occurrence would lie in the text up to the first one
      have hn : ¬ d.isPrefixOf (c :: (a' ++ d ++ t)) = true := by
        rw [List.isPrefixOf_iff_prefix] at hp ⊢
        intro hd
        have hl : d.length ≤ (c :: (a' ++ d)).length := by simp; omega
        have hd' : d <+: c :: (a' ++ d) :=
          List.prefix_of_prefix_length_le hd ⟨t, by simp⟩ hl
        exact hp (hd'.trans ⟨b', by rw [hs]; simp⟩)
      simp only [List.cons_append, cut?, if_neg hn, ih h, Option.map_some]

/-- A delimiter whose first character does not come again has no occurrence that begins in front of
another one and ends inside it. -/
theorem cut?_of_free {k : Char} {t a : List Char} (hk : k ∉ t) (ha : ¬ k :: t <:+: a) (b : List Char) :
    cut? (k :: t) (a ++ (k :: t) ++ b) = some (a, b) := by
  induction a with
  | nil => exact cut?_self (k :: t) b
  | cons c a ih =>
    rw [List.infix_cons_iff, not_or] at ha
    have hp : ¬ (k :: t).isPrefixOf (c :: (a ++ (k :: t) ++ b)) = true := by
      rw [List.isPrefixOf_iff_prefix]
      intro hpre
      have hsplit : c :: (a ++ (k :: t) ++ b) = (c :: a) ++ (k :: t ++ b) := by simp
      rw [hsplit] at hpre
      rcases List.prefix_or_prefix_of_prefix hpre (List.prefix_append _ _) with h | ⟨r, hr⟩
      · exact ha.1 h
      · cases r with
        | nil => exact ha.1 ⟨[], by rw [List.append_nil, ← hr, List.append_nil]⟩
        | cons x r =>
          -- the delimiter would begin a second time inside itself
          have hx : x :: r <+: k :: (t ++ b) := by
            rw [← List.prefix_append_right_inj (c :: a), hr]
            exact hpre
          refine hk ?_
          rw [← (List.cons.inj hr).2, (List.cons_prefix_cons.mp hx).1]
          exact List.mem_append_right a List.mem_cons_self
    rw [List.cons_append, List.cons_append, cut?, if_neg hp, ih ha.2]
    rfl

theorem cut?_singleton {k : Char} {a : List Char} (h : k ∉ a) (t : List Char) :
    cut? [k] (a ++ k :: t) = some (a, t) := by
  have hfree : ¬ [k] <:+: a := fun hi => h (hi.subset List.mem_cons_self)
  simpa using cut?_of_free List.not_mem_nil hfree t

theorem not_mem_of_cut?_singleton {k : Char} {s a b : List Char} (h : cut? [k] s = some (a, b)) :
    k ∉ a := by
  induction s generalizing a b with
  | nil => simp [cut?] at h
  | cons c s ih =>
    simp only [cut?] at h
    split at h
    · simp only [Option.some.injEq, Prod.mk.injEq] at h
      obtain ⟨rfl, _⟩ := h
      exact List.not_mem_nil
    · rename_i hp
      simp only [Option.map_eq_some_iff, Prod.mk.injEq] at h
      obtain ⟨⟨a', b'⟩, h, rfl, _⟩ := h
      have hc : k ≠ c := by simpa using hp
      simp [hc, ih h]

end Text

namespace Delimiters

/-! ## The segments of a text -/

/-- One step of `segments`, without the proofs that it ends. -/
theorem segments_eq (d : Delimiters) (s : List Char) :
    d.segments s = match Text.cut? d.opening s with
      | none => [.literal s]
      | some (before, after) =>
        if escapes before then .literal (before.dropLast ++ d.opening) :: d.segments after
        else match readContent d.closing after with
          | none => [.literal s]
          | some (content, rest) => .literal before :: .token content :: d.segments rest := by
  rw [segments]
  split
  · rename_i h; rw [h]
  · rename_i before after h
    rw [h]
    simp only
    split
    · rfl
    · split
      · rename_i hc; rw [hc]
      · rename_i hc; rw [hc]

theorem readContent_eq (closing s : List Char) :
    readContent closing s = match Text.cut? closing s with
      | none => none
      | some (before, after) =>
        if escapes before then
          (readContent closing after).map fun (content, rest) =>
            (before.dropLast ++ closing ++ content, rest)
        else some (before, after) := by
  rw [readContent]
  split
  · rename_i h; rw [h]
  · rename_i h; rw [h]; simp only; split <;> rfl

/-! ## Texts without backslashes -/

theorem escapes_eq_false {before : List Char} (h : '\\' ∉ before) : escapes before = false := by
  unfold escapes
  rw [beq_eq_false_iff_ne]
  intro he
  exact h (List.mem_of_getLast? he)

theorem readContent_eq_cut? {closing s : List Char} (h : '\\' ∉ s) :
    readContent closing s = Text.cut? closing s := by
  rw [readContent_eq]
  split
  · rename_i hc; rw [hc]
  · rename_i before after hc
    rw [Text.eq_append_of_cut? hc] at h
    simp only [List.mem_append, not_or] at h
    rw [escapes_eq_false h.1.1, hc]
    rfl

end Delimiters

namespace Segment

def written (d : Delimiters) : Segment → List Char
  | literal text => text
  | token content => d.opening ++ content ++ d.closing

def mapContent (f : List Char → List Char) : Segment → Segment
  | literal text => .literal text
  | token content => .token (f content)

end Segment

namespace Delimiters

def written (d : Delimiters) (parts : List Segment) : List Char :=
  parts.flatMap (Segment.written d)

theorem written_segments (d : Delimiters) {s : List Char} (h : '\\' ∉ s) :
    d.written (d.segments s) = s := by
  fun_induction segments d s with
  | case1 s hc => simp [written, Segment.written]
  | case2 s before after hc he ih =>
    rw [Text.eq_append_of_cut? hc] at h
    simp only [List.mem_append, not_or] at h
    rw [escapes_eq_false h.1.1] at he
    cases he
  | case3 s before after hc he hr => simp [written, Segment.written]
  | case4 s before after hc he content rest hr ih =>
    have hs := Text.eq_append_of_cut? hc
    rw [hs] at h
    simp only [List.mem_append, not_or] at h
    rw [readContent_eq_cut? h.2] at hr
    have ha := Text.eq_append_of_cut? hr
    have hrest : '\\' ∉ rest := by
      intro hm
      exact h.2 (by rw [ha]; simp [hm])
    have ih := ih hrest
    unfold written at ih
    rw [written, List.flatMap_cons, List.flatMap_cons, ih, hs, ha]
    simp [Segment.written]

theorem not_mem_written_map (d : Delimiters) {f : List Char → List Char}
    (hb : ∀ c, '\\' ∉ c → '\\' ∉ f c) {s : List Char} (h : '\\' ∉ s) :
    '\\' ∉ d.written ((d.segments s).map (Segment.mapContent f)) := by
  rw [← written_segments d h] at h
  unfold written at h ⊢
  rw [List.flatMap_map]
  simp only [List.mem_flatMap, not_exists, not_and] at h ⊢
  intro part hp
  have := h part hp
  cases part with
  | literal t => exact this
  | token c =>
    simp only [Segment.written, Segment.mapContent, List.mem_append, not_or] at this ⊢
    exact ⟨⟨this.1.1, hb c this.1.2⟩, this.2⟩

section
variable (d : Delimiters) {k : Char} (hk : d.closing = [k]) (f : List Char → List Char)
include hk

/-- Rewriting that neither escapes nor closes a token leaves the split as it is: a second scan finds
the rewritten contents at the same places. -/
theorem segments_written_map (hb : ∀ c, '\\' ∉ c → '\\' ∉ f c) (hq : ∀ c, k ∉ c → k ∉ f c)
    {s : List Char} (h : '\\' ∉ s) :
    d.segments (d.written ((d.segments s).map (Segment.mapContent f))) =
      (d.segments s).map (Segment.mapContent f) := by
  fun_induction segments d s with
  | case1 s hc => simp [written, Segment.mapContent, Segment.written, segments_eq, hc]
  | case2 s before after hc he ih =>
    rw [Text.eq_append_of_cut? hc] at h
    simp only [List.mem_append, not_or] at h
    rw [escapes_eq_false h.1.1] at he
    cases he
  | case3 s before after hc he hr =>
    simp [written, Segment.mapContent, Segment.written, segments_eq d s, hc, he, hr]
  | case4 s before after hc he content rest hr ih =>
    have hs := Text.eq_append_of_cut? hc
    rw [hs] at h
    simp only [List.mem_append, not_or] at h
    rw [readContent_eq_cut? h.2, hk] at hr
    have ha := Text.eq_append_of_cut? hr
    rw [ha] at h
    simp only [List.mem_append, not_or] at h
    have hb := hb content h.2.1.1
    have hq := hq content (Text.not_mem_of_cut?_singleton hr)
    have ih := ih h.2.2
    generalize hw : d.written ((d.segments rest).map (Segment.mapContent f)) = w at ih
    have hcut := Text.cut?_append hc (f content ++ k :: w)
    have hread : readContent d.closing (f content ++ k :: w) = some (f content, w) := by
      rw [hk, readContent_eq, Text.cut?_singleton hq w]
      simp [escapes_eq_false hb]
    have hwhole : d.written
        ((.literal before :: .token content :: d.segments rest).map (Segment.mapContent f)) =
        before ++ d.opening ++ (f content ++ k :: w) := by
      rw [← hw]
      simp [written, Segment.mapContent, Segment.written, hk]
    rw [hwhole, segments_eq, hcut]
    simp only [he, hread, ih]
    simp [Segment.mapContent]

end

theorem toList_replace_wrap (d : Delimiters) (f : String → String) (text : String) :
    (d.replace (fun c => d.wrap (f c)) text).toList =
      d.written ((d.segments text.toList).map
        (Segment.mapContent fun c => (f (String.ofList c)).toList)) := by
  unfold replace written
  rw [String.toList_join, List.flatMap_map, List.flatMap_map]
  congr 1
  funext part
  cases part with
  | literal t => simp [Segment.mapContent, Segment.written]
  | token c => simp [Segment.mapContent, Segment.written, wrap]

end Delimiters

end SqlTemplate
