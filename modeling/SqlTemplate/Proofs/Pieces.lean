import SqlTemplate.Proofs.Reading
import SqlTemplate.Trim

/-!
# The pieces that trimming removes

A trim rule looks for an override in the text as it is written, and takes as many bytes away as the override
has between its blanks. At the front these are the bytes of the override itself, unless the text begins with
a blank that is no padding. At the end an override is also found without the blanks before it, and what is
taken away at the front may already be part of it. `TrimRule.finish_pieces` says how long the pieces are and
when they are overrides.
-/

namespace SqlTemplate

namespace Text

/-! ## Cuts between characters -/

theorem eq_nil_of_byteSize {s : List Char} (h : byteSize s = 0) : s = [] := by
  cases s with
  | nil => rfl
  | cons c s =>
    have hc := c.utf8Size_pos
    rw [byteSize] at h
    omega

theorem splitAtByte?_append (a b : List Char) : splitAtByte? (byteSize a) (a ++ b) = some (a, b) := by
  induction a with
  | nil => cases b <;> rfl
  | cons c a ih =>
    have hc := c.utf8Size_pos
    obtain ⟨n, hn⟩ : ∃ n, byteSize (c :: a) = n + 1 :=
      Nat.exists_eq_succ_of_ne_zero (by rw [byteSize]; omega)
    have hrest : n + 1 - c.utf8Size = byteSize a := by
      rw [← hn, byteSize, Nat.add_sub_cancel_left]
    have hle : c.utf8Size ≤ n + 1 := by
      rw [← hn, byteSize]
      omega
    rw [hn, List.cons_append, splitAtByte?, if_pos hle, hrest, ih]
    rfl

theorem slice?_append (a b c : List Char) :
    slice? (byteSize a) (byteSize a + byteSize b) (a ++ (b ++ c)) = some b := by
  have ha : splitAtByte? (byteSize a) (a ++ (b ++ c)) = some (a, b ++ c) := splitAtByte?_append a _
  have hb : splitAtByte? (byteSize b) (b ++ c) = some (b, c) := splitAtByte?_append b c
  unfold slice?
  rw [if_pos (Nat.le_add_right _ _), ha, Nat.add_sub_cancel_left]
  simp [hb]

theorem slice?_eq_some {start stop : Nat} {s piece : List Char}
    (h : slice? start stop s = some piece) :
    ∃ front back, s = front ++ (piece ++ back) ∧ byteSize front = start ∧
      byteSize front + byteSize piece = stop := by
  unfold slice? at h
  split at h
  · obtain ⟨⟨front, rest⟩, hfront, h⟩ := Option.bind_eq_some_iff.mp h
    obtain ⟨⟨found, back⟩, hpiece, h⟩ := Option.bind_eq_some_iff.mp h
    cases h
    obtain ⟨rfl, hstart⟩ := splitAtByte?_eq_some hfront
    obtain ⟨rfl, hstop⟩ := splitAtByte?_eq_some hpiece
    exact ⟨front, back, rfl, hstart, by omega⟩
  · cases h

theorem eq_of_prefix {a b s : List Char} (ha : a <+: s) (hb : b <+: s) (h : byteSize a = byteSize b) :
    a = b := by
  rcases List.prefix_or_prefix_of_prefix ha hb with ⟨t, rfl⟩ | ⟨t, rfl⟩
  · rw [byteSize_append, Nat.left_eq_add] at h
    rw [eq_nil_of_byteSize h, List.append_nil]
  · rw [byteSize_append, Nat.add_eq_left] at h
    rw [eq_nil_of_byteSize h, List.append_nil]

theorem eq_of_suffix {a b s : List Char} (ha : a <:+ s) (hb : b <:+ s) (h : byteSize a = byteSize b) :
    a = b := by
  rcases List.suffix_or_suffix_of_suffix ha hb with ⟨t, rfl⟩ | ⟨t, rfl⟩
  · rw [byteSize_append, Nat.right_eq_add] at h
    rw [eq_nil_of_byteSize h, List.nil_append]
  · rw [byteSize_append, Nat.add_eq_right] at h
    rw [eq_nil_of_byteSize h, List.nil_append]

/-! ## Upper case -/

theorem toNat_toUpper (c : Char) :
    c.toUpper.toNat = if 97 ≤ c.toNat ∧ c.toNat ≤ 122 then c.toNat - 32 else c.toNat := by
  unfold Char.toUpper
  split
  · rename_i h
    have hlower : 97 ≤ c.toNat := UInt32.le_iff_toNat_le.mp h.1
    have hupper : c.toNat ≤ 122 := UInt32.le_iff_toNat_le.mp h.2
    rw [if_pos ⟨hlower, hupper⟩]
    change (c.val + ('A'.val - 'a'.val)).toNat = c.toNat - 32
    rw [UInt32.toNat_add]
    change (c.toNat + 4294967264) % 4294967296 = c.toNat - 32
    omega
  · rename_i h
    rw [if_neg]
    rintro ⟨hlower, hupper⟩
    exact h ⟨UInt32.le_iff_toNat_le.mpr hlower, UInt32.le_iff_toNat_le.mpr hupper⟩

theorem toUpper_cases (c : Char) :
    c.toUpper = c ∨ 97 ≤ c.toNat ∧ c.toNat ≤ 122 ∧ c.toUpper.toNat = c.toNat - 32 := by
  have h := toNat_toUpper c
  by_cases hc : 97 ≤ c.toNat ∧ c.toNat ≤ 122
  · rw [if_pos hc] at h
    exact Or.inr ⟨hc.1, hc.2, h⟩
  · rw [if_neg hc] at h
    exact Or.inl (Char.toNat_inj.mp h)

theorem utf8Size_toUpper (c : Char) : c.toUpper.utf8Size = c.utf8Size := by
  rcases toUpper_cases c with h | ⟨hlower, hupper, h⟩
  · rw [h]
  · have hone : ∀ d : Char, d.toNat ≤ 122 → d.utf8Size = 1 := fun d hd =>
      Char.utf8Size_eq_one_iff.mpr (UInt32.le_iff_toNat_le.mpr (Nat.le_trans hd (by decide)))
    rw [hone c hupper, hone c.toUpper (by omega)]

theorem byteSize_map_toUpper (s : List Char) : byteSize (s.map Char.toUpper) = byteSize s := by
  induction s with
  | nil => rfl
  | cons c s ih => rw [List.map_cons, byteSize, byteSize, utf8Size_toUpper, ih]

theorem isPadding_toUpper (c : Char) : isPadding c.toUpper = isPadding c := by
  rcases toUpper_cases c with h | ⟨hlower, _, h⟩
  · rw [h]
  · unfold isPadding
    rw [decide_eq_decide]
    omega

theorem isBlank_toUpper (c : Char) : isBlank c.toUpper = isBlank c := by
  rcases toUpper_cases c with h | ⟨hlower, hupper, h⟩
  · rw [h]
  · have hletter : ∀ d : Char, 65 ≤ d.toNat → d.toNat ≤ 122 → isBlank d = false := by
      intro d hge hle
      unfold isBlank
      simp only [Bool.or_eq_false_iff, Bool.and_eq_false_iff, decide_eq_false_iff_not,
        beq_eq_false_iff_ne]
      omega
    rw [hletter c (by omega) hupper, hletter c.toUpper (by omega) (by omega)]

/-! ## Blanks at both ends -/

section
variable {p : Char → Bool}

theorem trimEnd_isPrefixOf (s : List Char) : trimEnd p s <+: s :=
  ⟨_, trimEnd_append_reverse s⟩

theorem trimEnd_eq_self {s : List Char} (h : ∀ c ∈ s.getLast?, p c = false) : trimEnd p s = s := by
  unfold trimEnd
  rw [List.dropWhile_eq_self_of_head? (by rwa [List.head?_reverse]), List.reverse_reverse]

theorem trimBoth_isPrefixOf {s t : List Char} (h : s <+: t) (ht : ∀ c ∈ t.head?, p c = false) :
    trimBoth p s <+: t := by
  have hs : ∀ c ∈ s.head?, p c = false := fun c hc => ht c (List.mem_head?_of_prefix h hc)
  unfold trimBoth
  rw [List.dropWhile_eq_self_of_head? hs]
  exact (trimEnd_isPrefixOf s).trans h

theorem trimBoth_suffix (s : List Char) : trimBoth p s <:+ trimEnd p s := by
  have hs : s.reverse = (s.dropWhile p).reverse ++ (s.takeWhile p).reverse := by
    rw [← List.reverse_append, List.takeWhile_append_dropWhile]
  unfold trimBoth trimEnd
  rw [List.reverse_suffix, hs, List.dropWhile_append]
  split
  · rename_i he
    rw [List.isEmpty_iff.mp he]
    exact List.nil_prefix
  · exact List.prefix_append _ _

theorem byteSize_trimBoth_le (p : Char → Bool) (s : List Char) :
    byteSize (trimBoth p s) ≤ byteSize s := by
  obtain ⟨before, hbefore⟩ := trimBoth_suffix (p := p) s
  obtain ⟨after, hafter⟩ := trimEnd_isPrefixOf (p := p) s
  have hend : byteSize (trimEnd p s) + byteSize after = byteSize s := by
    rw [← byteSize_append, hafter]
  have hboth : byteSize before + byteSize (trimBoth p s) = byteSize (trimEnd p s) := by
    rw [← byteSize_append, hbefore]
  omega

theorem not_of_mem_head?_trimBoth {s : List Char} {c : Char} (h : c ∈ (trimBoth p s).head?) :
    p c = false :=
  List.not_of_mem_head?_dropWhile (mem_head?_of_trimEnd h)

end

end Text

namespace TrimRule

open Text

variable {rule : TrimRule} {s front core back : List Char}

/-! ## The size of the pieces -/

def leadCut (rule : TrimRule) (s : List Char) : Nat :=
  ((rule.leadHit? (s.map Char.toUpper)).map cutSize).getD 0

def tailCut (rule : TrimRule) (s : List Char) : Nat :=
  ((rule.tailHit? (s.map Char.toUpper)).map cutSize).getD 0

structure Cuts (rule : TrimRule) (s front core back : List Char) : Prop where
  split : s = front ++ (core ++ back)
  front_size : byteSize front = rule.leadCut s
  back_size : byteSize back = min (rule.tailCut s) (byteSize s - rule.leadCut s)

theorem of_leadHit? {upper : List Char} {o : String} (h : rule.leadHit? upper = some o) :
    o ∈ rule.leadOverrides ∧ o.toList <+: upper := by
  unfold leadHit? at h
  have hprefix := List.find?_some h
  exact ⟨List.mem_of_find?_eq_some h, List.isPrefixOf_iff_prefix.mp hprefix⟩

theorem leadCut_le (rule : TrimRule) (s : List Char) : rule.leadCut s ≤ byteSize s := by
  unfold leadCut
  cases h : rule.leadHit? (s.map Char.toUpper) with
  | none => exact Nat.zero_le _
  | some o =>
    obtain ⟨rest, hrest⟩ := (of_leadHit? h).2
    have hsize : byteSize o.toList + byteSize rest = byteSize s := by
      rw [← byteSize_append, hrest, byteSize_map_toUpper]
    have htrim : cutSize o ≤ byteSize o.toList := by
      unfold cutSize trim
      rw [String.toList_ofList]
      exact byteSize_trimBoth_le _ _
    rw [Option.map_some, Option.getD_some]
    omega

theorem core_eq_slice (rule : TrimRule) (s : List Char) :
    rule.core s = (slice? (rule.leadCut s)
      (rule.leadCut s + (byteSize s - rule.leadCut s - rule.tailCut s)) s).getD s := by
  have hle := rule.leadCut_le s
  unfold core
  cases hhit : rule.tailHit? (s.map Char.toUpper) with
  | none =>
    have hcut : rule.tailCut s = 0 := by rw [tailCut, hhit, Option.map_none, Option.getD_none]
    have hstop : rule.leadCut s + (byteSize s - rule.leadCut s - rule.tailCut s) = byteSize s := by
      omega
    simp only [hhit, hstop]
    rfl
  | some o =>
    have hcut : rule.tailCut s = cutSize o := by
      rw [tailCut, hhit, Option.map_some, Option.getD_some]
    have hstop : rule.leadCut s + (byteSize s - rule.leadCut s - rule.tailCut s) =
        max (byteSize s - cutSize o) (rule.leadCut s) := by
      omega
    simp only [hhit, hstop]
    rfl

theorem Cuts.core_eq (h : rule.Cuts s front core back) : rule.core s = core := by
  have hsize : byteSize s = byteSize front + (byteSize core + byteSize back) := by
    rw [h.split, byteSize_append, byteSize_append]
  have hcore : byteSize s - rule.leadCut s - rule.tailCut s = byteSize core := by
    have hfront := h.front_size
    have hback := h.back_size
    omega
  rw [core_eq_slice, hcore, ← h.front_size]
  have hslice := slice?_append front core back
  rw [← h.split] at hslice
  rw [hslice, Option.getD_some]

/-- A text is cut as the rule asks, or not at all because no such cut falls between characters. -/
theorem cuts_core (rule : TrimRule) (s : List Char) :
    (∃ front back, rule.Cuts s front (rule.core s) back) ∨
      rule.core s = s ∧ ∀ front core back, ¬ rule.Cuts s front core back := by
  by_cases hcuts : ∃ front core back, rule.Cuts s front core back
  · obtain ⟨front, core, back, h⟩ := hcuts
    refine Or.inl ⟨front, back, ?_⟩
    rwa [h.core_eq]
  · have hnone : ∀ front core back, ¬ rule.Cuts s front core back :=
      fun front core back h => hcuts ⟨front, core, back, h⟩
    refine Or.inr ⟨?_, hnone⟩
    rw [core_eq_slice]
    cases hslice : slice? (rule.leadCut s) _ s with
    | none => rfl
    | some piece =>
      obtain ⟨front, back, hsplit, hstart, hstop⟩ := slice?_eq_some hslice
      -- a slice of this size would be such a cut
      refine absurd ⟨hsplit, hstart, ?_⟩ (hnone front piece back)
      have hsize : byteSize s = byteSize front + (byteSize piece + byteSize back) := by
        rw [hsplit, byteSize_append, byteSize_append]
      omega

theorem finish_eq {body : String} (hbody : trimBoth isPadding body.toList ≠ []) (rule : TrimRule) :
    rule.finish body =
      let core := rule.core (trimBoth isPadding body.toList)
      some (rule.opening core ++ String.ofList core ++ rule.closing) := by
  unfold finish
  cases h : trimBoth isPadding body.toList with
  | nil => exact absurd h hbody
  | cons c s => rfl

theorem finish_of_cuts {body : String} (htrim : trimBoth isPadding body.toList = s)
    (hne : s ≠ []) (h : rule.Cuts s front core back) :
    rule.finish body = some (rule.opening core ++ String.ofList core ++ rule.closing) := by
  rw [finish_eq (by rwa [htrim]), htrim, h.core_eq]

/-! ## Pieces that are overrides -/

/-- The text begins with an override as it is written, and the piece is what the override has between its
blanks. -/
def LeadPiece (rule : TrimRule) (s front : List Char) : Prop :=
  ∃ o ∈ rule.leadOverrides, o.toList <+: s.map Char.toUpper ∧
    front.map Char.toUpper = trimBoth isBlank o.toList

/-- The text ends with an override as it is written or without the blanks behind it, and the piece is what
the override has between its blanks. -/
def TailPiece (rule : TrimRule) (s back : List Char) : Prop :=
  ∃ o ∈ rule.tailOverrides,
    (o.toList <:+ s.map Char.toUpper ∨ trimEnd isBlank o.toList <:+ s.map Char.toUpper) ∧
    back.map Char.toUpper = trimBoth isBlank o.toList

theorem byteSize_trim (o : String) : byteSize (trimBoth isBlank o.toList) = cutSize o := by
  unfold cutSize trim
  rw [String.toList_ofList]

theorem Cuts.leadPiece_iff (h : rule.Cuts s front core back) (hne : front ≠ []) :
    rule.LeadPiece s front ↔ ∀ c ∈ s.head?, isBlank c = false := by
  obtain ⟨k, front', rfl⟩ := List.exists_cons_of_ne_nil hne
  have hs : s = k :: (front' ++ (core ++ back)) := h.split
  constructor
  · rintro ⟨o, _, _, hpiece⟩ c hc
    have hk : k.toUpper ∈ (trimBoth isBlank o.toList).head? := by
      rw [← hpiece]
      rfl
    have hblank := not_of_mem_head?_trimBoth hk
    rw [hs] at hc
    cases hc
    rwa [isBlank_toUpper] at hblank
  · intro hhead
    have hsize := h.front_size
    cases hhit : rule.leadHit? (s.map Char.toUpper) with
    | none =>
      have hpos := k.utf8Size_pos
      rw [leadCut, hhit, byteSize, Option.map_none, Option.getD_none] at hsize
      omega
    | some o =>
      obtain ⟨ho, hprefix⟩ := of_leadHit? hhit
      rw [leadCut, hhit, Option.map_some, Option.getD_some] at hsize
      have hupper : ∀ c ∈ (s.map Char.toUpper).head?, isBlank c = false := by
        intro c hc
        rw [hs] at hc
        cases hc
        rw [isBlank_toUpper]
        exact hhead k (by rw [hs]; rfl)
      have hfront : (k :: front').map Char.toUpper <+: s.map Char.toUpper := by
        rw [hs]
        exact (List.prefix_append _ _).map _
      refine ⟨o, ho, hprefix, eq_of_prefix hfront (trimBoth_isPrefixOf hprefix hupper) ?_⟩
      rw [byteSize_map_toUpper, hsize, byteSize_trim]

theorem tailPiece_iff (hback : back <:+ s) (hne : back ≠ []) :
    rule.TailPiece s back ↔ ∃ o ∈ rule.tailOverrides,
      trimEnd isBlank o.toList <:+ s.map Char.toUpper ∧ cutSize o = byteSize back := by
  have hupper : back.map Char.toUpper <:+ s.map Char.toUpper := hback.map _
  constructor
  · rintro ⟨o, ho, hends, hpiece⟩
    refine ⟨o, ho, ?_, by rw [← byteSize_trim, ← hpiece, byteSize_map_toUpper]⟩
    rcases hends with hends | hends
    · have hlast : ∀ c ∈ o.toList.getLast?, isBlank c = false := by
        intro c hc
        obtain ⟨k, hk⟩ : ∃ k, (back.map Char.toUpper).getLast? = some k :=
          Option.ne_none_iff_exists'.mp fun hnone =>
            hne (List.map_eq_nil_iff.mp (List.getLast?_eq_none_iff.mp hnone))
        have hkc : some k = some c :=
          (List.mem_getLast?_of_suffix hupper hk).symm.trans (List.mem_getLast?_of_suffix hends hc)
        cases hkc
        rw [hpiece] at hk
        exact not_of_mem_getLast?_trimEnd hk
      rwa [trimEnd_eq_self hlast]
    · exact hends
  · rintro ⟨o, ho, hends, hsize⟩
    refine ⟨o, ho, Or.inr hends, eq_of_suffix hupper ((trimBoth_suffix _).trans hends) ?_⟩
    rw [byteSize_map_toUpper, byteSize_trim, hsize]

/-- Trimming takes at most one piece away at each end. The pieces have the sizes of the overrides that are
found, the one at the end as far as the one at the front leaves that much; nothing goes if such a cut would
fall inside a character. The piece at the front is an override unless the text begins with a blank that is no
padding. The piece at the end is one if and only if the text ends with an override of this size that has lost
no blanks but those behind it. -/
theorem finish_pieces (rule : TrimRule) {body : String}
    (hbody : trimBoth isPadding body.toList ≠ []) :
    let s := trimBoth isPadding body.toList
    ∃ front core back,
      rule.finish body = some (rule.opening core ++ String.ofList core ++ rule.closing) ∧
      s = front ++ (core ++ back) ∧
      (rule.Cuts s front core back ∨ front = [] ∧ back = [] ∧ ∀ a b c, ¬ rule.Cuts s a b c) ∧
      (front = [] ∨ (rule.LeadPiece s front ↔ ∀ c ∈ s.head?, isBlank c = false)) ∧
      (back = [] ∨ (rule.TailPiece s back ↔ ∃ o ∈ rule.tailOverrides,
        trimEnd isBlank o.toList <:+ s.map Char.toUpper ∧ cutSize o = byteSize back)) := by
  intro s
  rcases rule.cuts_core s with ⟨front, back, hcuts⟩ | ⟨hcore, hnone⟩
  · refine ⟨front, rule.core s, back, finish_eq hbody rule, hcuts.split, Or.inl hcuts, ?_, ?_⟩
    · by_cases hfront : front = []
      · exact Or.inl hfront
      · exact Or.inr (hcuts.leadPiece_iff hfront)
    · by_cases hback : back = []
      · exact Or.inl hback
      · have hsuffix : back <:+ s :=
          ⟨front ++ rule.core s, (List.append_assoc _ _ _).trans hcuts.split.symm⟩
        exact Or.inr (tailPiece_iff hsuffix hback)
  · have hfinish := finish_eq hbody rule
    refine ⟨[], s, [], ?_, by simp, Or.inr ⟨rfl, rfl, hnone⟩, Or.inl rfl, Or.inl rfl⟩
    rw [hfinish]
    simp only [hcore, s]

theorem finish_pieces_connectives :
    let rule := ofLists (some "(") (some "AND |OR ") (some ")") (some " OR| AND")
    let s := "and a = 1 AND".toList
    trimBoth isPadding s ≠ [] ∧ rule.finish "and a = 1 AND" = some "(  a = 1  )" ∧
    ∃ front core back, s = front ++ (core ++ back) ∧
      rule.finish "and a = 1 AND" = some ("( " ++ String.ofList core ++ " )") ∧
      (front = [] ∨ rule.LeadPiece s front) := by
  intro rule s
  have hs : trimBoth isPadding s ≠ [] := by decide
  refine ⟨hs, by decide +kernel, ?_⟩
  obtain ⟨front, core, back, hfinish, hsplit, _, hfront, _⟩ := rule.finish_pieces hs
  have htrim : trimBoth isPadding s = s := by decide
  have hhead : ∀ c ∈ s.head?, isBlank c = false := by
    intro c hc
    cases hc
    decide
  rw [htrim] at hsplit hfront
  refine ⟨front, core, back, hsplit, ?_, hfront.imp_right fun h => h.mpr hhead⟩
  rw [hfinish]
  simp [rule, ofLists, opening, closing]

/-- An override is found without the blank before it, in the middle of a word. -/
theorem finish_cuts_word :
    let rule := ofLists none none none (some " AND")
    let s := "BRAND".toList
    rule.finish "BRAND" = some "BR" ∧
    (∀ o ∈ rule.tailOverrides, ¬ (o.toList <:+ s.map Char.toUpper ∨
      trimEnd isBlank o.toList <:+ s.map Char.toUpper)) ∧
    ¬ rule.TailPiece s "AND".toList := by
  intro rule s
  have hnone : ∀ o ∈ rule.tailOverrides, ¬ (o.toList <:+ s.map Char.toUpper ∨
      trimEnd isBlank o.toList <:+ s.map Char.toUpper) := by decide +kernel
  refine ⟨by decide +kernel, hnone, ?_⟩
  rintro ⟨o, ho, hends, _⟩
  exact hnone o ho hends

end TrimRule

end SqlTemplate
