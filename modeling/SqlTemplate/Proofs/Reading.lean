import Mathlib.Data.List.DropRight
import Mathlib.Data.List.TakeWhile
import SqlTemplate.Reference

/-!
# Where readers stop

Readers cut a text where a class of characters ends, trim what they have cut, split it between the
characters of a class, and find the partner of a parenthesis. What each of these makes of a text that is
put together from parts.
-/

/-! ## Where a class of characters ends -/

section
variable {α : Type} {s t : List α} {a : α}

theorem List.mem_head?_of_prefix (h : s <+: t) (ha : a ∈ s.head?) : a ∈ t.head? := by
  obtain ⟨after, rfl⟩ := h
  rw [List.head?_append, Option.mem_def.mp ha]
  rfl

theorem List.mem_getLast?_of_suffix (h : s <:+ t) (ha : a ∈ s.getLast?) : a ∈ t.getLast? := by
  obtain ⟨before, rfl⟩ := h
  rw [List.getLast?_append, Option.mem_def.mp ha]
  rfl

end

section
variable {α : Type} {p : α → Bool} {xs ys : List α}

theorem List.dropWhile_eq_self_of_head? (h : ∀ a ∈ ys.head?, p a = false) : ys.dropWhile p = ys := by
  cases ys with
  | nil => rfl
  | cons a ys => exact List.dropWhile_cons_of_neg (by simp [h a rfl])

theorem List.dropWhile_append_of_head? (h : ∀ a ∈ ys.head?, p a = false) :
    (xs ++ ys).dropWhile p = xs.dropWhile p ++ ys := by
  rw [List.dropWhile_append, List.dropWhile_eq_self_of_head? h]
  split
  · rename_i he
    rw [List.isEmpty_iff.mp he, List.nil_append]
  · rfl

theorem List.takeWhile_append_eq_left (h : ∀ a ∈ ys.head?, p a = false) :
    (xs ++ ys).takeWhile p = xs.takeWhile p := by
  have hwhole : (xs ++ ys).takeWhile p ++ (xs ++ ys).dropWhile p = xs ++ ys :=
    List.takeWhile_append_dropWhile
  have hleft : xs.takeWhile p ++ xs.dropWhile p = xs := List.takeWhile_append_dropWhile
  rw [List.dropWhile_append_of_head? h, ← List.append_assoc] at hwhole
  have hxs : (xs ++ ys).takeWhile p ++ xs.dropWhile p = xs := List.append_cancel_right hwhole
  exact List.append_cancel_right (hxs.trans hleft.symm)

theorem List.not_of_mem_head?_dropWhile {a : α} (h : a ∈ (xs.dropWhile p).head?) : p a = false := by
  have hhead := List.head?_dropWhile_not p xs
  rw [h] at hhead
  exact hhead

section
variable (hxs : ∀ a ∈ xs, p a = true) (hys : ∀ a ∈ ys.head?, p a = false)
include hxs hys

theorem List.takeWhile_append_of_head? : (xs ++ ys).takeWhile p = xs := by
  rw [List.takeWhile_append_of_pos hxs]
  cases ys with
  | nil => simp
  | cons a ys => simp [hys a rfl]

theorem List.dropWhile_append_of_all : (xs ++ ys).dropWhile p = ys := by
  rw [List.dropWhile_append_of_pos hxs, List.dropWhile_eq_self_of_head? hys]

end

end

namespace SqlTemplate

namespace Text

variable {p : Char → Bool} {s : List Char}

theorem trimBoth_eq_self (hfirst : ∀ c ∈ s.head?, p c = false)
    (hlast : ∀ c ∈ s.getLast?, p c = false) : trimBoth p s = s := by
  have hreverse : ∀ c ∈ s.reverse.head?, p c = false := by rwa [List.head?_reverse]
  unfold trimBoth trimEnd
  rw [List.dropWhile_eq_self_of_head? hfirst, List.dropWhile_eq_self_of_head? hreverse,
    List.reverse_reverse]

theorem trimBoth_append {before after : List Char} (hbefore : ∀ c ∈ before, p c = true)
    (hafter : ∀ c ∈ after, p c = true) : trimBoth p (before ++ s ++ after) = trimBoth p s := by
  unfold trimBoth trimEnd
  rw [List.append_assoc, List.dropWhile_append_of_pos hbefore, List.dropWhile_append]
  split
  · rename_i he
    have hnil : after.dropWhile p = [] := List.dropWhile_eq_nil_iff.mpr hafter
    rw [hnil, List.isEmpty_iff.mp he]
  · rw [List.reverse_append, List.dropWhile_append_of_pos fun c hc => hafter c (List.mem_reverse.mp hc)]

theorem trimEnd_append {t : List Char} (h : ∀ c ∈ s.getLast?, p c = false) :
    trimEnd p (s ++ t) = s ++ trimEnd p t := by
  unfold trimEnd
  rw [List.reverse_append, List.dropWhile_append_of_head? (by rwa [List.head?_reverse]),
    List.reverse_append, List.reverse_reverse]

theorem trimEnd_append_reverse (s : List Char) :
    trimEnd p s ++ (s.reverse.takeWhile p).reverse = s := by
  unfold trimEnd
  rw [← List.reverse_append, List.takeWhile_append_dropWhile, List.reverse_reverse]

theorem mem_head?_of_trimEnd {c : Char} (h : c ∈ (trimEnd p s).head?) : c ∈ s.head? := by
  rw [← trimEnd_append_reverse (p := p) s, List.head?_append]
  simp [Option.mem_def.mp h]

theorem not_of_mem_getLast?_trimEnd {c : Char} (h : c ∈ (trimEnd p s).getLast?) : p c = false := by
  unfold trimEnd at h
  rw [List.getLast?_reverse] at h
  exact List.not_of_mem_head?_dropWhile h

theorem eq_false_of_disjoint (p q : Char → Bool) (h : ∀ c, p c = true → q c = false) {c : Char}
    (hc : q c = true) : p c = false := by
  by_contra hp
  rw [Bool.not_eq_false] at hp
  rw [h c hp] at hc
  cases hc

theorem ne_of_isPadding {c k : Char} (hc : isPadding c = true) (hk : isPadding k = false) :
    c ≠ k := by
  rintro rfl
  rw [hc] at hk
  cases hk

/-! ## The pieces between the characters of a class -/

theorem splitWhere_append {a : List Char} (h : ∀ c ∈ a, p c = false) (s : List Char) :
    splitWhere p (a ++ s) = (a ++ (splitWhere p s).1, (splitWhere p s).2) := by
  induction a with
  | nil => rfl
  | cons c a ih =>
    have hc := h c List.mem_cons_self
    have hrest := ih fun d hd => h d (List.mem_cons_of_mem c hd)
    simp [splitWhere, hc, hrest]

theorem splitWhere_of_free (h : ∀ c ∈ s, p c = false) : splitWhere p s = (s, []) := by
  have hsplit := splitWhere_append h []
  rwa [List.append_nil, splitWhere, List.append_nil] at hsplit

theorem pieces_of_free (h : ∀ c ∈ s, p c = false) : pieces p s = [s] := by
  rw [pieces, splitWhere_of_free h]

theorem pieces_append {k : Char} (hk : p k = true) (a b : List Char) :
    pieces p (a ++ k :: b) = pieces p a ++ pieces p b := by
  induction a with
  | nil => simp [pieces, splitWhere, hk]
  | cons c a ih =>
    simp only [pieces, List.cons_append, List.cons.injEq] at ih
    by_cases hc : p c = true
    · simp [pieces, splitWhere, hc, ih]
    · simp [pieces, splitWhere, hc, ih]

theorem intercalate_pieces (k : Char) (s : List Char) :
    [k].intercalate (pieces (· == k) s) = s := by
  induction s with
  | nil => rfl
  | cons c s ih =>
    unfold pieces at ih ⊢
    by_cases hc : c = k
    · simp [splitWhere, hc, List.intercalate_cons_cons, ih]
    · cases hrest : (splitWhere (· == k) s).2 with
      | nil => simp_all [splitWhere]
      | cons piece rest => simp_all [splitWhere, List.intercalate_cons_cons]

end Text

namespace Reference

open Text

/-! ## Parentheses -/

inductive Balanced : List Char → Prop
  | nil : Balanced []
  | char {c : Char} {s : List Char} (hopen : c ≠ '(') (hclose : c ≠ ')') (hs : Balanced s) :
    Balanced (c :: s)
  | nested {s t : List Char} (hs : Balanced s) (ht : Balanced t) :
    Balanced ('(' :: (s ++ ')' :: t))

theorem closeParenthesis?_char {c : Char} (hopen : c ≠ '(') (hclose : c ≠ ')') (depth : Nat)
    (s : List Char) :
    closeParenthesis? depth (c :: s) =
      (closeParenthesis? depth s).map fun (a, b) => (c :: a, b) := by
  rw [closeParenthesis?]
  · exact hopen
  · exact fun h _ => hclose h
  · exact fun _ h _ => hclose h

theorem Balanced.closeParenthesis? {s : List Char} (h : Balanced s) (depth : Nat)
    (rest : List Char) :
    closeParenthesis? depth (s ++ rest) =
      (closeParenthesis? depth rest).map fun (a, b) => (s ++ a, b) := by
  induction h generalizing depth rest with
  | nil => simp
  | char hopen hclose _ ih =>
    rw [List.cons_append, closeParenthesis?_char hopen hclose, ih, Option.map_map]
    rfl
  | @nested s t _ _ ihs iht =>
    have happend : '(' :: (s ++ ')' :: t) ++ rest = '(' :: (s ++ ')' :: (t ++ rest)) := by simp
    have hopen : Reference.closeParenthesis? depth ('(' :: (s ++ ')' :: (t ++ rest))) =
        (Reference.closeParenthesis? (depth + 1) (s ++ ')' :: (t ++ rest))).map
          fun (a, b) => ('(' :: a, b) := by
      cases depth <;> rfl
    have hclose : Reference.closeParenthesis? (depth + 1) (')' :: (t ++ rest)) =
        (Reference.closeParenthesis? depth (t ++ rest)).map fun (a, b) => (')' :: a, b) := rfl
    rw [happend, hopen, ihs, hclose, iht, Option.map_map, Option.map_map, Option.map_map]
    congr 1
    funext ⟨a, b⟩
    simp

theorem closeParenthesis?_balanced {text : List Char} (h : Balanced text) (rest : List Char) :
    closeParenthesis? 0 (text ++ ')' :: rest) = some (text, rest) := by
  rw [h.closeParenthesis?]
  simp [closeParenthesis?]

/-! ## Delimiters -/

theorem not_isPadding_of_endsPath {c : Char} (h : endsPath c = true) : isPadding c = false := by
  unfold endsPath at h
  simp only [Bool.or_eq_true, beq_iff_eq] at h
  rcases h with rfl | rfl <;> rfl

theorem endsPath_of_isPadding {c : Char} (h : isPadding c = true) : endsPath c = false :=
  eq_false_of_disjoint endsPath isPadding (fun _ => not_isPadding_of_endsPath) h

end Reference

end SqlTemplate
