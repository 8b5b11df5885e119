/-!
# Cutting at a delimiter

A text is cut at the first occurrence of a delimiter. The empty delimiter occurs before the first
character.
-/

namespace SqlTemplate.Text

/-- What stands before and after the first occurrence of `d`. -/
def cut? (d : List Char) : List Char → Option (List Char × List Char)
  | [] => if d.isEmpty then some ([], []) else none
  | c :: s =>
    if d.isPrefixOf (c :: s) then some ([], (c :: s).drop d.length)
    else (cut? d s).map fun (a, b) => (c :: a, b)

theorem eq_append_of_cut? {d s a b : List Char} (h : cut? d s = some (a, b)) :
    s = a ++ d ++ b := by
  induction s generalizing a b with
  | nil => simp_all [cut?]
  | cons c s ih =>
    simp only [cut?] at h
    split at h
    · rename_i hp
      obtain ⟨t, ht⟩ := List.isPrefixOf_iff_prefix.mp hp
      simp only [Option.some.injEq, Prod.mk.injEq] at h
      obtain ⟨rfl, rfl⟩ := h
      rw [← ht]; simp
    · simp only [Option.map_eq_some_iff, Prod.mk.injEq] at h
      obtain ⟨⟨a', b'⟩, h, rfl, rfl⟩ := h
      simp [ih h]

theorem length_of_cut? {d s a b : List Char} (h : cut? d s = some (a, b)) :
    s.length = a.length + d.length + b.length := by
  simp [eq_append_of_cut? h, Nat.add_assoc]

def replaceChar (old : Char) (new : List Char) (s : List Char) : List Char :=
  s.flatMap fun c => if c == old then new else [c]

end SqlTemplate.Text
