/-!
# Byte offsets

Offsets into a text are counted in bytes of its UTF-8 form. A cut at an offset succeeds only
between two characters.
-/

namespace SqlTemplate.Text

def byteSize : List Char → Nat
  | [] => 0
  | c :: s => c.utf8Size + byteSize s

/-- The first `n` bytes and the rest, if a character ends there. -/
def splitAtByte? : Nat → List Char → Option (List Char × List Char)
  | 0, s => some ([], s)
  | _ + 1, [] => none
  | n + 1, c :: s =>
    if c.utf8Size ≤ n + 1 then
      (splitAtByte? (n + 1 - c.utf8Size) s).map fun (a, b) => (c :: a, b)
    else none

def slice? (start stop : Nat) (s : List Char) : Option (List Char) :=
  if start ≤ stop then do
    let (_, rest) ← splitAtByte? start s
    let (piece, _) ← splitAtByte? (stop - start) rest
    pure piece
  else none

theorem byteSize_append (s t : List Char) : byteSize (s ++ t) = byteSize s + byteSize t := by
  induction s with
  | nil => simp [byteSize]
  | cons c s ih => simp [byteSize, ih, Nat.add_assoc]

theorem splitAtByte?_eq_some {n : Nat} {s a b : List Char} (h : splitAtByte? n s = some (a, b)) :
    s = a ++ b ∧ byteSize a = n := by
  induction s generalizing n a b with
  | nil => cases n <;> simp_all [splitAtByte?, byteSize]
  | cons c s ih =>
    cases n with
    | zero => simp_all [splitAtByte?, byteSize]
    | succ n =>
      simp only [splitAtByte?] at h
      split at h
      · simp only [Option.map_eq_some_iff, Prod.mk.injEq] at h
        obtain ⟨⟨a', b'⟩, h, rfl, rfl⟩ := h
        obtain ⟨rfl, hs⟩ := ih h
        simp only [byteSize, List.cons_append, true_and]
        omega
      · simp at h

end SqlTemplate.Text
