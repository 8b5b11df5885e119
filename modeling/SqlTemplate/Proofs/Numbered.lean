import SqlTemplate.Loop
import SqlTemplate.Proofs.Scan

/-!
# Numbered names

A numbered name tells its variable and its number (`numbered_inj`), because the digits of a number
hold no underscore. All numbered names share a beginning, by which they are known.
-/

namespace SqlTemplate.Loop

def marker : List Char := ['_', '_', 'f', 'r', 'c', 'h', '_']

def isNumbered (name : String) : Bool :=
  marker.isPrefixOf name.toList

theorem toList_numbered (name : String) (number : Nat) :
    (numbered name number).toList = marker ++ (name.toList ++ '_' :: Nat.toDigits 10 number) := by
  simp [numbered, marker]

theorem isNumbered_numbered (name : String) (number : Nat) :
    isNumbered (numbered name number) = true := by
  rw [isNumbered, toList_numbered, List.isPrefixOf_iff_prefix]
  exact List.prefix_append _ _

theorem ne_numbered {name : String} (h : isNumbered name = false) (other : String) (number : Nat) :
    name ≠ numbered other number := by
  rintro rfl
  rw [isNumbered_numbered] at h
  cases h

/-- Two texts that end with digits after an underscore differ before it or in the digits. -/
theorem append_digits_inj {a b : List Char} {m n : Nat}
    (h : a ++ '_' :: Nat.toDigits 10 m = b ++ '_' :: Nat.toDigits 10 n) : a = b ∧ m = n := by
  have hcut : ∀ (s : List Char) (k : Nat),
      Text.cut? ['_'] (s ++ '_' :: Nat.toDigits 10 k).reverse =
        some ((Nat.toDigits 10 k).reverse, s.reverse) := by
    intro s k
    rw [List.reverse_append, List.reverse_cons, List.append_assoc, List.singleton_append]
    exact Text.cut?_singleton (by simp [Nat.underscore_not_in_toDigits]) _
  have he := hcut a m
  rw [h, hcut b n] at he
  simp only [Option.some.injEq, Prod.mk.injEq, List.reverse_inj] at he
  refine ⟨he.2.symm, ?_⟩
  have hd := congrArg (fun digits => Nat.ofDigitChars 10 digits 0) he.1
  simpa using hd.symm

theorem numbered_inj {a b : String} {m n : Nat} (h : numbered a m = numbered b n) :
    a = b ∧ m = n := by
  have hl := congrArg String.toList h
  rw [toList_numbered, toList_numbered] at hl
  obtain ⟨hn, hm⟩ := append_digits_inj (List.append_cancel_left hl)
  exact ⟨String.toList_inj.mp hn, hm⟩

end SqlTemplate.Loop
