import SqlTemplate.Character.Set

/-!
# Ranges of characters as bytes

In UTF-8 a range of characters is a choice between sequences of byte ranges: a character is in the
range if its bytes are in the ranges of one sequence, byte by byte.
-/

namespace SqlTemplate.Pattern

abbrev ByteRange := Nat × Nat

/-- The numbers of `width` digits to the base 64 from `first` to `last`, as sequences of ranges of
digits in ascending order. -/
def digitRanges : Nat → Nat → Nat → List (List ByteRange)
  | 0, _, _ => [[]]
  | width + 1, first, last =>
    let unit := Nat.pow 64 width
    let (a, b) := (first / unit, last / unit)
    let (r, s) := (first % unit, last % unit)
    let wholeFirst := r == 0
    let wholeLast := s == unit - 1
    if a = b then (digitRanges width r s).map ((a, a) :: ·)
    else
      let c := if wholeFirst then a else a + 1
      let d := if wholeLast then b + 1 else b
      (if wholeFirst then [] else (digitRanges width r (unit - 1)).map ((a, a) :: ·)) ++
        (if c < d then (digitRanges width 0 (unit - 1)).map ((c, d - 1) :: ·) else []) ++
        (if wholeLast then [] else (digitRanges width 0 s).map ((b, b) :: ·))

/-- The forms of a character: how many bytes it has, the first and the last character of the form,
and what is added to the first digit. Further digits are written with `0x80` added. -/
def forms : List (Nat × Nat × Nat × Nat) :=
  [(1, 0, 0x7F, 0), (2, 0x80, 0x7FF, 0xC0), (3, 0x800, 0xD7FF, 0xE0), (3, 0xE000, 0xFFFF, 0xE0),
   (4, 0x10000, 0x10FFFF, 0xF0)]

def ByteRange.add (n : Nat) (r : ByteRange) : ByteRange := (r.1 + n, r.2 + n)

/-- The sequences of byte ranges of the characters from `first` to `last`, in ascending order. -/
def byteRanges (first last : Nat) : List (List ByteRange) :=
  forms.flatMap fun (width, low, high, mark) =>
    if max first low ≤ min last high then
      (digitRanges width (max first low) (min last high)).map fun
        | [] => []
        | lead :: rest => ByteRange.add mark lead :: rest.map (ByteRange.add 0x80)
    else []

end SqlTemplate.Pattern
