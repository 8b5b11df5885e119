import SqlTemplate.Number.Double
import SqlTemplate.Number.Integer

/-!
# Reading doubles

A double is written as an optional sign and `inf`, `infinity` or `nan` in any letter case, or
decimal digits with an optional decimal point (a digit before or after it) and an optional
exponent. The text stands for the double nearest to the number it writes.
-/

namespace SqlTemplate.Number

/-- The double nearest to `± digits · 10 ^ exponent`. Beyond the bounds tested first every number
is an infinity or zero. -/
def Double.ofDecimal (negative : Bool) (digits : Nat) (exponent : Int) : Double :=
  let magnitude := exponent + ((toString digits).length : Int)
  if digits = 0 ∨ magnitude < -330 then .zero negative
  else if 310 < magnitude then .infinite negative
  else ofRatio negative (digits * tenTo exponent.toNat) (tenTo (-exponent).toNat)

def splitSign : List Char → Bool × List Char
  | '-' :: s => (true, s)
  | '+' :: s => (false, s)
  | s => (false, s)

/-- Reads the part after the exponent mark; no mark means exponent zero. -/
def readExponent? : List Char → Option Int
  | [] => some 0
  | c :: s =>
    if c == 'e' || c == 'E' then
      let (negative, digits) := splitSign s
      (readDigits? digits).map fun n => if negative then -(n : Int) else n
    else none

/-- Digits around an optional decimal point, and an exponent: the digits as one number and the
exponent of its last place. -/
def readDecimal? (s : List Char) : Option (Nat × Int) := do
  let (whole, rest) := s.span Char.isDigit
  let (fraction, rest) := match rest with
    | '.' :: rest => rest.span Char.isDigit
    | rest => ([], rest)
  let exponent ← readExponent? rest
  if whole.isEmpty && fraction.isEmpty then none
  else some (ofDigits (whole ++ fraction), exponent - fraction.length)

namespace Double

def read? (s : List Char) : Option Double :=
  let (negative, body) := splitSign s
  let word := body.map Char.toLower
  if word = ['i', 'n', 'f'] ∨ word = ['i', 'n', 'f', 'i', 'n', 'i', 't', 'y'] then
    some (.infinite negative)
  else if word = ['n', 'a', 'n'] then some .nan
  else (readDecimal? body).map fun (digits, exponent) => ofDecimal negative digits exponent

end Double

end SqlTemplate.Number
