import SqlTemplate.Number.Integer

/-!
# Binary floating-point numbers of 64 bits

A double is not a number, an infinity, or `± mantissa · 2 ^ exponent` with a mantissa below `2 ^ 53`
and an exponent between -1074 and 971. The finite doubles here are normal: the mantissa is at
least `2 ^ 52` unless the exponent is the least. `ofRatio` rounds a quotient to the nearest double,
a tie to the even mantissa.
-/

namespace SqlTemplate.Number

/-- A double; zero is `mantissa = 0` with the least exponent, and keeps its sign. -/
inductive Double where
  | nan
  | infinite (negative : Bool)
  | finite (negative : Bool) (mantissa : Nat) (exponent : Int)
deriving DecidableEq, Repr

namespace Double

def minExponent : Int := -1074

def maxExponent : Int := 971

/-- The first bit of a normal mantissa: `2 ^ 52`. -/
def leadingBit : Nat := 4503599627370496

def zero (negative : Bool) : Double := .finite negative 0 minExponent

def isZero : Double → Bool
  | finite _ m _ => m == 0
  | _ => false

def neg : Double → Double
  | nan => nan
  | infinite s => infinite !s
  | finite s m e => finite (!s) m e

/-- The integer nearest to `num / den`, a tie going to the even one. -/
def roundDiv (num den : Nat) : Nat :=
  let q := num / den
  let r := num % den
  if 2 * r < den then q
  else if den < 2 * r then q + 1
  else q + q % 2

/-- `num / den` divided by `2 ^ e` and rounded to an integer. -/
def scaled (num den : Nat) (e : Int) : Nat :=
  if e < 0 then roundDiv (num <<< (-e).toNat) den else roundDiv num (den <<< e.toNat)

/-- The exponent `e` for which `num / den` lies in `[2 ^ (e + 52), 2 ^ (e + 53))`. -/
def normalExponent (num den : Nat) : Int :=
  let e : Int := (num.log2 : Int) - (den.log2 : Int) - 52
  let reaches : Bool :=
    if 0 ≤ e + 52 then decide (den <<< (e + 52).toNat ≤ num)
    else decide (den ≤ num <<< (-(e + 52)).toNat)
  if reaches then e else e - 1

def ofRatio (negative : Bool) (num den : Nat) : Double :=
  if num = 0 then zero negative
  else
    let e := max (normalExponent num den) minExponent
    let m := scaled num den e
    let (m, e) := if m = 2 * leadingBit then (leadingBit, e + 1) else (m, e)
    if maxExponent < e then infinite negative else finite negative m e

def ofNat (n : Nat) : Double := ofRatio false n 1

/-- The magnitude of a finite double as a quotient of integers. -/
def ratio? : Double → Option (Nat × Nat)
  | finite _ m e => some (m * twoTo e.toNat, twoTo (-e).toNat)
  | _ => none

end Double

end SqlTemplate.Number
